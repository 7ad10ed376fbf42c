import MapperGen.Config.LogLevel

/-!
# Configuration

What a configuration file may set, the defaults, and the checks on the values.
-/

namespace MapperGen

/-- Which formatter gives generated code its form. -/
inductive FormatterKind where
  | rustfmt
  | builtin
  deriving DecidableEq, Repr

def FormatterKind.name : FormatterKind → Text
  | rustfmt => "rustfmt".toList
  | builtin => "builtin".toList

def FormatterKind.ofName? (t : Text) : Option FormatterKind :=
  [FormatterKind.rustfmt, .builtin].find? (·.name == t)

structure GenerateSettings where
  input : Option Text := none
  imports : List Text := ["super::*".toList]
  formatter : FormatterKind := .rustfmt
  edition : Text := "2024".toList
  deriving DecidableEq, Repr

structure LogSettings where
  level : Text := "warn".toList
  deriving DecidableEq, Repr

structure Config where
  generate : GenerateSettings := {}
  log : LogSettings := {}
  deriving DecidableEq, Repr

/-! ### Checks -/

/-- What is wrong with the values of a configuration. -/
inductive SettingFault where
  | blankImport
  | unknownEdition (edition : Text)
  | emptyInput
  | unknownLevel (level : Text)
  deriving DecidableEq, Repr

def SettingFault.message : SettingFault → Text
  | blankImport => "Import paths cannot be empty".toList
  | unknownEdition edition => "Invalid edition: ".toList ++ edition
  | emptyInput => "Input path cannot be empty".toList
  | unknownLevel level => "Invalid log level: ".toList ++ level

/-- The editions that code may be formatted for. -/
def editions : List Text :=
  ["2015".toList, "2018".toList, "2021".toList, "2024".toList]

/-- The first fault in a configuration. -/
def Config.fault? (c : Config) : Option SettingFault :=
  if c.generate.imports.any fun path => (Text.trim path).isEmpty then some .blankImport
  else if !editions.contains c.generate.edition then some (.unknownEdition c.generate.edition)
  else if c.generate.input == some [] then some .emptyInput
  else if (LogLevel.ofText? c.log.level).isNone then some (.unknownLevel c.log.level)
  else none

/-! ### The input file -/

/-- The variable that may name the input file. -/
def inputVariable : Text := "MAPWRIGHT_FILE".toList

/-- The input file: the one asked for, else the one that the variable presets unless it is empty,
else the configured one. -/
def Config.inputFile? (c : Config) (asked preset : Option Text) : Option Text :=
  asked.or ((preset.filter (!·.isEmpty)).or c.generate.input)

end MapperGen
