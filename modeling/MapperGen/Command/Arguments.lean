import MapperGen.Text.Basic

/-!
# Command line arguments

There are two commands, each with settings that have a value and flags that have none. A value
follows its setting as the next argument or is attached to it; a value that starts with `-` has to
be attached. Short flags may share one argument. Arguments are read from left to right, and the
first that is wrong, or asks for help or the version, ends reading.
-/

namespace MapperGen

/-! ### Requests -/

/-- A command with its settings. -/
inductive Command where
  | generate (output : Text) (input config : Option Text)
  | spec (input config : Option Text)
  deriving DecidableEq, Repr

/-- What help may be about. -/
inductive Topic where
  | program
  | generate
  | spec
  | help
  deriving DecidableEq, Repr

/-- What is wrong with arguments. -/
inductive UsageFault where
  | noArguments
  | noCommand
  | unknownCommand (name : Text)
  | unknownArgument (argument : Text)
  | missingValue (setting : Text)
  | repeatedSetting (setting : Text)
  | valueOfFlag (flag : Text)
  | missingSetting (setting : Text)
  deriving DecidableEq, Repr

def UsageFault.message : UsageFault → Text
  | noArguments => "no command is given".toList
  | noCommand => "a command is missing".toList
  | unknownCommand name => "unknown command: ".toList ++ name
  | unknownArgument argument => "unexpected argument: ".toList ++ argument
  | missingValue setting => "a value is missing for ".toList ++ setting
  | repeatedSetting setting => setting ++ " is given more than once".toList
  | valueOfFlag flag => flag ++ " takes no value".toList
  | missingSetting setting => setting ++ " is required".toList

/-- What arguments ask for. -/
inductive Request where
  | run (command : Command) (verbosity : Nat)
  | showHelp (topic : Topic)
  | showVersion
  | misuse (fault : UsageFault)
  deriving DecidableEq, Repr

/-! ### Names -/

/-- A setting, which has a value. -/
inductive Setting where
  | output
  | input
  | config
  deriving DecidableEq, Repr

/-- The long name of a setting; its first letter is the short name. -/
def Setting.name : Setting → Text
  | output => "output".toList
  | input => "input".toList
  | config => "config".toList

/-- A flag, which has no value. -/
inductive Flag where
  | verbose
  | help
  | version
  deriving DecidableEq, Repr

def Flag.name : Flag → Text
  | verbose => "verbose".toList
  | help => "help".toList
  | version => "version".toList

def Flag.letter : Flag → Char
  | verbose => 'v'
  | help => 'h'
  | version => 'V'

/-- Where arguments stand: before the command or behind one. -/
inductive Scope where
  | program
  | generate
  | spec
  deriving DecidableEq, Repr

namespace Scope

def settings : Scope → List Setting
  | program => []
  | generate => [.output, .input, .config]
  | spec => [.input, .config]

def flags : Scope → List Flag
  | program => [.verbose, .help, .version]
  | generate | spec => [.verbose, .help]

def topic : Scope → Topic
  | program => .program
  | generate => .generate
  | spec => .spec

/-- A flag or a setting with a name. -/
def named? (s : Scope) (name : Text) : Option (Flag ⊕ Setting) :=
  ((s.flags.find? (·.name == name)).map .inl).or
    ((s.settings.find? (·.name == name)).map .inr)

/-- A flag or a setting with a letter. -/
def lettered? (s : Scope) (letter : Char) : Option (Flag ⊕ Setting) :=
  ((s.flags.find? (·.letter == letter)).map .inl).or
    ((s.settings.find? (·.name.head? == some letter)).map .inr)

end Scope

/-! ### Reading arguments -/

/-- What was given so far. `pending` is the last setting, whose value may still come. -/
structure Given where
  values : List (Setting × Text) := []
  verbosity : Nat := 0
  pending : Option (Setting × Option Text) := none

def highestVerbosity : Nat := 255

namespace Given

/-- Puts the pending setting to the others. -/
def settle (g : Given) : Except Request Given :=
  match g.pending with
  | none => .ok g
  | some (s, none) => .error (.misuse (.missingValue s.name))
  | some (s, some value) =>
    if g.values.any (·.1 == s) then .error (.misuse (.repeatedSetting s.name))
    else .ok { g with values := g.values ++ [(s, value)], pending := none }

def takeFlag (scope : Scope) (g : Given) (flag : Flag) : Except Request Given :=
  match g.settle with
  | .error request => .error request
  | .ok g =>
    match flag with
    | .verbose => .ok { g with verbosity := min (g.verbosity + 1) highestVerbosity }
    | .help => .error (.showHelp scope.topic)
    | .version => .error .showVersion

/-- Takes a setting, and its value if that is attached. -/
def takeSetting (g : Given) (s : Setting) (value : Option Text) : Except Request Given :=
  match g.settle with
  | .error request => .error request
  | .ok g =>
    -- an attached value is all there is, so the setting need not wait
    let g : Given := { g with pending := some (s, value) }
    if value.isSome then g.settle else .ok g

/-- Takes the letters behind a dash. Letters behind that of a setting are its value. -/
def takeLetters (scope : Scope) (g : Given) : Text → Except Request Given
  | [] => .ok g
  | letter :: rest =>
    match scope.lettered? letter with
    | none => .error (.misuse (.unknownArgument ['-', letter]))
    | some (.inl flag) =>
      match g.takeFlag scope flag with
      | .error request => .error request
      | .ok g => takeLetters scope g rest
    | some (.inr s) =>
      g.takeSetting s (if rest.isEmpty then none else some ((Text.dropHead? ['='] rest).getD rest))

/-- Takes a long name, with the value attached to it. -/
def takeName (scope : Scope) (g : Given) (argument : Text) : Except Request Given :=
  let name := argument.takeWhile (· != '=')
  let value := if name.length = argument.length then none else some (argument.drop (name.length + 1))
  match scope.named? name with
  | none => .error (.misuse (.unknownArgument ("--".toList ++ name)))
  | some (.inr s) => g.takeSetting s value
  | some (.inl flag) =>
    if value.isSome then .error (.misuse (.valueOfFlag flag.name)) else g.takeFlag scope flag

/-- Takes an argument that is neither flag nor setting: the value that is waited for. -/
def takeWord (g : Given) (argument : Text) : Except Request Given :=
  match g.pending with
  | some (s, none) => .ok { g with pending := some (s, some argument) }
  | _ => .error (.misuse (.unknownArgument argument))

def take (scope : Scope) (g : Given) (argument : Text) : Except Request Given :=
  match argument with
  | '-' :: '-' :: name => g.takeName scope name
  | '-' :: c :: letters => g.takeLetters scope (c :: letters)
  | word => g.takeWord word

/-- Takes arguments to their end. Behind `--` no argument has a meaning. -/
def takeAll (scope : Scope) (g : Given) : List Text → Except Request Given
  | [] => g.settle
  | argument :: rest =>
    if argument = "--".toList then
      match rest with
      | [] => g.settle
      | argument :: _ => .error (.misuse (.unknownArgument argument))
    else
      match g.take scope argument with
      | .error request => .error request
      | .ok g => takeAll scope g rest

def value? (g : Given) (s : Setting) : Option Text := g.values.lookup s

end Given

/-! ### Commands -/

def readGenerate (verbosity : Nat) (arguments : List Text) : Request :=
  match Given.takeAll .generate {} arguments with
  | .error request => request
  | .ok g =>
    match g.value? .output with
    | none => .misuse (.missingSetting Setting.output.name)
    | some output =>
      -- flags behind the command replace those before it
      .run (.generate output (g.value? .input) (g.value? .config))
        (if g.verbosity = 0 then verbosity else g.verbosity)

def readSpec (verbosity : Nat) (arguments : List Text) : Request :=
  match Given.takeAll .spec {} arguments with
  | .error request => request
  | .ok g =>
    .run (.spec (g.value? .input) (g.value? .config))
      (if g.verbosity = 0 then verbosity else g.verbosity)

/-- What the names of commands stand for in a question for help. -/
def Topic.ofName? (name : Text) : Option Topic :=
  if name = "gen".toList then some .generate
  else if name = "spec".toList then some .spec
  else if name = "help".toList then some .help
  else none

def readHelp : List Text → Request
  | [] => .showHelp .program
  | name :: rest =>
    match Topic.ofName? name, rest with
    | none, _ => .misuse (.unknownCommand name)
    | some topic, [] => .showHelp topic
    | some _, other :: _ => .misuse (.unknownCommand other)

/-- Reads arguments from the place where a command may stand. -/
def readCommand (g : Given) : List Text → Request
  | [] => .misuse .noCommand
  | argument :: rest =>
    if argument = "gen".toList then readGenerate g.verbosity rest
    else if argument = "spec".toList then readSpec g.verbosity rest
    else if argument = "help".toList then readHelp rest
    else if argument = "--".toList then
      match rest with
      | [] => .misuse .noCommand
      | argument :: _ => .misuse (.unknownArgument argument)
    else
      match g.take .program argument with
      | .error request => request
      | .ok g => readCommand g rest

def Request.read (arguments : List Text) : Request :=
  if arguments.isEmpty then .misuse .noArguments else readCommand {} arguments

end MapperGen
