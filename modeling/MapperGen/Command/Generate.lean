import MapperGen.Command.Fault
import MapperGen.Config.Read
import MapperGen.Files.Path
import MapperGen.Output.External
import MapperGen.Spec.Json

/-!
# Commands

Loading the configuration, and the two commands: one writes the code for an input file beside it,
the other one prints the spec of an input file. A command writes at most one file, as its last step.
-/

namespace MapperGen

/-- What a command finds around it, files aside: the variable that may name the input file, and the
program that may format code. -/
structure Surroundings where
  inputVariable : Option Text
  formatter : Program

variable {m : Type → Type} [Monad m] [FileAccess m]

/-! ### Configuration -/

/-- The file that configures a command unless another one is named. -/
def defaultConfigFile : Text := "mapwright.toml".toList

/-- A configuration whose values are checked. -/
def Config.checked (c : Config) : Except CommandFault Config :=
  match c.fault? with
  | some fault => .error (.badSetting fault)
  | none => .ok c

/-- The configuration in a file that was read. -/
def Config.ofFile (path : Text) : Except FileFault Text → Except CommandFault Config
  | .error fault => .error (.unreadableConfig path fault)
  | .ok text =>
    match Config.read text with
    | none => .error .malformedConfig
    | some config => config.checked

/-- Loads the configuration from the file that is named, else from the default file if there is
one. -/
def Config.load (path : Option Text) : m (Except CommandFault Config) := do
  match path with
  | some path => return Config.ofFile path (← readText path)
  | none =>
    if ← FileAccess.isFile defaultConfigFile then
      return Config.ofFile defaultConfigFile (← readText defaultConfigFile)
    else
      return Config.checked {}

/-! ### Input -/

/-- The module name that a path stands for: the name of the file without its extension. -/
def moduleNameOf (path : Text) : Except CommandFault Text :=
  match Path.stem? path with
  | some name => .ok name
  | none => .error (.namelessInput path)

def Config.resolveInput (c : Config) (asked preset : Option Text) : Except CommandFault Text :=
  match c.inputFile? asked preset with
  | some path => .ok path
  | none => .error .noInput

structure Input where
  path : Text
  source : Text
  moduleName : Text

/-- The input in a file that was read. -/
def Input.ofFile (path : Text) : Except FileFault Text → Except CommandFault Input
  | .error fault => .error (.unreadableInput path fault)
  | .ok source => (moduleNameOf path).map fun moduleName => { path, source, moduleName }

def Input.load (config : Config) (around : Surroundings) (asked : Option Text) :
    m (Except CommandFault Input) := do
  match config.resolveInput asked around.inputVariable with
  | .error fault => return .error fault
  | .ok path => return Input.ofFile path (← readText path)

/-! ### Commands -/

/-- The formatter that a configuration chooses. -/
def Config.formatter (c : Config) (program : Program) : Formatter :=
  match c.generate.formatter with
  | .rustfmt => externalFormatter program c.generate.edition
  | .builtin => builtinFormatter

/-- What an input file generates. -/
def Input.generate (i : Input) (config : Config) (around : Surroundings) :
    Except CommandFault (Option Generated) :=
  (generateSource i.source i.moduleName config.generate.imports
    (config.formatter around.formatter)).mapError .rejected

/-- Writes what was generated. A placeholder is written, too, but it is a fault. -/
def Generated.save (g : Generated) (path : Text) : m (Except CommandFault Text) := do
  match ← writeText path g.text with
  | .error fault => return .error (.unwritableOutput path fault)
  | .ok () =>
    match g.fault? with
    | some fault => return .error (.placeholder path fault)
    | none => return .ok path

/-- Writes the code for an input file and gives the path of the output, if there are mappers. -/
def generateFile (output : Text) (asked : Option Text) (config : Config) (around : Surroundings) :
    m (Except CommandFault (Option Text)) := do
  match ← Input.load config around asked with
  | .error fault => return .error fault
  | .ok input =>
    match input.generate config around with
    | .error fault => return .error fault
    | .ok none => return .ok none
    | .ok (some generated) => return (← generated.save (Path.beside input.path output)).map some

/-- The spec of an input file, as JSON text. -/
def describeFile (asked : Option Text) (config : Config) (around : Surroundings) :
    m (Except CommandFault Text) := do
  match ← Input.load config around asked with
  | .error fault => return .error fault
  | .ok input =>
    return match Spec.read input.source input.moduleName with
      | .error failure => .error (.rejected failure)
      | .ok spec => .ok spec.printJson

end MapperGen
