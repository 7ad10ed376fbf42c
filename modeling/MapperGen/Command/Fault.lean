import MapperGen.Config.Basic
import MapperGen.Files.Access
import MapperGen.Output.Generated
import MapperGen.Text.Escape

/-!
# Faults of commands

Why a command fails. A placeholder that was written is a fault, too: the file is there, but it is no
code.
-/

namespace MapperGen

/-- Why a command fails. -/
inductive CommandFault where
  | unreadableConfig (path : Text) (fault : FileFault)
  | malformedConfig
  | badSetting (fault : SettingFault)
  | noInput
  | unreadableInput (path : Text) (fault : FileFault)
  | namelessInput (path : Text)
  | rejected (failure : Failure)
  | unwritableOutput (path : Text) (fault : FileFault)
  | placeholder (path : Text) (fault : OutputFault)
  deriving DecidableEq, Repr

namespace CommandFault

def message : CommandFault → Text
  | unreadableConfig path fault =>
    "Failed to read config: ".toList ++ Text.escaped path ++ ": ".toList ++ fault.display
  | malformedConfig => "Failed to parse config: the document holds no configuration".toList
  | badSetting fault => fault.message
  | noInput =>
    "No input file: pass -i, set ".toList ++ inputVariable ++
      ", or set gen.input in the config".toList
  | unreadableInput path fault =>
    "Failed to read input: ".toList ++ path ++ ": ".toList ++ fault.display
  | namelessInput path => "Input has no file name: ".toList ++ path
  | rejected failure => failure.display
  | unwritableOutput path fault =>
    "Failed to write output: ".toList ++ path ++ ": ".toList ++ fault.display
  | placeholder path fault =>
    path ++ " contains a placeholder instead of generated code: ".toList ++ fault.display

def exitCode : CommandFault → Nat
  | rejected failure => failure.exitCode
  | placeholder _ _ => 5
  | _ => 1

end CommandFault
end MapperGen
