import MapperGen.Command.Help
import MapperGen.Command.Run

/-!
# The program

Runs a command on the files of the system. No other program is started here, so an external
formatter is never found.
-/

namespace MapperGen

/-- The fault that an error of the system stands for. -/
def FileFault.ofSystem : IO.Error → FileFault
  | .noFileOrDirectory .. => .notFound
  | .inappropriateType _ code _ =>
    if code = 20 then .notDirectory else .isDirectory
  | error => .other error.toString.toList

/-- Turns an action that may fail into one that tells why. -/
def attempt {α : Type} (action : IO α) : IO (Except FileFault α) :=
  try return .ok (← action) catch error => return .error (.ofSystem error)

instance : FileAccess IO where
  readFile path := attempt do
    return (← IO.FS.readBinFile (String.ofList path)).toList
  writeFile path content :=
    attempt (IO.FS.writeBinFile (String.ofList path) (ByteArray.mk content.toArray))
  isFile path := do
    match ← attempt (IO.FS.readBinFile (String.ofList path)) with
    | .error .notFound | .error .notDirectory | .error .isDirectory => return false
    | _ => return true

/-- Prints how a run ended. -/
def Outcome.report (o : Outcome) : IO UInt32 := do
  match o.printed with
  | .text t => (← IO.getStdout).putStr (String.ofList t)
  | .help topic => (← IO.getStdout).putStr (String.ofList topic.text)
  match o.complaint with
  | some complaint => (← IO.getStderr).putStr (String.ofList complaint.report)
  | none => pure ()
  return UInt32.ofNat o.exitCode

end MapperGen

open MapperGen in
def main (arguments : List String) : IO UInt32 := do
  let preset ← IO.getEnv (String.ofList inputVariable)
  let around : Surroundings := ⟨preset.map String.toList, fun _ _ => .notStarted .notFound⟩
  let outcome : Outcome ← runProgram (arguments.map String.toList) around
  outcome.report
