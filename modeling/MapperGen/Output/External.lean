import MapperGen.Files.Access
import MapperGen.Output.Layout

/-!
# External formatter

Formatting by another program, which gets the text as its input and the edition as an argument.
-/

namespace MapperGen

open Utf8 (Bytes)

/-- How a run of another program ended: it did not start, it failed with a report, or it finished
with an output. -/
inductive ProgramRun where
  | notStarted (fault : FileFault)
  | failed (report : Text)
  | finished (output : Bytes)

/-- A program as a function of its arguments and its input. -/
abbrev Program := (arguments : List Text) → (input : Text) → ProgramRun

def formatterName : Text := "rustfmt".toList

/-- The formatter that lets a program format code of an edition. -/
def externalFormatter (program : Program) (edition : Text) : Formatter := fun t =>
  match program ["--edition".toList, edition] t with
  | .notStarted fault =>
    .error ("failed to run ".toList ++ formatterName ++ ": ".toList ++ fault.display)
  | .failed report => .error (Text.trim report)
  | .finished output =>
    match Utf8.decode output with
    | .ok text => .ok text
    | .error fault =>
      .error (formatterName ++ " produced invalid UTF-8: ".toList ++ fault.display)

end MapperGen
