import MapperGen.Syntax.Grammar.File

/-!
# Layout

The built-in formatter: it refuses text that is no source file and tidies the blanks of all other
text. Lines lose the blanks at their ends, runs of empty lines shrink to one, and empty lines at
both ends go. Long lines stay as they are.
-/

namespace MapperGen

open Syntax

/-! ### Blanks -/

/-- Writes lines. An empty line waits until a line with text follows; none comes before the first
of these. -/
def settle (started waiting : Bool) : List Text → Text
  | [] => []
  | line :: rest =>
    if line.isEmpty then settle started started rest
    else (if waiting then ['\n'] else []) ++ line ++ '\n' :: settle true false rest

def tidy (t : Text) : Text := settle false false ((Text.lines t).map Text.trimEnd)

/-! ### The interpreter line -/

/-- What is left of a text behind blanks and comments that do not document. The first `passed`
characters are known to go. -/
def skipGaps (passed : Nat) : Text → Text
  | [] => []
  | c :: t =>
    match passed with
    | n + 1 => skipGaps n t
    | 0 =>
      match scanOne (c :: t) with
      | some (n + 1, []) => skipGaps n t
      | _ => c :: t

/-- Drops a first line that names an interpreter: it starts with `#!` and is no attribute. -/
def dropInterpreter (t : Text) : Text :=
  match Text.dropHead? "#!".toList t with
  | some rest => if Text.startsWith (skipGaps 0 rest) ['['] then t else t.dropWhile (· != '\n')
  | none => t

/-- The source in a text: a byte order mark and the name of an interpreter do not count. -/
def sourceOf (t : Text) : Text := dropInterpreter ((Text.dropHead? [byteOrderMark] t).getD t)

/-! ### Formatters -/

/-- A formatter gives text its final form, or says why it cannot. -/
abbrev Formatter := Text → Except Text Text

/-- The report of a fault, with its line. -/
def Syntax.Fault.lineReport (f : Fault) : Text :=
  f.cause.message ++ " at line ".toList ++ Text.ofNat f.location.line

/-- The formatter that needs no other program. -/
def builtinFormatter : Formatter := fun t =>
  match SourceFile.read (sourceOf t) with
  | .ok _ => .ok (tidy t)
  | .error fault => .error fault.lineReport

end MapperGen
