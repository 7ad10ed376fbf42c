import MapperGen.Text.Basic

/-!
# Places in a text

A location is a line, counted from one, and a column, counted from zero in characters. Ranges of
characters are turned into ranges of UTF-8 bytes and back, because a text may be cut by the range
of a node that was read from another text.
-/

namespace MapperGen

/-- A place in a source text. -/
structure Location where
  line : Nat
  column : Nat
  deriving DecidableEq, Repr

namespace Location

def start : Location := ⟨1, 0⟩

/-- The place behind a character. -/
def after (l : Location) (c : Char) : Location :=
  if c = '\n' then ⟨l.line + 1, 0⟩ else ⟨l.line, l.column + 1⟩

/-- The place behind the first `offset` characters. -/
def ofOffset (t : Text) (offset : Nat) : Location := (t.take offset).foldl after start

/-- The written form `[line L, column C]`. -/
def display (l : Location) : Text :=
  "[line ".toList ++ Text.ofNat l.line ++ ", column ".toList ++ Text.ofNat l.column ++ [']']

end Location

namespace Text

/-- The number of bytes in UTF-8. -/
def byteLength : Text → Nat
  | [] => 0
  | c :: t => c.utf8Size + byteLength t

/-- The number of characters in the first `n` bytes, if these end between two characters. -/
def charsInBytes? : Nat → Text → Option Nat
  | 0, _ => some 0
  | _ + 1, [] => none
  | n + 1, c :: t => if c.utf8Size ≤ n + 1 then (charsInBytes? (n + 1 - c.utf8Size) t).map (· + 1)
    else none

/-- The part of a text between two byte offsets, if both lie between characters. -/
def byteSlice? (t : Text) (start stop : Nat) : Option Text :=
  match charsInBytes? start t, charsInBytes? stop t with
  | some a, some b => if a ≤ b then some ((t.take b).drop a) else none
  | _, _ => none

/-- The part of a text between two character offsets. -/
def slice (t : Text) (start stop : Nat) : Text := (t.take stop).drop start

end Text
end MapperGen
