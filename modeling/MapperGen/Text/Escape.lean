import MapperGen.Text.CharClass

/-!
# Escaped texts

The form in which reports show a text that may hold anything: between quotes, with escapes for
quotes, backslashes and all characters that cannot be seen.
-/

namespace MapperGen.Text

/-- A character within quotes. -/
def escapedChar (c : Char) : Text :=
  if c = '\x00' then ['\\', '0']
  else if c = '\t' then ['\\', 't']
  else if c = '\r' then ['\\', 'r']
  else if c = '\n' then ['\\', 'n']
  else if c = '\'' || c = '"' || c = '\\' then ['\\', c]
  else if inTable Table.hidden c then
    ['\\', 'u', '\x7b'] ++ Nat.toDigits 16 c.toNat ++ ['\x7d']
  else [c]

/-- A text between quotes. -/
def escaped (t : Text) : Text := '"' :: t.flatMap escapedChar ++ ['"']

end MapperGen.Text
