import MapperGen.Json.Basic

/-!
# Printing JSON

Every item and every field stands on a line of its own, indented by two spaces for each level. A
list or object without content is a pair of brackets.
-/

namespace MapperGen.Json

/-! ### Texts -/

/-- A character within quotes. -/
def quoteChar (c : Char) : Text :=
  if c = '"' then ['\\', '"']
  else if c = '\\' then ['\\', '\\']
  else if c = '\n' then ['\\', 'n']
  else if c = '\r' then ['\\', 'r']
  else if c = '\t' then ['\\', 't']
  else if c = Char.ofNat 8 then ['\\', 'b']
  else if c = Char.ofNat 12 then ['\\', 'f']
  else if c.toNat < 0x20 then
    "\\u00".toList ++ [Nat.digitChar (c.toNat / 16), Nat.digitChar (c.toNat % 16)]
  else [c]

/-- A text between quotes. -/
def quote (t : Text) : Text := '"' :: t.flatMap quoteChar ++ ['"']

/-! ### Layout -/

/-- A line end and the indentation of a level. -/
def newLine (level : Nat) : Text := '\n' :: List.replicate (2 * level) ' '

/-- Printed parts between brackets, one a line. -/
def enclose (opening closing : Char) (level : Nat) (parts : List Text) : Text :=
  if parts.isEmpty then [opening, closing]
  else
    opening :: newLine (level + 1) ++ Text.joinWith (',' :: newLine (level + 1)) parts ++
      newLine level ++ [closing]

/-! ### Values -/

mutual

/-- Prints a value that stands at a level. -/
def printAt (level : Nat) : Json → Text
  | null => "null".toList
  | text t => quote t
  | list items => enclose '[' ']' level (printItems (level + 1) items)
  | object fields => enclose '\x7b' '\x7d' level (printFields (level + 1) fields)

def printItems (level : Nat) : List Json → List Text
  | [] => []
  | item :: items => printAt level item :: printItems level items

def printFields (level : Nat) : List (Text × Json) → List Text
  | [] => []
  | (name, value) :: fields =>
    (quote name ++ ": ".toList ++ printAt level value) :: printFields level fields

end

def print (v : Json) : Text := printAt 0 v

end MapperGen.Json
