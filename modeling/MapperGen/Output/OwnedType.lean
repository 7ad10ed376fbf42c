import MapperGen.Text.CharClass

/-!
# Owned types

Conversions take and return owned values, so one reference or pointer at the head of a type is
stripped. The text of the type is edited without being parsed.
-/

namespace MapperGen

open Text

/-- Drops a word and the blanks behind it, if a blank follows the word. -/
def dropKeyword (keyword t : Text) : Text :=
  match dropHead? keyword t with
  | some (c :: rest) => if isBlank c then trimStart rest else t
  | _ => t

/-- Drops the lifetime at the head of the text, if there is one, and blanks around it. -/
def dropLifetime (t : Text) : Text :=
  match trimStart t with
  | '\'' :: rest => trimStart (rest.dropWhile fun c => isAlphanumeric c || c == '_')
  | rest => rest

/-- What a reference to a type or a pointer to it refers to; any other type as it is. -/
def ownedType (type : Text) : Text :=
  match trim type with
  | '&' :: rest => trim (dropKeyword "mut".toList (dropLifetime rest))
  | '*' :: rest =>
    let rest := trimStart rest
    let stripped := dropKeyword "const".toList rest
    -- of both keywords only one goes
    trim (if stripped.length = rest.length then dropKeyword "mut".toList rest else stripped)
  | t => t

end MapperGen
