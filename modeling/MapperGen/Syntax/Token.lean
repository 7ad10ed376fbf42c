import MapperGen.Text.Basic

/-!
# Tokens

The flat tokens of a source text. A documentation comment counts as the tokens of the attribute
it abbreviates, its text being the literal `comment`.
-/

namespace MapperGen.Syntax

/-- The three kinds of brackets that nest tokens. -/
inductive Delimiter where
  | parenthesis
  | bracket
  | brace
  deriving DecidableEq, Repr

namespace Delimiter

def opening : Delimiter → Char
  | parenthesis => '('
  | bracket => '['
  | brace => '{'

def closing : Delimiter → Char
  | parenthesis => ')'
  | bracket => ']'
  | brace => '}'

def ofOpening? (c : Char) : Option Delimiter :=
  if c = '(' then some parenthesis
  else if c = '[' then some bracket
  else if c = '{' then some brace
  else none

def ofClosing? (c : Char) : Option Delimiter :=
  if c = ')' then some parenthesis
  else if c = ']' then some bracket
  else if c = '}' then some brace
  else none

theorem ofOpening?_opening (d : Delimiter) : ofOpening? d.opening = some d := by
  cases d <;> rfl

theorem ofClosing?_closing (d : Delimiter) : ofClosing? d.closing = some d := by
  cases d <;> rfl

end Delimiter

/-- A token. A punctuation character is `joint` if the next character is punctuation too, so that
both can belong to one operator; a raw identifier keeps its `r#`. -/
inductive Token where
  | opening (delimiter : Delimiter)
  | closing (delimiter : Delimiter)
  | ident (name : Text)
  | punct (char : Char) (joint : Bool)
  | literal (lexeme : Text)
  | comment (content : Text)
  deriving DecidableEq, Repr

/-- A token with the half-open range of characters it was read from. -/
structure Placed where
  token : Token
  start : Nat
  stop : Nat
  deriving DecidableEq, Repr

end MapperGen.Syntax
