import MapperGen.Text.Basic
import MapperGen.Text.Table

/-!
# Character classes

Letters, digits, word characters and identifier characters, each a union of the tables of
`MapperGen.Text.Table`. ASCII is decided without a look into the tables.
-/

namespace MapperGen.Text

/-- Membership in a set given by its change points: an odd number of them lies at or below `c`. -/
def inTable (table : List Nat) (c : Char) : Bool :=
  (table.takeWhile (· ≤ c.toNat)).length % 2 == 1

/-- ASCII characters; the tables start above them. -/
def isAscii (c : Char) : Bool := c.toNat < 128

/-! ### Letters, digits, words -/

/-- The Unicode property `Alphabetic`. -/
def isAlphabetic (c : Char) : Bool :=
  if isAscii c then c.isAlpha else inTable Table.letters c || inTable Table.vowelMarks c

/-- Alphabetic or numeric of any kind. -/
def isAlphanumeric (c : Char) : Bool :=
  if isAscii c then c.isAlphanum
  else isAlphabetic c || inTable Table.decimalDigits c || inTable Table.otherNumbers c

/-- The two joiners, which count as word characters. -/
def isJoiner (c : Char) : Bool := c.toNat == 0x200C || c.toNat == 0x200D

/-- Word characters: letters, marks, decimal digits, connector punctuation and the joiners. -/
def isWord (c : Char) : Bool :=
  if isAscii c then c.isAlphanum || c == '_'
  else isAlphabetic c || inTable Table.otherMarks c || inTable Table.decimalDigits c ||
    inTable Table.connectors c || isJoiner c

/-- A non-empty run of word characters. -/
def isWordText (t : Text) : Bool := !t.isEmpty && t.all isWord

/-! ### Identifiers -/

/-- May begin an identifier: the low line or a starting letter. -/
def isIdentStart (c : Char) : Bool :=
  if isAscii c then c.isAlpha || c == '_'
  else (inTable Table.letters c && !inTable Table.nonStartLetters c) || inTable Table.extraStarts c

def isIdentContinue (c : Char) : Bool :=
  if isAscii c then c.isAlphanum || c == '_'
  else (isWord c && !inTable Table.nonIdentifierWords c) || inTable Table.extraContinues c

/-! ### Digits of a base -/

def hexValue? (c : Char) : Option Nat :=
  if '0' ≤ c ∧ c ≤ '9' then some (c.toNat - '0'.toNat)
  else if 'a' ≤ c ∧ c ≤ 'f' then some (c.toNat - 'a'.toNat + 10)
  else if 'A' ≤ c ∧ c ≤ 'F' then some (c.toNat - 'A'.toNat + 10)
  else none

def isHexDigit (c : Char) : Bool := (hexValue? c).isSome

/-- The number written by hexadecimal digits; other characters are passed over. -/
def hexNumber (t : Text) : Nat :=
  t.foldl (fun n c => match hexValue? c with | some d => 16 * n + d | none => n) 0

end MapperGen.Text
