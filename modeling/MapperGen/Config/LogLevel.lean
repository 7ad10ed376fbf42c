import MapperGen.Text.Basic

/-!
# Log levels

The six levels, from silence to the most detail, and the texts that denote them: names in any case,
numbers, or nothing at all.
-/

namespace MapperGen

/-- How much is logged. -/
inductive LogLevel where
  | off
  | error
  | warn
  | info
  | debug
  | trace
  deriving DecidableEq, Repr

namespace LogLevel

/-- The levels in order. -/
def all : List LogLevel := [off, error, warn, info, debug, trace]

/-- The place of a level in the order. -/
def rank : LogLevel → Nat
  | off => 0
  | error => 1
  | warn => 2
  | info => 3
  | debug => 4
  | trace => 5

/-- The level at a place in the order; there is nothing above `trace`. -/
def ofRank (n : Nat) : LogLevel := all.getD n trace

/-- The level so many steps higher. -/
def raise (l : LogLevel) (steps : Nat) : LogLevel := ofRank (l.rank + steps)

def name : LogLevel → Text
  | off => "off".toList
  | error => "error".toList
  | warn => "warn".toList
  | info => "info".toList
  | debug => "debug".toList
  | trace => "trace".toList

theorem ofRank_rank (l : LogLevel) : ofRank l.rank = l := by cases l <;> rfl

theorem raise_zero (l : LogLevel) : l.raise 0 = l := ofRank_rank l

/-! ### Texts -/

/-- A text with ASCII capitals made small. -/
def lowercase (t : Text) : Text := t.map Char.toLower

/-- The level that a name denotes, in small letters. -/
def named? (t : Text) : Option LogLevel := all.find? (·.name == t)

/-- The number that digits write; a plus sign may stand before them. -/
def numeral? (t : Text) : Option Nat :=
  let digits := (Text.dropHead? ['+'] t).getD t
  if digits.isEmpty || !digits.all Char.isDigit then none
  else some (digits.foldl (fun n c => 10 * n + (c.toNat - '0'.toNat)) 0)

/-- The level that a text denotes. The empty text denotes `error`. -/
def ofText? (t : Text) : Option LogLevel :=
  if t.isEmpty then some error
  else
    match numeral? t with
    | some n => all[n]?
    | none => named? (lowercase t)

/-- A configured level, raised. Only a name can be raised: any other text is merely written in
small letters. Without a step to raise, the text stays as it is. -/
def effective (level : Text) (steps : Nat) : Text :=
  if steps = 0 then level
  else
    match named? (lowercase level) with
    | some l => (l.raise steps).name
    | none => lowercase level

end LogLevel
end MapperGen
