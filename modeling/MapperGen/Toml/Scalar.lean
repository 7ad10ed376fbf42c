import MapperGen.Text.CharClass
import MapperGen.Toml.Value

/-!
# Numbers, booleans and moments of a TOML document

Values without quotes and brackets are words. A word is a boolean, an integer, a float or a moment:
a date, a time of day, or both with or without an offset. Numbers out of range are refused.
-/

namespace MapperGen.Toml

open Text

/-! ### Digits -/

/-- The digits of a number, in which single low lines may stand between digits. -/
def ungroup? (isDigit : Char → Bool) (t : Text) : Option Text :=
  let groups := splitOn '_' t
  if groups.all fun g => !g.isEmpty && g.all isDigit then some groups.flatten else none

/-- The number that digits write in a base. -/
def numberIn (base : Nat) (digits : Text) : Nat :=
  digits.foldl (fun n c => base * n + (hexValue? c).getD 0) 0

/-- The number that exactly so many decimal digits write, if it lies within bounds. -/
def fixedNumber? (digits low high : Nat) (t : Text) : Option Nat :=
  if t.length = digits ∧ t.all Char.isDigit then
    let n := numberIn 10 t
    if low ≤ n ∧ n ≤ high then some n else none
  else none

/-- Splits off a sign: is it a minus, and what follows? -/
def splitSign : Text → Bool × Text
  | '-' :: t => (true, t)
  | '+' :: t => (false, t)
  | t => (false, t)

def hasSign (t : Text) : Bool := t.head? == some '+' || t.head? == some '-'

/-! ### Integers -/

/-- The digits of a decimal number, which starts with zero only if it is zero. -/
def decimal? (t : Text) : Option Text :=
  match ungroup? Char.isDigit t with
  | some ('0' :: _ :: _) => none
  | result => result

/-- The size of an integer, in one of the four bases. Only decimal ones may have a sign. -/
def magnitude? (signed : Bool) : Text → Option Nat
  | '0' :: 'x' :: t => if signed then none else (ungroup? isHexDigit t).map (numberIn 16)
  | '0' :: 'o' :: t =>
    if signed then none else (ungroup? (fun c => '0' ≤ c && c ≤ '7') t).map (numberIn 8)
  | '0' :: 'b' :: t =>
    if signed then none else (ungroup? (fun c => c == '0' || c == '1') t).map (numberIn 2)
  | t => (decimal? t).map (numberIn 10)

/-- The integer that a word writes. -/
def integer? (t : Text) : Option Int :=
  let (negative, digits) := splitSign t
  (magnitude? (hasSign t) digits).bind fun n =>
    if negative then (if n ≤ Nat.pow 2 127 then some (-(n : Int)) else none)
    else (if n < Nat.pow 2 128 then some (n : Int) else none)

/-! ### Floats -/

/-- Is `mantissa` times ten to the `exponent` finite in double precision? -/
def isFinite (mantissa : Nat) (exponent : Int) : Bool :=
  -- halfway between the largest double and the power of two above it, numbers become infinite
  let bound := Nat.pow 2 1024 - Nat.pow 2 970
  if mantissa = 0 then true
  else if 310 < exponent then false
  else if 0 ≤ exponent then mantissa * Nat.pow 10 exponent.toNat < bound
  else
    let places := (-exponent).toNat
    if (Nat.toDigits 10 mantissa).length ≤ places then true
    else mantissa < bound * Nat.pow 10 places

/-- The exponent that a word writes: a number with an optional sign. -/
def exponent? (t : Text) : Option Int :=
  let (negative, digits) := splitSign t
  (ungroup? Char.isDigit digits).map fun ds =>
    if negative then -(numberIn 10 ds : Int) else (numberIn 10 ds : Int)

/-- Cuts a text at the first character of a kind. -/
def cutAtFirst (p : Char → Bool) (t : Text) : Text × Option Text :=
  let before := t.takeWhile (!p ·)
  match t.drop before.length with
  | [] => (before, none)
  | _ :: behind => (before, some behind)

/-- Does a word write a finite number with a fraction, an exponent or both? -/
def isDecimalFloat (t : Text) : Bool :=
  let (number, power) := cutAtFirst (fun c => c == 'e' || c == 'E') t
  let (whole, fraction) := cutAtFirst (· == '.') number
  let places := match fraction with
    | none => some []
    | some digits => ungroup? Char.isDigit digits
  let shift := match power with
    | none => some 0
    | some exponent => exponent? exponent
  match decimal? whole, places, shift with
  | some whole, some places, some shift =>
    (fraction.isSome || power.isSome) &&
      isFinite (numberIn 10 (whole ++ places)) (shift - places.length)
  | _, _, _ => false

def isFloat (t : Text) : Bool :=
  let (_, word) := splitSign t
  word == "inf".toList || word == "nan".toList || isDecimalFloat word

/-! ### Moments -/

def daysIn (year month : Nat) : Nat :=
  if month = 2 then
    (if year % 4 = 0 ∧ (year % 100 ≠ 0 ∨ year % 400 = 0) then 29 else 28)
  else if [4, 6, 9, 11].contains month then 30
  else 31

def isDate (t : Text) : Bool :=
  match splitOn '-' t with
  | [year, month, day] =>
    match fixedNumber? 4 0 9999 year, fixedNumber? 2 1 12 month with
    | some year, some month => (fixedNumber? 2 1 (daysIn year month) day).isSome
    | _, _ => false
  | _ => false

/-- Do digits write seconds, which may have a fraction? -/
def isSeconds (t : Text) : Bool :=
  let (whole, fraction) := cutAtFirst (· == '.') t
  (fixedNumber? 2 0 60 whole).isSome && (fraction.all fun ds => !ds.isEmpty && ds.all Char.isDigit)

/-- Does a text write a time of day? Seconds may be missing. -/
def isTime (t : Text) : Bool :=
  match splitOn ':' t with
  | hour :: minute :: rest =>
    (fixedNumber? 2 0 23 hour).isSome && (fixedNumber? 2 0 59 minute).isSome &&
      (match rest with
        | [] => true
        | [seconds] => isSeconds seconds
        | _ => false)
  | _ => false

/-- Does a text write an offset in hours and minutes, behind its sign? -/
def isOffset (t : Text) : Bool :=
  match splitOn ':' t with
  | [hour, minute] => (fixedNumber? 2 0 23 hour).isSome && (fixedNumber? 2 0 59 minute).isSome
  | _ => false

/-- Does a text write a time of day that an offset may follow? -/
def isTimeWithOffset (t : Text) : Bool :=
  let zulu : Char → Bool := fun c => c == 'Z' || c == 'z'
  match cutAtFirst (fun c => zulu c || c == '+' || c == '-') t with
  | (time, none) => isTime time
  | (time, some behind) =>
    isTime time && (if (t.drop time.length).head?.any zulu then behind.isEmpty else isOffset behind)

def dateLength : Nat := 10

def isMoment (t : Text) : Bool :=
  if isDate (t.take dateLength) then
    match t.drop dateLength with
    | [] => true
    | c :: time => (c == 'T' || c == 't' || c == ' ') && isTimeWithOffset time
  else isTime t

/-! ### Words -/

def isWordChar (c : Char) : Bool :=
  c.isAlphanum || c == '_' || c == '-' || c == '+' || c == '.' || c == ':'

/-- The value that a word writes. -/
def scalar? (t : Text) : Option Value :=
  if t == "true".toList then some (.boolean true)
  else if t == "false".toList then some (.boolean false)
  else if isMoment t then some (.moment t)
  else
    match integer? t with
    | some n => some (.integer n)
    | none => if isFloat t then some (.float t) else none

/-- The word at the start of a text. A date goes on behind a space if a digit follows. -/
def takeWord (t : Text) : Text :=
  let word := t.takeWhile isWordChar
  if isDate word then
    match t.drop word.length with
    | ' ' :: c :: rest =>
      if c.isDigit then word ++ ' ' :: (c :: rest).takeWhile isWordChar else word
    | _ => word
  else word

/-- Reads a value without quotes and brackets. -/
def readScalar (t : Text) : Option (Value × Text) :=
  let word := takeWord t
  (scalar? word).map fun value => (value, t.drop word.length)

end MapperGen.Toml
