import MapperGen.Text.CharClass

/-!
# Literals

How far a literal reaches. Every function answers with the number of characters from the start of
the text, or `none` if no literal of its kind starts there. Quoted literals are read by an
automaton (`Quoting.step`) that sees one character at a time.
-/

namespace MapperGen.Syntax

open MapperGen.Text

/-! ### Identifiers -/

/-- The length of the plain identifier at the start; zero if there is none. -/
def identLength : Text → Nat
  | [] => 0
  | c :: t => if isIdentStart c then (t.takeWhile isIdentContinue).length + 1 else 0

/-- A literal may carry an identifier as its suffix. -/
def withSuffix (t : Text) (length : Nat) : Nat := length + identLength (t.drop length)

/-! ### Quoted literals -/

/-- Which characters and escapes a kind of quoted literal admits. -/
structure Quoting where
  plain : Char → Bool
  hexEscape : Char → Char → Bool
  scalarEscape : Nat → Bool
  zeroEscape : Bool

/-- A number that is a Unicode scalar value. -/
def isScalar (n : Nat) : Bool := n < 0xD800 || (0xDFFF < n && n < 0x110000)

/-- Text literals: `\x` reaches ASCII only. -/
def Quoting.text : Quoting where
  plain _ := true
  hexEscape a b := '0' ≤ a && a ≤ '7' && isHexDigit b
  scalarEscape := isScalar
  zeroEscape := true

/-- Byte literals: ASCII characters and any byte, no scalar values. -/
def Quoting.bytes : Quoting where
  plain := isAscii
  hexEscape a b := isHexDigit a && isHexDigit b
  scalarEscape _ := false
  zeroEscape := true

/-- Literals that a zero ends: as text and bytes together, but the zero in no form. -/
def Quoting.zeroEnded : Quoting where
  plain c := c != '\x00'
  hexEscape a b := isHexDigit a && isHexDigit b && !(a == '0' && b == '0')
  scalarEscape n := isScalar n && n != 0
  zeroEscape := false

/-- Where a quoted literal stands between two characters. -/
inductive Quoting.Mode where
  | plain
  | afterReturn
  | escape
  | hex
  | hexSecond (first : Char)
  | scalarOpen
  | scalar (digits value : Nat)
  | lineBreak
  | lineBreakReturn
  deriving DecidableEq, Repr

/-- What one character does to a quoted literal. -/
inductive Quoting.Step where
  | close
  | reject
  | next (mode : Quoting.Mode)
  deriving DecidableEq, Repr

/-- A character where no escape is under way. -/
def Quoting.plainStep (q : Quoting) (c : Char) : Step :=
  if c = '"' then .close
  else if c = '\r' then .next .afterReturn
  else if c = '\\' then .next .escape
  else if q.plain c then .next .plain
  else .reject

/-- The character after a backslash. -/
def Quoting.escapeStep (q : Quoting) (c : Char) : Step :=
  if c = 'x' then .next .hex
  else if c = 'u' then .next .scalarOpen
  else if c = 'n' || c = 'r' || c = 't' || c = '\\' || c = '\'' || c = '"' then .next .plain
  else if c = '0' then (if q.zeroEscape then .next .plain else .reject)
  else if c = '\n' then .next .lineBreak
  else if c = '\r' then .next .lineBreakReturn
  else .reject

/-- A character between the braces of a scalar escape: up to six digits, with low lines after the
first. -/
def Quoting.scalarStep (q : Quoting) (digits value : Nat) (c : Char) : Step :=
  if c = '}' then (if digits != 0 && q.scalarEscape value then .next .plain else .reject)
  else if c = '_' then (if digits != 0 then .next (.scalar digits value) else .reject)
  else match hexValue? c with
    | some d => if digits = 6 then .reject else .next (.scalar (digits + 1) (16 * value + d))
    | none => .reject

/-- One step. A carriage return stands only before a line feed; a backslash before a line end
passes over the blanks that follow. -/
def Quoting.step (q : Quoting) : Mode → Char → Step
  | .plain, c => q.plainStep c
  | .afterReturn, c => if c = '\n' then .next .plain else .reject
  | .escape, c => q.escapeStep c
  | .hex, c => .next (.hexSecond c)
  | .hexSecond a, b => if q.hexEscape a b then .next .plain else .reject
  | .scalarOpen, c => if c = '{' then .next (.scalar 0 0) else .reject
  | .scalar digits value, c => q.scalarStep digits value c
  | .lineBreak, c =>
    if c = ' ' || c = '\t' || c = '\n' then .next .lineBreak
    else if c = '\r' then .next .lineBreakReturn
    else q.plainStep c
  | .lineBreakReturn, c => if c = '\n' then .next .lineBreak else .reject

/-- Characters up to and including the closing quote. -/
def Quoting.bodyLength (q : Quoting) : Mode → Text → Option Nat
  | _, [] => none
  | mode, c :: t =>
    match q.step mode c with
    | .close => some 1
    | .reject => none
    | .next mode => (q.bodyLength mode t).map (· + 1)

/-- Characters until the escape under way is complete. -/
def Quoting.escapeLength (q : Quoting) : Mode → Text → Option Nat
  | _, [] => none
  | mode, c :: t =>
    match q.step mode c with
    | .next .plain => some 1
    | .next mode => (q.escapeLength mode t).map (· + 1)
    | _ => none

/-- The one character, or its escape, of a character literal. -/
def Quoting.unitLength (q : Quoting) : Text → Option Nat
  | [] => none
  | '\\' :: t =>
    if startsWith t ['\n'] || startsWith t ['\r'] then none
    else (q.escapeLength .escape t).map (· + 1)
  | c :: _ => if q.plain c then some 1 else none

/-- A character literal after its opening quote. -/
def Quoting.charLength (q : Quoting) (t : Text) : Option Nat :=
  match q.unitLength t with
  | some n => if startsWith (t.drop n) ['\''] then some (n + 1) else none
  | none => none

/-- The content of a raw literal and its closing quote with as many `#` as opened it. -/
def rawBodyLength (plain : Char → Bool) (hashes : Nat) : Text → Option Nat
  | [] => none
  | '"' :: t =>
    if startsWith t (List.replicate hashes '#') then some (hashes + 1)
    else (rawBodyLength plain hashes t).map (· + 1)
  | '\r' :: '\n' :: t => (rawBodyLength plain hashes t).map (· + 2)
  | '\r' :: _ => none
  | c :: t => if plain c then (rawBodyLength plain hashes t).map (· + 1) else none

/-- A raw literal from its first `#` or quote; at most 255 `#` are allowed. -/
def rawLength (plain : Char → Bool) (t : Text) : Option Nat :=
  let hashes := (t.takeWhile (· == '#')).length
  match t.drop hashes with
  | '"' :: body =>
    if hashes ≤ 255 then (rawBodyLength plain hashes body).map (· + (hashes + 1)) else none
  | _ => none

/-! ### Numbers -/

def isDigitOrLow (c : Char) : Bool := c.isDigit || c == '_'

/-- Does the text start with a character of the class? -/
def headIs (p : Char → Bool) : Text → Bool
  | [] => false
  | c :: _ => p c

/-- Digits of an exponent with one optional sign before them; `none` if no digit comes. -/
def exponentLength (sign digit : Bool) : Text → Option Nat
  | [] => if digit then some 0 else none
  | c :: t =>
    if c = '+' || c = '-' then
      if digit then some 0 else if sign then none
      else (exponentLength true digit t).map (· + 1)
    else if c.isDigit then (exponentLength sign true t).map (· + 1)
    else if c = '_' then (exponentLength sign digit t).map (· + 1)
    else if digit then some 0 else none

/-- Adds the exponent that starts with `e`, if there is one. -/
def withExponent (length : Nat) (afterE : Text) : Option Nat :=
  (exponentLength false false afterE).map (· + (length + 1))

/-- The digits, point and exponent of a number with a point or an exponent. -/
def floatDigitsLength (t : Text) : Option Nat :=
  if !headIs Char.isDigit t then none
  else
    let whole := (t.takeWhile isDigitOrLow).length
    match t.drop whole with
    | '.' :: r =>
      -- a range or a method of a whole number: `1..2`, `1.max(2)`
      if headIs (fun c => c == '.' || isIdentStart c) r then none
      else
        let length := whole + 1 + (r.takeWhile isDigitOrLow).length
        match t.drop length with
        | 'e' :: r | 'E' :: r => (withExponent length r).or (some length)
        | _ => some length
    | 'e' :: r | 'E' :: r => withExponent whole r
    | _ => none

/-- The digits of a number in a base. A letter that is no digit ends it, a decimal digit too large
for the base spoils it. -/
def baseDigitsLength (base : Nat) (empty : Bool) : Text → Option Nat
  | [] => if empty then none else some 0
  | c :: t =>
    if c = '_' then
      if empty && base == 10 then none else (baseDigitsLength base empty t).map (· + 1)
    else match hexValue? c with
      | some d =>
        if d < base then (baseDigitsLength base false t).map (· + 1)
        else if c.isDigit || empty then none else some 0
      | none => if empty then none else some 0

/-- The base mark and digits of a whole number. -/
def wholeDigitsLength : Text → Option Nat
  | '0' :: 'x' :: t => (baseDigitsLength 16 true t).map (· + 2)
  | '0' :: 'o' :: t => (baseDigitsLength 8 true t).map (· + 2)
  | '0' :: 'b' :: t => (baseDigitsLength 2 true t).map (· + 2)
  | t => baseDigitsLength 10 true t

/-- A number takes a suffix, and no identifier character may follow. -/
def numberEnd (t : Text) (digits : Nat) : Option Nat :=
  let length := withSuffix t digits
  if headIs isIdentContinue (t.drop length) then none else some length

/-- A number: with a point or exponent if it can be, else whole. -/
def numberLength (t : Text) : Option Nat :=
  ((floatDigitsLength t).bind (numberEnd t)).or ((wholeDigitsLength t).bind (numberEnd t))

/-! ### All literals -/

/-- Adds the `head` characters before the body, and the suffix after it. -/
def quotedLength (t : Text) (head : Nat) (body : Option Nat) : Option Nat :=
  body.map fun n => withSuffix t (n + head)

def literalLength (t : Text) : Option Nat :=
  match t with
  | '"' :: r => quotedLength t 1 (Quoting.text.bodyLength .plain r)
  | 'r' :: r => quotedLength t 1 (rawLength (fun _ => true) r)
  | 'b' :: '"' :: r => quotedLength t 2 (Quoting.bytes.bodyLength .plain r)
  | 'b' :: 'r' :: r => quotedLength t 2 (rawLength isAscii r)
  | 'b' :: '\'' :: r => quotedLength t 2 (Quoting.bytes.charLength r)
  | 'c' :: '"' :: r => quotedLength t 2 (Quoting.zeroEnded.bodyLength .plain r)
  | 'c' :: 'r' :: r => quotedLength t 2 (rawLength (· != '\x00') r)
  | '\'' :: r => quotedLength t 1 (Quoting.text.charLength r)
  | _ => numberLength t

/-! ### What a literal says -/

/-- Reads one escape, or passes over a line end, of a text literal; the rest of the text with it. -/
def unescapeOne : Text → Text × Text
  | 'n' :: t => (['\n'], t)
  | 'r' :: t => (['\r'], t)
  | 't' :: t => (['\t'], t)
  | '0' :: t => (['\x00'], t)
  | 'x' :: a :: b :: t => ([Char.ofNat (hexNumber [a, b])], t)
  | 'u' :: '{' :: t =>
    ([Char.ofNat (hexNumber (t.takeWhile (· != '}')))], (t.dropWhile (· != '}')).drop 1)
  | '\n' :: t | '\r' :: t =>
    ([], t.dropWhile fun c => c == ' ' || c == '\t' || c == '\n' || c == '\r')
  | c :: t => ([c], t)
  | [] => ([], [])

/-- The characters between the quotes of a text literal, escapes resolved, a carriage return and
line feed read as one line feed. The number bounds the characters still to be read. -/
def unescape : Nat → Text → Text
  | 0, _ | _, [] | _, '"' :: _ => []
  | n + 1, '\\' :: t => let (value, rest) := unescapeOne t; value ++ unescape n rest
  | n + 1, '\r' :: '\n' :: t => '\n' :: unescape n t
  | n + 1, c :: t => c :: unescape n t

/-- The content of a raw text literal, after its `r`. -/
def rawContent (t : Text) : Text :=
  let hashes := (t.takeWhile (· == '#')).length
  let body := t.drop (hashes + 1)
  match rawBodyLength (fun _ => true) hashes body with
  | some n => body.take (n - (hashes + 1))
  | none => []

/-- The text that a text literal denotes; `none` for literals of other kinds. -/
def textValue? : Text → Option Text
  | '"' :: t => some (unescape t.length t)
  | 'r' :: t => some (rawContent t)
  | _ => none

def isNumber (lexeme : Text) : Bool := headIs Char.isDigit lexeme

def isTextLiteral (lexeme : Text) : Bool := headIs (fun c => c == '"' || c == 'r') lexeme

end MapperGen.Syntax
