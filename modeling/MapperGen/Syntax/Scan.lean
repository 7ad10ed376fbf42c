import MapperGen.Syntax.Token
import MapperGen.Syntax.Literal

/-!
# Scanning

Cuts a source text into tokens. `scanOne` reads what stands at the start of a text: blanks, a
comment or a token; `scan` repeats it and stops where nothing can be read. Comments leave no
token unless they document, in which case they stand for an attribute.
-/

namespace MapperGen.Syntax

open MapperGen.Text

/-! ### Blanks and comments -/

/-- Blanks between tokens: those of texts and the two direction marks. -/
def isGap (c : Char) : Bool := isBlank c || c.toNat == 0x200E || c.toNat == 0x200F

/-- Characters before the next line feed. -/
def lineLength (t : Text) : Nat := (t.takeWhile (· != '\n')).length

/-- A block comment with the blocks nested in it; `depth` of them are open. -/
def blockLength (depth : Nat) : Text → Option Nat
  | [] => none
  | '/' :: '*' :: t => (blockLength (depth + 1) t).map (· + 2)
  | '*' :: '/' :: t => if depth ≤ 1 then some 2 else (blockLength (depth - 1) t).map (· + 2)
  | _ :: t => (blockLength depth t).map (· + 1)

/-- A carriage return that no line feed follows. -/
def hasBareReturn : Text → Bool
  | [] => false
  | '\r' :: '\n' :: t => hasBareReturn t
  | '\r' :: _ => true
  | _ :: t => hasBareReturn t

/-- The attribute that a documentation comment abbreviates. -/
def docTokens (inner : Bool) (content : Text) : List Token :=
  .punct '#' false :: (if inner then [.punct '!' false] else []) ++
    [.opening .bracket, .ident "doc".toList, .punct '=' false, .comment content, .closing .bracket]

/-- A documentation comment of the given length; a bare carriage return spoils it. -/
def docComment (inner : Bool) (length : Nat) (content : Text) : Option (Nat × List Token) :=
  if hasBareReturn content then none else some (length, docTokens inner content)

/-- The content of a line comment: a carriage return before the line feed is no part of it. -/
def lineContent (t : Text) : Text :=
  let line := t.takeWhile (· != '\n')
  if (t.drop line.length).isEmpty || line.getLast? != some '\r' then line else line.dropLast

/-- What a comment line that starts with `//` leaves: its length and tokens. -/
def lineComment (t : Text) : Option (Nat × List Token) :=
  if startsWith t "//!".toList then docComment true (lineLength t) (lineContent (t.drop 3))
  else if startsWith t "///".toList && !startsWith t "////".toList then
    docComment false (lineLength t) (lineContent (t.drop 3))
  else some (lineLength t, [])

/-- What a comment block that starts with `/*` leaves: its length and tokens. -/
def blockComment (t : Text) : Option (Nat × List Token) :=
  (blockLength 0 t).bind fun n =>
    let content := (t.take (n - 2)).drop 3
    -- `/**/` and `/***` document nothing
    if startsWith t "/**/".toList then some (n, [])
    else if startsWith t "/*!".toList then docComment true n content
    else if startsWith t "/**".toList && !startsWith t "/***".toList then docComment false n content
    else some (n, [])

/-! ### Punctuation and identifiers -/

def isPunct (c : Char) : Bool := "~!@#$%^&*-=+|;:,<.>/?'".toList.contains c

def startsComment (t : Text) : Bool := startsWith t ['/', '/'] || startsWith t ['/', '*']

def startsPunct (t : Text) : Bool := headIs isPunct t && !startsComment t

/-- Beginnings of quoted literals, which are no identifiers. -/
def literalHeads : List Text :=
  ["r\"", "r#\"", "r##", "b\"", "b'", "br\"", "br#", "c\"", "cr\"", "cr#"].map String.toList

/-- Names that have no raw form. -/
def hasRawForm (name : Text) : Bool :=
  !(["_", "super", "self", "Self", "crate"].map String.toList).contains name

def anyIdentLength (t : Text) : Option Nat :=
  if startsWith t ['r', '#'] then
    let n := identLength (t.drop 2)
    if n = 0 || !hasRawForm ((t.drop 2).take n) then none else some (n + 2)
  else
    let n := identLength t
    if n = 0 then none else some n

/-- An identifier that is not the beginning of a quoted literal. -/
def ident? (t : Text) : Option (Nat × List Token) :=
  if literalHeads.any (startsWith t) then none
  else (anyIdentLength t).map fun n => (n, [.ident (t.take n)])

/-- The quote of a lifetime: an identifier follows, and no second quote after it. -/
def lifetimeQuote (t : Text) : Bool :=
  match anyIdentLength t with
  | none => false
  | some n =>
    let rest := t.drop n
    -- `'a'` is a character, and `'a#` is reserved unless the name is raw
    !startsWith rest ['\''] && !(startsWith rest ['#'] && !startsWith t ['r', '#'])

def punct? : Text → Option (Nat × List Token)
  | [] => none
  | c :: t =>
    if !startsPunct (c :: t) then none
    else if c = '\'' then (if lifetimeQuote t then some (1, [.punct c true]) else none)
    else some (1, [.punct c (startsPunct t)])

/-! ### The scanner -/

/-- The mark that stands where a literal could not be made. -/
def errorMark : Text := "(/*ERROR*/)".toList

def bracket? : Text → Option (Nat × List Token)
  | [] => none
  | c :: t =>
    if startsWith (c :: t) errorMark then some (errorMark.length, [.literal errorMark])
    else match Delimiter.ofOpening? c, Delimiter.ofClosing? c with
      | some d, _ => some (1, [.opening d])
      | _, some d => some (1, [.closing d])
      | none, none => none

def literal? (t : Text) : Option (Nat × List Token) :=
  (literalLength t).map fun n => (n, [.literal (t.take n)])

/-- Reads blanks, a comment or a token at the start of a text: how many characters it takes and
which tokens it leaves. -/
def scanOne (t : Text) : Option (Nat × List Token) :=
  if headIs isGap t then some ((t.takeWhile isGap).length, [])
  else if startsWith t ['/', '/'] then lineComment t
  else if startsWith t ['/', '*'] then blockComment t
  -- a literal may begin as punctuation or an identifier does, so it is tried before both
  else (((bracket? t).or (literal? t)).or (punct? t)).or (ident? t)

/-- The tokens of a text and, if not all of it can be read, the offset where that ends. -/
abbrev Scanned := List Placed × Option Nat

/-- Puts the tokens read at an offset before those that come later. What is read takes at least one
character; `later` gets the number of further characters it takes. -/
def placeTokens (offset : Nat) (later : Nat → Scanned) : Option (Nat × List Token) → Scanned
  | none | some (0, _) => ([], some offset)
  | some (n + 1, tokens) =>
    let (placed, stuck) := later n
    (tokens.map (fun token => ⟨token, offset, offset + (n + 1)⟩) ++ placed, stuck)

/-- Scans a text. The first `passed` characters belong to the token just read; `offset` counts the
characters before the text. -/
def scanFrom (passed offset : Nat) : Text → Scanned
  | [] => ([], none)
  | c :: t =>
    match passed with
    | n + 1 => scanFrom n (offset + 1) t
    | 0 => placeTokens offset (fun n => scanFrom n (offset + 1) t) (scanOne (c :: t))

def byteOrderMark : Char := '\ufeff'

/-- Scans a whole text, past a byte order mark at its start. -/
def scan (t : Text) : Scanned :=
  if startsWith t [byteOrderMark] then scanFrom 0 1 (t.drop 1) else scanFrom 0 0 t

end MapperGen.Syntax
