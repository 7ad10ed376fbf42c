import MapperGen.Text.CharClass

/-!
# Strings and keys of a TOML document

A reader takes a value from the start of a text and gives what is left. Strings stand between quotes
or apostrophes, single ones on one line, triple ones on several; escapes count between quotes only.
Keys are bare or quoted, and dots join them.
-/

namespace MapperGen.Toml

open Text

/-! ### Characters -/

/-- A blank within a line. -/
def isSpace (c : Char) : Bool := c == ' ' || c == '\t'

/-- May stand in a string or comment as it is: a tab, or no control character. -/
def isPrintable (c : Char) : Bool := c == '\t' || (0x20 ≤ c.toNat && c.toNat != 0x7F)

def isBareKey (c : Char) : Bool := c.isAlphanum || c == '-' || c == '_'

def skipSpaces (t : Text) : Text := t.dropWhile isSpace

/-- What follows a line end at the start of a text. -/
def dropLineEnd? : Text → Option Text
  | '\n' :: t => some t
  | '\r' :: '\n' :: t => some t
  | _ => none

theorem dropLineEnd?_length {t rest : Text} (h : dropLineEnd? t = some rest) :
    rest.length < t.length := by
  unfold dropLineEnd? at h
  split at h
  · simp only [Option.some.injEq] at h; simp [← h]
  · simp only [Option.some.injEq] at h
    rw [← h]
    simp only [List.length_cons]
    omega
  · simp at h

theorem skipSpaces_length (t : Text) : (skipSpaces t).length ≤ t.length := by
  induction t with
  | nil => simp [skipSpaces]
  | cons c t ih =>
    simp only [skipSpaces, List.dropWhile_cons] at ih ⊢
    split
    · exact Nat.le_succ_of_le ih
    · exact Nat.le_refl _

/-! ### Escapes -/

/-- The character that so many hexadecimal digits name. -/
def hexEscape (digits : Nat) (t : Text) : Option (Char × Text) :=
  let number := t.take digits
  let code := hexNumber number
  if number.length = digits ∧ number.all isHexDigit ∧ code.isValidChar then
    some (Char.ofNat code, t.drop digits)
  else none

/-- The character that a letter stands for behind a backslash. -/
def shortEscape? : Char → Option Char
  | 'b' => some (Char.ofNat 8)
  | 't' => some '\t'
  | 'n' => some '\n'
  | 'f' => some (Char.ofNat 12)
  | 'r' => some '\r'
  | 'e' => some (Char.ofNat 27)
  | '"' => some '"'
  | '\\' => some '\\'
  | _ => none

/-- The number of digits that follow a letter behind a backslash. -/
def escapeDigits? : Char → Option Nat
  | 'x' => some 2
  | 'u' => some 4
  | 'U' => some 8
  | _ => none

/-- The character that an escape names; the backslash is read. -/
def escape : Text → Option (Char × Text)
  | [] => none
  | c :: t =>
    match shortEscape? c with
    | some e => some (e, t)
    | none => (escapeDigits? c).bind fun digits => hexEscape digits t

theorem hexEscape_length {n : Nat} {t rest : Text} {c : Char}
    (h : hexEscape n t = some (c, rest)) : rest.length ≤ t.length := by
  simp only [hexEscape] at h
  split at h
  · simp only [Option.some.injEq, Prod.mk.injEq] at h; simp [← h.2]
  · simp at h

theorem escape_length {t rest : Text} {c : Char} (h : escape t = some (c, rest)) :
    rest.length < t.length := by
  cases t with
  | nil => simp [escape] at h
  | cons d t =>
    simp only [escape] at h
    split at h
    · simp only [Option.some.injEq, Prod.mk.injEq] at h; simp [← h.2]
    · obtain ⟨n, -, hn⟩ := Option.bind_eq_some_iff.1 h
      exact Nat.lt_succ_of_le (hexEscape_length hn)

/-! ### Strings on one line -/

/-- Reads up to the closing quote. -/
def basicString (t : Text) : Option (Text × Text) :=
  match t with
  | [] => none
  | '"' :: t => some ([], t)
  | '\\' :: t =>
    match _h : escape t with
    | some (c, rest) => (basicString rest).map fun (text, rest) => (c :: text, rest)
    | none => none
  | c :: t =>
    if isPrintable c then (basicString t).map fun (text, rest) => (c :: text, rest) else none
termination_by t.length
decreasing_by
  · have := escape_length _h; simp only [List.length_cons]; omega
  · simp

/-- Reads up to the closing apostrophe. -/
def literalString (t : Text) : Option (Text × Text) :=
  let text := t.takeWhile fun c => isPrintable c && c != '\''
  match t.drop text.length with
  | '\'' :: rest => some (text, rest)
  | _ => none

/-! ### Strings on several lines -/

/-- Drops blanks and line ends. -/
def skipLines (t : Text) : Text :=
  match _h : dropLineEnd? (skipSpaces t) with
  | some rest => skipLines rest
  | none => skipSpaces t
termination_by t.length
decreasing_by
  have := dropLineEnd?_length _h
  have := skipSpaces_length t
  omega

theorem skipLines_length (t : Text) : (skipLines t).length ≤ t.length := by
  fun_induction skipLines t with
  | case1 t rest h ih =>
    have := dropLineEnd?_length h
    have := skipSpaces_length t
    omega
  | case2 t => exact skipSpaces_length t

/-- What three marks at the start of a text close: up to two more marks belong to the string. -/
def closing? (mark : Char) (t : Text) : Option (Text × Text) :=
  let marks := (t.takeWhile (· == mark)).length
  if marks < 3 then none
  else
    let kept := min (marks - 3) 2
    some (List.replicate kept mark, t.drop (kept + 3))

/-- Reads the next character of a string on several lines. A line end is one line feed, and a
backslash before a line end drops it with all blanks that follow. -/
def nextInLines (escapes : Bool) (t : Text) : Option (Text × Text) :=
  match dropLineEnd? t with
  | some rest => some (['\n'], rest)
  | none =>
    match t with
    | [] => none
    | c :: t =>
      if escapes && c == '\\' then
        match dropLineEnd? (skipSpaces t) with
        | some rest => some ([], skipLines rest)
        | none => (escape t).map fun (c, rest) => ([c], rest)
      else if isPrintable c then some ([c], t)
      else none

theorem nextInLines_length {escapes : Bool} {t text rest : Text}
    (h : nextInLines escapes t = some (text, rest)) : rest.length < t.length := by
  unfold nextInLines at h
  split at h
  · next h' =>
    have := dropLineEnd?_length h'
    simp only [Option.some.injEq, Prod.mk.injEq] at h
    rw [← h.2]; exact this
  · split at h
    · simp at h
    · next c t _ =>
      split at h
      · split at h
        · next r h' =>
          have := dropLineEnd?_length h'
          have := skipSpaces_length t
          have := skipLines_length r
          simp only [Option.some.injEq, Prod.mk.injEq] at h
          rw [← h.2]; simp only [List.length_cons]; omega
        · cases he : escape t with
          | none => simp [he] at h
          | some p =>
            obtain ⟨e, r⟩ := p
            have := escape_length he
            simp only [he, Option.map_some, Option.some.injEq, Prod.mk.injEq] at h
            rw [← h.2]; simp only [List.length_cons]; omega
      · split at h
        · simp only [Option.some.injEq, Prod.mk.injEq] at h; simp [← h.2]
        · simp at h

/-- Reads up to the three closing marks. -/
def linesString (mark : Char) (t : Text) : Option (Text × Text) :=
  match closing? mark t with
  | some done => some done
  | none =>
    match _h : nextInLines (mark == '"') t with
    | some (text, rest) => (linesString mark rest).map fun (more, rest) => (text ++ more, rest)
    | none => none
termination_by t.length
decreasing_by exact nextInLines_length _h

/-- Reads a string on several lines behind its opening marks. A line end that comes first is no part
of it. -/
def blockString (mark : Char) (t : Text) : Option (Text × Text) :=
  linesString mark ((dropLineEnd? t).getD t)

/-! ### Keys -/

/-- Reads a string on one line. -/
def shortString? : Text → Option (Option (Text × Text))
  | '"' :: t => some (basicString t)
  | '\'' :: t => some (literalString t)
  | _ => none

/-- Reads a string of any kind. -/
def string? : Text → Option (Option (Text × Text))
  | '"' :: '"' :: '"' :: t => some (blockString '"' t)
  | '\'' :: '\'' :: '\'' :: t => some (blockString '\'' t)
  | t => shortString? t

/-- Reads one part of a key. -/
def simpleKey (t : Text) : Option (Text × Text) :=
  match shortString? t with
  | some result => result
  | none =>
    let key := t.takeWhile isBareKey
    if key.isEmpty then none else some (key, t.drop key.length)

/-- Reads a key with at most `more` dots: the parts before the last one, and that one. -/
def dottedKey (more : Nat) (t : Text) : Option ((List Text × Text) × Text) :=
  match simpleKey t with
  | none => none
  | some (key, rest) =>
    match more, skipSpaces rest with
    | more + 1, '.' :: rest =>
      (dottedKey more (skipSpaces rest)).map fun ((path, last), rest) => ((key :: path, last), rest)
    | _, _ => some (([], key), rest)

def readKey (t : Text) : Option ((List Text × Text) × Text) := dottedKey t.length t

end MapperGen.Toml
