import MapperGen.Json.Basic
import MapperGen.Text.CharClass

/-!
# Reading JSON

Reads the values that `Json` can hold, in any layout. Lists and objects are read by the length of
what is left.
-/

namespace MapperGen.Json

open Text

/-! ### Texts -/

/-- The character that a letter stands for behind a backslash. -/
def shortEscape? : Char → Option Char
  | '"' => some '"'
  | '\\' => some '\\'
  | '/' => some '/'
  | 'b' => some (Char.ofNat 8)
  | 'f' => some (Char.ofNat 12)
  | 'n' => some '\n'
  | 'r' => some '\r'
  | 't' => some '\t'
  | _ => none

/-- The code unit that four hexadecimal digits write. -/
def codeUnit? (t : Text) : Option (Nat × Text) :=
  let digits := t.take 4
  if digits.length = 4 ∧ digits.all isHexDigit then some (hexNumber digits, t.drop 4) else none

/-- The character that four digits name; two surrogates name one character together. -/
def unitEscape (t : Text) : Option (Char × Text) :=
  match codeUnit? t with
  | none => none
  | some (high, rest) =>
    if 0xD800 ≤ high ∧ high ≤ 0xDBFF then
      -- the first half of a pair, whose second half has to follow
      match (dropHead? ['\\', 'u'] rest).bind codeUnit? with
      | some (low, rest) =>
        if 0xDC00 ≤ low ∧ low ≤ 0xDFFF then
          some (Char.ofNat (0x10000 + 0x400 * (high - 0xD800) + (low - 0xDC00)), rest)
        else none
      | none => none
    else if 0xDC00 ≤ high ∧ high ≤ 0xDFFF then none
    else some (Char.ofNat high, rest)

/-- The character that an escape names; the backslash is read. -/
def escape : Text → Option (Char × Text)
  | [] => none
  | c :: t => if c = 'u' then unitEscape t else (shortEscape? c).map fun e => (e, t)

theorem codeUnit?_length {t rest : Text} {n : Nat} (h : codeUnit? t = some (n, rest)) :
    rest.length ≤ t.length := by
  simp only [codeUnit?] at h
  split at h
  · simp only [Option.some.injEq, Prod.mk.injEq] at h; simp [← h.2]
  · simp at h

theorem unitEscape_length {t rest : Text} {c : Char} (h : unitEscape t = some (c, rest)) :
    rest.length ≤ t.length := by
  simp only [unitEscape] at h
  split at h
  · simp at h
  · next high r hu =>
    have hr := codeUnit?_length hu
    split at h
    · split at h
      · next low r' hb =>
        obtain ⟨x, hx, hl⟩ := Option.bind_eq_some_iff.1 hb
        have hx := congrArg List.length (eq_append_of_dropHead? hx)
        have hl := codeUnit?_length hl
        split at h
        · simp only [Option.some.injEq, Prod.mk.injEq] at h
          simp only [List.length_append] at hx
          rw [← h.2]; omega
        · simp at h
      · simp at h
    · split at h
      · simp at h
      · simp only [Option.some.injEq, Prod.mk.injEq] at h
        rw [← h.2]; exact hr

theorem escape_length {t rest : Text} {c : Char} (h : escape t = some (c, rest)) :
    rest.length < t.length := by
  cases t with
  | nil => simp [escape] at h
  | cons d t =>
    simp only [escape] at h
    split at h
    · exact Nat.lt_succ_of_le (unitEscape_length h)
    · obtain ⟨e, -, he⟩ := Option.map_eq_some_iff.1 h
      simp only [Prod.mk.injEq] at he
      simp [← he.2]

/-- Reads a text up to the closing quote. -/
def readQuoted (t : Text) : Option (Text × Text) :=
  match t with
  | [] => none
  | '"' :: t => some ([], t)
  | '\\' :: t =>
    match _h : escape t with
    | some (c, rest) => (readQuoted rest).map fun (behind, rest) => (c :: behind, rest)
    | none => none
  | c :: t =>
    if c.toNat < 0x20 then none
    else (readQuoted t).map fun (behind, rest) => (c :: behind, rest)
termination_by t.length
decreasing_by
  · have := escape_length _h; simp only [List.length_cons]; omega
  · simp

/-! ### Lists and objects -/

/-- A blank between the parts of a value. -/
def isGap (c : Char) : Bool := c == ' ' || c == '\n' || c == '\r' || c == '\t'

def skipGap (t : Text) : Text := t.dropWhile isGap

/-- Reads what follows an item: a closing bracket, or a comma and at most `more` items. -/
def readMore {α : Type} (item : Text → Option (α × Text)) (close : Char) :
    (more : Nat) → Text → Option (List α × Text)
  | 0, _ => none
  | more + 1, t =>
    match skipGap t with
    | [] => none
    | c :: rest =>
      if c = close then some ([], rest)
      else if c = ',' then
        match item rest with
        | none => none
        | some (a, rest) => (readMore item close more rest).map fun (as, rest) => (a :: as, rest)
      else none

/-- Reads items with commas between them up to a closing bracket. -/
def readItems {α : Type} (item : Text → Option (α × Text)) (close : Char) (t : Text) :
    Option (List α × Text) :=
  match skipGap t with
  | [] => none
  | c :: rest =>
    if c = close then some ([], rest)
    else
      match item (c :: rest) with
      | none => none
      | some (a, rest) =>
        (readMore item close (rest.length + 1) rest).map fun (as, rest) => (a :: as, rest)

/-- Reads a name, a colon and a value. -/
def readField (value : Text → Option (Json × Text)) (t : Text) : Option ((Text × Json) × Text) :=
  match skipGap t with
  | '"' :: t =>
    match readQuoted t with
    | none => none
    | some (name, rest) =>
      match skipGap rest with
      | ':' :: rest => (value rest).map fun (v, rest) => ((name, v), rest)
      | _ => none
  | _ => none

/-! ### Values -/

/-- Reads a value with fewer than `levels` levels of brackets. -/
def readValue : (levels : Nat) → Text → Option (Json × Text)
  | 0, _ => none
  | levels + 1, t =>
    match skipGap t with
    | '"' :: t => (readQuoted t).map fun (content, rest) => (.text content, rest)
    | '[' :: t =>
      (readItems (readValue levels) ']' t).map fun (items, rest) => (.list items, rest)
    | '\x7b' :: t =>
      (readItems (readField (readValue levels)) '\x7d' t).map fun (fields, rest) =>
        (.object fields, rest)
    | t => (dropHead? "null".toList t).map fun rest => (.null, rest)

/-- Reads a text that holds one value. -/
def read (t : Text) : Option Json :=
  match readValue (t.length + 1) t with
  | some (v, rest) => if (skipGap rest).isEmpty then some v else none
  | none => none

end MapperGen.Json
