/-!
# Text

A text is the list of its characters. This module holds the small operations the rest of the
library is written in: trimming by a character class, cutting into lines and fields, joining.
`joinWith_splitOn` says that cutting into fields loses nothing.
-/

namespace MapperGen

/-- A text: its Unicode scalar values in order. -/
abbrev Text := List Char

namespace Text

/-! ### Blanks -/

/-- The characters with the Unicode property `White_Space`. -/
def isBlank (c : Char) : Bool :=
  let n := c.toNat
  (0x9 ≤ n && n ≤ 0xD) || n == 0x20 || n == 0x85 || n == 0xA0 || n == 0x1680 ||
    (0x2000 ≤ n && n ≤ 0x200A) || n == 0x2028 || n == 0x2029 || n == 0x202F || n == 0x205F ||
    n == 0x3000

def trimStart (t : Text) : Text := t.dropWhile isBlank

def trimEnd (t : Text) : Text := (t.reverse.dropWhile isBlank).reverse

def trim (t : Text) : Text := trimEnd (trimStart t)

/-- No character but blanks. -/
def isAllBlank (t : Text) : Bool := t.all isBlank

theorem trimEnd_nil : trimEnd [] = [] := rfl

/-! ### Prefixes -/

/-- What follows `head` in `t`, if `t` starts with it. -/
def dropHead? : (head t : Text) → Option Text
  | [], t => some t
  | _ :: _, [] => none
  | h :: head, c :: t => if h = c then dropHead? head t else none

def startsWith (t head : Text) : Bool := (dropHead? head t).isSome

theorem dropHead?_append (head t : Text) : dropHead? head (head ++ t) = some t := by
  induction head with
  | nil => rfl
  | cons h head ih => simp [dropHead?, ih]

theorem eq_append_of_dropHead? {head t rest : Text} (h : dropHead? head t = some rest) :
    t = head ++ rest := by
  induction head generalizing t with
  | nil => simpa [dropHead?] using h
  | cons x head ih =>
    cases t with
    | nil => simp [dropHead?] at h
    | cons c t =>
      simp only [dropHead?] at h
      split at h
      · next hx => simp [hx, ih h]
      · simp at h

/-! ### Fields and lines -/

/-- Cuts at every `sep`; there is one more field than there are separators. -/
def splitOn (sep : Char) : Text → List Text
  | [] => [[]]
  | c :: t =>
    if c = sep then [] :: splitOn sep t
    else match splitOn sep t with
      | [] => [[c]]
      | field :: fields => (c :: field) :: fields

/-- Puts `sep` between the parts. -/
def joinWith (sep : Text) : List Text → Text
  | [] => []
  | [part] => part
  | part :: parts => part ++ sep ++ joinWith sep parts

theorem splitOn_ne_nil (sep : Char) (t : Text) : splitOn sep t ≠ [] := by
  cases t with
  | nil => simp [splitOn]
  | cons c t =>
    simp only [splitOn]
    split
    · simp
    · split <;> simp

/-- Joining the fields gives the text back. -/
theorem joinWith_splitOn (sep : Char) (t : Text) : joinWith [sep] (splitOn sep t) = t := by
  induction t with
  | nil => rfl
  | cons c t ih =>
    simp only [splitOn]
    split
    · next h =>
      have hne := splitOn_ne_nil sep t
      cases hs : splitOn sep t with
      | nil => exact absurd hs hne
      | cons f fs => simp [joinWith, ← hs, ih, h]
    · cases hs : splitOn sep t with
      | nil => exact absurd hs (splitOn_ne_nil sep t)
      | cons f fs =>
        rw [hs] at ih
        cases fs with
        | nil => simpa [joinWith] using ih
        | cons g gs => simpa [joinWith] using ih

/-- The lines of a text: cut at every line feed, one carriage return before a line feed dropped,
and no line after a final line feed. -/
def lines : Text → List Text
  | [] => []
  | '\n' :: t => [] :: lines t
  | '\r' :: '\n' :: t => [] :: lines t
  | c :: t =>
    match lines t with
    | [] => [[c]]
    | line :: rest => (c :: line) :: rest

/-! ### Numbers -/

/-- The decimal digits of a number. -/
def ofNat (n : Nat) : Text := Nat.toDigits 10 n

end Text
end MapperGen
