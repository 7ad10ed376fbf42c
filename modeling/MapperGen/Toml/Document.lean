import MapperGen.Toml.Quoted
import MapperGen.Toml.Scalar

/-!
# TOML documents

Reads a document line by line: keys with their values, headers, comments and empty lines. Brackets
nest up to a limit, by which the readers of values recur; lists are read by the length of what is
left.
-/

namespace MapperGen.Toml

open Text

/-! ### Gaps -/

/-- Drops a comment up to the end of its line. A character that may not stand in it ends it too. -/
def skipComment (t : Text) : Text :=
  match t with
  | '#' :: t => t.dropWhile isPrintable
  | t => t

theorem skipComment_length (t : Text) : (skipComment t).length ≤ t.length := by
  unfold skipComment
  split
  · next t =>
    have : ∀ l : Text, (l.dropWhile isPrintable).length ≤ l.length := fun l => by
      induction l with
      | nil => simp
      | cons c l ih => simp only [List.dropWhile_cons]; split <;> simp only [List.length_cons] <;> omega
    exact Nat.le_succ_of_le (this t)
  · exact Nat.le_refl _

/-- Drops blanks, line ends and comments. -/
def skipGap (t : Text) : Text :=
  match _h : dropLineEnd? (skipComment (skipSpaces t)) with
  | some rest => skipGap rest
  | none => skipComment (skipSpaces t)
termination_by t.length
decreasing_by
  have := dropLineEnd?_length _h
  have := skipComment_length (skipSpaces t)
  have := skipSpaces_length t
  omega

/-- What follows the end of a line: blanks and a comment may stand before it. -/
def endLine (t : Text) : Option Text :=
  match skipComment (skipSpaces t) with
  | [] => some []
  | rest => dropLineEnd? rest

/-! ### Values -/

/-- Reads items with commas between them up to a closing bracket, at most `more` of them. The last
item may have a comma, too. -/
def listItems {α : Type} (item : Text → Option (α × Text)) (close : Char) :
    (more : Nat) → Text → Option (List α × Text)
  | 0, _ => none
  | more + 1, t =>
    match skipGap t with
    | [] => none
    | c :: rest =>
      if c = close then some ([], rest)
      else
        match item (c :: rest) with
        | none => none
        | some (a, rest) =>
          match skipGap rest with
          | [] => none
          | c :: rest =>
            if c = close then some ([a], rest)
            else if c = ',' then
              (listItems item close more rest).map fun (as, rest) => (a :: as, rest)
            else none

/-- Reads a key and its value. -/
def keyValue (value : Text → Option (Value × Text)) (t : Text) :
    Option (((List Text × Text) × Value) × Text) :=
  match readKey t with
  | none => none
  | some (key, rest) =>
    match skipSpaces rest with
    | '=' :: rest => (value (skipSpaces rest)).map fun (v, rest) => ((key, v), rest)
    | _ => none

/-- Reads a value with at most `levels` levels of brackets. -/
def readValue : (levels : Nat) → Text → Option (Value × Text)
  | levels, t =>
    match string? t with
    | some result => result.map fun (text, rest) => (.string text, rest)
    | none =>
      match levels, t with
      | levels + 1, '[' :: rest =>
        (listItems (readValue levels) ']' t.length rest).map fun (items, rest) =>
          (.array items, rest)
      | levels + 1, '\x7b' :: rest =>
        match listItems (keyValue (readValue levels)) '\x7d' t.length rest with
        | none => none
        | some (keys, rest) => (inlineTable keys).map fun v => (v, rest)
      | _, t => readScalar t

/-- The most levels of brackets. -/
def deepest : Nat := 80

/-! ### Lines -/

/-- The part of a document that is read: its table, and the path of the last header. -/
structure Progress where
  root : Entries
  header : List Text

/-- Reads a line with a key and its value. -/
def keyLine (p : Progress) (t : Text) : Option (Progress × Text) :=
  match keyValue (readValue deepest) t with
  | none => none
  | some (((path, key), value), rest) =>
    match Entries.defineUnder p.header path key value p.root, endLine rest with
    | some root, some rest => some (⟨root, p.header⟩, rest)
    | _, _ => none

/-- Reads the key of a header, and its line to the end. -/
def headerLine (close : Text) (change : List Text → Text → Option Entries) (t : Text) :
    Option (Progress × Text) :=
  match readKey (skipSpaces t) with
  | none => none
  | some ((path, key), rest) =>
    match change path key, (dropHead? close (skipSpaces rest)).bind endLine with
    | some root, some rest => some (⟨root, path ++ [key]⟩, rest)
    | _, _ => none

/-- Reads a line that is not empty. -/
def readLine (p : Progress) : Text → Option (Progress × Text)
  | '[' :: '[' :: t =>
    headerLine "]]".toList (fun path key => Entries.openNext path key p.root) t
  | '[' :: t => headerLine [']'] (fun path key => Entries.openTable path key p.root) t
  | t => keyLine p t

/-- Reads at most `more` lines. -/
def readLines : (more : Nat) → Progress → Text → Option Progress
  | 0, _, _ => none
  | more + 1, p, t =>
    match skipGap t with
    | [] => some p
    | c :: rest =>
      match readLine p (c :: rest) with
      | none => none
      | some (p, rest) => readLines more p rest

/-- Reads a document. A byte order mark at its start does not count. -/
def read (t : Text) : Option Entries :=
  let t := (dropHead? [Char.ofNat 0xFEFF] t).getD t
  (readLines (t.length + 1) ⟨[], []⟩ t).map Progress.root

end MapperGen.Toml
