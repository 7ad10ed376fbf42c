import MapperGen.Proofs.Syntax.Nesting
import MapperGen.Proofs.Syntax.ScanLocality
import MapperGen.Proofs.Traversal
import MapperGen.Syntax.Grammar.File

/-!
# Reading texts

A text has tokens if it is read to its end and its brackets nest, and it is a file if the grammar
takes their trees. This says so without the state of the scanner and of the nesting.
-/

namespace MapperGen.Syntax

open MapperGen.Text

/-! ### Whole texts -/

/-- The characters that a byte order mark takes at the start of a text. -/
def markLength (t : Text) : Nat := if startsWith t [byteOrderMark] then 1 else 0

theorem markLength_eq_zero_iff {t : Text} : markLength t = 0 ↔ t.head? ≠ some byteOrderMark := by
  cases t with
  | nil => simp [markLength, startsWith, dropHead?]
  | cons c t =>
    by_cases hc : byteOrderMark = c
    · simp [markLength, startsWith, dropHead?, hc]
    · simp [markLength, startsWith, dropHead?, hc, Ne.symm hc]

theorem scan_eq_iff {t : Text} {placed : List Placed} :
    scan t = (placed, none) ↔ Scans [] (markLength t) (t.drop (markLength t)) placed := by
  rw [← scanFrom_eq_iff, scan, markLength]
  split <;> rfl

theorem nest_stuck {groups : List OpenGroup} {done trees : List Tree} {index offset : Nat}
    {placed : List Placed} : nest (some offset) groups done index placed ≠ .ok trees := by
  induction placed generalizing groups done index with
  | nil =>
    rw [nest.eq_def]
    simp
  | cons p rest ih =>
    cases htree : leaf? index p.token with
    | some tree =>
      rw [nest_leaf htree]
      exact ih
    | none =>
      obtain ⟨token, start, stop⟩ := p
      rw [nest.eq_def]
      cases token with
      | opening d => exact ih
      | closing d =>
        cases groups with
        | nil => simp
        | cons group groups =>
          dsimp only
          split
          · exact ih
          · simp
      | ident | punct | literal | comment => cases htree

/-- The tokens of a text, in order. -/
def Tokens.sequence (s : Tokens) : List Token := s.placed.toList.map Placed.token

/-- A text has tokens iff all of it is read and the tokens nest. -/
theorem Tokens.read_eq_ok_iff {t : Text} {s : Tokens} : Tokens.read t = .ok s ↔
    ∃ placed, Scans [] (markLength t) (t.drop (markLength t)) placed ∧
      Nests 0 (placed.map Placed.token) s.trees ∧ s.placed = placed.toArray ∧ s.text = t := by
  rw [Tokens.read, map_eq_ok_iff]
  constructor
  · rintro ⟨trees, hnest, rfl⟩
    cases hstuck : (scan t).2 with
    | some offset =>
      rw [hstuck] at hnest
      exact absurd hnest nest_stuck
    | none =>
      rw [hstuck, nest_eq_ok_iff] at hnest
      exact ⟨_, scan_eq_iff.mp (Prod.ext rfl hstuck), hnest, rfl, rfl⟩
  · rintro ⟨placed, hscan, hnest, hplaced, rfl⟩
    rw [← scan_eq_iff] at hscan
    rw [hscan]
    refine ⟨s.trees, nest_eq_ok_iff.mpr hnest, ?_⟩
    dsimp only
    rw [← hplaced]

theorem parseText_eq_ok_iff {α : Type} {p : Rules → Parser α} {t : Text} {tokens : Tokens} {a : α} :
    parseText p t = .ok (tokens, a) ↔ Tokens.read t = .ok tokens ∧
      (p (.ofSize tokens.placed.size)).runAll tokens.trees = .ok a := by
  rw [parseText]
  cases hread : Tokens.read t with
  | error fault => simp
  | ok tokens' =>
    simp only [map_eq_ok_iff, Tokens.parse, mapError_eq_ok_iff, Except.ok.injEq, Prod.mk.injEq]
    constructor
    · rintro ⟨_, ha, rfl, rfl⟩
      exact ⟨rfl, ha⟩
    · rintro ⟨rfl, ha⟩
      exact ⟨a, ha, rfl, rfl⟩

theorem SourceFile.read_eq_ok_iff {t : Text} {file : SourceFile} :
    SourceFile.read t = .ok file ↔ Tokens.read t = .ok file.tokens ∧
      (Grammar.file (.ofSize file.tokens.placed.size)).runAll file.tokens.trees =
        .ok file.items := by
  rw [SourceFile.read, map_eq_ok_iff, ← parseText_eq_ok_iff]
  constructor
  · rintro ⟨parsed, hparsed, rfl⟩
    exact hparsed
  · exact fun hparsed => ⟨_, hparsed, rfl⟩

theorem TypeExpr.read_eq_ok_iff {t : Text} {type : TypeExpr} : TypeExpr.read t = .ok type ↔
    ∃ tokens, Tokens.read t = .ok tokens ∧
      ((Rules.ofSize tokens.placed.size).type true).runAll tokens.trees = .ok type := by
  rw [TypeExpr.read, map_eq_ok_iff]
  simp only [Prod.exists, exists_eq_right]
  exact exists_congr fun tokens => parseText_eq_ok_iff

end MapperGen.Syntax
