import Mathlib.Data.List.DropRight
import Mathlib.Data.List.TakeWhile
import MapperGen.Text.Basic

/-!
# Trimmed texts

A trimmed text neither begins nor ends with a blank, so trimming it again changes nothing. A text
is trimmed away as a whole exactly if it holds nothing but blanks.
-/

namespace MapperGen.Text

/-! ### The characters in front -/

theorem drop_takeWhile (p : Char → Bool) (t : Text) :
    t.drop (t.takeWhile p).length = t.dropWhile p := by
  have hdrop := List.prefix_iff_eq_append.mp (List.takeWhile_prefix (l := t) p)
  exact List.append_cancel_left (hdrop.trans List.takeWhile_append_dropWhile.symm)

/-! ### Both ends -/

theorem trimStart_trimStart (t : Text) : trimStart (trimStart t) = trimStart t :=
  List.dropWhile_idempotent isBlank t

theorem trimEnd_trimEnd (t : Text) : trimEnd (trimEnd t) = trimEnd t :=
  List.rdropWhile_idempotent isBlank t

theorem trimEnd_prefix (t : Text) : trimEnd t <+: t := List.rdropWhile_prefix isBlank t

theorem trimEnd_cons (c : Char) (t : Text) :
    trimEnd (c :: t) = if isBlank c ∧ trimEnd t = [] then [] else c :: trimEnd t := by
  rw [trimEnd, List.reverse_cons, List.dropWhile_append]
  by_cases ht : t.reverse.dropWhile isBlank = []
  · by_cases hc : isBlank c <;> simp [ht, hc, trimEnd]
  · simp [ht, trimEnd]

/-- The ends can be trimmed one after the other, in either order. -/
theorem trimStart_trimEnd (t : Text) : trimStart (trimEnd t) = trimEnd (trimStart t) := by
  induction t with
  | nil => rfl
  | cons c t ih =>
    rw [trimEnd_cons]
    by_cases hc : isBlank c
    · have hstart : trimStart (c :: t) = trimStart t := List.dropWhile_cons_of_pos hc
      rw [hstart, ← ih]
      by_cases ht : trimEnd t = []
      · rw [if_pos ⟨hc, ht⟩, ht]
      · rw [if_neg fun h => ht h.2]
        exact List.dropWhile_cons_of_pos hc
    · have hstart (u : Text) : trimStart (c :: u) = c :: u := List.dropWhile_cons_of_neg hc
      rw [if_neg fun h => hc h.1, hstart, hstart, trimEnd_cons, if_neg fun h => hc h.1]

theorem trim_trimEnd (t : Text) : trim (trimEnd t) = trim t := by
  rw [trim, trimStart_trimEnd, trimEnd_trimEnd, trim]

theorem trimStart_trim (t : Text) : trimStart (trim t) = trim t := by
  rw [trim, trimStart_trimEnd, trimStart_trimStart]

theorem trim_trim (t : Text) : trim (trim t) = trim t := by
  have hs : trimStart (trim t) = trim t := trimStart_trim t
  show trimEnd (trimStart (trim t)) = trim t
  rw [hs]
  exact trimEnd_trimEnd (trimStart t)

theorem trimEnd_trim (t : Text) : trimEnd (trim t) = trim t := trimEnd_trimEnd (trimStart t)

theorem trimEnd_append_of_trimEnd {w : Text} (t : Text) (hne : w ≠ []) (h : trimEnd w = w) :
    trimEnd (t ++ w) = t ++ w := by
  have hw : w.reverse.dropWhile isBlank = w.reverse := by
    rw [← List.reverse_reverse (w.reverse.dropWhile isBlank)]
    exact congrArg List.reverse h
  rw [trimEnd, List.reverse_append, List.dropWhile_append, hw]
  simp [hne]

theorem trim_eq_self {t : Text} (hfirst : ∀ c ∈ t.head?, isBlank c = false)
    (hlast : ∀ c ∈ t.getLast?, isBlank c = false) : trim t = t := by
  have hstart (t : Text) (h : ∀ c ∈ t.head?, isBlank c = false) : t.dropWhile isBlank = t := by
    cases t with
    | nil => rfl
    | cons c t => exact List.dropWhile_cons_of_neg (by simp [h c rfl])
  rw [trim, trimStart, hstart t hfirst, trimEnd, hstart, List.reverse_reverse]
  rwa [List.head?_reverse]

theorem mem_of_mem_trim {c : Char} {t : Text} (h : c ∈ trim t) : c ∈ t := by
  have hfront := trimEnd_prefix (trimStart t)
  have hstart : c ∈ trimStart t := hfront.subset h
  exact (List.dropWhile_suffix isBlank).subset hstart

/-! ### Nothing but blanks -/

theorem isAllBlank_iff {t : Text} : isAllBlank t = true ↔ ∀ c ∈ t, isBlank c = true := by
  simp [isAllBlank]

theorem trimEnd_eq_nil_iff {t : Text} : trimEnd t = [] ↔ isAllBlank t = true := by
  rw [isAllBlank_iff]
  exact List.rdropWhile_eq_nil_iff

theorem trim_eq_nil_iff {t : Text} : trim t = [] ↔ isAllBlank t = true := by
  rw [trim, trimEnd_eq_nil_iff, isAllBlank_iff, isAllBlank_iff]
  constructor
  · intro h c hc
    rw [← List.takeWhile_append_dropWhile (p := isBlank) (l := t)] at hc
    rcases List.mem_append.mp hc with hc | hc
    · exact List.mem_takeWhile_imp hc
    · exact h c hc
  · intro h c hc
    exact h c ((List.dropWhile_suffix isBlank).subset hc)

theorem isEmpty_trim (t : Text) : (trim t).isEmpty = isAllBlank t := by
  rw [Bool.eq_iff_iff, List.isEmpty_iff]
  exact trim_eq_nil_iff

end MapperGen.Text
