import MapperGen.Text.Basic

/-!
# Fields

Cutting a text at a separator and joining parts with one. A field holds no separator, and what was
joined is cut into the same parts if none of them holds it.
-/

namespace MapperGen.Text

theorem mem_of_mem_splitOn {sep c : Char} {t piece : Text} (h : piece ∈ splitOn sep t)
    (hc : c ∈ piece) : c ∈ t ∧ c ≠ sep := by
  induction t generalizing piece with
  | nil =>
    obtain rfl : piece = [] := by simpa [splitOn] using h
    cases hc
  | cons d t ih =>
    rw [splitOn] at h
    split at h
    · rcases List.mem_cons.mp h with rfl | h
      · cases hc
      · obtain ⟨hmem, hne⟩ := ih h hc
        exact ⟨List.mem_cons_of_mem d hmem, hne⟩
    · next hd =>
      obtain ⟨field, fields, hs⟩ := List.exists_cons_of_ne_nil (splitOn_ne_nil sep t)
      rw [hs] at h ih
      rcases List.mem_cons.mp h with rfl | h
      · rcases List.mem_cons.mp hc with rfl | hc
        · exact ⟨List.mem_cons_self, hd⟩
        · obtain ⟨hmem, hne⟩ := ih List.mem_cons_self hc
          exact ⟨List.mem_cons_of_mem d hmem, hne⟩
      · obtain ⟨hmem, hne⟩ := ih (List.mem_cons_of_mem field h) hc
        exact ⟨List.mem_cons_of_mem d hmem, hne⟩

theorem splitOn_of_notMem {sep : Char} {t : Text} (h : sep ∉ t) : splitOn sep t = [t] := by
  induction t with
  | nil => rfl
  | cons c t ih =>
    obtain ⟨hc, ht⟩ := List.ne_and_not_mem_of_not_mem_cons h
    rw [splitOn, if_neg (Ne.symm hc), ih ht]

/-- The fields in front of a separator and those behind it. -/
theorem splitOn_append (sep : Char) (s t : Text) :
    splitOn sep (s ++ sep :: t) = splitOn sep s ++ splitOn sep t := by
  induction s with
  | nil => simp [splitOn]
  | cons c s ih =>
    rw [List.cons_append, splitOn, splitOn, ih]
    split
    · rfl
    · obtain ⟨field, fields, hs⟩ := List.exists_cons_of_ne_nil (splitOn_ne_nil sep s)
      rw [hs]
      rfl

theorem splitOn_append_sep {sep : Char} {part : Text} (h : sep ∉ part) (t : Text) :
    splitOn sep (part ++ sep :: t) = part :: splitOn sep t := by
  rw [splitOn_append, splitOn_of_notMem h, List.singleton_append]

/-- Cutting into fields undoes joining, if no field holds the separator. -/
theorem splitOn_joinWith {sep : Char} {parts : List Text} (hne : parts ≠ [])
    (h : ∀ part ∈ parts, sep ∉ part) : splitOn sep (joinWith [sep] parts) = parts := by
  induction parts with
  | nil => exact absurd rfl hne
  | cons part parts ih =>
    have hpart : sep ∉ part := h part List.mem_cons_self
    cases parts with
    | nil => exact splitOn_of_notMem hpart
    | cons next parts =>
      have hrest := ih (by simp) fun p hp => h p (List.mem_cons_of_mem part hp)
      rw [joinWith, List.append_assoc, List.singleton_append, splitOn_append_sep hpart, hrest]
      simp

theorem mem_of_mem_joinWith {sep : Text} {c : Char} {parts : List Text}
    (h : c ∈ joinWith sep parts) : c ∈ sep ∨ ∃ part ∈ parts, c ∈ part := by
  fun_induction joinWith sep parts with
  | case1 => cases h
  | case2 part => exact .inr ⟨part, List.mem_cons_self, h⟩
  | case3 part parts hparts ih =>
    rcases List.mem_append.mp h with h | h
    · rcases List.mem_append.mp h with h | h
      · exact .inr ⟨part, List.mem_cons_self, h⟩
      · exact .inl h
    · rcases ih h with h | ⟨p, hp, hc⟩
      · exact .inl h
      · exact .inr ⟨p, List.mem_cons_of_mem part hp, hc⟩

end MapperGen.Text
