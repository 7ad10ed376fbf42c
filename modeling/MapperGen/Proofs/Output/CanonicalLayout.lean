import Mathlib.Data.List.Chain
import Mathlib.Data.List.Forall2
import MapperGen.Proofs.Output.Tidy

/-!
# The canonical layout

What tidying makes of a text, without the states of its loop. The lines of the text are empty ones
at the start, and then lines that are not empty, each with some empty ones behind it. The tidied
text has all lines that are not empty, and one empty line where there were any between two of them.
-/

namespace MapperGen

open Text

/-! ### Lines with the empty ones behind them -/

/-- A line, and how many empty ones follow it. -/
structure SpacedLine where
  line : Text
  gap : Nat

/-- The line and the empty ones. -/
def SpacedLine.lines (s : SpacedLine) : List Text := s.line :: List.replicate s.gap []

/-- The lines, with one empty line between two of them if any follow the first of the two. -/
def canonicalLines : List SpacedLine → List Text
  | [] => []
  | [s] => [s.line]
  | s :: next :: rest =>
    s.line :: ((if s.gap = 0 then [] else [[]]) ++ canonicalLines (next :: rest))

theorem exists_spacedLines (ls : List Text) : ∃ (lead : Nat) (spaced : List SpacedLine),
    ls = List.replicate lead [] ++ spaced.flatMap SpacedLine.lines ∧ ∀ s ∈ spaced, s.line ≠ [] := by
  induction ls with
  | nil => exact ⟨0, [], rfl, by simp⟩
  | cons line rest ih =>
    obtain ⟨lead, spaced, rfl, hspaced⟩ := ih
    by_cases hline : line = []
    · subst hline
      exact ⟨lead + 1, spaced, rfl, hspaced⟩
    · exact ⟨0, ⟨line, lead⟩ :: spaced, rfl, List.forall_mem_cons.mpr ⟨hline, hspaced⟩⟩

/-! ### What is kept of them -/

theorem keptLines_replicate (started waiting : Bool) (n : Nat) (ls : List Text) :
    keptLines started waiting (List.replicate n [] ++ ls) =
      keptLines started (if n = 0 then waiting else started) ls := by
  induction n generalizing waiting with
  | zero => rfl
  | succ n ih =>
    rw [List.replicate_succ, List.cons_append, keptLines_empty, ih]
    simp

/-- Lines that are not empty are kept, each gap between them shrinks to one line, and the one behind
the last line goes. -/
theorem keptLines_spaced (started waiting : Bool) (s : SpacedLine) (rest : List SpacedLine)
    (h : ∀ s' ∈ s :: rest, s'.line ≠ []) :
    keptLines started waiting ((s :: rest).flatMap SpacedLine.lines) =
      (if waiting then [[]] else []) ++ canonicalLines (s :: rest) := by
  -- whether an empty line waits for the next line depends on the gap in front of that
  induction rest generalizing started waiting s with
  | nil =>
    have hline : s.line ≠ [] := h s List.mem_cons_self
    have hgap := keptLines_replicate true false s.gap []
    rw [List.append_nil] at hgap
    rw [List.flatMap_singleton, SpacedLine.lines, keptLines_cons hline, hgap]
    rfl
  | cons next rest ih =>
    have hline : s.line ≠ [] := h s List.mem_cons_self
    have hrest := ih true (if s.gap = 0 then false else true) next
      fun s' hs' => h s' (List.mem_cons_of_mem s hs')
    rw [List.flatMap_cons, SpacedLine.lines, List.cons_append, keptLines_cons hline,
      keptLines_replicate, hrest, canonicalLines]
    by_cases hgap : s.gap = 0
    · simp [hgap]
    · simp [hgap]

theorem tidy_spaced {t : Text} {lead : Nat} {spaced : List SpacedLine}
    (ht : lineEnds t = List.replicate lead [] ++ spaced.flatMap SpacedLine.lines)
    (h : ∀ s ∈ spaced, s.line ≠ []) : tidy t = endLines (canonicalLines spaced) := by
  rw [tidy_eq, settle_eq, ht, keptLines_replicate, ite_self]
  cases spaced with
  | nil => rfl
  | cons s rest =>
    rw [keptLines_spaced false false s rest h]
    rfl

/-! ### Canonical lines -/

section Canonical

variable {spaced : List SpacedLine}

theorem filter_spaced (h : ∀ s ∈ spaced, s.line ≠ []) :
    (spaced.flatMap SpacedLine.lines).filter (!·.isEmpty) = spaced.map SpacedLine.line := by
  induction spaced with
  | nil => rfl
  | cons s rest ih =>
    rw [List.forall_mem_cons] at h
    rw [List.flatMap_cons, List.filter_append, ih h.2]
    simp [SpacedLine.lines, h.1]

theorem filter_canonicalLines (h : ∀ s ∈ spaced, s.line ≠ []) :
    (canonicalLines spaced).filter (!·.isEmpty) = spaced.map SpacedLine.line := by
  fun_induction canonicalLines spaced with
  | case1 => rfl
  | case2 s => simpa using h
  | case3 s next rest ih =>
    rw [List.forall_mem_cons] at h
    rw [List.filter_cons_of_pos (by simpa using h.1), List.filter_append, ih h.2]
    by_cases hgap : s.gap = 0
    · simp [hgap]
    · simp [hgap]

theorem head?_canonicalLines (spaced : List SpacedLine) :
    (canonicalLines spaced).head? = (spaced.map SpacedLine.line).head? := by
  fun_cases canonicalLines spaced with
  | case1 => rfl
  | case2 s => rfl
  | case3 s next rest => rfl

theorem getLast?_canonicalLines (spaced : List SpacedLine) :
    (canonicalLines spaced).getLast? = (spaced.map SpacedLine.line).getLast? := by
  fun_induction canonicalLines spaced with
  | case1 => rfl
  | case2 s => rfl
  | case3 s next rest ih =>
    rw [← List.cons_append, List.getLast?_append, ih]
    simp only [List.map_cons, List.getLast?_cons, Option.some_or]
    rfl

theorem isChain_canonicalLines (h : ∀ s ∈ spaced, s.line ≠ []) :
    (canonicalLines spaced).IsChain fun line next => line ≠ [] ∨ next ≠ [] := by
  fun_induction canonicalLines spaced with
  | case1 => exact .nil
  | case2 s => exact .singleton _
  | case3 s next rest ih =>
    rw [List.forall_mem_cons] at h
    have hrest := ih h.2
    have hnext : ∀ line ∈ (canonicalLines (next :: rest)).head?, line ≠ [] := by
      simpa [head?_canonicalLines] using h.2 next List.mem_cons_self
    by_cases hgap : s.gap = 0
    · rw [if_pos hgap, List.nil_append, List.isChain_cons]
      exact ⟨fun line _ => .inl h.1, hrest⟩
    · rw [if_neg hgap, List.singleton_append, List.isChain_cons_cons, List.isChain_cons]
      exact ⟨.inl h.1, fun line hline => .inr (hnext line hline), hrest⟩

end Canonical

/-! ### Indentation -/

theorem takeWhile_trimEnd {line : Text} (h : isAllBlank line = false) :
    (trimEnd line).takeWhile isBlank = line.takeWhile isBlank := by
  induction line with
  | nil => cases h
  | cons c line ih =>
    rw [trimEnd_cons]
    by_cases hc : isBlank c = true
    · -- the blank stays, as something behind it does
      have hline : isAllBlank line = false := by simpa [isAllBlank, hc] using h
      have hkept : trimEnd line ≠ [] := by
        rw [Ne, trimEnd_eq_nil_iff, hline]
        exact Bool.false_ne_true
      rw [if_neg fun hgone => hkept hgone.2, List.takeWhile_cons_of_pos hc,
        List.takeWhile_cons_of_pos hc, ih hline]
    · rw [if_neg fun hgone => hc hgone.1, List.takeWhile_cons_of_neg hc,
        List.takeWhile_cons_of_neg hc]

theorem inkLines_eq_map (t : Text) :
    inkLines t = ((splitOn '\n' t).filter (!isAllBlank ·)).map trimEnd := by
  rw [inkLines, lineEnds, List.filter_map]
  congr 1
  refine List.filter_congr fun line _ => ?_
  rw [Function.comp, Bool.not_inj_iff, Bool.eq_iff_iff, List.isEmpty_iff, trimEnd_eq_nil_iff]

/-! ### The tidied text -/

/-- The canonical layout of a text consists of its lines, the blanks at their ends gone, that are
not empty, and of one empty line between two of them if the text has any there. So it neither starts
nor ends with an empty line, and never has two in a row. Blanks at the start of a line stay. -/
structure IsCanonicalLayout (t : Text) (kept : List Text) : Prop where
  spaced : ∃ (lead : Nat) (spaced : List SpacedLine),
    lineEnds t = List.replicate lead [] ++ spaced.flatMap SpacedLine.lines ∧
      (∀ s ∈ spaced, s.line ≠ []) ∧ kept = canonicalLines spaced
  filled : kept.filter (!·.isEmpty) = (lineEnds t).filter (!·.isEmpty)
  indented : List.Forall₂
    (fun whole line => line = trimEnd whole ∧ line.takeWhile isBlank = whole.takeWhile isBlank)
    ((splitOn '\n' t).filter (!isAllBlank ·)) (kept.filter (!·.isEmpty))
  trimmed : ∀ line ∈ kept, trimEnd line = line
  first : ∀ line ∈ kept.head?, line ≠ []
  last : ∀ line ∈ kept.getLast?, line ≠ []
  single : kept.IsChain fun line next => line ≠ [] ∨ next ≠ []

theorem isCanonicalLayout_canonicalLines {t : Text} {lead : Nat} {spaced : List SpacedLine}
    (ht : lineEnds t = List.replicate lead [] ++ spaced.flatMap SpacedLine.lines)
    (h : ∀ s ∈ spaced, s.line ≠ []) : IsCanonicalLayout t (canonicalLines spaced) := by
  have hlead : (List.replicate lead ([] : Text)).filter (!·.isEmpty) = [] := by simp
  have hfilled : (canonicalLines spaced).filter (!·.isEmpty) = inkLines t := by
    rw [inkLines, ht, List.filter_append, hlead, List.nil_append, filter_spaced h,
      filter_canonicalLines h]
  constructor
  case spaced => exact ⟨lead, spaced, ht, h, rfl⟩
  case filled => exact hfilled
  case indented =>
    rw [hfilled, inkLines_eq_map, List.forall₂_map_right_iff, List.forall₂_same]
    intro whole hwhole
    have hfull : isAllBlank whole = false := by simpa using (List.mem_filter.mp hwhole).2
    exact ⟨rfl, takeWhile_trimEnd hfull⟩
  case trimmed =>
    intro line hline
    by_cases hempty : line = []
    · rw [hempty, trimEnd_nil]
    · have hink : line ∈ inkLines t := hfilled ▸ List.mem_filter.mpr ⟨hline, by simpa using hempty⟩
      exact trimEnd_of_mem_lineEnds (List.mem_of_mem_filter hink)
  case first =>
    intro line hline
    rw [head?_canonicalLines] at hline
    obtain ⟨s, hs, rfl⟩ := List.mem_map.mp (List.mem_of_mem_head? hline)
    exact h s hs
  case last =>
    intro line hline
    rw [getLast?_canonicalLines] at hline
    obtain ⟨s, hs, rfl⟩ := List.mem_map.mp (List.mem_of_getLast? hline)
    exact h s hs
  case single => exact isChain_canonicalLines h

theorem IsCanonicalLayout.newline_not_mem {t : Text} {kept : List Text}
    (h : IsCanonicalLayout t kept) : ∀ line ∈ kept, '\n' ∉ line := by
  intro line hline
  by_cases hempty : line = []
  · rw [hempty]
    exact List.not_mem_nil
  · have hink : line ∈ kept.filter (!·.isEmpty) :=
      List.mem_filter.mpr ⟨hline, by simpa using hempty⟩
    rw [h.filled] at hink
    exact newline_not_mem_lineEnds (List.mem_of_mem_filter hink)

theorem IsCanonicalLayout.eq_nil_iff {t : Text} {kept : List Text} (h : IsCanonicalLayout t kept) :
    kept = [] ↔ ∀ line ∈ lineEnds t, line = [] := by
  have hnone : kept.filter (!·.isEmpty) = [] ↔ ∀ line ∈ lineEnds t, line = [] := by
    rw [h.filled]
    simp
  rw [← hnone]
  constructor
  · rintro rfl
    rfl
  · intro hfilter
    cases kept with
    | nil => rfl
    | cons line rest =>
      have hline : line ≠ [] := h.first line rfl
      rw [List.filter_cons_of_pos (by simpa using hline)] at hfilter
      cases hfilter

theorem endsLine_endLines {kept : List Text} {line : Text} (hlast : kept.getLast? = some line)
    (hline : line ≠ []) (htrim : trimEnd line = line) : EndsLine (endLines kept) := by
  obtain ⟨front, rfl⟩ := List.getLast?_eq_some_iff.mp hlast
  have hend : endLines (front ++ [line]) = endLines front ++ (line ++ ['\n']) := by simp [endLines]
  have hc : isBlank (line.getLast hline) = false := by
    simpa using List.rdropWhile_eq_self_iff.mp htrim hline
  rw [hend]
  exact (endsLine_of_getLast? (List.getLast?_eq_some_getLast hline) hc).append _

/-- Tidying gives a text its canonical layout. It leaves nothing exactly if all lines are empty, and
else a text whose last line holds more than blanks and ends with the only line feed behind it. -/
theorem tidy_canonical (t : Text) :
    (tidy t = [] ↔ ∀ line ∈ lineEnds t, line = []) ∧ (tidy t ≠ [] → EndsLine (tidy t)) ∧
      ∃ kept, tidy t = endLines kept ∧ splitOn '\n' (tidy t) = kept ++ [[]] ∧
        IsCanonicalLayout t kept := by
  obtain ⟨lead, spaced, ht, hspaced⟩ := exists_spacedLines (lineEnds t)
  have hlayout := isCanonicalLayout_canonicalLines ht hspaced
  have htidy := tidy_spaced ht hspaced
  generalize canonicalLines spaced = kept at hlayout htidy
  rw [htidy]
  refine ⟨?_, ?_, kept, rfl, splitOn_endLines hlayout.newline_not_mem, hlayout⟩
  · rw [← hlayout.eq_nil_iff]
    cases kept <;> simp [endLines]
  · intro hne
    cases hlast : kept.getLast? with
    | none =>
      rw [List.getLast?_eq_none_iff.mp hlast] at hne
      exact absurd rfl hne
    | some line =>
      have hmem : line ∈ kept := List.mem_of_getLast? hlast
      exact endsLine_endLines hlast (hlayout.last line hlast) (hlayout.trimmed line hmem)

-- a line of blanks ends with a carriage return, as the line in front of it does
example : tidy "\n a\r\n \r\n\n b c ".toList = " a\n\n b c\n".toList := by decide

end MapperGen
