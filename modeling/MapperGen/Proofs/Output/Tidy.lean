import MapperGen.Output.Layout
import MapperGen.Proofs.Text.Reflow

/-!
# Tidy texts

What tidying does to a text: it keeps the lines that hold more than blanks, and one empty line
between two of them where there was any. So the tidied text flows as the text does, behind empty
lines at its start, and tidying it again changes nothing. What becomes of the lines in front of a
place does not depend on what stands behind it.
-/

namespace MapperGen

open Text

/-! ### Lines to write -/

theorem settle_append_empty (started waiting : Bool) (ls : List Text) :
    settle started waiting (ls ++ [[]]) = settle started waiting ls := by
  induction ls generalizing started waiting with
  | nil => rfl
  | cons line rest ih => simp only [List.cons_append, settle, ih]

theorem tidy_eq (t : Text) : tidy t = settle false false (lineEnds t) := by
  rcases lineEnds_lines t with ht | ht
  · rw [tidy, ht]
  · rw [tidy, ht, settle_append_empty]

theorem settle_empty (started waiting : Bool) (ls : List Text) :
    settle started waiting ([] :: ls) = settle started started ls := rfl

theorem settle_cons {line : Text} (hline : line ≠ []) (started waiting : Bool) (ls : List Text) :
    settle started waiting (line :: ls) =
      (if waiting then ['\n'] else []) ++ line ++ '\n' :: settle true false ls := by
  rw [settle, if_neg (by simpa using hline)]

theorem settle_waiting (ls : List Text) : settle true true ls = settle true false ls ∨
    settle true true ls = '\n' :: settle true false ls := by
  cases ls with
  | nil => exact .inl rfl
  | cons line rest =>
    by_cases hline : line = []
    · subst hline
      exact .inl rfl
    · rw [settle_cons hline, settle_cons hline]
      exact .inr (by simp)

/-! ### The tidied text -/

/-- The tidied form of the rest of a text whose first line is not the first one written. -/
def flow (t : Text) : Text :=
  match lineEnds t with
  | [] => ['\n']
  | line :: rest => line ++ '\n' :: settle true false rest

theorem flow_eq {t line : Text} {rest : List Text} (ht : lineEnds t = line :: rest) :
    flow t = line ++ '\n' :: settle true false rest := by
  rw [flow, ht]

/-- One more character in front stays, or it is a blank before a line feed. -/
theorem flow_cons (c : Char) (t : Text) : flow (c :: t) = c :: flow t ∨
    isBlank c ∧ flow (c :: t) = flow t ∧ ∃ rest, flow t = '\n' :: rest := by
  obtain ⟨line, rest, ht⟩ := exists_lineEnds t
  by_cases hc : c = '\n'
  · subst hc
    have hflow : flow ('\n' :: t) = '\n' :: settle true false (line :: rest) := by
      rw [flow_eq (lineEnds_newline t), ht]
      rfl
    rw [hflow, flow_eq ht]
    by_cases hline : line = []
    · subst hline
      rw [settle_empty]
      rcases settle_waiting rest with hwait | hwait
      · exact .inr ⟨isBlank_newline, by rw [hwait]; rfl, _, rfl⟩
      · exact .inl (by rw [hwait]; rfl)
    · exact .inl (by rw [settle_cons hline]; simp)
  · rw [flow_eq (lineEnds_cons hc ht), flow_eq ht]
    split
    · next hblank =>
      obtain ⟨hblank, rfl⟩ := hblank
      exact .inr ⟨hblank, rfl, _, rfl⟩
    · exact .inl rfl

theorem reflow_flow (t : Text) : Reflow t (flow t) := by
  induction t with
  | nil => exact .last (by simp)
  | cons c t ih =>
    rcases flow_cons c t with h | ⟨hc, h, rest, hrest⟩
    · rw [h]
      exact .keep c ih
    · rw [hrest] at ih
      rw [h, hrest]
      exact .skip hc ih

/-- Blanks in front go until a line with text starts. -/
theorem tidy_cons (c : Char) (t : Text) : tidy (c :: t) = flow (c :: t) ∨
    isBlank c ∧ tidy (c :: t) = tidy t := by
  rw [tidy_eq, tidy_eq]
  obtain ⟨line, rest, ht⟩ := exists_lineEnds t
  by_cases hc : c = '\n'
  · subst hc
    exact .inr ⟨isBlank_newline, rfl⟩
  · rw [flow_eq (lineEnds_cons hc ht), lineEnds_cons hc ht, ht]
    split
    · next hblank =>
      obtain ⟨hblank, rfl⟩ := hblank
      exact .inr ⟨hblank, rfl⟩
    · exact .inl (by rw [settle_cons (by simp)]; simp)

/-- Tidying takes blanks away at the start and before line feeds, and ends the last line. -/
theorem reflow_tidy (t : Text) : ∃ front rest, t = front ++ rest ∧ (∀ c ∈ front, isBlank c) ∧
    Reflow rest (tidy t) := by
  induction t with
  | nil => exact ⟨[], [], rfl, by simp, .nil⟩
  | cons c t ih =>
    rcases tidy_cons c t with h | ⟨hc, h⟩
    · exact ⟨[], c :: t, rfl, by simp, h ▸ reflow_flow (c :: t)⟩
    · obtain ⟨front, rest, rfl, hfront, hrest⟩ := ih
      exact ⟨c :: front, rest, rfl, by simpa [hc] using hfront, h ▸ hrest⟩

/-! ### Tidying twice -/

/-- The lines that are written, the empty ones among them. -/
def keptLines (started waiting : Bool) : List Text → List Text
  | [] => []
  | line :: rest =>
    if line.isEmpty then keptLines started started rest
    else (if waiting then [[]] else []) ++ line :: keptLines true false rest

/-- Ends every line with a line feed. -/
def endLines (ls : List Text) : Text := ls.flatMap (· ++ ['\n'])

theorem settle_eq (started waiting : Bool) (ls : List Text) :
    settle started waiting ls = endLines (keptLines started waiting ls) := by
  induction ls generalizing started waiting with
  | nil => rfl
  | cons line rest ih =>
    rw [settle, keptLines]
    split
    · exact ih started started
    · rw [ih]
      cases waiting <;> simp [endLines]

theorem keptLines_empty (started waiting : Bool) (ls : List Text) :
    keptLines started waiting ([] :: ls) = keptLines started started ls := rfl

theorem keptLines_cons {line : Text} (hline : line ≠ []) (started waiting : Bool)
    (ls : List Text) : keptLines started waiting (line :: ls) =
      (if waiting then [[]] else []) ++ line :: keptLines true false ls := by
  rw [keptLines, if_neg (by simpa using hline)]

theorem of_mem_keptLines {started waiting : Bool} {ls : List Text} {line : Text}
    (h : line ∈ keptLines started waiting ls) : line = [] ∨ line ∈ ls := by
  induction ls generalizing started waiting with
  | nil => cases h
  | cons first rest ih =>
    rw [keptLines] at h
    split at h
    · exact (ih h).imp_right (List.mem_cons_of_mem first)
    · rw [List.mem_append, List.mem_cons] at h
      rcases h with h | rfl | h
      · left
        cases waiting <;> simp_all
      · simp
      · exact (ih h).imp_right (List.mem_cons_of_mem first)

/-- Lines written behind others are written as they are the second time. -/
theorem keptLines_keptLines (waiting : Bool) (ls : List Text) :
    keptLines true false (keptLines true waiting ls) = keptLines true waiting ls := by
  induction ls generalizing waiting with
  | nil => rfl
  | cons line rest ih =>
    by_cases hline : line = []
    · subst hline
      exact ih true
    · cases waiting with
      | false => simp [keptLines_cons hline, ih]
      | true => simp [keptLines_cons hline, keptLines_empty, ih]

theorem keptLines_start (ls : List Text) :
    keptLines false false (keptLines false false ls) = keptLines false false ls := by
  induction ls with
  | nil => rfl
  | cons line rest ih =>
    by_cases hline : line = []
    · subst hline
      exact ih
    · rw [keptLines_cons hline, if_neg Bool.false_ne_true, List.nil_append, keptLines_cons hline,
        if_neg Bool.false_ne_true, List.nil_append, keptLines_keptLines]

theorem lineEnds_append_newline {line : Text} (hline : '\n' ∉ line) (t : Text) :
    lineEnds (line ++ '\n' :: t) = trimEnd line :: lineEnds t := by
  rw [lineEnds, splitOn_append_sep hline]
  rfl

theorem splitOn_endLines {ls : List Text} (h : ∀ line ∈ ls, '\n' ∉ line) :
    splitOn '\n' (endLines ls) = ls ++ [[]] := by
  induction ls with
  | nil => rfl
  | cons line rest ih =>
    rw [List.forall_mem_cons] at h
    have hcons : endLines (line :: rest) = line ++ '\n' :: endLines rest := by simp [endLines]
    rw [hcons, splitOn_append_sep h.1, ih h.2, List.cons_append]

theorem lineEnds_endLines {ls : List Text} (h : ∀ line ∈ ls, '\n' ∉ line ∧ trimEnd line = line) :
    lineEnds (endLines ls) = ls ++ [[]] := by
  have htrim : ls.map trimEnd = ls.map id := List.map_congr_left fun line hline => (h line hline).2
  rw [lineEnds, splitOn_endLines fun line hline => (h line hline).1, List.map_append, htrim,
    List.map_id]
  rfl

theorem tidy_tidy (t : Text) : tidy (tidy t) = tidy t := by
  have hlines : ∀ line ∈ keptLines false false (lineEnds t), '\n' ∉ line ∧ trimEnd line = line := by
    intro line hline
    rcases of_mem_keptLines hline with rfl | hmem
    · exact ⟨by simp, rfl⟩
    · exact ⟨newline_not_mem_lineEnds hmem, trimEnd_of_mem_lineEnds hmem⟩
  rw [tidy_eq, tidy_eq t, settle_eq false false (lineEnds t), lineEnds_endLines hlines,
    settle_append_empty, settle_eq, keptLines_start]

/-- Tidying keeps what a text starts with, up to a character that is no blank. -/
theorem start_tidy {front : Text} (hne : front ≠ []) (hline : '\n' ∉ front)
    (hend : trimEnd front = front) (t : Text) : front <+: tidy (front ++ t) := by
  obtain ⟨first, later, ht⟩ := exists_lineEnds t
  rw [tidy_eq, lineEnds_append hline hend ht, settle_cons (by simp [hne]), if_neg (by decide),
    List.nil_append, List.append_assoc]
  exact List.prefix_append _ _

/-! ### Cutting a tidied text -/

section Cut

variable {c : Char} {front : Text}

theorem lineEnds_ink (hc : isBlank c = false) (t : Text) :
    ∃ line rest, lineEnds (c :: t) = (c :: line) :: rest := by
  obtain ⟨line, rest, ht⟩ := exists_lineEnds t
  have hnewline : c ≠ '\n' := by
    rintro rfl
    cases hc
  exact ⟨line, rest, by rw [lineEnds_cons hnewline ht, if_neg (by simp [hc])]⟩

theorem lineEnds_append_ink (hfront : '\n' ∉ front) {t line : Text} {rest : List Text}
    (hline : line ≠ []) (ht : lineEnds t = line :: rest) :
    lineEnds (front ++ t) = (front ++ line) :: rest := by
  induction front with
  | nil => exact ht
  | cons d front ih =>
    rw [List.mem_cons, not_or] at hfront
    have hkeep : ¬(isBlank d ∧ front ++ line = []) := fun hgone =>
      hline (List.append_eq_nil_iff.mp hgone.2).2
    rw [List.cons_append, lineEnds_cons (Ne.symm hfront.1) (ih hfront.2), if_neg hkeep]
    rfl

theorem flow_newline (t : Text) : flow ('\n' :: t) = '\n' :: settle true false (lineEnds t) := rfl

theorem flow_ink (hc : isBlank c = false) (t : Text) : flow (c :: t) = c :: flow t :=
  (flow_cons c t).resolve_right fun h => by simp [hc] at h

/-- A line that holds more than blanks is written, with the blanks at its start. -/
theorem settle_ink (hfront : '\n' ∉ front) (hc : isBlank c = false) (started waiting : Bool)
    (t : Text) : settle started waiting (lineEnds (front ++ c :: t)) =
      (if waiting then ['\n'] else []) ++ front ++ flow (c :: t) := by
  obtain ⟨line, rest, ht⟩ := lineEnds_ink hc t
  rw [lineEnds_append_ink hfront (List.cons_ne_nil c line) ht, settle_cons (by simp), flow_eq ht]
  simp only [List.append_assoc]

/-- What tidying makes of a text in front of a character that is no blank does not depend on what
stands behind that character. Blanks on the same line stay. -/
theorem tidy_cut (hfront : '\n' ∉ front) (hc : isBlank c = false) (u : Text) :
    ∃ v, ∀ t, tidy (u ++ (front ++ c :: t)) = v ++ (front ++ flow (c :: t)) := by
  -- the line that `u` starts in may have started before, with `first`
  have hsettle (started waiting : Bool) (first : Text) (hfirst : '\n' ∉ first) : ∃ v, ∀ t,
      settle started waiting (lineEnds (first ++ (u ++ (front ++ c :: t)))) =
        v ++ (front ++ flow (c :: t)) := by
    induction u generalizing started waiting first with
    | nil =>
      refine ⟨(if waiting then ['\n'] else []) ++ first, fun t => ?_⟩
      rw [List.nil_append, ← List.append_assoc, settle_ink (by simp [hfirst, hfront]) hc]
      simp only [List.append_assoc]
    | cons d u ih =>
      by_cases hd : d = '\n'
      · subst hd
        simp only [List.cons_append, lineEnds_append_newline hfirst]
        by_cases hline : trimEnd first = []
        · rw [hline]
          exact ih started started [] List.not_mem_nil
        · obtain ⟨v, hv⟩ := ih true false [] List.not_mem_nil
          refine ⟨(if waiting then ['\n'] else []) ++ trimEnd first ++ '\n' :: v, fun t => ?_⟩
          rw [settle_cons hline, ← List.nil_append (u ++ _), hv]
          simp only [List.append_assoc, List.cons_append]
      · have hnext := ih started waiting (first ++ [d]) (by simp [hfirst, Ne.symm hd])
        simpa only [List.append_assoc, List.cons_append, List.nil_append] using hnext
  obtain ⟨v, hv⟩ := hsettle false false [] List.not_mem_nil
  exact ⟨v, fun t => by rw [tidy_eq]; exact hv t⟩

/-- The text ends with a line that holds more than blanks and has none at its end. -/
def EndsLine (t : Text) : Prop := ∃ u c, t = u ++ [c, '\n'] ∧ isBlank c = false

theorem EndsLine.append (u : Text) {t : Text} (h : EndsLine t) : EndsLine (u ++ t) := by
  obtain ⟨u', c, rfl, hc⟩ := h
  exact ⟨u ++ u', c, (List.append_assoc ..).symm, hc⟩

theorem endsLine_of_getLast? {t : Text} (hlast : t.getLast? = some c) (hc : isBlank c = false) :
    EndsLine (t ++ ['\n']) := by
  obtain ⟨u, rfl⟩ := List.getLast?_eq_some_iff.mp hlast
  exact ⟨u, c, by simp, hc⟩

/-- What tidying makes of lines does not depend on what stands behind them. -/
theorem tidy_endsLine {t : Text} (h : EndsLine t) : ∃ w, w.getLast? = some '\n' ∧
    ∀ q, tidy (t ++ q) = w ++ settle true false (lineEnds q) := by
  obtain ⟨u, c, rfl, hc⟩ := h
  have hnone : '\n' ∉ ([] : Text) := List.not_mem_nil
  obtain ⟨v, hv⟩ := tidy_cut hnone hc u
  refine ⟨v ++ [c, '\n'], by simp, fun q => ?_⟩
  have hq := hv ('\n' :: q)
  rw [flow_ink hc, flow_newline] at hq
  simpa using hq

end Cut

/-! ### Lines with ink -/

/-- A line that holds more than blanks and has none at its end. -/
structure InkLine (t : Text) : Prop where
  oneLine : '\n' ∉ t
  ends : ∃ c, t.getLast? = some c ∧ isBlank c = false

instance : DecidablePred InkLine := fun t =>
  decidable_of_iff ('\n' ∉ t ∧ t.getLast?.any (!isBlank ·)) <| by
    simp only [Option.any_eq_true, Bool.not_eq_true']
    exact ⟨fun h => ⟨h.1, h.2⟩, fun h => ⟨h.oneLine, h.ends⟩⟩

theorem InkLine.behind {front back : Text} (hfront : '\n' ∉ front) (h : InkLine back) :
    InkLine (front ++ back) := by
  obtain ⟨hback, c, hlast, hc⟩ := h
  refine ⟨by simp [hfront, hback], c, ?_, hc⟩
  rw [List.getLast?_append, hlast, Option.some_or]

/-- Such a line is written as it is. -/
theorem InkLine.settle {line : Text} (h : InkLine line) (started waiting : Bool) (q : Text) :
    settle started waiting (lineEnds (line ++ '\n' :: q)) =
      (if waiting then ['\n'] else []) ++ line ++ '\n' :: settle true false (lineEnds q) := by
  obtain ⟨hline, c, hlast, hc⟩ := h
  obtain ⟨u, rfl⟩ := List.getLast?_eq_some_iff.mp hlast
  have hone : trimEnd [c] = [c] := by simp [trimEnd, hc]
  have htrim : trimEnd (u ++ [c]) = u ++ [c] :=
    trimEnd_append_of_trimEnd u (List.cons_ne_nil c []) hone
  rw [lineEnds_append_newline hline, htrim, settle_cons (by simp)]

end MapperGen
