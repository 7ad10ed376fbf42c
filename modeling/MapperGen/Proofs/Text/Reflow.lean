import MapperGen.Proofs.Text.Fields
import MapperGen.Proofs.Text.Trim

/-!
# Respaced texts

Two texts that differ in the blanks before line feeds only: those at the ends of lines and those
that make empty lines. `Respaced` is the relation for a part of a text, `Reflow` that for the rest
of one, where the line feed at the very end may be missing. Both go on behind a common front, and
behind the blanks before a line feed. All other characters stay, and so tell a place in both texts.
-/

namespace MapperGen.Text

/-! ### Line ends -/

/-- The lines of a text, cut at its line feeds, without the blanks at their ends. -/
def lineEnds (t : Text) : List Text := (splitOn '\n' t).map trimEnd

/-- The lines that hold more than blanks. -/
def inkLines (t : Text) : List Text := (lineEnds t).filter (!·.isEmpty)

theorem isBlank_newline : isBlank '\n' = true := by decide

theorem lineEnds_newline (t : Text) : lineEnds ('\n' :: t) = [] :: lineEnds t := rfl

theorem exists_lineEnds (t : Text) : ∃ line rest, lineEnds t = line :: rest :=
  List.exists_cons_of_ne_nil fun h => splitOn_ne_nil '\n' t (List.map_eq_nil_iff.mp h)

theorem lineEnds_cons {c : Char} {t line : Text} {rest : List Text} (hc : c ≠ '\n')
    (ht : lineEnds t = line :: rest) :
    lineEnds (c :: t) = (if isBlank c ∧ line = [] then [] else c :: line) :: rest := by
  obtain ⟨first, later, hsplit⟩ := List.exists_cons_of_ne_nil (splitOn_ne_nil '\n' t)
  rw [lineEnds, hsplit, List.map_cons] at ht
  obtain ⟨rfl, rfl⟩ := List.cons.inj ht
  rw [lineEnds, splitOn, if_neg hc, hsplit, ← trimEnd_cons]
  rfl

theorem lineEnds_append {front t line : Text} {rest : List Text} (hline : '\n' ∉ front)
    (hend : trimEnd front = front) (ht : lineEnds t = line :: rest) :
    lineEnds (front ++ t) = (front ++ line) :: rest := by
  induction front with
  | nil => exact ht
  | cons c front ih =>
    rw [List.mem_cons, not_or] at hline
    rw [trimEnd_cons] at hend
    split at hend
    · cases hend
    · next hc =>
      have hfront : trimEnd front = front := (List.cons.inj hend).2
      rw [hfront] at hc
      have hkeep : ¬(isBlank c ∧ front ++ line = []) := fun hgone =>
        hc ⟨hgone.1, (List.append_eq_nil_iff.mp hgone.2).1⟩
      rw [List.cons_append, lineEnds_cons (Ne.symm hline.1) (ih hline.2 hfront), if_neg hkeep]
      rfl

theorem lineEnds_lines (t : Text) : lineEnds t = (lines t).map trimEnd ∨
    lineEnds t = (lines t).map trimEnd ++ [[]] := by
  fun_induction lines t with
  | case1 => exact .inr rfl
  | case2 t ih => simpa [lineEnds_newline, trimEnd_nil] using ih
  | case3 t ih =>
    obtain ⟨line, rest, ht⟩ := exists_lineEnds ('\n' :: t)
    obtain ⟨rfl, rfl⟩ := List.cons.inj ht
    rw [lineEnds_cons (by decide) (lineEnds_newline t)]
    simpa [trimEnd_nil, isBlank] using ih
  | case4 c t hline hreturn hlines ih =>
    have ht : lineEnds t = [[]] := by
      obtain ⟨line, rest, ht⟩ := exists_lineEnds t
      simpa [hlines, ht] using ih
    rw [lineEnds_cons (by simpa using hline) ht]
    simp [trimEnd_cons, trimEnd_nil]
  | case5 c t hline hreturn line rest hlines ih =>
    rw [hlines, List.map_cons, List.cons_append] at ih
    have hcons {tail : List Text} (ht : lineEnds t = trimEnd line :: tail) :
        lineEnds (c :: t) = trimEnd (c :: line) :: tail := by
      rw [lineEnds_cons (by simpa using hline) ht, trimEnd_cons]
    rcases ih with ht | ht
    · exact .inl (hcons ht)
    · exact .inr (hcons ht)

theorem trimEnd_of_mem_lineEnds {t line : Text} (h : line ∈ lineEnds t) : trimEnd line = line := by
  obtain ⟨field, -, rfl⟩ := List.mem_map.mp h
  exact trimEnd_trimEnd field

theorem newline_not_mem_lineEnds {t line : Text} (h : line ∈ lineEnds t) : '\n' ∉ line := by
  obtain ⟨field, hfield, rfl⟩ := List.mem_map.mp h
  intro hmem
  have hfront := trimEnd_prefix field
  have hline : '\n' ∈ field := hfront.subset hmem
  exact (mem_of_mem_splitOn hfield hline).2 rfl

/-! ### Parts of texts -/

/-- Equal but for blanks before line feeds: one may be left out where a line feed comes next. -/
inductive Respaced : Text → Text → Prop
  | nil : Respaced [] []
  | keep {s t : Text} (c : Char) (h : Respaced s t) : Respaced (c :: s) (c :: t)
  | skip {c : Char} {s t : Text} (hc : isBlank c) (h : Respaced s ('\n' :: t)) :
      Respaced (c :: s) ('\n' :: t)

namespace Respaced

variable {s s' t t' : Text}

theorem refl (t : Text) : Respaced t t := by
  induction t with
  | nil => exact .nil
  | cons c t ih => exact .keep c ih

theorem eq_nil (h : Respaced s []) : s = [] := by
  cases h
  rfl

theorem append (hs : Respaced s s') (ht : Respaced t t') : Respaced (s ++ t) (s' ++ t') := by
  induction hs with
  | nil => exact ht
  | keep c h ih => exact .keep c ih
  | skip hc h ih => exact .skip hc ih

theorem eq_or_mem (h : Respaced s t) : s = t ∨ '\n' ∈ s := by
  induction h with
  | nil => exact .inl rfl
  | keep c h ih =>
    rcases ih with rfl | hmem
    · exact .inl rfl
    · exact .inr (List.mem_cons_of_mem c hmem)
  | skip hc h ih =>
    right
    rcases ih with rfl | hmem
    · simp
    · exact List.mem_cons_of_mem _ hmem

/-- The first lines agree, and of the others those that hold more than blanks. -/
theorem lineEnds (h : Respaced s t) : ∃ line rest rest', lineEnds s = line :: rest ∧
    Text.lineEnds t = line :: rest' ∧
      rest.filter (!·.isEmpty) = rest'.filter (!·.isEmpty) := by
  induction h with
  | nil => exact ⟨[], [], [], rfl, rfl, rfl⟩
  | @keep s t c h ih =>
    obtain ⟨line, rest, rest', hs, ht, hrest⟩ := ih
    by_cases hc : c = '\n'
    · subst hc
      refine ⟨[], line :: rest, line :: rest', ?_, ?_, ?_⟩
      · rw [lineEnds_newline, hs]
      · rw [lineEnds_newline, ht]
      · rw [List.filter_cons, List.filter_cons, hrest]
    · exact ⟨_, rest, rest', lineEnds_cons hc hs, lineEnds_cons hc ht, hrest⟩
  | @skip c s t hc h ih =>
    obtain ⟨line, rest, rest', hs, ht, hrest⟩ := ih
    rw [lineEnds_newline] at ht
    obtain ⟨rfl, rfl⟩ := List.cons.inj ht
    by_cases hline : c = '\n'
    · subst hline
      exact ⟨[], [] :: rest, _, by rw [lineEnds_newline, hs], lineEnds_newline t, hrest⟩
    · exact ⟨[], rest, _, by rw [lineEnds_cons hline hs]; simp [hc], lineEnds_newline t, hrest⟩

theorem of_newline (h : Respaced ('\n' :: s) t) : ∃ t', t = '\n' :: t' := by
  cases h with
  | keep c h => exact ⟨_, rfl⟩
  | skip hc h => exact ⟨_, rfl⟩

theorem drop {n : Nat} (h : Respaced s t) (hs : ∀ c ∈ s.take n, isBlank c = false) :
    Respaced (s.drop n) (t.drop n) := by
  induction n generalizing s t with
  | zero => exact h
  | succ n ih =>
    cases h with
    | nil => exact .nil
    | keep c h => exact ih h fun d hd => hs d (List.mem_cons_of_mem c hd)
    | skip hc h => simp [hs _ List.mem_cons_self] at hc

/-- The same lines but for the empty ones. -/
theorem inkLines_eq (h : Respaced s t) : inkLines s = inkLines t := by
  obtain ⟨line, rest, rest', hs, ht, hrest⟩ := h.lineEnds
  rw [inkLines, inkLines, hs, ht, List.filter_cons, List.filter_cons, hrest]

end Respaced

/-! ### Rests of texts -/

/-- As `Respaced` to the end of the text, where the other one ends its last line. -/
inductive Reflow : Text → Text → Prop
  | nil : Reflow [] []
  | last {s : Text} (hs : ∀ c ∈ s, isBlank c) : Reflow s ['\n']
  | keep {s t : Text} (c : Char) (h : Reflow s t) : Reflow (c :: s) (c :: t)
  | skip {c : Char} {s t : Text} (hc : isBlank c) (h : Reflow s ('\n' :: t)) :
      Reflow (c :: s) ('\n' :: t)

/-- The text is empty or starts with a blank. -/
def AtBlank (t : Text) : Prop := ∀ c ∈ t.head?, isBlank c

theorem atBlank_nil : AtBlank [] := by simp [AtBlank]

theorem atBlank_cons {c : Char} {t : Text} : AtBlank (c :: t) ↔ isBlank c := by simp [AtBlank]

namespace Reflow

variable {s t : Text} {c : Char}

theorem of_cons (h : Reflow (c :: s) t) (hc : isBlank c = false) :
    ∃ t', t = c :: t' ∧ Reflow s t' := by
  cases h with
  | last hs => simp [hs c List.mem_cons_self] at hc
  | keep c h => exact ⟨_, rfl, h⟩
  | skip hblank h => simp [hblank] at hc

theorem to_cons (h : Reflow s (c :: t)) (hc : c ≠ '\n') : ∃ s', s = c :: s' ∧ Reflow s' t := by
  cases h with
  | last hs => exact absurd rfl hc
  | keep c h => exact ⟨_, rfl, h⟩
  | skip hblank h => exact absurd rfl hc

theorem of_newline (h : Reflow ('\n' :: s) t) : ∃ t', t = '\n' :: t' := by
  cases h with
  | last hs => exact ⟨[], rfl⟩
  | keep c h => exact ⟨_, rfl⟩
  | skip hblank h => exact ⟨_, rfl⟩

theorem prepend (v : Text) (h : Reflow s t) : Reflow (v ++ s) (v ++ t) := by
  induction v with
  | nil => exact h
  | cons c v ih => exact .keep c ih

theorem of_append {v : Text} (h : Reflow (v ++ s) t) (hv : ∀ c ∈ v, isBlank c = false) :
    ∃ t', t = v ++ t' ∧ Reflow s t' := by
  induction v generalizing t with
  | nil => exact ⟨t, rfl, h⟩
  | cons c v ih =>
    obtain ⟨t', rfl, h'⟩ := h.of_cons (hv c List.mem_cons_self)
    obtain ⟨t'', rfl, h''⟩ := ih h' fun d hd => hv d (List.mem_cons_of_mem c hd)
    exact ⟨t'', rfl, h''⟩

/-- Both texts start with the same word, up to a blank or the end. -/
theorem word (h : Reflow s t) : ∃ v p q, s = v ++ p ∧ t = v ++ q ∧
    (∀ c ∈ v, isBlank c = false) ∧ AtBlank p ∧ AtBlank q ∧ Reflow p q := by
  induction h with
  | nil => exact ⟨[], [], [], rfl, rfl, by simp, atBlank_nil, atBlank_nil, .nil⟩
  | @last s hs =>
    refine ⟨[], s, ['\n'], rfl, rfl, by simp, fun c hc => ?_, by simp [atBlank_cons, isBlank_newline],
      .last hs⟩
    exact hs c (List.mem_of_mem_head? hc)
  | @keep s t c h ih =>
    by_cases hc : isBlank c
    · exact ⟨[], _, _, rfl, rfl, by simp, atBlank_cons.mpr hc, atBlank_cons.mpr hc, .keep c h⟩
    · obtain ⟨v, p, q, rfl, rfl, hv, hp, hq, hpq⟩ := ih
      exact ⟨c :: v, p, q, rfl, rfl, by simpa [hc] using hv, hp, hq, hpq⟩
  | skip hc h ih =>
    exact ⟨[], _, _, rfl, rfl, by simp, atBlank_cons.mpr hc, atBlank_cons.mpr isBlank_newline,
      .skip hc h⟩

theorem dropWhile {p : Char → Bool} (hp : ∀ c, isBlank c → p c) (h : Reflow s t) :
    Reflow (s.dropWhile p) (t.dropWhile p) := by
  induction h with
  | nil => exact .nil
  | @last s hs =>
    have hall : s.dropWhile p = [] := List.dropWhile_eq_nil_iff.mpr fun c hc => hp c (hs c hc)
    rw [hall, List.dropWhile_cons_of_pos (hp '\n' isBlank_newline)]
    exact .nil
  | @keep s t c h ih =>
    by_cases hc : p c
    · simpa [hc] using ih
    · simpa [hc] using h.keep c
  | skip hc h ih =>
    rwa [List.dropWhile_cons_of_pos (hp _ hc)]

/-- The first lines differ in the blanks at their ends. -/
theorem line (h : Reflow s t) : ∃ v p q w, s.takeWhile (· != '\n') = v ++ w ∧
    t.takeWhile (· != '\n') = v ∧ (∀ c ∈ w, isBlank c) ∧ s = v ++ w ++ p ∧ t = v ++ q ∧
      Reflow p q := by
  induction h with
  | nil => exact ⟨[], [], [], [], rfl, rfl, by simp, rfl, rfl, .nil⟩
  | @last s hs =>
    refine ⟨[], s.dropWhile (· != '\n'), ['\n'], s.takeWhile (· != '\n'), rfl, rfl, fun c hc => ?_,
      by simp, rfl, .last fun c hc => ?_⟩
    · exact hs c ((List.takeWhile_prefix _).subset hc)
    · exact hs c ((List.dropWhile_suffix _).subset hc)
  | @keep s t c h ih =>
    obtain ⟨v, p, q, w, hs, ht, hw, hsplit, rfl, hpq⟩ := ih
    by_cases hc : c = '\n'
    · subst hc
      exact ⟨[], _, _, [], rfl, rfl, by simp, rfl, rfl, .keep '\n' h⟩
    · refine ⟨c :: v, p, q, w, ?_, ?_, hw, ?_, rfl, hpq⟩
      · rw [List.takeWhile_cons_of_pos (by simpa using hc), hs]
        rfl
      · rw [List.takeWhile_cons_of_pos (by simpa using hc), ht]
      · rw [hsplit]
        rfl
  | @skip c s t hc h ih =>
    obtain ⟨v, p, q, w, hs, ht, hw, hsplit, hq, hpq⟩ := ih
    obtain rfl : v = [] := by simpa using ht.symm
    by_cases hline : c = '\n'
    · subst hline
      exact ⟨[], _, _, [], rfl, rfl, by simp, rfl, rfl, .skip hc h⟩
    · refine ⟨[], p, q, c :: w, ?_, rfl, by simpa [hc] using hw, ?_, hq, hpq⟩
      · rw [List.takeWhile_cons_of_pos (by simpa using hline), hs]
        rfl
      · rw [hsplit]
        rfl

end Reflow

theorem Reflow.ink_eq {s t : Text} (h : Reflow s t) :
    s.filter (!isBlank ·) = t.filter (!isBlank ·) := by
  induction h with
  | nil => rfl
  | last hs =>
    rw [List.filter_eq_nil_iff.mpr fun c hc => by simp [hs c hc]]
    rfl
  | keep c h ih => rw [List.filter_cons, List.filter_cons, ih]
  | skip hc h ih => rw [List.filter_cons_of_neg (by simp [hc]), ih]

/-- Of two rests of one text that start with a character that is no blank, the shorter one holds
fewer such characters. -/
theorem eq_of_ink_eq {u u' p p' : Text} {c c' : Char} (hc : isBlank c = false)
    (hc' : isBlank c' = false) (h : u ++ c :: p = u' ++ c' :: p')
    (hink : (c :: p).filter (!isBlank ·) = (c' :: p').filter (!isBlank ·)) :
    u = u' ∧ c :: p = c' :: p' := by
  have hshort {u : Text} {d e : Char} {q q' : Text} (hd : isBlank d = false)
      (hq : d :: q = u ++ e :: q') (hlen : (d :: q).filter (!isBlank ·) =
        (e :: q').filter (!isBlank ·)) : u = [] := by
    cases u with
    | nil => rfl
    | cons x u =>
      have hx : d = x := (List.cons.inj hq).1
      rw [hq, List.filter_append, List.filter_cons_of_pos (by simp [← hx, hd])] at hlen
      have hlength := congrArg List.length hlen
      simp only [List.length_cons, List.length_append] at hlength
      omega
  rcases List.append_eq_append_iff.mp h with ⟨v, rfl, hv⟩ | ⟨v, rfl, hv⟩
  · obtain rfl := hshort hc hv hink
    rw [List.append_nil]
    exact ⟨rfl, hv⟩
  · obtain rfl := hshort hc' hv hink.symm
    rw [List.append_nil]
    exact ⟨rfl, hv.symm⟩

end MapperGen.Text
