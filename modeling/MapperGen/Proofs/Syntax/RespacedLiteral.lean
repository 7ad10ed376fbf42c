import MapperGen.Proofs.Syntax.TokenEdge
import MapperGen.Proofs.Text.Reflow

/-!
# Literals of respaced texts

Where a text starts with a literal, a text that differs in blanks before line feeds only starts with
a literal of the same kind. Numbers, escapes and suffixes hold no blank, so they stand in the same
word of both texts. A quoted literal may reach over several lines; a blank or a line feed in it
neither closes nor spoils it, except in the middle of an escape.
-/

namespace MapperGen.Syntax

open MapperGen.Text

/-! ### Fronts -/

/-- The fronts of two texts, of the given lengths, are equal but for blanks before line feeds, and
so are the rests of the texts. -/
structure Fronts (s t : Text) (n m : Nat) : Prop where
  le_left : n ≤ s.length
  le_right : m ≤ t.length
  front : Respaced (s.take n) (t.take m)
  rest : Reflow (s.drop n) (t.drop m)

/-- What `f` reads at the start of a text it also reads at the start of a text that flows alike. -/
def Flows (f : Text → Option Nat) : Prop :=
  ∀ ⦃s t n⦄, Reflow s t → f s = some n → ∃ m, f t = some m ∧ Fronts s t n m

namespace Fronts

variable {s t : Text} {n m : Nat}

theorem zero (h : Reflow s t) : Fronts s t 0 0 := ⟨Nat.zero_le _, Nat.zero_le _, .nil, h⟩

theorem keep (c : Char) (h : Fronts s t n m) : Fronts (c :: s) (c :: t) (n + 1) (m + 1) :=
  ⟨Nat.succ_le_succ h.le_left, Nat.succ_le_succ h.le_right, .keep c h.front, h.rest⟩

theorem skip {c : Char} (hc : isBlank c) (hm : 0 < m) (h : Fronts s ('\n' :: t) n m) :
    Fronts (c :: s) ('\n' :: t) (n + 1) m := by
  obtain ⟨m, rfl⟩ := Nat.exists_eq_succ_of_ne_zero hm.ne'
  exact ⟨Nat.succ_le_succ h.le_left, h.le_right, .skip hc h.front, h.rest⟩

theorem pos (h : Fronts s t n m) (hn : 0 < n) : 0 < m := by
  by_contra hm
  obtain rfl : m = 0 := by omega
  have hnil := (List.take_zero (l := t) ▸ h.front).eq_nil
  have hlength := List.length_take_of_le h.le_left
  rw [hnil, List.length_nil] at hlength
  omega

theorem prepend (v : Text) (h : Fronts s t n m) :
    Fronts (v ++ s) (v ++ t) (n + v.length) (m + v.length) := by
  induction v with
  | nil => exact h
  | cons c v ih => exact ih.keep c

theorem append {k l : Nat} (h : Fronts s t n m) (hrest : Fronts (s.drop n) (t.drop m) k l) :
    Fronts s t (n + k) (m + l) := by
  have hleft := hrest.le_left
  have hright := hrest.le_right
  have hle := h.le_left
  have hle' := h.le_right
  rw [List.length_drop] at hleft hright
  refine ⟨by omega, by omega, ?_, ?_⟩
  · rw [List.take_add, List.take_add]
    exact h.front.append hrest.front
  · rw [← List.drop_drop, ← List.drop_drop]
    exact hrest.rest

theorem of_word {v p q : Text} (h : Reflow p q) (hn : n ≤ v.length) :
    Fronts (v ++ p) (v ++ q) n n := by
  refine ⟨by rw [List.length_append]; omega, by rw [List.length_append]; omega, ?_, ?_⟩
  · rw [List.take_append_of_le_length hn, List.take_append_of_le_length hn]
    exact .refl _
  · rw [List.drop_append_of_le_length hn, List.drop_append_of_le_length hn]
    exact h.prepend _

end Fronts

/-! ### Words -/

theorem isGap_of_isBlank {c : Char} (h : isBlank c) : isGap c := by
  simp [isGap, h]

theorem isEdge_of_isBlank {c : Char} (h : isBlank c) : isEdge c :=
  isEdge_of_isGap (isGap_of_isBlank h)

theorem halts_of_atBlank {t : Text} (h : AtBlank t) : Halts t :=
  AtEdge.halts fun c hc => isEdge_of_isBlank (h c hc)

theorem hexValue?_of_isBlank {c : Char} (h : isBlank c) : hexValue? c = none :=
  hexValue?_of_isStop (isStop_of_isEdge (isEdge_of_isBlank h))

theorem isHexDigit_of_isBlank {c : Char} (h : isBlank c) : isHexDigit c = false := by
  rw [isHexDigit, hexValue?_of_isBlank h]
  rfl

theorem ne_of_isBlank {c d : Char} (h : isBlank c) (hd : isBlank d = false := by decide) :
    c ≠ d := by
  rintro rfl
  simp [h] at hd

theorem startsWith_atBlank {v p head : Text} (hp : AtBlank p)
    (hhead : head.all (!isBlank ·)) : startsWith (v ++ p) head = startsWith v head :=
  startsWith_append_of_head fun c hc hmem => by
    have hblank := hp c hc
    have hnot := List.all_eq_true.mp hhead c hmem
    simp [hblank] at hnot

theorem startsWith_singleton (c d : Char) (t : Text) : startsWith (c :: t) [d] = (c == d) := by
  by_cases h : d = c
  · simp [startsWith, dropHead?, h]
  · simp [startsWith, dropHead?, h, Ne.symm h]

theorem startsWith_reflow {s t head : Text} (h : Reflow s t)
    (hhead : head.all (!isBlank ·) := by decide) : startsWith s head = startsWith t head := by
  obtain ⟨v, p, q, rfl, rfl, -, hp, hq, -⟩ := h.word
  rw [startsWith_atBlank hp hhead, startsWith_atBlank hq hhead]

theorem headIs_reflow {s t : Text} {f : Char → Bool} (h : Reflow s t)
    (hf : ∀ c, isBlank c → f c = false) : headIs f s = headIs f t := by
  have hblank {p : Text} (hp : AtBlank p) : headIs f p = false := by
    cases p with
    | nil => rfl
    | cons c p => exact hf c (atBlank_cons.mp hp)
  obtain ⟨v, p, q, rfl, rfl, -, hp, hq, -⟩ := h.word
  cases v with
  | nil => rw [List.nil_append, List.nil_append, hblank hp, hblank hq]
  | cons c v => rfl

/-- What ends by itself and holds no blanks is read in any text that flows alike. -/
theorem SelfDelimiting.flows {f : Text → Option Nat} (hf : SelfDelimiting f) {s t : Text} {n : Nat}
    (h : Reflow s t) (hn : f s = some n) (hs : ∀ c ∈ s.take n, isBlank c = false) :
    f t = some n ∧ Fronts s t n n := by
  obtain ⟨hle, hlocal⟩ := hf hn
  have hsplit := List.take_append_drop n s
  rw [← hsplit] at h
  obtain ⟨t', rfl, ht'⟩ := h.of_append hs
  have hlength : (s.take n).length = n := List.length_take_of_le hle
  have hfronts := Fronts.of_word ht' hlength.ge
  rw [hsplit] at hfronts
  exact ⟨hlocal t', hfronts⟩

/-! ### Quoted literals -/

/-- Blanks are plain characters and no digits of escapes. -/
structure Quoting.Regular (q : Quoting) : Prop where
  plain_blank : ∀ c ∈ [' ', '\t', '\n'], q.plain c
  hexEscape_left : ∀ a b, isBlank a → q.hexEscape a b = false
  hexEscape_right : ∀ a b, isBlank b → q.hexEscape a b = false

theorem Quoting.text_regular : Quoting.text.Regular where
  plain_blank _ _ := rfl
  hexEscape_left a b ha := by
    have hdigit : ('0' ≤ a && a ≤ '7') = false :=
      of_isEdge (fun a => ('0' ≤ a && a ≤ '7') = false) (by decide +kernel) (isEdge_of_isBlank ha)
    show (('0' ≤ a && a ≤ '7') && isHexDigit b) = false
    rw [hdigit, Bool.false_and]
  hexEscape_right a b hb := by
    show (('0' ≤ a && a ≤ '7') && isHexDigit b) = false
    rw [isHexDigit_of_isBlank hb, Bool.and_false]

theorem Quoting.bytes_regular : Quoting.bytes.Regular where
  plain_blank := by simp [Quoting.bytes, isAscii]
  hexEscape_left a b ha := by simp [Quoting.bytes, isHexDigit_of_isBlank ha]
  hexEscape_right a b hb := by simp [Quoting.bytes, isHexDigit_of_isBlank hb]

theorem Quoting.zeroEnded_regular : Quoting.zeroEnded.Regular where
  plain_blank := by simp [Quoting.zeroEnded]
  hexEscape_left a b ha := by simp [Quoting.zeroEnded, isHexDigit_of_isBlank ha]
  hexEscape_right a b hb := by simp [Quoting.zeroEnded, isHexDigit_of_isBlank hb]

namespace Quoting

variable {q : Quoting}

/-- Behind a passed line end the literal goes on as if nothing were passed over. -/
theorem bodyLength_lineBreak (hq : q.Regular) (t : Text) :
    q.bodyLength .lineBreak t = q.bodyLength .plain t ∧
      q.bodyLength .lineBreakReturn t = q.bodyLength .afterReturn t := by
  induction t with
  | nil => exact ⟨rfl, rfl⟩
  | cons c t ih =>
    refine ⟨?_, ?_⟩
    · by_cases hpass : c ∈ [' ', '\t', '\n']
      · have hplain := hq.plain_blank c hpass
        have hstep : q.step .plain c = .next .plain ∧ q.step .lineBreak c = .next .lineBreak := by
          simp only [List.mem_cons, List.not_mem_nil, or_false] at hpass
          obtain rfl | rfl | rfl := hpass
          all_goals exact ⟨by simp [step, plainStep, hplain], rfl⟩
        rw [bodyLength, bodyLength, hstep.1, hstep.2]
        exact congrArg (Option.map (· + 1)) ih.1
      · by_cases hreturn : c = '\r'
        · subst hreturn
          exact congrArg (Option.map (· + 1)) ih.2
        · have hstep : q.step .lineBreak c = q.step .plain c := by
            simp only [List.mem_cons, List.not_mem_nil, or_false, not_or] at hpass
            simp [step, hpass, hreturn]
          rw [bodyLength, bodyLength, hstep]
    · by_cases hline : c = '\n'
      · subst hline
        exact congrArg (Option.map (· + 1)) ih.1
      · have hstep (mode : Mode) (hmode : mode = .afterReturn ∨ mode = .lineBreakReturn) :
            q.step mode c = .reject := by
          obtain rfl | rfl := hmode
          all_goals simp [step, hline]
        rw [bodyLength, bodyLength, hstep _ (.inl rfl), hstep _ (.inr rfl)]

/-- The modes in which a line feed may come. -/
def Mode.breaks : Mode → Bool
  | .plain | .afterReturn | .escape | .lineBreak | .lineBreakReturn => true
  | _ => false

theorem bodyLength_newline (hq : q.Regular) {mode : Mode} (hmode : mode.breaks) (t : Text) :
    q.bodyLength mode ('\n' :: t) = (q.bodyLength .plain t).map (· + 1) := by
  have hplain : q.plain '\n' := hq.plain_blank '\n' (by simp)
  have hbreak := (bodyLength_lineBreak hq t).1
  rw [bodyLength]
  cases mode with
  | plain => simp [step, plainStep, hplain]
  | afterReturn => simp [step]
  | escape => simp [step, escapeStep, hbreak]
  | lineBreak => simp [step, hbreak]
  | lineBreakReturn => simp [step, hbreak]
  | hex | hexSecond | scalarOpen | scalar => cases hmode

theorem quote_of_step {mode : Mode} {c : Char} (h : q.step mode c = .close) : c = '"' := by
  have hplain (h : q.plainStep c = .close) : c = '"' := by
    by_contra hc
    rw [plainStep, if_neg hc] at h
    split_ifs at h
  cases mode with
  | plain => exact hplain h
  | lineBreak =>
    rw [step] at h
    split_ifs at h
    exact hplain h
  | afterReturn | lineBreakReturn | scalarOpen | hexSecond =>
    rw [step] at h
    split_ifs at h
  | escape =>
    rw [step, escapeStep] at h
    split_ifs at h
  | hex => cases h
  | scalar digits value =>
    rw [step, scalarStep] at h
    repeat' split at h
    all_goals cases h

/-- A blank is read only where a line feed could come as well, but for one that spoils the escape
under way. -/
theorem breaks_of_step (hq : q.Regular) {mode mode' : Mode} {c : Char} (hc : isBlank c)
    (hstep : q.step mode c = .next mode') :
    mode.breaks ∧ mode'.breaks ∨ mode' = .hexSecond c := by
  have hplain (h : q.plainStep c = .next mode') : mode'.breaks := by
    rw [plainStep] at h
    split_ifs at h with hquote hreturn hescape
    · cases h; rfl
    · exact absurd hescape (ne_of_isBlank hc)
    · cases h; rfl
  cases mode with
  | plain => exact .inl ⟨rfl, hplain hstep⟩
  | afterReturn | lineBreakReturn =>
    rw [step] at hstep
    split_ifs at hstep
    cases hstep
    exact .inl ⟨rfl, rfl⟩
  | escape =>
    rw [step, escapeStep] at hstep
    split_ifs at hstep with hx hu hn hzero hzero hline hreturn
    · exact absurd hx (ne_of_isBlank hc)
    · exact absurd hu (ne_of_isBlank hc)
    all_goals cases hstep; exact .inl ⟨rfl, rfl⟩
  | lineBreak =>
    rw [step] at hstep
    split_ifs at hstep
    · cases hstep; exact .inl ⟨rfl, rfl⟩
    · cases hstep; exact .inl ⟨rfl, rfl⟩
    · exact .inl ⟨rfl, hplain hstep⟩
  | hex =>
    cases hstep
    exact .inr rfl
  | hexSecond a =>
    rw [step, hq.hexEscape_right a c hc] at hstep
    cases hstep
  | scalarOpen =>
    have hopen : c ≠ '\x7b' := ne_of_isBlank hc
    rw [step, if_neg hopen] at hstep
    cases hstep
  | scalar digits value =>
    have hclose : c ≠ '\x7d' := ne_of_isBlank hc
    have hlow : c ≠ '_' := ne_of_isBlank hc
    rw [step, scalarStep, if_neg hclose, if_neg hlow, hexValue?_of_isBlank hc] at hstep
    cases hstep

theorem step_hexSecond (hq : q.Regular) {c : Char} (hc : isBlank c) (d : Char) :
    q.step (.hexSecond c) d = .reject := by
  rw [step, hq.hexEscape_left c d hc]
  rfl

theorem pos_of_bodyLength {mode : Mode} {t : Text} {n : Nat} (h : q.bodyLength mode t = some n) :
    0 < n := by
  cases t with
  | nil => cases h
  | cons c t =>
    rw [bodyLength] at h
    split at h
    · obtain rfl := Option.some.inj h
      exact Nat.one_pos
    · cases h
    · obtain ⟨m, -, rfl⟩ := Option.map_eq_some_iff.mp h
      exact Nat.succ_pos m

theorem quote_mem_of_bodyLength {mode : Mode} {t : Text} {n : Nat}
    (h : q.bodyLength mode t = some n) : '"' ∈ t := by
  induction t generalizing mode n with
  | nil => cases h
  | cons c t ih =>
    rw [bodyLength] at h
    split at h
    · next hstep => simp [quote_of_step hstep]
    · cases h
    · obtain ⟨m, hm, rfl⟩ := Option.map_eq_some_iff.mp h
      exact List.mem_cons_of_mem c (ih hm)

theorem bodyLength_flows (hq : q.Regular) (mode : Mode) : Flows (q.bodyLength mode) := by
  intro s t n h hn
  induction h generalizing mode n with
  | nil => cases hn
  | last hs => simpa [isBlank] using hs _ (quote_mem_of_bodyLength hn)
  | @keep s t c h ih =>
    rw [bodyLength] at hn
    split at hn
    · next hstep =>
      obtain rfl := Option.some.inj hn
      exact ⟨1, by rw [bodyLength, hstep], (Fronts.zero h).keep c⟩
    · cases hn
    · next mode' hstep =>
      obtain ⟨k, hk, rfl⟩ := Option.map_eq_some_iff.mp hn
      obtain ⟨m, hm, hfronts⟩ := ih mode' hk
      exact ⟨m + 1, by rw [bodyLength, hstep]; simp [hm], hfronts.keep c⟩
  | @skip c s t hc h ih =>
    rw [bodyLength] at hn
    split at hn
    · next hstep =>
      have hquote := quote_of_step hstep
      exact absurd hquote (ne_of_isBlank hc)
    · cases hn
    · next mode' hstep =>
      obtain ⟨k, hk, rfl⟩ := Option.map_eq_some_iff.mp hn
      rcases breaks_of_step hq hc hstep with ⟨hmode, hmode'⟩ | rfl
      · obtain ⟨m, hm, hfronts⟩ := ih mode' hk
        have hpos := pos_of_bodyLength hm
        rw [bodyLength_newline hq hmode'] at hm
        exact ⟨m, by rw [bodyLength_newline hq hmode, hm], hfronts.skip hc hpos⟩
      · cases s with
        | nil => cases hk
        | cons d s =>
          rw [bodyLength, step_hexSecond hq hc] at hk
          cases hk

/-- An escape is under way, and the text does not go on with a line end that it passes over. -/
def Escaping (mode : Mode) (t : Text) : Prop :=
  mode = .escape ∧ headIs (fun c => c == '\n' || c == '\r') t = false ∨ mode.breaks = false

theorem Escaping.next {mode mode' : Mode} {c : Char} {t : Text} (h : Escaping mode (c :: t))
    (hstep : q.step mode c = .next mode') : mode' = .plain ∨ mode'.breaks = false := by
  rcases h with ⟨rfl, hline⟩ | hmode
  · simp only [headIs, Bool.or_eq_false_iff, beq_eq_false_iff_ne] at hline
    rw [step, escapeStep] at hstep
    split_ifs at hstep
    all_goals simp_all
    all_goals simp [← hstep, Mode.breaks]
  · cases mode with
    | plain | afterReturn | escape | lineBreak | lineBreakReturn => cases hmode
    | hex =>
      cases hstep
      exact .inr rfl
    | hexSecond | scalarOpen =>
      rw [step] at hstep
      split_ifs at hstep
      cases hstep
      simp [Mode.breaks]
    | scalar digits value =>
      rw [step, scalarStep] at hstep
      repeat' split at hstep
      all_goals cases hstep
      all_goals simp [Mode.breaks]

theorem Escaping.not_isBlank (hq : q.Regular) {mode mode' : Mode} {c : Char} {t : Text}
    (h : Escaping mode (c :: t)) (hstep : q.step mode c = .next mode')
    (hdead : mode' ≠ .hexSecond c) : isBlank c = false := by
  by_contra hc
  rw [Bool.not_eq_false] at hc
  obtain ⟨hbreaks, -⟩ := (breaks_of_step hq hc hstep).resolve_right hdead
  rcases h with ⟨rfl, hline⟩ | hmode
  · simp only [headIs, Bool.or_eq_false_iff, beq_eq_false_iff_ne] at hline
    rw [step, escapeStep] at hstep
    split_ifs at hstep with hx hu hn hzero hadmits
    · exact ne_of_isBlank hc (by decide) hx
    · exact ne_of_isBlank hc (by decide) hu
    · simp only [Bool.or_eq_true, decide_eq_true_eq] at hn
      obtain ((((rfl | rfl) | rfl) | rfl) | rfl) | rfl := hn
      all_goals revert hc; decide
    · exact ne_of_isBlank hc (by decide) hzero
    · exact hline.1 ‹_›
    · exact hline.2 ‹_›
  · simp [hbreaks] at hmode

theorem not_isBlank_of_escapeLength (hq : q.Regular) {mode : Mode} {t : Text} {n : Nat}
    (hmode : Escaping mode t) (h : q.escapeLength mode t = some n) :
    ∀ c ∈ t.take n, isBlank c = false := by
  induction t generalizing mode n with
  | nil => cases h
  | cons c t ih =>
    rw [escapeLength] at h
    split at h
    · next hstep =>
      obtain rfl := Option.some.inj h
      simpa using hmode.not_isBlank hq hstep (by simp)
    · next mode' hplain hstep =>
      obtain ⟨m, hm, rfl⟩ := Option.map_eq_some_iff.mp h
      have hlater := ih (.inr ((hmode.next hstep).resolve_left hplain)) hm
      have hc : isBlank c = false := by
        by_cases hdead : mode' = .hexSecond c
        · subst hdead
          by_contra hc
          rw [Bool.not_eq_false] at hc
          cases t with
          | nil => cases hm
          | cons d t =>
            rw [escapeLength, step_hexSecond hq hc] at hm
            cases hm
        · exact hmode.not_isBlank hq hstep hdead
      simpa [hc] using hlater
    · cases h

theorem unitLength_eq_some {t : Text} {n : Nat} (h : q.unitLength t = some n) :
    (∃ r k, t = '\\' :: r ∧ n = k + 1 ∧ Escaping .escape r ∧ q.escapeLength .escape r = some k) ∨
      ∃ c r, t = c :: r ∧ n = 1 := by
  rw [unitLength.eq_def] at h
  split at h
  · cases h
  · next r =>
    split at h
    · cases h
    · next hline =>
      obtain ⟨k, hk, rfl⟩ := Option.map_eq_some_iff.mp h
      refine .inl ⟨r, k, rfl, rfl, .inl ⟨rfl, ?_⟩, hk⟩
      cases r with
      | nil => rfl
      | cons c r => simpa [startsWith_singleton, headIs] using hline
  · next c r hc =>
    split at h
    · exact .inr ⟨c, r, rfl, (Option.some.inj h).symm⟩
    · cases h

theorem charLength_flows (hq : q.Regular) : Flows q.charLength := by
  intro s t n h hn
  have hself := q.charLength_selfDelimiting
  obtain ⟨k, hk, hquote, rfl⟩ : ∃ k, q.unitLength s = some k ∧ startsWith (s.drop k) ['\''] ∧
      n = k + 1 := by
    rw [charLength] at hn
    split at hn
    · next k hk =>
      split at hn
      · next hquote => exact ⟨k, hk, hquote, (Option.some.inj hn).symm⟩
      · cases hn
    · cases hn
  obtain ⟨rest, hrest⟩ := startsWith_iff.mp hquote
  rcases unitLength_eq_some hk with ⟨r, k, rfl, rfl, hescape, hlength⟩ | ⟨c, r, rfl, rfl⟩
  · have hplain := not_isBlank_of_escapeLength hq hescape hlength
    have htake : ('\\' :: r).take (k + 1 + 1) = '\\' :: r.take k ++ ['\''] := by
      rw [List.take_add, ← hrest]
      rfl
    refine ⟨_, hself.flows h hn ?_⟩
    rw [htake]
    simp only [List.cons_append, List.mem_cons, List.mem_append, List.not_mem_nil, or_false]
    rintro c (rfl | hc | rfl)
    · rfl
    · exact hplain c hc
    · rfl
  · rw [List.drop_one, List.tail_cons, List.singleton_append] at hrest
    subst hrest
    -- no line feed comes before the closing quote, so a blank between the quotes stays
    cases h with
    | last hs => exact absurd (hs '\'' (by simp)) (by decide)
    | skip hc h =>
      obtain ⟨t', ht', -⟩ := h.of_cons (by decide)
      cases ht'
    | keep c h =>
      obtain ⟨t', rfl, ht'⟩ := h.of_cons (by decide)
      exact ⟨2, (hself hn).2 t', ((Fronts.zero ht').keep '\'').keep c⟩

end Quoting

/-! ### Raw literals -/

section Raw

variable {plain : Char → Bool} {hashes : Nat}

theorem rawBodyLength_cons {c : Char} {t : Text} {n : Nat} (hplain : plain '\n') (hc : c ≠ '"') :
    rawBodyLength plain hashes (c :: t) = some n ↔
      ∃ k, n = k + 1 ∧ rawBodyLength plain hashes t = some k ∧
        (if c = '\r' then ∃ rest, t = '\n' :: rest else plain c) := by
  rw [rawBodyLength.eq_def]
  split
  · next heq => cases heq
  · next heq => exact absurd (List.cons.inj heq).1 hc
  · next rest heq =>
    obtain ⟨rfl, rfl⟩ := List.cons.inj heq
    have hline : rawBodyLength plain hashes ('\n' :: rest) =
        (rawBodyLength plain hashes rest).map (· + 1) := by
      simp [rawBodyLength, hplain]
    rw [hline]
    cases rawBodyLength plain hashes rest <;> simp [eq_comm]
  · next hnot heq =>
    obtain ⟨rfl, rfl⟩ := List.cons.inj heq
    simpa using fun k _ _ rest hrest => hnot rest (by rw [hrest])
  · next hquote hline hreturn heq =>
    obtain ⟨rfl, rfl⟩ := List.cons.inj heq
    rw [if_neg hreturn]
    split
    · next hc => cases rawBodyLength plain hashes t <;> simp [hc, eq_comm]
    · next hc => simp [hc]

theorem rawBodyLength_quote {t : Text} : rawBodyLength plain hashes ('"' :: t) =
    if startsWith t (List.replicate hashes '#') then some (hashes + 1)
    else (rawBodyLength plain hashes t).map (· + 1) := rfl

theorem pos_of_rawBodyLength {t : Text} {n : Nat} (h : rawBodyLength plain hashes t = some n) :
    0 < n := by
  have hquote := quote_mem_of_rawBodyLength h
  cases n with
  | zero => simp at hquote
  | succ n => exact Nat.succ_pos n

theorem rawBodyLength_flows (hplain : plain '\n') : Flows (rawBodyLength plain hashes) := by
  intro s t n h hn
  induction h generalizing n with
  | nil => cases hn
  | last hs =>
    have hquote := (List.take_prefix _ _).subset (quote_mem_of_rawBodyLength hn)
    exact absurd (hs _ hquote) (by decide)
  | @keep s t c h ih =>
    by_cases hquote : c = '"'
    · subst hquote
      have hmarks : (List.replicate hashes '#').all (!isBlank ·) := by simp [isBlank]
      have hstart := startsWith_reflow h hmarks
      rw [rawBodyLength_quote] at hn
      rw [rawBodyLength_quote, ← hstart]
      split at hn
      · next hclose =>
        obtain rfl := Option.some.inj hn
        obtain ⟨rest, rfl⟩ := startsWith_iff.mp hclose
        obtain ⟨rest', rfl, hrest⟩ := h.of_append (by simp [isBlank])
        have hfronts := (Fronts.zero hrest).prepend (List.replicate hashes '#')
        simp only [List.length_replicate, Nat.zero_add] at hfronts
        exact ⟨hashes + 1, if_pos hclose, hfronts.keep '"'⟩
      · next hopen =>
        obtain ⟨k, hk, rfl⟩ := Option.map_eq_some_iff.mp hn
        obtain ⟨m, hm, hfronts⟩ := ih hk
        exact ⟨m + 1, by simp [hopen, hm], hfronts.keep '"'⟩
    · obtain ⟨k, rfl, hk, hc⟩ := (rawBodyLength_cons hplain hquote).mp hn
      obtain ⟨m, hm, hfronts⟩ := ih hk
      refine ⟨m + 1, (rawBodyLength_cons hplain hquote).mpr ⟨m, rfl, hm, ?_⟩, hfronts.keep c⟩
      split at hc
      · next hreturn =>
        obtain ⟨rest, rfl⟩ := hc
        rw [if_pos hreturn]
        exact h.of_newline
      · next hreturn =>
        rw [if_neg hreturn]
        exact hc
  | @skip c s t hc h ih =>
    have hquote : c ≠ '"' := ne_of_isBlank hc
    obtain ⟨k, rfl, hk, -⟩ := (rawBodyLength_cons hplain hquote).mp hn
    obtain ⟨m, hm, hfronts⟩ := ih hk
    exact ⟨m, hm, hfronts.skip hc (pos_of_rawBodyLength hm)⟩

theorem rawLength_eq_some {t : Text} {n : Nat} : rawLength plain t = some n ↔
    ∃ hashes body k, t = List.replicate hashes '#' ++ '"' :: body ∧ hashes ≤ 255 ∧
      rawBodyLength plain hashes body = some k ∧ n = k + 1 + hashes := by
  constructor
  · intro h
    have hmarks : t.takeWhile (· == '#') =
        List.replicate (t.takeWhile (· == '#')).length '#' :=
      List.eq_replicate_of_mem fun c hc => by simpa using List.mem_takeWhile_imp hc
    have hdrop := List.prefix_iff_eq_append.mp (List.takeWhile_prefix (l := t) (· == '#'))
    rw [rawLength] at h
    split at h
    · next body hbody =>
      split at h
      · next hle =>
        obtain ⟨k, hk, rfl⟩ := Option.map_eq_some_iff.mp h
        refine ⟨_, body, k, ?_, hle, hk, by omega⟩
        rw [← hmarks, ← hbody, hdrop]
      · cases h
    · cases h
  · rintro ⟨hashes, body, k, rfl, hle, hk, rfl⟩
    have hmarks : (List.replicate hashes '#' ++ '"' :: body).takeWhile (· == '#') =
        List.replicate hashes '#' := by
      rw [List.takeWhile_append_of_pos (by simp)]
      simp
    rw [rawLength, hmarks, List.length_replicate, List.drop_left' (by simp)]
    simp [hle, hk, Nat.add_assoc, Nat.add_comm 1]

theorem rawLength_flows (hplain : plain '\n') : Flows (rawLength plain) := by
  intro s t n h hn
  obtain ⟨hashes, body, k, rfl, hle, hk, rfl⟩ := rawLength_eq_some.mp hn
  obtain ⟨t', rfl, hquote⟩ := h.of_append (by simp [isBlank])
  obtain ⟨body', rfl, hbody⟩ := hquote.of_cons (by decide)
  obtain ⟨m, hm, hfronts⟩ := rawBodyLength_flows hplain hbody hk
  have hwhole := (hfronts.keep '"').prepend (List.replicate hashes '#')
  rw [List.length_replicate] at hwhole
  exact ⟨_, rawLength_eq_some.mpr ⟨hashes, body', m, rfl, hle, hm, rfl⟩, hwhole⟩

end Raw

/-! ### Literals -/

theorem quotedForms_flows {head : Text} {body : Text → Option Nat}
    (h : (head, body) ∈ quotedForms) : Flows body := by
  simp only [quotedForms, List.mem_cons, Prod.mk.injEq, List.not_mem_nil, or_false] at h
  obtain ⟨-, rfl⟩ | ⟨-, rfl⟩ | ⟨-, rfl⟩ | ⟨-, rfl⟩ | ⟨-, rfl⟩ | ⟨-, rfl⟩ | ⟨-, rfl⟩ | ⟨-, rfl⟩ := h
  · exact Quoting.bodyLength_flows Quoting.text_regular _
  · exact rawLength_flows rfl
  · exact Quoting.bodyLength_flows Quoting.bytes_regular _
  · exact rawLength_flows (by decide)
  · exact Quoting.charLength_flows Quoting.bytes_regular
  · exact Quoting.bodyLength_flows Quoting.zeroEnded_regular _
  · exact rawLength_flows (by decide)
  · exact Quoting.charLength_flows Quoting.text_regular

theorem identLength_reflow {s t : Text} (h : Reflow s t) :
    identLength t = identLength s ∧ Fronts s t (identLength s) (identLength s) := by
  obtain ⟨v, p, q, rfl, rfl, -, hp, hq, hpq⟩ := h.word
  rw [identLength_append (halts_of_atBlank hp), identLength_append (halts_of_atBlank hq)]
  exact ⟨rfl, Fronts.of_word hpq (identLength_le v)⟩

theorem Fronts.withSuffix {s t : Text} {n m : Nat} (h : Fronts s t n m) :
    Fronts s t (withSuffix s n) (withSuffix t m) := by
  obtain ⟨hlength, hsuffix⟩ := identLength_reflow h.rest
  rw [Syntax.withSuffix, Syntax.withSuffix, hlength]
  exact h.append hsuffix

/-- Both texts begin as the same kind of quoted literal. -/
def SameQuotes (a b : Text) : Prop := ∃ form ∈ quotedForms, form.1 <+: a ∧ form.1 <+: b

theorem literalLength_reflow {s t : Text} {n : Nat} (h : Reflow s t)
    (hn : literalLength s = some n) : ∃ m, literalLength t = some m ∧ Fronts s t n m ∧
      (s.take n = t.take m ∨ SameQuotes (s.take n) (t.take m)) := by
  obtain ⟨v, p, q, rfl, rfl, -, hp, hq, hpq⟩ := h.word
  replace hp := halts_of_atBlank hp
  replace hq := halts_of_atBlank hq
  rw [literalLength_eq, quotedForm?_append hp] at hn
  rw [literalLength_eq, quotedForm?_append hq]
  cases hform : quotedForm? v with
  | none =>
    simp only [hform, numberLength_append hp] at hn
    have hle := numberLength_le hn
    refine ⟨n, by simp only [numberLength_append hq, hn], Fronts.of_word hpq hle, .inl ?_⟩
    rw [List.take_append_of_le_length hle, List.take_append_of_le_length hle]
  | some form =>
    obtain ⟨head, body⟩ := form
    obtain ⟨w, rfl⟩ := startsWith_of_quotedForm? hform
    have hmem := List.mem_of_find?_eq_some hform
    simp only [hform, List.append_assoc, List.drop_left] at hn ⊢
    obtain ⟨k, hk, rfl⟩ := Option.map_eq_some_iff.mp hn
    obtain ⟨m, hm, hfronts⟩ := quotedForms_flows hmem (hpq.prepend w) hk
    have hhead (u : Text) (l : Nat) :
        head <+: (head ++ u).take (Syntax.withSuffix (head ++ u) (l + head.length)) := by
      refine List.prefix_take_iff.mpr ⟨List.prefix_append head u, ?_⟩
      rw [Syntax.withSuffix]
      omega
    refine ⟨_, by rw [quotedLength, hm, Option.map_some], (hfronts.prepend head).withSuffix, .inr ?_⟩
    exact ⟨_, hmem, hhead _ k, hhead _ m⟩

end MapperGen.Syntax
