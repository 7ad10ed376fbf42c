import MapperGen.Output.LiteralHead
import MapperGen.Proofs.Syntax.FileStart
import MapperGen.Proofs.Syntax.Lexes

/-!
# Heads and their tokens

The head of a struct literal is the text of a type with `::` in front of its first `<`. If that
character opens the arguments of a name, as it does in a path without comments, the head has the
tokens of the type and the two colons between. A later list of arguments stays as it is, so in the
head of a path with two of them the second one may lack its colons.
-/

namespace MapperGen

open Text

namespace Syntax

/-! ### Parts that end with a name -/

/-- A part of a text without comments whose last character, if there is one, goes on a name. -/
structure EndsInName (v : Text) : Prop where
  uncommented : '/' ∉ v
  named : ∀ c ∈ v.getLast?, isIdentContinue c

theorem isPunct_of_isIdentContinue {c : Char} (hc : isIdentContinue c) : isPunct c = false := by
  have hmarks : "~!@#$%^&*-=+|;:,<.>/?'".toList.all (!isIdentContinue ·) := by decide +kernel
  by_contra hpunct
  rw [Bool.not_eq_false] at hpunct
  have hnot := List.all_eq_true.mp hmarks c (List.contains_iff_mem.mp hpunct)
  simp [hc] at hnot

theorem isGap_of_isIdentContinue {c : Char} (hc : isIdentContinue c) : isGap c = false := by
  by_contra hgap
  rw [Bool.not_eq_false] at hgap
  have hnot := isIdentContinue_of_isStop (isStop_of_isEdge (isEdge_of_isGap hgap))
  rw [hc] at hnot
  cases hnot

/-- A token that starts with no punctuation is no punctuation. -/
theorem Token.Leads.unjoined_eq {token : Token} {c : Char} {t : Text} {n : Nat}
    (h : token.Leads (c :: t) n) (hc : isPunct c = false) : token.unjoined = token := by
  cases h with
  | punct hpunct t joint =>
    rw [hc] at hpunct
    cases hpunct
  | opening | closing | errorMark | literal | ident => rfl

namespace EndsInName

variable {v : Text}

theorem drop (h : EndsInName v) (n : Nat) : EndsInName (v.drop n) where
  uncommented hmem := h.uncommented (List.mem_of_mem_drop hmem)
  named c hc := by
    rw [List.getLast?_drop] at hc
    split at hc
    · cases hc
    · exact h.named c hc

theorem startsComment_append (h : EndsInName v) (hv : v ≠ []) (p : Text) :
    startsComment (v ++ p) = false := by
  obtain ⟨c, w, rfl⟩ := List.exists_cons_of_ne_nil hv
  have hc : '/' ≠ c := fun heq => h.uncommented (heq ▸ List.mem_cons_self)
  simp [startsComment, startsWith, dropHead?, hc]

theorem startsWith_errorMark (h : EndsInName v) (hv : v ≠ []) (p : Text) :
    startsWith (v ++ p) errorMark = false := by
  rw [errorMark_eq]
  rcases v with _ | ⟨c, _ | ⟨d, w⟩⟩
  · exact absurd rfl hv
  · have hc : '(' ≠ c := by
      rintro rfl
      exact absurd (h.named '(' rfl) (by decide)
    simp [startsWith, dropHead?, hc]
  · have hd : '/' ≠ d := fun heq => h.uncommented (by simp [← heq])
    by_cases hc : '(' = c
    · simp [startsWith, dropHead?, hd]
    · simp [startsWith, dropHead?, hc]

/-- No comment is read in the part, so a gap or a token is. -/
theorem scanOne_eq (h : EndsInName v) (hv : v ≠ []) (p : Text) : scanOne (v ++ p) =
    if headIs isGap v then some (((v ++ p).takeWhile isGap).length, []) else token? (v ++ p) := by
  have hnone := h.startsComment_append hv p
  rw [startsComment, Bool.or_eq_false_iff] at hnone
  have hhead : headIs isGap (v ++ p) = headIs isGap v := by
    obtain ⟨c, w, rfl⟩ := List.exists_cons_of_ne_nil hv
    rfl
  rw [scanOne, hhead, hnone.1, hnone.2]
  rfl

/-- A gap does not reach the end of the part. -/
theorem gap_lt (h : EndsInName v) (hv : v ≠ []) (p : Text) :
    ((v ++ p).takeWhile isGap).length < v.length := by
  by_contra hlong
  have hall : v <+: (v ++ p).takeWhile isGap :=
    List.prefix_of_prefix_length_le (List.prefix_append v p) (List.takeWhile_prefix isGap)
      (Nat.le_of_not_lt hlong)
  have hgap : isGap (v.getLast hv) :=
    List.mem_takeWhile_imp (hall.subset (List.getLast_mem hv))
  rw [isGap_of_isIdentContinue (h.named _ (List.getLast?_eq_some_getLast hv))] at hgap
  cases hgap

/-- What is read in the part does not depend on what stands behind it. -/
theorem scanOne_swap {p q : Text} {n : Nat} {tokens : List Token} (h : EndsInName v) (hv : v ≠ [])
    (hp : Halts p) (hq : Halts q) (hone : scanOne (v ++ p) = some (n, tokens))
    (hn : n ≤ v.length) : scanOne (v ++ q) = some (n, tokens) := by
  rw [h.scanOne_eq hv] at hone ⊢
  split at hone
  · next hgap =>
    rw [if_pos hgap, takeWhile_swap (h.gap_lt hv p)]
    exact hone
  · next hgap =>
    rw [if_neg hgap]
    have hcomment {w : Text} (hw : EndsInName w) (hne : w ≠ []) :
        startsComment (w ++ q) = startsComment (w ++ p) := by
      rw [hw.startsComment_append hne, hw.startsComment_append hne]
    have hmark : startsWith (v ++ q) errorMark = startsWith (v ++ p) errorMark := by
      rw [h.startsWith_errorMark hv, h.startsWith_errorMark hv]
    obtain ⟨tokens', hone', hsame, hjoint⟩ :=
      token?_congr hp hq hv (hcomment h hv) hmark hone hn
    rw [hone']
    suffices heq : tokens' = tokens by rw [heq]
    by_cases htail : v.tail = []
    · -- a name of one character is no punctuation, so it does not matter what comes next
      obtain ⟨c, w, rfl⟩ := List.exists_cons_of_ne_nil hv
      obtain rfl : w = [] := htail
      have hpunct := isPunct_of_isIdentContinue (h.named c rfl)
      obtain ⟨token, rfl, hleads⟩ := token?_eq_some hone
      obtain ⟨token', rfl, hleads'⟩ := token?_eq_some hone'
      simpa [hleads.unjoined_eq hpunct, hleads'.unjoined_eq hpunct] using hsame
    · refine hjoint fun _ => startsPunct_congr htail ?_
      exact hcomment (List.drop_one ▸ h.drop 1) htail

/-- No step of the scanner leads from the part into the blanks behind it. -/
theorem le_of_scanOne {gap p : Text} {n : Nat} {tokens : List Token} (h : EndsInName v)
    (hv : v ≠ []) (hgap : ∀ c ∈ gap, isBlank c)
    (hone : scanOne (v ++ (gap ++ p)) = some (n + 1, tokens))
    (hn : n + 1 ≤ v.length + gap.length) : n + 1 ≤ v.length := by
  rw [h.scanOne_eq hv] at hone
  split at hone
  · obtain ⟨hlength, -⟩ := Prod.mk.inj (Option.some.inj hone)
    have hlt := h.gap_lt hv (gap ++ p)
    omega
  · -- a token ends with no blank
    by_contra hlong
    obtain ⟨token, -, hleads⟩ := token?_eq_some hone
    obtain ⟨d, hd, hink⟩ := hleads.endsInked
    have hne : gap.take (n + 1 - v.length) ≠ [] := by
      refine List.ne_nil_of_length_pos ?_
      rw [List.length_take]
      omega
    rw [List.take_append, List.take_of_length_le (by omega),
      List.take_append_of_le_length (by omega), List.getLast?_append_of_ne_nil _ hne] at hd
    rw [hgap d (List.mem_of_mem_take (List.mem_of_getLast? hd))] at hink
    cases hink

end EndsInName

theorem halts_gap {gap p : Text} (hgap : ∀ c ∈ gap, isBlank c) (hp : Halts p) :
    Halts (gap ++ p) := by
  cases gap with
  | nil => exact hp
  | cons c gap => exact halts_of_isBlank (hgap c List.mem_cons_self) (gap ++ p)

/-- Where the scanner comes to a place behind a name and maybe blanks, the part up to the end of the
name leaves the same tokens whatever follows it. -/
theorem Lexes.front {v gap p : Text} {ts : List Token} (h : Lexes p (v ++ gap) ts)
    (hv : EndsInName v) (hgap : ∀ c ∈ gap, isBlank c) (hp : Halts p) :
    ∃ front, ∀ q us, Halts q →
      (Lexes [] (v ++ q) us ↔ ∃ later, Lexes [] q later ∧ us = front ++ later) := by
  generalize hx : v ++ gap = x at h
  induction h generalizing v with
  | nil =>
    obtain ⟨rfl, rfl⟩ := List.append_eq_nil_iff.mp hx
    exact ⟨[], by simp⟩
  | @step n x tokens later hone hn hlater ih =>
    subst hx
    by_cases hne : v = []
    · subst hne
      exact ⟨[], by simp⟩
    · rw [List.append_assoc] at hone
      rw [List.length_append] at hn
      have hle := hv.le_of_scanOne hne hgap hone hn
      obtain ⟨front, hfront⟩ := ih (hv.drop (n + 1)) (List.drop_append_of_le_length hle).symm
      refine ⟨tokens ++ front, fun q us hq => ?_⟩
      have hone' := hv.scanOne_swap hne (halts_gap hgap hp) hq hone hle
      rw [whole_iff hone', List.drop_append_of_le_length hle]
      constructor
      · rintro ⟨middle, hmiddle, rfl⟩
        obtain ⟨rest, hrest, rfl⟩ := (hfront q middle hq).mp hmiddle
        exact ⟨rest, hrest, (List.append_assoc ..).symm⟩
      · rintro ⟨rest, hrest, rfl⟩
        exact ⟨front ++ rest, (hfront q _ hq).mpr ⟨rest, hrest, rfl⟩, List.append_assoc ..⟩

/-! ### Two colons -/

/-- The two colons in front of the arguments of a name. -/
def turbofish : List Token := [.punct ':' true, .punct ':' true]

theorem startsPunct_mark {c : Char} (hc : isPunct c) (hslash : c ≠ '/') (t : Text) :
    startsPunct (c :: t) := by
  simp [startsPunct, headIs, startsComment, startsWith, dropHead?, hc, Ne.symm hslash]

theorem scanOne_colon {t : Text} (ht : startsPunct t) :
    scanOne (':' :: t) = some (0 + 1, [.punct ':' true]) := by
  have hcolon : startsPunct (':' :: t) := startsPunct_mark (by decide) (by decide) t
  rw [scanOne_other t (by decide) (by decide) (by decide) (by decide)]
  simp [punct?, hcolon, ht]

theorem Lexes.turbofish_iff {rest : Text} {us : List Token} :
    Lexes [] (':' :: ':' :: '<' :: rest) us ↔
      ∃ later, Lexes [] ('<' :: rest) later ∧ us = turbofish ++ later := by
  have hangle : startsPunct ('<' :: rest) := startsPunct_mark (by decide) (by decide) rest
  have hcolon : startsPunct (':' :: '<' :: rest) := startsPunct_mark (by decide) (by decide) _
  rw [whole_iff (scanOne_colon hcolon), List.drop_succ_cons, List.drop_zero]
  simp only [whole_iff (scanOne_colon hangle), List.drop_succ_cons, List.drop_zero]
  constructor
  · rintro ⟨_, ⟨later, hlater, rfl⟩, rfl⟩
    exact ⟨later, hlater, rfl⟩
  · rintro ⟨later, hlater, rfl⟩
    exact ⟨_, ⟨later, hlater, rfl⟩, rfl⟩

theorem scan_eq_iff_lexes {t : Text} (h : markLength t = 0) {tokens : List Token} :
    (∃ placed, scan t = (placed, none) ∧ placed.map Placed.token = tokens) ↔
      Lexes [] t tokens := by
  simp only [scan_eq_iff, h, List.drop_zero]
  constructor
  · rintro ⟨placed, hscans, rfl⟩
    exact hscans.lexes
  · intro hlexes
    exact hlexes.scans 0

end Syntax

open Syntax

/-! ### Texts of heads -/

/-- A type without arguments heads its literal as it stands. -/
theorem withTurbofish_of_not_mem {type : Text} (h : '<' ∉ type) : withTurbofish type = type := by
  have hbehind : type.dropWhile (· != '<') = [] := by
    rw [List.dropWhile_eq_nil_iff]
    intro c hc
    simpa using ne_of_mem_of_not_mem hc h
  simp [withTurbofish, hbehind]

/-- The text is cut at the first `<`, and what stands before loses the blanks at its end. -/
theorem withTurbofish_append {names gap rest : Text} (hfirst : '<' ∉ names)
    (hgap : ∀ c ∈ gap, isBlank c) (hend : trimEnd names = names) :
    withTurbofish (names ++ (gap ++ '<' :: rest)) =
      if "::".toList <:+ names then names ++ (gap ++ '<' :: rest)
      else names ++ ':' :: ':' :: '<' :: rest := by
  have hfront : ∀ c ∈ names ++ gap, (c != '<') = true := by
    intro c hc
    rw [bne_iff_ne]
    rintro rfl
    rcases List.mem_append.mp hc with hc | hc
    · exact hfirst hc
    · exact absurd (hgap _ hc) (by decide)
  have hbefore : (names ++ gap ++ '<' :: rest).takeWhile (· != '<') = names ++ gap := by
    rw [List.takeWhile_append_of_pos hfront]
    simp
  have hbehind : (names ++ gap ++ '<' :: rest).dropWhile (· != '<') = '<' :: rest := by
    rw [List.dropWhile_append_of_pos hfront]
    simp
  rw [← List.append_assoc, withTurbofish, hbefore, hbehind, trimEnd_append_blanks hgap, hend]
  simp only [List.isEmpty_cons, Bool.false_or, List.isSuffixOf_iff_suffix]
  split
  · rfl
  · simp

-- the second list of arguments has no colons in front of it
example : withTurbofish "A<B>::C<D>".toList = "A::<B>::C<D>".toList := by decide

/-! ### Tokens of heads -/

theorem literalHead_eq_ok_iff {type head : Text} : literalHead type = .ok head ↔
    (∃ node path, TypeExpr.read type = .ok (.path node false path)) ∧
      head = withTurbofish type := by
  rw [literalHead]
  split
  · next fault hread => simp [hread]
  · next node path hread => simp [hread, eq_comm]
  · next other hother hread =>
    simp only [reduceCtorEq, false_iff, not_and, forall_exists_index]
    rintro node path hpath
    rw [hread] at hpath
    exact absurd (Except.ok.inj hpath) (hother node path)

/-- The first `<`, behind the text `names ++ gap`, opens the arguments of a name: no comment stands
before it, and the scanner takes it for a token. -/
structure OpensArguments (names gap rest : Text) : Prop where
  named : ∃ c ∈ names.getLast?, isIdentContinue c
  uncommented : '/' ∉ names
  first : '<' ∉ names
  blanks : ∀ c ∈ gap, isBlank c
  reached : StandsAt (names ++ gap) ('<' :: rest)

namespace OpensArguments

variable {names gap rest : Text}

theorem endsInName (h : OpensArguments names gap rest) : EndsInName names where
  uncommented := h.uncommented
  named c hc := by
    obtain ⟨d, hd, hname⟩ := h.named
    rw [Option.mem_def.mp hc] at hd
    rwa [← Option.some.inj hd] at hname

/-- The scanner does not read a byte order mark, so none is at the start. -/
theorem markLength_eq (h : OpensArguments names gap rest) (t : Text) :
    markLength (names ++ t) = 0 := by
  obtain ⟨d, hd, -⟩ := h.named
  obtain ⟨c, front, rfl⟩ := List.exists_cons_of_ne_nil (l := names) (by rintro rfl; cases hd)
  obtain ⟨n, tokens, hone, -, -⟩ := StandsAt.step_iff.mp h.reached
  rw [markLength_eq_zero_iff]
  intro hmark
  obtain rfl : c = byteOrderMark := Option.some.inj hmark
  rw [scanOne_byteOrderMark] at hone
  cases hone

theorem withTurbofish_eq (h : OpensArguments names gap rest) :
    withTurbofish (names ++ (gap ++ '<' :: rest)) = names ++ ':' :: ':' :: '<' :: rest := by
  obtain ⟨c, hc, hname⟩ := h.named
  obtain ⟨front, rfl⟩ := List.getLast?_eq_some_iff.mp hc
  have hblank : isBlank c = false := by
    by_contra hblank
    have hgap := isGap_of_isIdentContinue hname
    rw [isGap_of_isBlank (by simpa using hblank)] at hgap
    cases hgap
  have hend : trimEnd (front ++ [c]) = front ++ [c] :=
    trimEnd_append_of_trimEnd front (List.cons_ne_nil c []) (by simp [trimEnd, hblank])
  rw [withTurbofish_append h.first h.blanks hend, if_neg]
  rintro ⟨before, hbefore⟩
  have hcolon : c = ':' := by simpa [eq_comm] using congrArg List.getLast? hbefore
  rw [hcolon] at hname
  exact absurd hname (by decide)

/-- The tokens of the head are those of the type with two colons in front of the first `<`, and no
other token changes. -/
theorem scan_literalHead (h : OpensArguments names gap rest) {head : Text}
    (hhead : literalHead (names ++ (gap ++ '<' :: rest)) = .ok head) :
    ∃ placed placed' front later, scan (names ++ (gap ++ '<' :: rest)) = (placed, none) ∧
      scan head = (placed', none) ∧ Lexes [] ('<' :: rest) later ∧
        placed.map Placed.token = front ++ later ∧
          placed'.map Placed.token = front ++ (turbofish ++ later) := by
  obtain ⟨⟨node, path, hread⟩, rfl⟩ := literalHead_eq_ok_iff.mp hhead
  obtain ⟨tokens, htokens, -⟩ := TypeExpr.read_eq_ok_iff.mp hread
  obtain ⟨placed, hscans, -⟩ := Tokens.read_eq_ok_iff.mp htokens
  have hscan := scan_eq_iff.mpr hscans
  rw [h.markLength_eq, List.drop_zero] at hscans
  obtain ⟨ts, hreached⟩ := h.reached
  have hangle : Halts ('<' :: rest) := halts_of_head (by decide +kernel) (by decide) (by decide)
  have hcolon : Halts (':' :: ':' :: '<' :: rest) :=
    halts_of_head (by decide +kernel) (by decide) (by decide)
  obtain ⟨front, hfront⟩ := hreached.front h.endsInName h.blanks hangle
  obtain ⟨later, hlater, htype⟩ := (hfront _ _ (halts_gap h.blanks hangle)).mp hscans.lexes
  rw [Lexes.gaps_iff fun c hc => isGap_of_isBlank (h.blanks c hc)] at hlater
  have hlexes : Lexes [] (names ++ ':' :: ':' :: '<' :: rest) (front ++ (turbofish ++ later)) :=
    (hfront _ _ hcolon).mpr ⟨_, Lexes.turbofish_iff.mpr ⟨later, hlater, rfl⟩, rfl⟩
  rw [h.withTurbofish_eq]
  obtain ⟨placed', hscan', hplaced'⟩ := (scan_eq_iff_lexes (h.markLength_eq _)).mpr hlexes
  exact ⟨placed, placed', front, later, hscan, hscan', hlater, htype, hplaced'⟩

end OpensArguments

end MapperGen
