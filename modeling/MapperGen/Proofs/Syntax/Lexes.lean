import MapperGen.Proofs.Syntax.Reading
import MapperGen.Proofs.Syntax.RespacedScan
import MapperGen.Proofs.Syntax.TokenEnd

/-!
# Cutting a scan

Where the scanner comes to a place between two tokens behind a blank, the tokens in front of the
place do not depend on what stands behind it. So a comment line may be put there, or taken away, and
no other token changes. A place between two tokens stays one if the text is spaced differently, and
texts that leave the same tokens are read alike.
-/

namespace MapperGen.Syntax

open MapperGen.Text

/-! ### Parts and their tokens -/

/-- The part `v` of a text, before the part `p`, leaves the tokens, and the scanner comes to the
place between both parts. -/
inductive Lexes (p : Text) : (v : Text) → List Token → Prop
  | nil : Lexes p [] []
  | step {n : Nat} {v : Text} {tokens later : List Token}
      (h : scanOne (v ++ p) = some (n + 1, tokens)) (hn : n + 1 ≤ v.length)
      (hlater : Lexes p (v.drop (n + 1)) later) : Lexes p v (tokens ++ later)

theorem Scans.lexes {p v : Text} {offset : Nat} {placed : List Placed}
    (h : Scans p offset v placed) : Lexes p v (placed.map Placed.token) := by
  induction h with
  | nil offset => exact .nil
  | step h hn hlater ih =>
    rw [List.map_append, List.map_map, Function.comp_def, List.map_id']
    exact .step h hn ih

theorem Lexes.scans {p v : Text} {tokens : List Token} (h : Lexes p v tokens) (offset : Nat) :
    ∃ placed, Scans p offset v placed ∧ placed.map Placed.token = tokens := by
  induction h generalizing offset with
  | nil => exact ⟨[], .nil offset, rfl⟩
  | @step n v tokens later h hn hlater ih =>
    obtain ⟨placed, hscans, rfl⟩ := ih (offset + (n + 1))
    refine ⟨_, .step h hn hscans, ?_⟩
    rw [List.map_append, List.map_map, Function.comp_def, List.map_id']

namespace Lexes

variable {p q v w : Text} {n : Nat} {tokens us ts : List Token}

theorem step_iff (h : scanOne (v ++ p) = some (n + 1, tokens)) (hn : n + 1 ≤ v.length) :
    Lexes p v us ↔ ∃ later, Lexes p (v.drop (n + 1)) later ∧ us = tokens ++ later := by
  constructor
  · intro hlexes
    cases hlexes with
    | nil => simp at hn
    | @step m _ tokens' later h' hn' hlater =>
      obtain ⟨hm, rfl⟩ := Prod.mk.inj (Option.some.inj (h'.symm.trans h))
      obtain rfl : m = n := Nat.succ.inj hm
      exact ⟨later, hlater, rfl⟩
  · rintro ⟨later, hlater, rfl⟩
    exact .step h hn hlater

/-- One step of the scanner at the start of a whole text. -/
theorem whole_iff {t : Text} (h : scanOne t = some (n + 1, tokens)) :
    Lexes [] t us ↔ ∃ later, Lexes [] (t.drop (n + 1)) later ∧ us = tokens ++ later := by
  have hle := scanOne_le h
  rw [← List.append_nil t] at h
  exact step_iff h hle

/-! ### Gaps -/

theorem dropWhile_iff (t : Text) : Lexes [] t us ↔ Lexes [] (t.dropWhile isGap) us := by
  cases t with
  | nil => rfl
  | cons c t =>
    by_cases hc : isGap c
    · have hone : scanOne (c :: t) = some ((t.takeWhile isGap).length + 1, []) := by
        rw [scanOne, headIs, if_pos hc, List.takeWhile_cons_of_pos hc, List.length_cons]
      rw [whole_iff hone, List.drop_succ_cons, drop_takeWhile, List.dropWhile_cons_of_pos hc]
      simp
    · rw [List.dropWhile_cons_of_neg hc]

/-- Gaps at the start of a text do not matter. -/
theorem gaps_iff {g : Text} (hg : ∀ c ∈ g, isGap c) (t : Text) :
    Lexes [] (g ++ t) us ↔ Lexes [] t us := by
  rw [dropWhile_iff, List.dropWhile_append_of_pos hg, ← dropWhile_iff]

/-- A comment that starts with a blank, and so documents nothing, and the end of its line. -/
theorem comment_iff {t : Text} (ht : '\n' ∉ t) :
    Lexes [] ('/' :: '/' :: ' ' :: (t ++ '\n' :: q)) us ↔ Lexes [] q us := by
  have hlength : lineLength ('/' :: '/' :: ' ' :: (t ++ '\n' :: q)) = t.length + 3 := by
    have hline : ∀ c ∈ '/' :: '/' :: ' ' :: t, (c != '\n') = true := by
      intro c hc
      rw [bne_iff_ne]
      rintro rfl
      simp [ht] at hc
    have hwhole : '/' :: '/' :: ' ' :: (t ++ '\n' :: q) = '/' :: '/' :: ' ' :: t ++ '\n' :: q := rfl
    rw [lineLength, hwhole, List.takeWhile_append_of_pos hline,
      List.takeWhile_cons_of_neg (by simp), List.append_nil]
    rfl
  have hone : scanOne ('/' :: '/' :: ' ' :: (t ++ '\n' :: q)) = some (t.length + 2 + 1, []) :=
    lineComment_nil_iff.mpr ⟨rfl, rfl, hlength.symm⟩
  rw [whole_iff hone]
  have hdrop : ('/' :: '/' :: ' ' :: (t ++ '\n' :: q)).drop (t.length + 2 + 1) = ['\n'] ++ q :=
    List.drop_left
  have hgap : ∀ c ∈ ['\n'], isGap c := List.all_eq_true.mp (by decide)
  have hfeed : Lexes [] (['\n'] ++ q) us ↔ Lexes [] q us := gaps_iff hgap q
  rw [hdrop, ← hfeed]
  simp

/-- Gaps between two braces do not matter. -/
theorem braces_iff {g : Text} (hg : ∀ c ∈ g, isGap c) :
    Lexes [] ('\x7b' :: (g ++ '\x7d' :: q)) us ↔ Lexes [] ('\x7b' :: '\x7d' :: q) us := by
  have hbrace (t : Text) : scanOne ('\x7b' :: t) = some (0 + 1, [.opening .brace]) := by
    refine scanOne_opening (d := .brace) ?_
    rw [errorMark_eq]
    simp [startsWith, dropHead?, Delimiter.opening]
  rw [whole_iff (hbrace _), whole_iff (hbrace _), List.drop_succ_cons, List.drop_succ_cons,
    List.drop_zero, List.drop_zero]
  simp only [gaps_iff hg]

end Lexes

/-! ### Places behind a blank -/

section Place

variable {p q v w g : Text} {n : Nat} {tokens us ts : List Token}

/-- What is read in front of a blank does not depend on what stands behind the blank. -/
theorem scanOne_before_blank {c : Char} (hc : isBlank c)
    (h : scanOne (v ++ c :: p) = some (n + 1, tokens)) (hn : n + 1 ≤ v.length) (q : Text) :
    scanOne (v ++ c :: q) = some (n + 1, tokens) := by
  have hedge (t : Text) : AtEdge ([c] ++ t) :=
    atEdge_cons.mpr (isEdge_of_isGap (isGap_of_isBlank hc))
  have hv : v ≠ [] := List.ne_nil_of_length_pos (by omega)
  have hhead {head : Text} (hhead : head.all (!isBlank ·)) (u : Text) :
      startsWith (u ++ ([c] ++ q)) head = startsWith (u ++ ([c] ++ p)) head := by
    have hblank (t : Text) : AtBlank ([c] ++ t) := atBlank_cons.mpr hc
    rw [startsWith_atBlank (hblank q) hhead, startsWith_atBlank (hblank p) hhead]
  have hmark : errorMark.all (!isBlank ·) := by decide
  obtain ⟨tokens', hone, -, hsame⟩ := scanOne_congr (hedge p).halts (hedge q).halts hv
    (hhead (by decide) v) (hhead (by decide) v) (hhead hmark v) h hn
    (fun heq => by rw [List.length_append, List.length_singleton] at heq; omega)
  rw [← hsame fun _ => ?_]
  · exact hone
  · cases hu : v.tail with
    | nil => simp [startsPunct, headIs, isPunct_of_isBlank hc]
    | cons d u =>
      refine startsPunct_congr (List.cons_ne_nil d u) ?_
      rw [startsComment, startsComment, hhead (by decide), hhead (by decide)]

theorem head_drop_lineLength (t : Text) : ∀ c ∈ (t.drop (lineLength t)).head?, c = '\n' := by
  intro c hc
  rw [lineLength, drop_takeWhile] at hc
  have hnot := List.head?_dropWhile_not (· != '\n') t
  rw [Option.mem_def.mp hc] at hnot
  simpa using hnot

/-- A step that passes a blank and ends in front of the next character that is none, with no line
feed on the way behind the first blank, reads a gap. -/
theorem gap_of_passing {d : Char} (hw : ∀ c ∈ w.getLast?, isBlank c)
    (hg : ∀ c ∈ g, isBlank c ∧ c ≠ '\n') (hd : d ≠ '\n')
    (h : scanOne (w ++ (g ++ d :: p)) = some (n + 1, tokens)) (hwn : w.length ≤ n + 1)
    (hng : n + 1 ≤ w.length + g.length) :
    headIs isGap (w ++ (g ++ d :: p)) = true := by
  have htake : (w ++ (g ++ d :: p)).take (n + 1) = w ++ g.take (n + 1 - w.length) := by
    rw [List.take_append, List.take_of_length_le hwn, List.take_append_of_le_length (by omega)]
  have hdrop : (w ++ (g ++ d :: p)).drop (n + 1) = g.drop (n + 1 - w.length) ++ d :: p := by
    rw [List.drop_append, List.drop_of_length_le hwn, List.nil_append,
      List.drop_append_of_le_length (by omega)]
  rcases endsInked_of_scanOne h with hgap | hline | ⟨c, hc, hink⟩
  · exact hgap
  · -- a comment line ends at a line feed, but none comes next
    exfalso
    have hhead := head_drop_lineLength (w ++ (g ++ d :: p))
    rw [← hline, hdrop] at hhead
    cases hrest : g.drop (n + 1 - w.length) with
    | nil =>
      rw [hrest] at hhead
      exact hd (hhead d rfl)
    | cons e rest =>
      rw [hrest] at hhead
      have hmem : e ∈ g := List.mem_of_mem_drop (hrest ▸ List.mem_cons_self)
      exact (hg e hmem).2 (hhead e rfl)
  · -- what is read ends with the blank of `w`, or with one behind it
    exfalso
    rw [htake, List.getLast?_append] at hc
    have hblank : isBlank c := by
      cases hlast : (g.take (n + 1 - w.length)).getLast? with
      | none =>
        rw [hlast] at hc
        exact hw c hc
      | some e =>
        rw [hlast] at hc
        obtain rfl := Option.some.inj hc
        exact (hg e (List.mem_of_mem_take (List.mem_of_getLast? hlast))).1
    rw [hblank] at hink
    cases hink

/-- Where the scanner comes to a place behind blanks, the first of which ends the part `w`, that
part leaves the same tokens whatever follows it. -/
theorem Lexes.cut {d : Char} (hw : ∀ c ∈ w.getLast?, isBlank c) (hne : w ≠ [])
    (hg : ∀ c ∈ g, isBlank c ∧ c ≠ '\n') (hd : isGap d = false)
    (h : Lexes (d :: p) (w ++ g) ts) :
    Lexes [] (w ++ q) us ↔ ∃ later, Lexes [] q later ∧ us = ts ++ later := by
  have hline : d ≠ '\n' := by
    rintro rfl
    cases hd
  have hgaps : ∀ c ∈ g, isGap c := fun c hc => isGap_of_isBlank (hg c hc).1
  generalize hx : w ++ g = x at h
  induction h generalizing w us with
  | nil =>
    obtain ⟨rfl, -⟩ := List.append_eq_nil_iff.mp hx
    exact absurd rfl hne
  | @step n x tokens later hone hn hlater ih =>
    subst hx
    rw [List.append_assoc] at hone
    rw [List.length_append] at hn
    by_cases hlt : n + 1 < w.length
    · -- the step ends in front of the last character of `w`, which is a blank
      obtain ⟨w', c, rfl⟩ := (List.eq_nil_or_concat' w).resolve_left hne
      have hc : isBlank c := hw c List.getLast?_concat
      rw [List.length_append, List.length_singleton] at hlt
      have hle : n + 1 ≤ w'.length := by omega
      have hdrop (t : Text) : (w' ++ [c] ++ t).drop (n + 1) = w'.drop (n + 1) ++ [c] ++ t := by
        rw [List.append_assoc, List.drop_append_of_le_length hle, List.append_assoc]
      have hstep (us : List Token) : Lexes [] (w'.drop (n + 1) ++ [c] ++ q) us ↔
          ∃ rest, Lexes [] q rest ∧ us = later ++ rest :=
        ih (by simpa using hc) (by simp) (hdrop g).symm
      rw [List.append_assoc, List.singleton_append] at hone
      have hone' := scanOne_before_blank hc hone hle q
      rw [← List.singleton_append, ← List.append_assoc] at hone'
      rw [whole_iff hone', hdrop]
      constructor
      · rintro ⟨middle, hmiddle, rfl⟩
        obtain ⟨rest, hrest, rfl⟩ := (hstep middle).mp hmiddle
        exact ⟨rest, hrest, (List.append_assoc ..).symm⟩
      · rintro ⟨rest, hrest, rfl⟩
        exact ⟨later ++ rest, (hstep _).mpr ⟨rest, hrest, rfl⟩, List.append_assoc ..⟩
    · -- the step passes the blank at the end of `w`: it reads all the gaps up to the place
      have hgap := gap_of_passing hw hg hline hone (by omega) hn
      rw [scanOne, if_pos hgap] at hone
      obtain ⟨hlen, rfl⟩ := Prod.mk.inj (Option.some.inj hone)
      have hrun : w <+: (w ++ (g ++ d :: p)).takeWhile isGap :=
        List.prefix_of_prefix_length_le (List.prefix_append ..) (List.takeWhile_prefix isGap)
          (by omega)
      have hwgap : ∀ c ∈ w, isGap c := fun c hc => List.mem_takeWhile_imp (hrun.subset hc)
      rw [List.takeWhile_append_of_pos hwgap, List.takeWhile_append_of_pos hgaps,
        List.takeWhile_cons_of_neg (by simp [hd]), List.append_nil, List.length_append] at hlen
      rw [← hlen, List.drop_of_length_le (by rw [List.length_append])] at hlater
      cases hlater with
      | nil => simp [gaps_iff hwgap]
      | step _ hn _ => simp at hn

/-- Behind a blank, or at the start, the tokens in front of a place do not depend on what follows. -/
theorem Lexes.place {c : Char} (hw : ∀ c ∈ w.getLast?, isBlank c) (hc : isGap c = false)
    (h : Lexes (c :: p) w ts) :
    Lexes [] (w ++ q) us ↔ ∃ later, Lexes [] q later ∧ us = ts ++ later := by
  by_cases hne : w = []
  · subst hne
    cases h with
    | nil => simp
    | step _ hn _ => simp at hn
  · rw [← List.append_nil w] at h
    exact Lexes.cut hw hne (by simp) hc h

end Place

/-! ### Reflowed texts -/

/-- A place between two tokens is one in every text that flows alike. -/
theorem Lexes.reflow {p v s : Text} {ts : List Token} (h : Lexes p v ts) (hs : Reflow (v ++ p) s) :
    ∃ v' p' ts', s = v' ++ p' ∧ Lexes p' v' ts' ∧ Reflow p p' := by
  induction h generalizing s with
  | nil => exact ⟨[], s, [], rfl, .nil, hs⟩
  | @step n v tokens later hone hn hlater ih =>
    obtain ⟨m, tokens', hone', -, hrest⟩ := scanOne_reflow hs hone
    rw [List.drop_append_of_le_length hn] at hrest
    obtain ⟨v', p', ts', hsplit, hlexes, hp⟩ := ih hrest
    have hle := scanOne_le hone'
    have hs' : s = s.take (m + 1) ++ v' ++ p' := by
      rw [List.append_assoc, ← hsplit, List.take_append_drop]
    have hlen : (s.take (m + 1)).length = m + 1 := List.length_take_of_le hle
    refine ⟨s.take (m + 1) ++ v', p', tokens' ++ ts', hs', ?_, hp⟩
    refine .step (by rwa [← hs']) (by rw [List.length_append, hlen]; omega) ?_
    rw [List.drop_append_of_le_length hlen.ge, List.drop_of_length_le hlen.le, List.nil_append]
    exact hlexes

/-! ### Places -/

/-- The scanner comes to the place between both parts of a text, between two tokens. -/
def StandsAt (v p : Text) : Prop := ∃ tokens, Lexes p v tokens

theorem StandsAt.step_iff {c : Char} {v p : Text} : StandsAt (c :: v) p ↔ ∃ n tokens,
    scanOne (c :: (v ++ p)) = some (n + 1, tokens) ∧ n ≤ v.length ∧ StandsAt (v.drop n) p := by
  constructor
  · rintro ⟨_, hlexes⟩
    cases hlexes with
    | @step n _ tokens later h hn hlater =>
      exact ⟨n, tokens, h, Nat.le_of_succ_le_succ hn, later, hlater⟩
  · rintro ⟨n, tokens, h, hn, later, hlater⟩
    exact ⟨_, .step h (Nat.succ_le_succ hn) hlater⟩

/-- Behind a blank, texts that leave the same tokens by themselves are read alike. -/
theorem StandsAt.congr {w g p x y : Text} {c d : Char} {us : List Token}
    (h : StandsAt (w ++ g) (d :: p)) (hd : isGap d = false) (hw : w.getLast? = some c)
    (hc : isBlank c) (hg : ∀ c ∈ g, isBlank c ∧ c ≠ '\n')
    (hxy : ∀ us, Lexes [] x us ↔ Lexes [] y us) : Lexes [] (w ++ x) us ↔ Lexes [] (w ++ y) us := by
  obtain ⟨ts, hlexes⟩ := h
  have hlast : ∀ c ∈ w.getLast?, isBlank c := by simp [hw, hc]
  have hne : w ≠ [] := by
    rintro rfl
    cases hw
  rw [hlexes.cut hlast hne hg hd, hlexes.cut hlast hne hg hd]
  simp only [hxy]

/-- Whether the scanner comes there. The first `passed` characters of `v` belong to what was just
read. -/
def standsAt (p : Text) (passed : Nat) : (v : Text) → Bool
  | [] => passed == 0
  | c :: v =>
    match passed with
    | n + 1 => standsAt p n v
    | 0 => (scanOne (c :: (v ++ p))).any fun read => 0 < read.1 && standsAt p (read.1 - 1) v

theorem standsAt_iff {p v : Text} {n : Nat} :
    standsAt p n v ↔ n ≤ v.length ∧ StandsAt (v.drop n) p := by
  induction v generalizing n with
  | nil =>
    rw [standsAt, beq_iff_eq, List.length_nil, Nat.le_zero, List.drop_nil]
    exact (and_iff_left ⟨[], .nil⟩).symm
  | cons c v ih =>
    cases n with
    | succ n => rw [standsAt, ih, List.length_cons, Nat.succ_le_succ_iff, List.drop_succ_cons]
    | zero =>
      rw [List.drop_zero, StandsAt.step_iff, standsAt, Option.any_eq_true]
      constructor
      · rintro ⟨⟨m, tokens⟩, hone, hread⟩
        rw [Bool.and_eq_true, decide_eq_true_iff] at hread
        obtain ⟨n, rfl⟩ := Nat.exists_eq_succ_of_ne_zero hread.1.ne'
        exact ⟨Nat.zero_le _, n, tokens, hone, ih.mp hread.2⟩
      · rintro ⟨-, n, tokens, hone, hrest⟩
        exact ⟨(n + 1, tokens), hone, by simpa using ih.mpr hrest⟩

instance (v p : Text) : Decidable (StandsAt v p) :=
  decidable_of_iff (standsAt p 0 v) (by simp [standsAt_iff])

/-! ### Reading -/

/-- Texts whose tokens nest in each other's places have the same items. -/
theorem SourceFile.read_of_nestsAs {R : Token → Token → Prop} (hR : ∀ a b, R a b → a.NestsAs b)
    {s t : Text} {file : SourceFile} (hs : markLength s = 0) (ht : markLength t = 0)
    (h : ∀ ts, Lexes [] s ts → ∃ ts', Lexes [] t ts' ∧ List.Forall₂ R ts ts')
    (hread : SourceFile.read s = .ok file) : ∃ file', SourceFile.read t = .ok file' ∧
      file'.items = file.items ∧ file'.tokens.trees = file.tokens.trees ∧
      List.Forall₂ R file.tokens.sequence file'.tokens.sequence := by
  obtain ⟨htokens, hitems⟩ := SourceFile.read_eq_ok_iff.mp hread
  obtain ⟨before, hscans, hnests, hplaced, -⟩ := Tokens.read_eq_ok_iff.mp htokens
  rw [hs, List.drop_zero] at hscans
  obtain ⟨ts', hlexes, hsame⟩ := h _ hscans.lexes
  obtain ⟨placed, hscans', rfl⟩ := hlexes.scans 0
  have hsize : before.length = placed.length := by simpa using hsame.length_eq
  refine ⟨⟨⟨t, placed.toArray, file.tokens.trees⟩, file.items⟩, ?_, rfl, rfl, ?_⟩
  · rw [SourceFile.read_eq_ok_iff, Tokens.read_eq_ok_iff]
    refine ⟨⟨placed, by rwa [ht], hnests.congr (hsame.imp hR), rfl, rfl⟩, ?_⟩
    rw [hplaced, List.size_toArray] at hitems
    rwa [List.size_toArray, ← hsize]
  · rw [Tokens.sequence, Tokens.sequence, hplaced]
    exact hsame

/-- Texts that leave the same tokens are read alike. -/
theorem SourceFile.read_of_lexes {s t : Text} {file : SourceFile} (hs : markLength s = 0)
    (ht : markLength t = 0) (h : ∀ ts, Lexes [] s ts → Lexes [] t ts)
    (hread : SourceFile.read s = .ok file) : ∃ file', SourceFile.read t = .ok file' ∧
      file'.tokens.trees = file.tokens.trees ∧ file'.tokens.sequence = file.tokens.sequence := by
  have hsame (ts : List Token) : List.Forall₂ Eq ts ts := List.forall₂_refl ts
  have hR (a b : Token) (hab : a = b) : a.NestsAs b := hab ▸ Token.NestsAs.refl a
  obtain ⟨file', hfile', -, htrees, hsequence⟩ :=
    read_of_nestsAs hR hs ht (fun ts hts => ⟨ts, h ts hts, hsame ts⟩) hread
  rw [List.forall₂_eq_eq_eq] at hsequence
  exact ⟨file', hfile', htrees, hsequence.symm⟩

end MapperGen.Syntax
