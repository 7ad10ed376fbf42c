import MapperGen.Proofs.Syntax.Nesting
import MapperGen.Proofs.Syntax.RespacedLiteral
import MapperGen.Proofs.Syntax.ScanLocality
import Mathlib.Data.List.Forall2

/-!
# Tokens of respaced texts

A text that differs from another one in blanks before line feeds only has the same tokens, nested in
the same way. Only comments that document and quoted literals of several lines may differ, and these
as the texts do.
-/

namespace MapperGen.Syntax

open MapperGen.Text

/-! ### Comments -/

/-- The same token, but that comments and quoted literals of several lines may differ in blanks at
the ends of lines and in empty lines. -/
def Token.Respaced : Token → Token → Prop
  | .literal a, .literal b => a = b ∨ SameQuotes a b ∧ '\n' ∈ a ∧ inkLines a = inkLines b
  | .comment a, .comment b => inkLines a = inkLines b
  | a, b => a = b

theorem Token.Respaced.refl (token : Token) : token.Respaced token := by
  cases token with
  | literal => exact .inl rfl
  | opening | closing | ident | punct | comment => rfl

theorem forall₂_respaced_refl (tokens : List Token) :
    List.Forall₂ Token.Respaced tokens tokens := by
  induction tokens with
  | nil => exact .nil
  | cons token tokens ih => exact .cons (.refl token) ih

theorem forall₂_docTokens {inner : Bool} {a b : Text} (h : inkLines a = inkLines b) :
    List.Forall₂ Token.Respaced (docTokens inner a) (docTokens inner b) := by
  have hbody : List.Forall₂ Token.Respaced
      [.opening .bracket, .ident "doc".toList, .punct '=' false, .comment a, .closing .bracket]
      [.opening .bracket, .ident "doc".toList, .punct '=' false, .comment b, .closing .bracket] :=
    .cons rfl (.cons rfl (.cons rfl (.cons h (.cons rfl .nil))))
  cases inner with
  | false => exact .cons rfl hbody
  | true => exact .cons rfl (.cons rfl hbody)

theorem docComment_respaced {inner : Bool} {a b : Text} {length n : Nat} {tokens : List Token}
    (h : docComment inner length a = some (n, tokens))
    (hreturn : hasBareReturn a = false → hasBareReturn b = false)
    (hlines : inkLines a = inkLines b) (length' : Nat) : ∃ tokens',
      docComment inner length' b = some (length', tokens') ∧
        List.Forall₂ Token.Respaced tokens tokens' := by
  obtain ⟨-, rfl⟩ := docComment_eq_some h
  rw [docComment] at h
  split at h
  · cases h
  · next ha =>
    rw [Bool.not_eq_true] at ha
    rw [docComment, hreturn ha, if_neg (by simp)]
    exact ⟨_, rfl, forall₂_docTokens hlines⟩

theorem hasBareReturn_cons (c : Char) (t : Text) :
    hasBareReturn (c :: t) = (c == '\r' && !startsWith t ['\n'] || hasBareReturn t) := by
  rw [hasBareReturn.eq_def]
  split
  · next heq => cases heq
  · next rest heq =>
    obtain ⟨rfl, rfl⟩ := List.cons.inj heq
    have hline : hasBareReturn ('\n' :: rest) = hasBareReturn rest := by simp [hasBareReturn]
    rw [hline, startsWith_singleton]
    rfl
  · next hnot heq =>
    obtain ⟨rfl, rfl⟩ := List.cons.inj heq
    cases t with
    | nil => rfl
    | cons d t =>
      have hd : d ≠ '\n' := fun h => hnot t (by rw [h])
      simp [startsWith_singleton, hd]
  · next hline hreturn heq =>
    obtain ⟨rfl, rfl⟩ := List.cons.inj heq
    have hc : c ≠ '\r' := hreturn
    simp [hc]

theorem hasBareReturn_respaced {a b : Text} (h : Respaced a b) (ha : hasBareReturn a = false) :
    hasBareReturn b = false := by
  induction h with
  | nil => rfl
  | @keep a b c h ih =>
    rw [hasBareReturn_cons, Bool.or_eq_false_iff] at ha ⊢
    refine ⟨?_, ih ha.2⟩
    by_cases hc : c = '\r'
    · have hstart : startsWith a ['\n'] := by simpa [hc] using ha.1
      obtain ⟨rest, rfl⟩ := startsWith_iff.mp hstart
      obtain ⟨rest', rfl⟩ := h.of_newline
      simp [startsWith_singleton]
    · simp [hc]
  | skip hc h ih =>
    rw [hasBareReturn_cons, Bool.or_eq_false_iff] at ha
    exact ih ha.2

theorem hasBareReturn_line {t : Text} (h : '\n' ∉ t) : hasBareReturn t = false ↔ '\r' ∉ t := by
  induction t with
  | nil => simp [hasBareReturn]
  | cons c t ih =>
    rw [List.mem_cons, not_or] at h
    have hstart : startsWith t ['\n'] = false := by
      rw [← Bool.not_eq_true]
      intro hstart
      obtain ⟨rest, rfl⟩ := startsWith_iff.mp hstart
      exact h.2 List.mem_cons_self
    rw [hasBareReturn_cons, hstart, Bool.or_eq_false_iff, ih h.2, List.mem_cons, not_or,
      Bool.not_false, Bool.and_true, beq_eq_false_iff_ne, ne_comm]

theorem trimEnd_append_blanks {w : Text} (hw : ∀ c ∈ w, isBlank c) (t : Text) :
    trimEnd (t ++ w) = trimEnd t := by
  rw [trimEnd, List.reverse_append, List.dropWhile_append, List.dropWhile_eq_nil_iff.mpr]
  · rfl
  · simpa using hw

theorem lineEnds_line {t : Text} (h : '\n' ∉ t) : lineEnds t = [trimEnd t] := by
  induction t with
  | nil => rfl
  | cons c t ih =>
    rw [List.mem_cons, not_or] at h
    rw [lineEnds_cons (Ne.symm h.1) (ih h.2), trimEnd_cons]

theorem lineContent_cases {t line rest : Text} (hline : t.takeWhile (· != '\n') = line)
    (ht : t = line ++ rest) :
    lineContent t = line ∧ (rest = [] ∨ line.getLast? ≠ some '\r') ∨
      rest ≠ [] ∧ line = lineContent t ++ ['\r'] := by
  have hrest : t.drop line.length = rest := by rw [ht, List.drop_left]
  rw [lineContent, hline, hrest]
  split
  · next h => exact .inl ⟨rfl, by simpa [List.isEmpty_iff] using h⟩
  · next h =>
    simp only [Bool.or_eq_true, List.isEmpty_iff, bne_iff_ne, not_or, not_not] at h
    exact .inr ⟨h.1, (List.dropLast_append_getLast? _ h.2).symm⟩

theorem lineContent_prefix {t line rest : Text} (hline : t.takeWhile (· != '\n') = line)
    (ht : t = line ++ rest) : lineContent t <+: line ∧ trimEnd (lineContent t) = trimEnd line := by
  rcases lineContent_cases hline ht with ⟨heq, -⟩ | ⟨-, heq⟩
  · rw [heq]
    exact ⟨List.prefix_rfl, rfl⟩
  · have hreturn : ∀ c ∈ ['\r'], isBlank c := by simp [isBlank]
    rw [heq]
    exact ⟨List.prefix_append _ _, (trimEnd_append_blanks hreturn _).symm⟩

/-- Of the content of a comment line blanks at its end may go. -/
theorem lineContent_reflow {s t : Text} (h : Reflow s t) : lineContent t <+: lineContent s ∧
    '\n' ∉ lineContent s ∧ inkLines (lineContent s) = inkLines (lineContent t) := by
  obtain ⟨v, p, q, w, hs, ht, hw, hsplit, htsplit, hpq⟩ := h.line
  obtain ⟨hpre, htrim⟩ := lineContent_prefix hs hsplit
  obtain ⟨hpre', htrim'⟩ := lineContent_prefix ht htsplit
  have hnewline : '\n' ∉ v ++ w := fun hmem => by
    rw [← hs] at hmem
    simpa using List.mem_takeWhile_imp hmem
  have hline : '\n' ∉ lineContent s := fun hmem => hnewline (hpre.subset hmem)
  have hline' : '\n' ∉ lineContent t := fun hmem =>
    hnewline (List.mem_append_left w (hpre'.subset hmem))
  refine ⟨?_, hline, ?_⟩
  · rcases lineContent_cases hs hsplit with ⟨heq, -⟩ | ⟨hp, heq⟩
    · rw [heq]
      exact hpre'.trans (List.prefix_append v w)
    · rcases List.eq_nil_or_concat w with rfl | ⟨w, x, rfl⟩
      · rw [List.append_nil] at heq
        -- the carriage return goes from both contents, as a line feed follows in both texts
        have hq : q ≠ [] := by
          rintro rfl
          cases hpq
          exact hp rfl
        rcases lineContent_cases ht htsplit with ⟨-, hq' | hlast⟩ | ⟨-, heq'⟩
        · exact absurd hq' hq
        · exact absurd (by rw [heq]; simp) hlast
        · exact (List.append_inj_left' (heq.symm.trans heq') rfl) ▸ List.prefix_rfl
      · rw [List.concat_eq_append, ← List.append_assoc] at heq
        rw [← List.append_inj_left' heq rfl]
        exact hpre'.trans (List.prefix_append v w)
  · rw [inkLines, inkLines, lineEnds_line hline, lineEnds_line hline', htrim, htrim',
      trimEnd_append_blanks hw]

theorem lineLength_reflow {s t : Text} (h : Reflow s t) :
    Reflow (s.drop (lineLength s)) (t.drop (lineLength t)) := by
  obtain ⟨v, p, q, w, hs, ht, -, hsplit, htsplit, hpq⟩ := h.line
  rw [lineLength, lineLength, hs, ht]
  rwa [hsplit, htsplit, List.drop_left, List.drop_left]

theorem lineComment_reflow {s t : Text} {n : Nat} {tokens : List Token} (h : Reflow s t)
    (hs : lineComment s = some (n, tokens)) : ∃ tokens',
      lineComment t = some (lineLength t, tokens') ∧ List.Forall₂ Token.Respaced tokens tokens' ∧
        Reflow (s.drop n) (t.drop (lineLength t)) := by
  have hrest : Reflow (s.drop n) (t.drop (lineLength t)) := by
    rw [(lineComment_eq_some hs).1]
    exact lineLength_reflow h
  -- the content begins behind a mark without blanks
  have hdoc {inner : Bool} {head : Text} (hhead : startsWith s head) (hlength : head.length = 3)
      (hplain : ∀ c ∈ head, isBlank c = false)
      (hs : docComment inner (lineLength s) (lineContent (s.drop 3)) = some (n, tokens)) :
      ∃ tokens', docComment inner (lineLength t) (lineContent (t.drop 3)) =
        some (lineLength t, tokens') ∧ List.Forall₂ Token.Respaced tokens tokens' := by
    obtain ⟨r, rfl⟩ := startsWith_iff.mp hhead
    obtain ⟨r', rfl, hr⟩ := h.of_append hplain
    rw [List.drop_left' hlength] at hs ⊢
    obtain ⟨hpre, hline, hlines⟩ := lineContent_reflow hr
    refine docComment_respaced hs (fun hreturn => ?_) hlines _
    rw [hasBareReturn_line hline] at hreturn
    rw [hasBareReturn_line fun hmem => hline (hpre.subset hmem)]
    exact fun hmem => hreturn (hpre.subset hmem)
  rw [lineComment] at hs
  rw [lineComment, ← startsWith_reflow h, ← startsWith_reflow h, ← startsWith_reflow h]
  split at hs
  · next hinner =>
    rw [if_pos hinner]
    obtain ⟨tokens', hcomment, htokens⟩ := hdoc hinner (by decide) (by simp [isBlank]) hs
    exact ⟨tokens', hcomment, htokens, hrest⟩
  · next hinner =>
    rw [if_neg hinner]
    split at hs
    · next houter =>
      rw [if_pos houter]
      rw [Bool.and_eq_true] at houter
      obtain ⟨tokens', hcomment, htokens⟩ := hdoc houter.1 (by decide) (by simp [isBlank]) hs
      exact ⟨tokens', hcomment, htokens, hrest⟩
    · next houter =>
      rw [if_neg houter]
      obtain ⟨-, rfl⟩ := Prod.mk.inj (Option.some.inj hs)
      exact ⟨[], rfl, .nil, hrest⟩

theorem slash_mem_of_blockLength {depth n : Nat} {t : Text} (h : blockLength depth t = some n) :
    '/' ∈ t := by
  fun_induction blockLength depth t generalizing n with
  | case1 => cases h
  | case2 | case3 | case4 => simp
  | case5 depth c t hopen hclose ih =>
    obtain ⟨m, hm, rfl⟩ := Option.map_eq_some_iff.mp h
    exact List.mem_cons_of_mem c (ih hm)

theorem blockLength_reflow (depth : Nat) {s t : Text} (h : Reflow s t) :
    (blockLength depth s = none ∧ blockLength depth t = none) ∨
      ∃ x y p q, s = x ++ '*' :: '/' :: p ∧ t = y ++ '*' :: '/' :: q ∧
        blockLength depth s = some (x.length + 2) ∧ blockLength depth t = some (y.length + 2) ∧
          Text.Respaced x y ∧ Reflow p q := by
  fun_induction blockLength depth s generalizing t with
  | case1 =>
    cases h with
    | nil => exact .inl ⟨rfl, rfl⟩
    | last hs => exact .inl ⟨rfl, rfl⟩
  | case2 depth s ih =>
    obtain ⟨t, rfl, hs⟩ := h.of_append (v := ['/', '*']) (by simp [isBlank])
    rcases ih hs with ⟨hnone, hnone'⟩ | ⟨x, y, p, q, rfl, rfl, hlength, hlength', hxy, hpq⟩
    · exact .inl ⟨by rw [hnone]; rfl, by simp [blockLength, hnone']⟩
    · exact .inr ⟨'/' :: '*' :: x, '/' :: '*' :: y, p, q, rfl, rfl, by rw [hlength]; rfl,
        by simp [blockLength, hlength'], .keep _ (.keep _ hxy), hpq⟩
  | case3 depth s hdepth =>
    obtain ⟨t, rfl, hs⟩ := h.of_append (v := ['*', '/']) (by simp [isBlank])
    exact .inr ⟨[], [], s, t, rfl, rfl, rfl, by simp [blockLength, hdepth], .nil, hs⟩
  | case4 depth s hdepth ih =>
    obtain ⟨t, rfl, hs⟩ := h.of_append (v := ['*', '/']) (by simp [isBlank])
    rcases ih hs with ⟨hnone, hnone'⟩ | ⟨x, y, p, q, rfl, rfl, hlength, hlength', hxy, hpq⟩
    · exact .inl ⟨by rw [hnone]; rfl, by simp [blockLength, hdepth, hnone']⟩
    · exact .inr ⟨'*' :: '/' :: x, '*' :: '/' :: y, p, q, rfl, rfl, by rw [hlength]; rfl,
        by simp [blockLength, hdepth, hlength'], .keep _ (.keep _ hxy), hpq⟩
  | case5 depth c s hopen hclose ih =>
    cases h with
    | last hs =>
      refine .inl ⟨?_, rfl⟩
      rw [Option.map_eq_none_iff, Option.eq_none_iff_forall_ne_some]
      intro n hn
      have hslash := hs '/' (List.mem_cons_of_mem c (slash_mem_of_blockLength hn))
      exact absurd hslash (by decide)
    | @keep s t c h =>
      have hstep : blockLength depth (c :: t) = (blockLength depth t).map (· + 1) := by
        rw [blockLength]
        · rintro r rfl hr
          rw [hr] at h
          obtain ⟨s', hs', -⟩ := h.to_cons (by decide)
          exact hopen s' rfl hs'
        · rintro r rfl hr
          rw [hr] at h
          obtain ⟨s', hs', -⟩ := h.to_cons (by decide)
          exact hclose s' rfl hs'
      rw [hstep]
      rcases ih h with ⟨hnone, hnone'⟩ | ⟨x, y, p, q, rfl, rfl, hlength, hlength', hxy, hpq⟩
      · exact .inl ⟨by rw [hnone]; rfl, by rw [hnone']; rfl⟩
      · exact .inr ⟨c :: x, c :: y, p, q, rfl, rfl, by rw [hlength]; rfl, by rw [hlength']; rfl,
          .keep c hxy, hpq⟩
    | @skip c s t hc h =>
      rcases ih h with ⟨hnone, hnone'⟩ | ⟨x, y, p, q, rfl, hy, hlength, hlength', hxy, hpq⟩
      · exact .inl ⟨by rw [hnone]; rfl, hnone'⟩
      · cases y with
        | nil => cases hy
        | cons d y =>
          obtain ⟨rfl, rfl⟩ := List.cons.inj hy
          exact .inr ⟨c :: x, '\n' :: y, p, q, rfl, rfl, by rw [hlength]; rfl, hlength',
            .skip hc hxy, hpq⟩

theorem drop_closed (x p : Text) : (x ++ '*' :: '/' :: p).drop (x.length + 2) = p := by
  rw [← List.drop_drop, List.drop_left]
  rfl

theorem blockComment_reflow {s t : Text} {n : Nat} {tokens : List Token} (h : Reflow s t)
    (hs : blockComment s = some (n, tokens)) : ∃ m tokens', blockComment t = some (m, tokens') ∧
      0 < m ∧ List.Forall₂ Token.Respaced tokens tokens' ∧ Reflow (s.drop n) (t.drop m) := by
  obtain ⟨hlength, -⟩ := blockComment_eq_some hs
  rcases blockLength_reflow 0 h with
    ⟨hnone, -⟩ | ⟨x, y, p, q, rfl, rfl, hlength₀, hlength', hxy, hpq⟩
  · rw [hnone] at hlength
    cases hlength
  obtain rfl := Option.some.inj (hlength₀.symm.trans hlength)
  have hrest : Reflow ((x ++ '*' :: '/' :: p).drop (x.length + 2))
      ((y ++ '*' :: '/' :: q).drop (y.length + 2)) := by
    rwa [drop_closed, drop_closed]
  have hcontent (x p : Text) : (x ++ '*' :: '/' :: p).take (x.length + 2 - 2) = x := by
    rw [Nat.add_sub_cancel, List.take_left]
  have hdoc {inner : Bool} {head : Text} (hhead : startsWith (x ++ '*' :: '/' :: p) head)
      (hthree : head.length = 3) (hplain : ∀ c ∈ head, isBlank c = false)
      (hs : docComment inner (x.length + 2) (x.drop 3) = some (x.length + 2, tokens)) :
      ∃ tokens', docComment inner (y.length + 2) (y.drop 3) = some (y.length + 2, tokens') ∧
        List.Forall₂ Token.Respaced tokens tokens' := by
    have hfront : ∀ c ∈ x.take 3, isBlank c = false := by
      obtain ⟨r, hr⟩ := startsWith_iff.mp hhead
      have htake : head = (x ++ '*' :: '/' :: p).take 3 := by
        rw [← hr, List.take_left' hthree]
      exact fun c hc => hplain c (htake ▸ (List.take_append ▸ List.mem_append_left _ hc))
    have hdrop := hxy.drop hfront
    exact docComment_respaced hs (hasBareReturn_respaced hdrop) hdrop.inkLines_eq _
  rw [blockComment, hlength, Option.bind_some] at hs
  rw [blockComment, hlength', Option.bind_some, ← startsWith_reflow h, ← startsWith_reflow h,
    ← startsWith_reflow h, ← startsWith_reflow h]
  dsimp only at hs ⊢
  rw [hcontent] at hs ⊢
  split at hs
  · next hempty =>
    obtain ⟨-, rfl⟩ := Prod.mk.inj (Option.some.inj hs)
    exact ⟨_, [], if_pos hempty, Nat.succ_pos _, .nil, hrest⟩
  · next hempty =>
    rw [if_neg hempty]
    split at hs
    · next hinner =>
      rw [if_pos hinner]
      obtain ⟨tokens', hcomment, htokens⟩ := hdoc hinner (by decide) (by simp [isBlank]) hs
      exact ⟨_, tokens', hcomment, Nat.succ_pos _, htokens, hrest⟩
    · next hinner =>
      rw [if_neg hinner]
      split at hs
      · next houter =>
        rw [if_pos houter]
        rw [Bool.and_eq_true] at houter
        obtain ⟨tokens', hcomment, htokens⟩ := hdoc houter.1 (by decide) (by simp [isBlank]) hs
        exact ⟨_, tokens', hcomment, Nat.succ_pos _, htokens, hrest⟩
      · next houter =>
        obtain ⟨-, rfl⟩ := Prod.mk.inj (Option.some.inj hs)
        exact ⟨_, [], if_neg houter, Nat.succ_pos _, .nil, hrest⟩

/-! ### Punctuation and identifiers -/

theorem startsComment_reflow {s t : Text} (h : Reflow s t) :
    startsComment s = startsComment t := by
  rw [startsComment, startsComment, startsWith_reflow h, startsWith_reflow h]

theorem isPunct_of_isBlank {c : Char} (h : isBlank c) : isPunct c = false := by
  have hmarks : "~!@#$%^&*-=+|;:,<.>/?'".toList.all (!isBlank ·) := by decide +kernel
  by_contra hc
  rw [Bool.not_eq_false] at hc
  have hplain := List.all_eq_true.mp hmarks c (List.contains_iff_mem.mp hc)
  simp [h] at hplain

theorem startsPunct_reflow {s t : Text} (h : Reflow s t) : startsPunct s = startsPunct t := by
  rw [startsPunct, startsPunct, startsComment_reflow h, headIs_reflow h fun c => isPunct_of_isBlank]

theorem lifetimeQuote_reflow {s t : Text} (h : Reflow s t) :
    lifetimeQuote s = lifetimeQuote t := by
  obtain ⟨v, p, q, rfl, rfl, -, hp, hq, -⟩ := h.word
  rw [lifetimeQuote_append (halts_of_atBlank hp), lifetimeQuote_append (halts_of_atBlank hq)]

theorem punct?_reflow {c : Char} {s t : Text} (h : Reflow s t) :
    punct? (c :: s) = punct? (c :: t) := by
  rw [punct?, punct?, startsPunct_reflow (h.keep c), lifetimeQuote_reflow h, startsPunct_reflow h]

theorem bracket?_reflow {c : Char} {s t : Text} (h : Reflow s t) :
    bracket? (c :: s) = bracket? (c :: t) := by
  rw [bracket?, bracket?, startsWith_reflow (h.keep c) (by decide +kernel)]

theorem bracket?_le_word {v p : Text} {n : Nat} {tokens : List Token} (hv : v ≠ [])
    (hp : AtBlank p) (h : bracket? (v ++ p) = some (n, tokens)) : n ≤ v.length := by
  obtain ⟨c, w, rfl⟩ := List.exists_cons_of_ne_nil hv
  rw [List.cons_append, bracket?, ← List.cons_append, startsWith_atBlank hp (by decide +kernel)] at h
  split at h
  · next hmark =>
    obtain ⟨rfl, -⟩ := Prod.mk.inj (Option.some.inj h)
    exact (startsWith_iff.mp hmark).length_le
  · split at h
    · obtain ⟨rfl, -⟩ := Prod.mk.inj (Option.some.inj h)
      simp
    · obtain ⟨rfl, -⟩ := Prod.mk.inj (Option.some.inj h)
      simp
    · cases h

/-! ### The scanner -/

theorem scanOne_gap_reflow {s t : Text} {n : Nat} {tokens : List Token} (h : Reflow s t)
    (hgap : headIs isGap s) (hs : scanOne s = some (n, tokens)) : tokens = [] ∧
      ∃ m, scanOne t = some (m + 1, []) ∧ Reflow (s.drop n) (t.drop (m + 1)) := by
  have hgap' : headIs isGap t := by
    cases h with
    | nil => cases hgap
    | last hs => rfl
    | keep c h => exact hgap
    | skip hc h => rfl
  have hpos : 0 < (t.takeWhile isGap).length := by
    cases t with
    | nil => cases hgap'
    | cons c t => simp [List.takeWhile_cons_of_pos (p := isGap) hgap']
  rw [scanOne, if_pos hgap] at hs
  obtain ⟨rfl, rfl⟩ := Prod.mk.inj (Option.some.inj hs)
  refine ⟨rfl, (t.takeWhile isGap).length - 1, ?_, ?_⟩
  · rw [scanOne, if_pos hgap', Nat.sub_add_cancel hpos]
  · rw [Nat.sub_add_cancel hpos, drop_takeWhile, drop_takeWhile]
    exact h.dropWhile fun c => isGap_of_isBlank

theorem literal?_reflow {s t : Text} {n : Nat} {tokens : List Token} (h : Reflow s t)
    (hs : literal? s = some (n, tokens)) : ∃ m tokens', literal? t = some (m, tokens') ∧
      (0 < n → 0 < m) ∧ List.Forall₂ Token.Respaced tokens tokens' ∧
        Reflow (s.drop n) (t.drop m) := by
  obtain ⟨hlength, rfl⟩ := literal?_eq_some hs
  obtain ⟨m, hm, hfronts, hquotes⟩ := literalLength_reflow h hlength
  refine ⟨m, [.literal (t.take m)], by rw [literal?, hm, Option.map_some], hfronts.pos,
    .cons ?_ .nil, hfronts.rest⟩
  rcases hfronts.front.eq_or_mem with heq | hmem
  · exact .inl heq
  · exact hquotes.imp id fun hsame => ⟨hsame, hmem, hfronts.front.inkLines_eq⟩

theorem token?_reflow {c : Char} {s t : Text} {n : Nat} {tokens : List Token}
    (h : Reflow s t) (hs : token? (c :: s) = some (n, tokens)) : ∃ m tokens',
      token? (c :: t) = some (m, tokens') ∧ (0 < n → 0 < m) ∧
        List.Forall₂ Token.Respaced tokens tokens' ∧ Reflow ((c :: s).drop n) ((c :: t).drop m) := by
  have hcons := h.keep c
  have hbracket := bracket?_reflow (c := c) h
  have hpunct := punct?_reflow (c := c) h
  obtain ⟨v, p, q, rfl, rfl, -, hp, hq, hpq⟩ := h.word
  rw [← List.cons_append, ← List.cons_append] at *
  have hpe := halts_of_atBlank hp
  have hqe := halts_of_atBlank hq
  -- all but literals stand within the word
  have hsame (hn : n ≤ (c :: v).length) (ht : token? (c :: v ++ q) = some (n, tokens)) :
      ∃ m tokens', token? (c :: v ++ q) = some (m, tokens') ∧ (0 < n → 0 < m) ∧
        List.Forall₂ Token.Respaced tokens tokens' ∧
          Reflow ((c :: v ++ p).drop n) ((c :: v ++ q).drop m) :=
    ⟨n, tokens, ht, id, forall₂_respaced_refl tokens, (Fronts.of_word hpq hn).rest⟩
  rw [token?] at hs
  simp only [Option.or_eq_some_iff] at hs
  obtain ((hs | ⟨hnone, hs⟩) | ⟨hnone, hs⟩) | ⟨hnone, hs⟩ := hs
  · refine hsame (bracket?_le_word (by simp) hp hs) ?_
    rw [token?, ← hbracket, hs]
    rfl
  · obtain ⟨m, tokens', ht, hrest⟩ := literal?_reflow hcons hs
    refine ⟨m, tokens', ?_, hrest⟩
    rw [token?, ← hbracket, hnone, ht]
    rfl
  · simp only [Option.or_eq_none_iff, literal?, Option.map_eq_none_iff] at hnone
    have hliteral := literalLength_none_swap hpe hqe hnone.2 (.inl (by rw [hs]; rfl))
    obtain ⟨-, -, -, -, -, rfl, -⟩ := punct?_eq_some hs
    refine hsame (by simp) ?_
    rw [token?, ← hbracket, hnone.1, literal?, hliteral, ← hpunct, hs]
    rfl
  · simp only [Option.or_eq_none_iff, literal?, Option.map_eq_none_iff] at hnone
    rw [ident?_append hpe] at hs
    have hliteral := literalLength_none_swap hpe hqe hnone.1.2 (.inr (by rw [hs]; rfl))
    have hle : n ≤ (c :: v).length := anyIdentLength_le (ident?_eq_some hs).1
    refine hsame hle ?_
    rw [token?, ← hbracket, hnone.1.1, literal?, hliteral, ← hpunct, hnone.2, ident?_append hqe, hs]
    rfl

/-- What is read at the start of a text is read at the start of a text that flows alike, and behind
it the texts go on alike. -/
theorem scanOne_reflow {s t : Text} {n : Nat} {tokens : List Token} (h : Reflow s t)
    (hs : scanOne s = some (n + 1, tokens)) : ∃ m tokens', scanOne t = some (m + 1, tokens') ∧
      List.Forall₂ Token.Respaced tokens tokens' ∧ Reflow (s.drop (n + 1)) (t.drop (m + 1)) := by
  by_cases hgap : headIs isGap s
  · obtain ⟨rfl, m, hm, hrest⟩ := scanOne_gap_reflow h hgap hs
    exact ⟨m, [], hm, .nil, hrest⟩
  · have hne : s ≠ [] := by
      rintro rfl
      exact absurd (scanOne_le hs) (by simp)
    obtain ⟨c, s, rfl⟩ := List.exists_cons_of_ne_nil hne
    have hc : isBlank c = false := by
      by_contra hc
      rw [Bool.not_eq_false] at hc
      exact hgap (isGap_of_isBlank hc)
    obtain ⟨t, rfl, h'⟩ := h.of_cons hc
    rw [scanOne, if_neg hgap] at hs
    have hgap' : ¬ headIs isGap (c :: t) := hgap
    rw [scanOne, if_neg hgap', ← startsWith_reflow h, ← startsWith_reflow h]
    split at hs
    · next hline =>
      rw [if_pos hline]
      obtain ⟨tokens', hcomment, htokens, hrest⟩ := lineComment_reflow h hs
      obtain ⟨rest, hrest'⟩ := startsWith_iff.mp ((startsWith_reflow h).symm.trans hline)
      obtain ⟨m, hm⟩ : ∃ m, lineLength (c :: t) = m + 1 := by
        rw [← hrest']
        exact ⟨_, rfl⟩
      rw [hm] at hcomment hrest
      exact ⟨m, tokens', hcomment, htokens, hrest⟩
    · next hline =>
      rw [if_neg hline]
      split at hs
      · next hblock =>
        rw [if_pos hblock]
        obtain ⟨m, tokens', hcomment, hpos, htokens, hrest⟩ := blockComment_reflow h hs
        obtain ⟨m, rfl⟩ := Nat.exists_eq_succ_of_ne_zero hpos.ne'
        exact ⟨m, tokens', hcomment, htokens, hrest⟩
      · next hblock =>
        rw [if_neg hblock]
        obtain ⟨m, tokens', htoken, hpos, htokens, hrest⟩ := token?_reflow h' hs
        obtain ⟨m, rfl⟩ := Nat.exists_eq_succ_of_ne_zero (hpos (Nat.succ_pos n)).ne'
        exact ⟨m, tokens', htoken, htokens, hrest⟩

theorem Scans.reflow {offset : Nat} {s t : Text} {placed : List Placed}
    (h : Scans [] offset s placed) (hst : Reflow s t) (offset' : Nat) : ∃ placed',
      Scans [] offset' t placed' ∧
        List.Forall₂ Token.Respaced (placed.map Placed.token) (placed'.map Placed.token) := by
  induction h generalizing t offset' with
  | nil offset =>
    cases hst with
    | nil => exact ⟨[], .nil _, .nil⟩
    | last hs =>
      have hgap : scanOne (['\n'] ++ []) = some (0 + 1, []) := rfl
      exact ⟨[], Scans.step hgap le_rfl (.nil _), .nil⟩
  | @step offset n s tokens later h hn hlater ih =>
    rw [List.append_nil] at h
    obtain ⟨m, tokens', ht, htokens, hrest⟩ := scanOne_reflow hst h
    obtain ⟨later', hlater', htokens'⟩ := ih hrest (offset' + (m + 1))
    have hle := scanOne_le ht
    refine ⟨_, .step (by rwa [List.append_nil]) hle hlater', ?_⟩
    rw [List.map_append, List.map_append, List.map_map, List.map_map]
    exact List.rel_append (by simpa [Function.comp_def] using htokens) htokens'

/-! ### Nothing but gaps -/

theorem docComment_ne_nil {inner : Bool} {length n : Nat} {content : Text} :
    docComment inner length content ≠ some (n, []) := by
  intro h
  have hlength := docTokens_length inner content
  rw [← (docComment_eq_some h).2] at hlength
  simp at hlength

theorem lineComment_nil_iff {t : Text} {n : Nat} : lineComment t = some (n, []) ↔
    startsWith t "//!".toList = false ∧
      (startsWith t "///".toList && !startsWith t "////".toList) = false ∧ n = lineLength t := by
  rw [lineComment]
  generalize startsWith t "//!".toList = inner
  generalize (startsWith t "///".toList && !startsWith t "////".toList) = outer
  cases inner <;> cases outer <;> simp [docComment_ne_nil, eq_comm (a := n)]

theorem blockComment_nil_iff {t : Text} {n : Nat} : blockComment t = some (n, []) ↔
    blockLength 0 t = some n ∧ (startsWith t "/**/".toList = true ∨
      startsWith t "/*!".toList = false ∧
        (startsWith t "/**".toList && !startsWith t "/***".toList) = false) := by
  rw [blockComment]
  generalize startsWith t "/**/".toList = hollow
  generalize startsWith t "/*!".toList = inner
  generalize (startsWith t "/**".toList && !startsWith t "/***".toList) = outer
  cases blockLength 0 t with
  | none => simp
  | some length => cases hollow <;> cases inner <;> cases outer <;> simp [docComment_ne_nil]

theorem token?_ne_nil {t : Text} {n : Nat} : token? t ≠ some (n, []) := by
  intro h
  obtain ⟨token, hnil, -⟩ := token?_eq_some h
  cases hnil

/-- A gap, or a comment that does not document, at the start of a text has its like at the start of
a text that it flows from, unless it goes to the end. -/
theorem scanOne_nil_reflow {s t : Text} {m : Nat} (h : Reflow s t)
    (ht : scanOne t = some (m + 1, [])) : t.drop (m + 1) = [] ∨
      ∃ n, scanOne s = some (n + 1, []) ∧ Reflow (s.drop (n + 1)) (t.drop (m + 1)) := by
  have hforth {n : Nat} (hs : scanOne s = some (n + 1, [])) :
      Reflow (s.drop (n + 1)) (t.drop (m + 1)) := by
    obtain ⟨m', tokens', ht', -, hrest⟩ := scanOne_reflow h hs
    obtain ⟨hm, -⟩ := Prod.mk.inj (Option.some.inj (ht.symm.trans ht'))
    rwa [hm]
  have hle := scanOne_le ht
  cases s with
  | nil =>
    cases h with
    | nil => simp at hle
    | last hs => exact .inl (List.drop_eq_nil_of_le (by simp))
  | cons c s =>
    right
    by_cases hgap : isGap c
    · have hs : scanOne (c :: s) = some ((s.takeWhile isGap).length + 1, []) := by
        rw [scanOne, headIs, if_pos hgap, List.takeWhile_cons_of_pos hgap, List.length_cons]
      exact ⟨_, hs, hforth hs⟩
    · have hc : isBlank c = false := by
        by_contra hc
        rw [Bool.not_eq_false] at hc
        exact hgap (isGap_of_isBlank hc)
      obtain ⟨t, rfl, h'⟩ := h.of_cons hc
      suffices hs : ∃ n, scanOne (c :: s) = some (n + 1, []) by
        obtain ⟨n, hs⟩ := hs
        exact ⟨n, hs, hforth hs⟩
      rw [scanOne, headIs, if_neg hgap, startsWith_reflow h, startsWith_reflow h]
      rw [scanOne, headIs, if_neg hgap] at ht
      split at ht
      · next hline =>
        obtain ⟨hinner, houter, -⟩ := lineComment_nil_iff.mp ht
        obtain ⟨n, hn⟩ : ∃ n, lineLength (c :: s) = n + 1 := by
          obtain ⟨rest, hrest⟩ := startsWith_iff.mp hline
          obtain ⟨rfl, -⟩ := List.cons.inj hrest
          exact ⟨_, rfl⟩
        refine ⟨n, ?_⟩
        rw [if_pos hline, lineComment_nil_iff]
        rw [← startsWith_reflow h] at hinner
        rw [← startsWith_reflow h, ← startsWith_reflow h] at houter
        exact ⟨hinner, houter, hn.symm⟩
      · next hline =>
        rw [if_neg hline]
        split at ht
        · next hblock =>
          obtain ⟨hlength, hplain⟩ := blockComment_nil_iff.mp ht
          rcases blockLength_reflow 0 h with
            ⟨-, hnone⟩ | ⟨x, y, p, q, -, -, hlength', -, -, -⟩
          · rw [hnone] at hlength
            cases hlength
          · refine ⟨x.length + 1, ?_⟩
            rw [if_pos hblock, blockComment_nil_iff]
            rw [← startsWith_reflow h, ← startsWith_reflow h, ← startsWith_reflow h,
              ← startsWith_reflow h] at hplain
            exact ⟨hlength', hplain⟩
        · exact absurd ht token?_ne_nil

/-! ### Nesting -/

theorem ofLexeme_sameQuotes {a b : Text} (h : SameQuotes a b) :
    Literal.ofLexeme a = Literal.ofLexeme b := by
  obtain ⟨form, hform, ⟨p, rfl⟩, ⟨q, rfl⟩⟩ := h
  simp only [quotedForms, List.mem_cons, List.not_mem_nil, or_false] at hform
  obtain rfl | rfl | rfl | rfl | rfl | rfl | rfl | rfl := hform
  all_goals rfl

theorem leaf?_respaced {a b : Token} (h : a.Respaced b) (index : Nat) :
    leaf? index a = leaf? index b := by
  cases a with
  | literal a =>
    cases b with
    | literal b =>
      rcases h with rfl | ⟨hquotes, -⟩
      · rfl
      · rw [leaf?, leaf?, ofLexeme_sameQuotes hquotes]
    | opening | closing | ident | punct | comment => cases h
  | comment a =>
    cases b with
    | comment b => rfl
    | opening | closing | ident | punct | literal => cases h
  | opening | closing | ident | punct => rw [show _ = b from h]

theorem forall₂_of_append {R : Token → Token → Prop} {left right tokens : List Token}
    (h : List.Forall₂ R (left ++ right) tokens) : ∃ left' right', tokens = left' ++ right' ∧
      List.Forall₂ R left left' ∧ List.Forall₂ R right right' := by
  induction left generalizing tokens with
  | nil => exact ⟨[], tokens, rfl, .nil, h⟩
  | cons token left ih =>
    cases h with
    | cons htoken h =>
      obtain ⟨left', right', rfl, hleft, hright⟩ := ih h
      exact ⟨_ :: left', right', rfl, .cons htoken hleft, hright⟩

/-- A token can take the place of another one: a bracket that of the same bracket, and any other
token that of one with the same trees. -/
structure Token.NestsAs (a b : Token) : Prop where
  leaf : ∀ index, leaf? index a = leaf? index b
  bracket : leaf? 0 a = none → a = b

theorem Token.NestsAs.refl (token : Token) : token.NestsAs token := ⟨fun _ => rfl, fun _ => rfl⟩

theorem Token.Respaced.nestsAs {a b : Token} (h : a.Respaced b) : a.NestsAs b := by
  refine ⟨leaf?_respaced h, fun hbracket => ?_⟩
  cases a with
  | opening | closing => exact h
  | ident | punct | literal | comment => cases hbracket

theorem Nests.congr {index : Nat} {tokens tokens' : List Token} {trees : List Tree}
    (h : Nests index tokens trees) (htokens : List.Forall₂ Token.NestsAs tokens tokens') :
    Nests index tokens' trees := by
  induction h generalizing tokens' with
  | nil =>
    cases htokens
    exact .nil _
  | leaf htree hrest ih =>
    cases htokens with
    | cons htoken htokens =>
      rw [htoken.leaf] at htree
      exact .leaf htree (ih htokens)
  | group hcontent hrest ihcontent ih =>
    rw [List.cons_append] at htokens
    cases htokens with
    | cons hopening htokens =>
      obtain ⟨inner', rest, rfl, hinner, hbehind⟩ := forall₂_of_append htokens
      cases hbehind with
      | cons hclosing hbehind =>
        have hlength := hinner.length_eq
        have hrest' := ih hbehind
        rw [hlength] at hrest' ⊢
        rw [← hopening.bracket rfl, ← hclosing.bracket rfl]
        exact .group (ihcontent hinner) hrest'

theorem Nests.respaced {index : Nat} {tokens tokens' : List Token} {trees : List Tree}
    (h : Nests index tokens trees) (htokens : List.Forall₂ Token.Respaced tokens tokens') :
    Nests index tokens' trees := h.congr (htokens.imp fun _ _ => Token.Respaced.nestsAs)

end MapperGen.Syntax
