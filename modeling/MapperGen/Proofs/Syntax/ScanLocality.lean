import MapperGen.Proofs.Syntax.TokenForm

/-!
# Locality of scanning

What is read at the start of a text hangs on the characters up to the next edge only. So a part of a
text that ends with a token has the same tokens wherever it stands, but for the question whether its
last character is joint with the next one.
-/

namespace MapperGen.Syntax

open MapperGen.Text

/-! ### Comments -/

theorem lineLength_append_newline {line : Text} (hline : '\n' ∉ line) (t : Text) :
    lineLength (line ++ '\n' :: t) = line.length := by
  rw [lineLength, List.takeWhile_append_of_pos fun c hc => by
    simpa using fun heq : c = '\n' => hline (heq ▸ hc)]
  simp

theorem lineContent_append_newline {line : Text} (hline : '\n' ∉ line) (t u : Text) :
    lineContent (line ++ '\n' :: t) = lineContent (line ++ '\n' :: u) := by
  have htake (t : Text) : (line ++ '\n' :: t).takeWhile (· != '\n') = line := by
    rw [List.takeWhile_append_of_pos fun c hc => by
      simpa using fun heq : c = '\n' => hline (heq ▸ hc)]
    simp
  rw [lineContent, lineContent, htake, htake]
  simp

theorem startsWith_append_newline {line head : Text} (hhead : '\n' ∉ head) (t : Text) :
    startsWith (line ++ '\n' :: t) head = startsWith line head :=
  startsWith_append_of_head fun c hc => by
    obtain rfl : '\n' = c := by simpa using hc
    exact hhead

theorem docComment_append_newline {line : Text} (hline : '\n' ∉ line) {inner : Bool} {head : Text}
    (hhead : startsWith line head) (hlength : head.length = 3) (t u : Text) :
    docComment inner (lineLength (line ++ '\n' :: t)) (lineContent ((line ++ '\n' :: t).drop 3)) =
      docComment inner (lineLength (line ++ '\n' :: u))
        (lineContent ((line ++ '\n' :: u).drop 3)) := by
  have hle := (startsWith_iff.mp hhead).length_le
  have hdrop : '\n' ∉ line.drop 3 := fun hmem => hline (List.mem_of_mem_drop hmem)
  rw [lineLength_append_newline hline, lineLength_append_newline hline,
    List.drop_append_of_le_length (by omega), List.drop_append_of_le_length (by omega),
    lineContent_append_newline hdrop t u]

theorem lineComment_append_newline {line : Text} (hline : '\n' ∉ line) (t u : Text) :
    lineComment (line ++ '\n' :: t) = lineComment (line ++ '\n' :: u) := by
  have hstart (head : Text) (hhead : '\n' ∉ head) :
      startsWith (line ++ '\n' :: t) head = startsWith (line ++ '\n' :: u) head := by
    rw [startsWith_append_newline hhead, startsWith_append_newline hhead]
  rw [lineComment, lineComment, hstart _ (by decide), hstart _ (by decide), hstart _ (by decide)]
  split
  · next h =>
    rw [startsWith_append_newline (by decide)] at h
    exact docComment_append_newline hline h rfl t u
  · split
    · next h =>
      rw [Bool.and_eq_true, startsWith_append_newline (by decide)] at h
      exact docComment_append_newline hline h.1 rfl t u
    · rw [lineLength_append_newline hline, lineLength_append_newline hline]

theorem four_le_of_blockLength {t : Text} {n : Nat} (hstart : startsWith t ['/', '*'])
    (h : blockLength 0 t = some n) : 4 ≤ n := by
  obtain ⟨rest, rfl⟩ := startsWith_iff.mp hstart
  obtain ⟨m, hm, rfl⟩ := Option.map_eq_some_iff.mp h
  have hlong := two_le_of_blockLength hm
  omega

theorem blockComment_swap {v p q : Text} {n : Nat} {tokens : List Token}
    (hstart : startsWith (v ++ p) ['/', '*']) (h : blockComment (v ++ p) = some (n, tokens))
    (hn : n ≤ v.length) : blockComment (v ++ q) = some (n, tokens) := by
  have hlength := (blockComment_eq_some h).1
  have hlong := four_le_of_blockLength hstart hlength
  have hswap := (blockLength_selfDelimiting 0).swap (q := q) hlength hn
  have hhead (head : Text) (hle : head.length ≤ 4) (u : Text) :
      startsWith (v ++ u) head = startsWith v head := startsWith_append_of_length (by omega)
  have htake (u : Text) : (v ++ u).take (n - 2) = v.take (n - 2) :=
    List.take_append_of_le_length (by omega)
  rw [blockComment, hlength] at h
  rw [blockComment, hswap]
  simp only [Option.bind_some, htake] at h ⊢
  rw [hhead _ (by decide), hhead _ (by decide), hhead _ (by decide), hhead _ (by decide)] at h ⊢
  exact h


/-! ### Punctuation, brackets and identifiers -/

/-- The token, where it does not matter whether it is joint with the next one. -/
def Token.unjoined : Token → Token
  | .punct c _ => .punct c false
  | token => token

theorem startsWith_slash_append {v p : Text} {c : Char} (hp : AtEdge p) (hc : isEdge c = false ∨ c = '/')
    (hv : v ≠ []) (hslash : v = ['/'] → ¬ startsWith p ['/']) :
    startsWith (v ++ p) ['/', c] = startsWith v ['/', c] := by
  rcases v with _ | ⟨a, _ | ⟨b, v⟩⟩
  · exact absurd rfl hv
  · by_cases ha : a = '/'
    · subst ha
      cases p with
      | nil => rfl
      | cons d p =>
        have hd : ¬ c = d := by
          rintro rfl
          rcases hc with hc | rfl
          · simp [atEdge_cons.mp hp] at hc
          · exact hslash rfl (by simp [startsWith, dropHead?])
        simp [startsWith, dropHead?, hd]
    · simp [startsWith, dropHead?, Ne.symm ha]
  · exact startsWith_append_of_length (by simp)

theorem startsComment_append {v p : Text} (hp : AtEdge p) (hv : v ≠ [])
    (hslash : v = ['/'] → ¬ startsWith p ['/']) : startsComment (v ++ p) = startsComment v := by
  rw [startsComment, startsComment, startsWith_slash_append hp (.inr rfl) hv hslash,
    startsWith_slash_append hp (.inl (by decide)) hv hslash]

theorem startsPunct_congr {v p q : Text} (hv : v ≠ [])
    (hcomment : startsComment (v ++ q) = startsComment (v ++ p)) :
    startsPunct (v ++ q) = startsPunct (v ++ p) := by
  obtain ⟨c, v, rfl⟩ := List.exists_cons_of_ne_nil hv
  rw [startsPunct, startsPunct, hcomment]
  rfl

theorem lifetimeQuote_append {v p : Text} (hp : Halts p) :
    lifetimeQuote (v ++ p) = lifetimeQuote v := by
  rw [lifetimeQuote, lifetimeQuote, anyIdentLength_append hp]
  split
  · rfl
  · next n hn =>
    dsimp only
    rw [List.drop_append_of_le_length (anyIdentLength_le hn),
      startsWith_append hp (by decide +kernel), startsWith_append hp (by decide +kernel),
      startsWith_append hp (by decide +kernel)]

theorem punct?_congr {v p q : Text} {n : Nat} {tokens : List Token} (hp : Halts p) (hq : Halts q)
    (hv : v ≠ []) (hstart : startsComment (v ++ q) = startsComment (v ++ p))
    (h : punct? (v ++ p) = some (n, tokens)) : ∃ tokens', punct? (v ++ q) = some (n, tokens') ∧
      tokens'.map Token.unjoined = tokens.map Token.unjoined ∧
      (startsPunct (v.tail ++ q) = startsPunct (v.tail ++ p) → tokens' = tokens) := by
  have hpunct := startsPunct_congr hv hstart
  obtain ⟨c, v, rfl⟩ := List.exists_cons_of_ne_nil hv
  rw [List.cons_append, List.cons_append] at hpunct
  rw [List.cons_append, punct?] at h
  rw [List.cons_append, punct?, hpunct]
  split at h
  · cases h
  · next hisPunct =>
    rw [if_neg hisPunct]
    split at h
    · next hquote =>
      rw [if_pos hquote, lifetimeQuote_append hq, ← lifetimeQuote_append hp]
      exact ⟨tokens, h, rfl, fun _ => rfl⟩
    · next hquote =>
      obtain ⟨rfl, rfl⟩ := Prod.mk.inj (Option.some.inj h)
      rw [if_neg hquote]
      refine ⟨_, rfl, rfl, fun hjoint => ?_⟩
      rw [List.tail_cons] at hjoint
      rw [hjoint]

theorem ident?_append {v p : Text} (hp : Halts p) : ident? (v ++ p) = ident? v := by
  have hheads : literalHeads.any (startsWith (v ++ p)) = literalHeads.any (startsWith v) := by
    have hplain : literalHeads.all (·.all (!isStop ·)) := by decide +kernel
    rw [Bool.eq_iff_iff, List.any_eq_true, List.any_eq_true]
    refine exists_congr fun head => and_congr_right fun hmem => ?_
    rw [startsWith_append hp (List.all_eq_true.mp hplain head hmem)]
  rw [ident?, ident?, hheads, anyIdentLength_append hp]
  split
  · rfl
  · cases hn : anyIdentLength v with
    | none => rfl
    | some n =>
      rw [Option.map_some, Option.map_some, List.take_append_of_le_length (anyIdentLength_le hn)]

/-- What an edge other than a slash begins with is in the mark only its last bracket. -/
theorem startsWith_errorMark_append {v q : Text} (hq : AtEdge q) (hslash : ¬ startsWith q ['/'])
    (hv : v ≠ []) (hmark : v ≠ errorMark.dropLast) :
    startsWith (v ++ q) errorMark = startsWith v errorMark := by
  by_cases hlength : errorMark.length ≤ v.length
  · exact startsWith_append_of_length hlength
  · have hshort : ¬ startsWith v errorMark := fun h => hlength (startsWith_iff.mp h).length_le
    have hlong : ¬ startsWith (v ++ q) errorMark := by
      intro h
      have hpre := startsWith_iff.mp h
      have hv' : v <+: errorMark := by
        refine List.prefix_of_prefix_length_le (List.prefix_append v q) hpre ?_
        omega
      obtain ⟨w, hw⟩ := hv'
      rw [← hw, List.prefix_append_right_inj] at hpre
      obtain ⟨rest, rfl⟩ := hpre
      have hvw : v = errorMark.take v.length ∧ w = errorMark.drop v.length := by simp [← hw]
      have hpos : 0 < v.length := List.length_pos_iff.mpr hv
      have hend : v.length ≠ 10 := fun heq => hmark (by rw [hvw.1, heq]; rfl)
      have hlast : v.length < 11 := Nat.lt_of_not_le hlength
      have hcases : ∀ k < 11, 0 < k → k ≠ 10 →
          (errorMark.drop k).head?.all (fun c => !isEdge c || c == '/') := by decide
      have hc := hcases v.length hlast hpos hend
      rw [← hvw.2] at hc
      cases w with
      | nil =>
        have hnil := congrArg List.length hvw.2
        rw [List.length_drop, List.length_nil] at hnil
        change 0 = 11 - v.length at hnil
        omega
      | cons c w =>
        obtain rfl : c = '/' := by simpa [atEdge_cons.mp hq] using hc
        exact hslash (by simp [startsWith, dropHead?])
    rw [Bool.eq_iff_iff]
    exact iff_of_false hlong hshort


/-! ### Beginnings of literals -/

theorem startsWith_of_rawLength {plain : Char → Bool} {t : Text} {n : Nat}
    (h : rawLength plain t = some n) :
    startsWith t ['"'] ∨ startsWith t ['#', '"'] ∨ startsWith t ['#', '#'] := by
  rw [rawLength] at h
  rcases t with _ | ⟨a, t⟩
  · cases h
  · by_cases ha : a = '#'
    · subst ha
      rcases t with _ | ⟨b, t⟩
      · cases h
      · by_cases hb : b = '#'
        · simp [startsWith, dropHead?, hb]
        · have hmarks : ('#' :: b :: t).takeWhile (· == '#') = ['#'] := by simp [hb]
          rw [hmarks] at h
          split at h
          · next hbody =>
            obtain ⟨rfl, -⟩ := List.cons.inj hbody
            simp [startsWith, dropHead?]
          · cases h
    · have hmarks : (a :: t).takeWhile (· == '#') = [] := by simp [ha]
      rw [hmarks] at h
      split at h
      · next hbody =>
        obtain ⟨rfl, -⟩ := List.cons.inj hbody
        simp [startsWith, dropHead?]
      · cases h

/-- Behind the beginning of a raw literal an identifier would be the beginning of a quoted one. -/
theorem ident?_of_raw {v q head : Text} {plain : Char → Bool} {n : Nat} (hq : Halts q)
    (hhead : head <+: v) (hheads : ∀ s ∈ [['"'], ['#', '"'], ['#', '#']],
      ∃ h ∈ literalHeads, h <+: head ++ s)
    (h : rawLength plain (v.drop head.length ++ q) = some n) : ident? v = none := by
  obtain ⟨w, rfl⟩ := hhead
  rw [List.drop_left] at h
  have hstart (s : Text) (hs : s ∈ [['"'], ['#', '"'], ['#', '#']]) (hw : startsWith (w ++ q) s) :
      ident? (head ++ w) = none := by
    obtain ⟨l, hl, hpre⟩ := hheads s hs
    have hplain : [['"'], ['#', '"'], ['#', '#']].all (·.all (!isStop ·)) := by
      decide +kernel
    rw [startsWith_append hq (List.all_eq_true.mp hplain s hs)] at hw
    obtain ⟨rest, rfl⟩ := startsWith_iff.mp hw
    have hany : literalHeads.any (startsWith (head ++ (s ++ rest))) := by
      rw [List.any_eq_true]
      refine ⟨l, hl, startsWith_iff.mpr ?_⟩
      rw [← List.append_assoc]
      exact hpre.trans (List.prefix_append _ _)
    rw [ident?, if_pos hany]
  rcases startsWith_of_rawLength h with h | h | h
  · exact hstart _ (by simp) h
  · exact hstart _ (by simp) h
  · exact hstart _ (by simp) h

theorem punct?_of_not_isPunct {c : Char} {t : Text} (hc : isPunct c = false) :
    punct? (c :: t) = none := by
  simp [punct?, startsPunct, headIs, hc]

theorem ident?_of_head {head v : Text} (hhead : head ∈ literalHeads) (hpre : head <+: v) :
    ident? v = none := by
  have hany : literalHeads.any (startsWith v) :=
    List.any_eq_true.mpr ⟨head, hhead, startsWith_iff.mpr hpre⟩
  rw [ident?, if_pos hany]

theorem ident?_of_not_isIdentStart {c : Char} {t : Text} (hc : isIdentStart c = false)
    (hraw : c ≠ 'r') : ident? (c :: t) = none := by
  have hstart : startsWith (c :: t) ['r', '#'] = false := by
    simp [startsWith, dropHead?, Ne.symm hraw]
  rw [ident?]
  split
  · rfl
  · simp [anyIdentLength, hstart, identLength, hc]

theorem punct?_of_ident? {v q : Text} (h : (ident? v).isSome) : punct? (v ++ q) = none := by
  have hnot : "~!@#$%^&*-=+|;:,<.>/?'".toList.all (fun c => !isIdentStart c && c != 'r') := by
    decide +kernel
  cases v with
  | nil => cases h
  | cons c v =>
    refine punct?_of_not_isPunct ?_
    by_contra hpunct
    rw [Bool.not_eq_false] at hpunct
    have hc := List.all_eq_true.mp hnot c (List.contains_iff_mem.mp hpunct)
    simp only [Bool.and_eq_true, Bool.not_eq_true', bne_iff_ne] at hc
    rw [ident?_of_not_isIdentStart hc.1 hc.2] at h
    cases h

theorem charLength_of_lifetimeQuote {v q : Text} (hq : Halts q) (hquote : lifetimeQuote v)
    (hchar : (Quoting.text.charLength (v ++ q)).isSome) : (Quoting.text.charLength v).isSome := by
  cases v with
  | nil => cases hquote
  | cons c v =>
    have hc : c ≠ '\\' := by
      rintro rfl
      have hnone : anyIdentLength ('\\' :: v) = none := by
        simp [anyIdentLength, identLength, startsWith, dropHead?, show isIdentStart '\\' = false by
          decide +kernel]
      simp [lifetimeQuote, hnone] at hquote
    have hunit (t : Text) : Quoting.text.unitLength (c :: t) = some 1 := by
      rw [Quoting.unitLength]
      · rfl
      · exact hc
    rw [List.cons_append, Quoting.charLength, hunit] at hchar
    rw [Quoting.charLength, hunit]
    simp only [List.drop_succ_cons, List.drop_zero] at hchar ⊢
    rwa [startsWith_append hq (by decide +kernel)] at hchar

theorem charLength_none_swap {w p q : Text} (hp : Halts p) (hq : Halts q)
    (h : Quoting.text.charLength (w ++ p) = none)
    (hother : (punct? (['\''] ++ w ++ p)).isSome) : Quoting.text.charLength (w ++ q) = none := by
  have hquote : lifetimeQuote w := by
    rw [List.append_assoc, List.singleton_append, punct?] at hother
    rw [← lifetimeQuote_append hp]
    by_contra hnone
    simp [hnone] at hother
  by_contra hclosed
  obtain ⟨m, hm⟩ := Option.isSome_iff_exists.mp
    (charLength_of_lifetimeQuote hq hquote (Option.isSome_iff_ne_none.mpr hclosed))
  have hsome := (Quoting.charLength_selfDelimiting _).append (q := p) hm
  rw [h] at hsome
  cases hsome

theorem literalLength_none_swap {v p q : Text} (hp : Halts p) (hq : Halts q)
    (h : literalLength (v ++ p) = none)
    (hother : (punct? (v ++ p)).isSome ∨ (ident? v).isSome) : literalLength (v ++ q) = none := by
  rw [literalLength_eq, quotedForm?_append hp] at h
  rw [literalLength_eq, quotedForm?_append hq]
  cases hform : quotedForm? v with
  | none =>
    simp only [hform, numberLength_append hp] at h
    simp only [numberLength_append hq, h]
  | some form =>
    obtain ⟨head, body⟩ := form
    have hpre := startsWith_of_quotedForm? hform
    have hself := quotedForm?_selfDelimiting hform
    have hmem := List.mem_of_find?_eq_some hform
    simp only [hform, quotedLength, Option.map_eq_none_iff,
      List.drop_append_of_le_length hpre.length_le] at h ⊢
    cases hbody : body (v.drop head.length ++ q) with
    | none => rfl
    | some n =>
      -- a literal that is closed before `q` only begins neither a word nor, but for the quote of a
      -- lifetime, with a punctuation character
      exfalso
      have hclash (hpunct : head.head?.all (!isPunct ·)) (hident : ident? v = none) :
          False := by
        obtain ⟨w, rfl⟩ := hpre
        rcases hother with hother | hother
        · cases head with
          | nil => simp [quotedForms] at hmem
          | cons c head =>
            have hc : isPunct c = false := by simpa using hpunct
            rw [List.cons_append, List.cons_append, punct?_of_not_isPunct hc] at hother
            cases hother
        · rw [hident] at hother
          cases hother
      simp only [quotedForms, List.mem_cons, Prod.mk.injEq, List.not_mem_nil, or_false] at hmem
      obtain ⟨rfl, rfl⟩ | ⟨rfl, rfl⟩ | ⟨rfl, rfl⟩ | ⟨rfl, rfl⟩ | ⟨rfl, rfl⟩ | ⟨rfl, rfl⟩ | ⟨rfl, rfl⟩ |
        ⟨rfl, rfl⟩ := hmem
      · obtain ⟨w, rfl⟩ := hpre
        exact hclash (by decide) (ident?_of_not_isIdentStart (by decide +kernel) (by decide))
      · exact hclash (by decide) (ident?_of_raw hq hpre (by decide) hbody)
      · exact hclash (by decide) (ident?_of_head (by decide) hpre)
      · exact hclash (by decide) (ident?_of_raw hq hpre (by decide) hbody)
      · exact hclash (by decide) (ident?_of_head (by decide) hpre)
      · exact hclash (by decide) (ident?_of_head (by decide) hpre)
      · exact hclash (by decide) (ident?_of_raw hq hpre (by decide) hbody)
      · obtain ⟨w, rfl⟩ := hpre
        rcases hother with hother | hother
        · have hnone : Quoting.text.charLength (w ++ q) = none :=
            charLength_none_swap hp hq h hother
          rw [show Quoting.text.charLength (w ++ q) = some n from hbody] at hnone
          cases hnone
        · rw [List.singleton_append, ident?_of_not_isIdentStart (by decide +kernel) (by decide)]
            at hother
          cases hother

/-! ### The scanner -/

theorem bracket?_congr {v p q : Text} (hv : v ≠ [])
    (hmark : startsWith (v ++ q) errorMark = startsWith (v ++ p) errorMark) :
    bracket? (v ++ q) = bracket? (v ++ p) := by
  obtain ⟨c, w, rfl⟩ := List.exists_cons_of_ne_nil hv
  rw [List.cons_append, List.cons_append] at hmark ⊢
  rw [bracket?, bracket?, hmark]

theorem takeWhile_swap {v p q : Text} {f : Char → Bool}
    (h : ((v ++ p).takeWhile f).length < v.length) :
    (v ++ q).takeWhile f = (v ++ p).takeWhile f := by
  induction v with
  | nil => simp at h
  | cons c v ih =>
    by_cases hc : f c
    · simp only [List.cons_append, List.takeWhile_cons, hc, if_true, List.length_cons] at h ⊢
      rw [ih (by omega)]
    · simp [hc]

theorem lineComment_swap {v p q : Text} {n : Nat} {tokens : List Token}
    (h : lineComment (v ++ p) = some (n, tokens)) (hn : n < v.length) :
    lineComment (v ++ q) = some (n, tokens) := by
  obtain ⟨rfl, -⟩ := lineComment_eq_some h
  have htake := takeWhile_swap (q := []) hn
  rw [List.append_nil] at htake
  have hpre := List.takeWhile_prefix (l := v) (· != '\n')
  have hline : '\n' ∉ v.takeWhile (· != '\n') := fun hmem => by
    simpa using List.mem_takeWhile_imp hmem
  have hdrop := List.head?_dropWhile_not (· != '\n') v
  have hsplit := List.takeWhile_append_dropWhile (p := (· != '\n')) (l := v)
  cases hrest : v.dropWhile (· != '\n') with
  | nil =>
    rw [hrest, List.append_nil] at hsplit
    rw [lineLength, ← htake, hsplit] at hn
    omega
  | cons c rest =>
    rw [hrest] at hdrop hsplit
    obtain rfl : c = '\n' := by simpa using hdrop
    have hswap := lineComment_append_newline hline (rest ++ q) (rest ++ p)
    rw [← List.cons_append, ← List.cons_append, ← List.append_assoc, ← List.append_assoc, hsplit]
      at hswap
    rw [hswap, h]

theorem token?_congr {v p q : Text} {n : Nat} {tokens : List Token} (hp : Halts p) (hq : Halts q)
    (hv : v ≠ []) (hcomment : startsComment (v ++ q) = startsComment (v ++ p))
    (hmark : startsWith (v ++ q) errorMark = startsWith (v ++ p) errorMark)
    (h : token? (v ++ p) = some (n, tokens)) (hn : n ≤ v.length) :
    ∃ tokens', token? (v ++ q) = some (n, tokens') ∧
      tokens'.map Token.unjoined = tokens.map Token.unjoined ∧
      ((n = 1 → startsPunct (v.tail ++ q) = startsPunct (v.tail ++ p)) → tokens' = tokens) := by
  have hsame (h : token? (v ++ q) = some (n, tokens)) : ∃ tokens',
      token? (v ++ q) = some (n, tokens') ∧
        tokens'.map Token.unjoined = tokens.map Token.unjoined ∧
        ((n = 1 → startsPunct (v.tail ++ q) = startsPunct (v.tail ++ p)) → tokens' = tokens) :=
    ⟨tokens, h, rfl, fun _ => rfl⟩
  rw [token?] at h
  rw [token?, bracket?_congr hv hmark] at hsame ⊢
  simp only [Option.or_eq_some_iff] at h
  obtain ((h | ⟨hnone, h⟩) | ⟨hnone, h⟩) | ⟨hnone, h⟩ := h
  · exact hsame (by simp [h])
  · obtain ⟨hlength, rfl⟩ := literal?_eq_some h
    refine hsame ?_
    rw [hnone, literal?, literalLength_swap hp hq hlength hn]
    simp [List.take_append_of_le_length hn]
  · simp only [Option.or_eq_none_iff, literal?, Option.map_eq_none_iff] at hnone
    have hliteral := literalLength_none_swap hp hq hnone.2 (.inl (by simp [h]))
    obtain ⟨tokens', hpunct, htokens, hjoint⟩ := punct?_congr hp hq hv hcomment h
    obtain ⟨-, -, -, -, -, hone, -⟩ := punct?_eq_some h
    refine ⟨tokens', ?_, htokens, fun heq => hjoint (heq hone)⟩
    simp [hnone.1, literal?, hliteral, hpunct]
  · simp only [Option.or_eq_none_iff, literal?, Option.map_eq_none_iff] at hnone
    rw [ident?_append hp] at h
    have hliteral := literalLength_none_swap hp hq hnone.1.2 (.inr (by simp [h]))
    have hpunct : punct? (v ++ q) = none := punct?_of_ident? (by simp [h])
    refine hsame ?_
    simp [hnone.1.1, literal?, hliteral, hpunct, ident?_append hq, h]

/-- What is read at the start of a text is read as well if the text goes on otherwise behind the part
`w`, as long as no comment begins in one of both only. -/
theorem scanOne_congr {v w p q : Text} {n : Nat} {tokens : List Token} (hp : Halts (w ++ p))
    (hq : Halts (w ++ q)) (hv : v ≠ [])
    (hline : startsWith (v ++ (w ++ q)) ['/', '/'] = startsWith (v ++ (w ++ p)) ['/', '/'])
    (hblock : startsWith (v ++ (w ++ q)) ['/', '*'] = startsWith (v ++ (w ++ p)) ['/', '*'])
    (hmark : startsWith (v ++ (w ++ q)) errorMark = startsWith (v ++ (w ++ p)) errorMark)
    (h : scanOne (v ++ (w ++ p)) = some (n, tokens)) (hn : n ≤ v.length)
    (hlast : n = (v ++ w).length → tokens.length = 1) :
    ∃ tokens', scanOne (v ++ (w ++ q)) = some (n, tokens') ∧
      tokens'.map Token.unjoined = tokens.map Token.unjoined ∧
      ((n = 1 → startsPunct (v.tail ++ (w ++ q)) = startsPunct (v.tail ++ (w ++ p))) →
        tokens' = tokens) := by
  have hgap : headIs isGap (v ++ (w ++ q)) = headIs isGap (v ++ (w ++ p)) := by
    obtain ⟨c, v, rfl⟩ := List.exists_cons_of_ne_nil hv
    rfl
  -- a gap or a comment line that ended with `w` would leave no token, or several
  have hlt (htokens : tokens.length ≠ 1) : n < (v ++ w).length := by
    refine Nat.lt_of_le_of_ne ?_ fun heq => htokens (hlast heq)
    rw [List.length_append]
    omega
  rw [scanOne] at h
  rw [scanOne, hgap, hline, hblock]
  split at h
  · next hisGap =>
    obtain ⟨rfl, rfl⟩ := Prod.mk.inj (Option.some.inj h)
    have hlt := hlt Nat.zero_ne_one
    rw [← List.append_assoc] at hlt
    rw [if_pos hisGap, ← List.append_assoc, ← List.append_assoc, takeWhile_swap hlt]
    exact ⟨[], rfl, rfl, fun _ => rfl⟩
  · next hnotGap =>
    rw [if_neg hnotGap]
    split at h
    · next hisLine =>
      have hlt := hlt (lineComment_eq_some h).2.length_ne_one
      rw [← List.append_assoc] at h
      rw [if_pos hisLine, ← List.append_assoc, lineComment_swap h hlt]
      exact ⟨tokens, rfl, rfl, fun _ => rfl⟩
    · next hnotLine =>
      rw [if_neg hnotLine]
      split at h
      · next hisBlock =>
        rw [if_pos hisBlock, blockComment_swap hisBlock h hn]
        exact ⟨tokens, rfl, rfl, fun _ => rfl⟩
      · next hnotBlock =>
        rw [if_neg hnotBlock]
        refine token?_congr hp hq hv ?_ hmark h hn
        rw [startsComment, startsComment, hline, hblock]

theorem errorMark_eq : errorMark = '(' :: "/*ERROR*/)".toList := by decide

theorem scanOne_errorMark {t : Text} (h : startsWith t errorMark) :
    scanOne t = some (errorMark.length, [.literal errorMark]) := by
  obtain ⟨rest, rfl⟩ := startsWith_iff.mp h
  have hgap : headIs isGap (errorMark ++ rest) = false := rfl
  have hslash (c : Char) : startsWith (errorMark ++ rest) ['/', c] = false := by
    rw [errorMark_eq]
    simp [startsWith, dropHead?]
  have hbracket : bracket? (errorMark ++ rest) = some (errorMark.length, [.literal errorMark]) := by
    have hcons : errorMark ++ rest = '(' :: ("/*ERROR*/)".toList ++ rest) := by
      rw [errorMark_eq, List.cons_append]
    rw [hcons] at h ⊢
    rw [bracket?, if_pos h]
  rw [scanOne, hgap, hslash, hslash, hbracket]
  simp

/-- What is read at the start of a text that goes on at an edge is read as well if it goes on at
another edge, but for a comment. -/
theorem scanOne_swap {v p q : Text} {n : Nat} {tokens : List Token} (hp : AtEdge p) (hq : AtEdge q)
    (hslash : ¬ startsWith q ['/']) (hmark : v ≠ errorMark.dropLast)
    (h : scanOne (v ++ p) = some (n, tokens)) (hpos : 0 < n) (hn : n ≤ v.length)
    (hlast : n = v.length → tokens.length = 1) (hnext : v.drop n = ['/'] → ¬ startsWith p ['/']) :
    ∃ tokens', scanOne (v ++ q) = some (n, tokens') ∧
      tokens'.map Token.unjoined = tokens.map Token.unjoined ∧
      (n < v.length → tokens' = tokens) := by
  have hv : v ≠ [] := by
    rintro rfl
    simp at hn
    omega
  have hstart : v = ['/'] → ¬ startsWith p ['/'] := by
    rintro rfl hcomment
    obtain ⟨rest, rfl⟩ := startsWith_iff.mp hcomment
    have hn' := (lineComment_eq_some h).1
    simp [lineLength] at hn' hn
    omega
  have hslash_iff {c : Char} (hc : isEdge c = false ∨ c = '/') :
      startsWith (v ++ q) ['/', c] = startsWith (v ++ p) ['/', c] := by
    rw [startsWith_slash_append hq hc hv fun _ => hslash, startsWith_slash_append hp hc hv hstart]
  have hmark : startsWith (v ++ q) errorMark = startsWith (v ++ p) errorMark := by
    rw [startsWith_errorMark_append hq hslash hv hmark, Bool.eq_iff_iff]
    constructor
    · intro hstart
      exact startsWith_iff.mpr ((startsWith_iff.mp hstart).trans (List.prefix_append v p))
    · intro hstart
      rw [scanOne_errorMark hstart] at h
      obtain ⟨rfl, -⟩ := Prod.mk.inj (Option.some.inj h)
      rwa [startsWith_append_of_length hn] at hstart
  obtain ⟨tokens', hone, htokens, hjoint⟩ := scanOne_congr (w := []) hp.halts hq.halts hv
    (hslash_iff (.inr rfl)) (hslash_iff (.inl (by decide))) hmark h hn (by simpa using hlast)
  refine ⟨tokens', hone, htokens, fun hlt => hjoint ?_⟩
  rintro rfl
  rw [List.drop_one] at hnext
  have htail : v.tail ≠ [] := List.ne_nil_of_length_pos (by rw [List.length_tail]; omega)
  refine startsPunct_congr htail ?_
  rw [List.nil_append, List.nil_append, startsComment_append hq htail fun _ => hslash,
    startsComment_append hp htail hnext]


/-! ### Parts of a text -/

/-- The part `v` of a text, before the part `p` and behind `offset` characters, is read as some
tokens. What is read last ends where `v` ends. -/
inductive Scans (p : Text) : (offset : Nat) → (v : Text) → List Placed → Prop
  | nil (offset : Nat) : Scans p offset [] []
  | step {offset n : Nat} {v : Text} {tokens : List Token} {later : List Placed}
      (h : scanOne (v ++ p) = some (n + 1, tokens)) (hn : n + 1 ≤ v.length)
      (hlater : Scans p (offset + (n + 1)) (v.drop (n + 1)) later) :
      Scans p offset v (tokens.map (fun token => ⟨token, offset, offset + (n + 1)⟩) ++ later)

/-- As `Scans`, but what is read last is a single token, so neither a gap nor a comment. -/
inductive Stretch (p : Text) : (offset : Nat) → (v : Text) → List Placed → Prop
  | last {offset : Nat} {v : Text} {token : Token} (hv : v ≠ [])
      (h : scanOne (v ++ p) = some (v.length, [token])) :
      Stretch p offset v [⟨token, offset, offset + v.length⟩]
  | step {offset n : Nat} {v : Text} {tokens : List Token} {later : List Placed}
      (h : scanOne (v ++ p) = some (n + 1, tokens)) (hn : n + 1 < v.length)
      (hlater : Stretch p (offset + (n + 1)) (v.drop (n + 1)) later) :
      Stretch p offset v (tokens.map (fun token => ⟨token, offset, offset + (n + 1)⟩) ++ later)

theorem Stretch.scans {p v : Text} {offset : Nat} {placed : List Placed}
    (h : Stretch p offset v placed) : Scans p offset v placed := by
  induction h with
  | @last offset v token hv h =>
    obtain ⟨n, hn⟩ : ∃ n, v.length = n + 1 :=
      Nat.exists_eq_succ_of_ne_zero fun hzero => hv (List.length_eq_zero_iff.mp hzero)
    have hdrop : v.drop (n + 1) = [] := by simp [← hn]
    rw [hn] at h ⊢
    exact .step h hn.ge (hdrop ▸ .nil _)
  | step h hn hlater ih => exact .step h hn.le ih

theorem Stretch.ne_nil {p v : Text} {offset : Nat} {placed : List Placed}
    (h : Stretch p offset v placed) : v ≠ [] := by
  cases h with
  | last hv h => exact hv
  | step h hn hlater =>
    rintro rfl
    simp at hn

/-! ### The whole text -/

theorem scanFrom_passed (n offset : Nat) (t : Text) :
    scanFrom n offset t = scanFrom 0 (offset + n) (t.drop n) := by
  induction t generalizing n offset with
  | nil => simp [scanFrom]
  | cons c t ih =>
    cases n with
    | zero => rfl
    | succ n =>
      rw [scanFrom, ih, List.drop_succ_cons]
      congr 1
      omega

theorem scanFrom_eq_iff {offset : Nat} {t : Text} {placed : List Placed} :
    scanFrom 0 offset t = (placed, none) ↔ Scans [] offset t placed := by
  constructor
  · intro h
    induction hlength : t.length using Nat.strong_induction_on generalizing offset t placed with
    | _ length ih =>
      cases t with
      | nil =>
        obtain ⟨rfl, -⟩ := Prod.mk.inj h
        exact .nil offset
      | cons c t =>
        rw [scanFrom] at h
        cases hone : scanOne (c :: t) with
        | none => simp [hone, placeTokens] at h
        | some r =>
          obtain ⟨n, tokens⟩ := r
          cases n with
          | zero => simp [hone, placeTokens] at h
          | succ n =>
            rw [hone, placeTokens, scanFrom_passed] at h
            obtain ⟨later, stuck, hlater⟩ : ∃ later stuck,
                scanFrom 0 (offset + 1 + n) (t.drop n) = (later, stuck) := ⟨_, _, rfl⟩
            rw [hlater] at h
            obtain ⟨rfl, rfl⟩ := Prod.mk.inj h
            have hle := scanOne_le hone
            rw [List.length_cons] at hle hlength
            refine .step (by rwa [List.append_nil]) hle ?_
            rw [List.drop_succ_cons]
            refine ih _ ?_ (by rw [← hlater]; congr 1; omega) rfl
            rw [List.length_drop]
            omega
  · intro h
    induction h with
    | nil offset => rfl
    | @step offset n v tokens later h hn hlater ih =>
      cases v with
      | nil => simp at hn
      | cons c v =>
        rw [List.append_nil] at h
        rw [List.drop_succ_cons] at ih
        have hoffset : offset + 1 + n = offset + (n + 1) := by omega
        rw [scanFrom, h, placeTokens, scanFrom_passed, hoffset, ih]

/-! ### Other surroundings -/

/-- The same tokens, but that the last ones may differ in whether they are joint. -/
def SameTokens (tokens tokens' : List Token) : Prop :=
  ∃ before last last', tokens = before ++ [last] ∧ tokens' = before ++ [last'] ∧
    last.unjoined = last'.unjoined

theorem SameTokens.append {tokens tokens' : List Token} (before : List Token)
    (h : SameTokens tokens tokens') : SameTokens (before ++ tokens) (before ++ tokens') := by
  obtain ⟨inner, last, last', rfl, rfl, hlast⟩ := h
  exact ⟨before ++ inner, last, last', by simp, by simp, hlast⟩

theorem scanOne_opening {d : Delimiter} {t : Text} (h : ¬ startsWith (d.opening :: t) errorMark) :
    scanOne (d.opening :: t) = some (1, [.opening d]) := by
  have hgap : headIs isGap (d.opening :: t) = false := by cases d <;> rfl
  have hslash (c : Char) : startsWith (d.opening :: t) ['/', c] = false := by
    cases d <;> simp [startsWith, dropHead?, Delimiter.opening]
  rw [scanOne, hgap, hslash, hslash, bracket?, if_neg h, Delimiter.ofOpening?_opening]
  simp

theorem scanOne_closing {d : Delimiter} {t : Text} :
    scanOne (d.closing :: t) = some (1, [.closing d]) := by
  have hgap : headIs isGap (d.closing :: t) = false := by cases d <;> rfl
  have hslash (c : Char) : startsWith (d.closing :: t) ['/', c] = false := by
    cases d <;> simp [startsWith, dropHead?, Delimiter.closing]
  have hmark : ¬ startsWith (d.closing :: t) errorMark := by
    rw [errorMark_eq]
    cases d <;> simp [startsWith, dropHead?, Delimiter.closing]
  have hopening : Delimiter.ofOpening? d.closing = none := by
    cases d <;> simp [Delimiter.ofOpening?, Delimiter.closing]
  rw [scanOne, hgap, hslash, hslash, bracket?, if_neg hmark, hopening, Delimiter.ofClosing?_closing]
  simp

theorem scanOne_block {t : Text} (h : startsWith t ['/', '*']) : scanOne t = blockComment t := by
  obtain ⟨rest, rfl⟩ := startsWith_iff.mp h
  have hgap : headIs isGap (['/', '*'] ++ rest) = false := rfl
  have hline : startsWith (['/', '*'] ++ rest) ['/', '/'] = false := by
    simp [startsWith, dropHead?]
  rw [scanOne, hgap, hline, h]
  simp

theorem scanOne_line {t : Text} (h : startsWith t ['/', '/']) : scanOne t = lineComment t := by
  obtain ⟨rest, rfl⟩ := startsWith_iff.mp h
  have hgap : headIs isGap (['/', '/'] ++ rest) = false := rfl
  rw [scanOne, hgap, h]
  simp

/-- A bracket and a comment are no segment, though a second bracket would make them a literal. -/
theorem Stretch.ne_errorMark {p v : Text} {offset : Nat} {placed : List Placed}
    (h : Stretch p offset v placed) : v ≠ errorMark.dropLast := by
  rintro rfl
  by_cases hmark : startsWith (errorMark.dropLast ++ p) errorMark
  · have hone := scanOne_errorMark hmark
    cases h with
    | last hv h =>
      rw [hone] at h
      cases h
    | step h hn hlater =>
      rw [hone] at h
      cases h
      exact absurd hn (by decide)
  · have hone : scanOne (errorMark.dropLast ++ p) = some (1, [.opening .parenthesis]) :=
      scanOne_opening (d := .parenthesis) hmark
    cases h with
    | last hv h =>
      rw [hone] at h
      cases h
    | step h hn hlater =>
      rw [hone] at h
      cases h
      have hcomment {n : Nat} {tokens : List Token}
          (h : scanOne ("/*ERROR*/".toList ++ p) = some (n, tokens)) :
          n = 9 ∧ tokens.length ≠ 1 := by
        rw [scanOne_block (by simp [startsWith, dropHead?])] at h
        obtain ⟨hlength, htokens⟩ := blockComment_eq_some h
        have hnine : blockLength 0 "/*ERROR*/".toList = some 9 := by simp [blockLength]
        rw [(blockLength_selfDelimiting 0).append hnine] at hlength
        exact ⟨(Option.some.inj hlength).symm, htokens.length_ne_one⟩
      cases hlater with
      | last hv h => exact (hcomment h).2 rfl
      | step h hn hlater =>
        have hnine := (hcomment h).1
        rw [hnine] at hn
        exact absurd hn (by decide)

theorem Stretch.not_slash {p : Text} {offset : Nat} {placed : List Placed}
    (h : Stretch p offset ['/'] placed) : ¬ startsWith p ['/'] := by
  intro hp
  cases h with
  | last hv h =>
    rw [scanOne_line] at h
    · exact (lineComment_eq_some h).2.length_ne_one rfl
    · obtain ⟨rest, rfl⟩ := startsWith_iff.mp hp
      simp [startsWith, dropHead?]
  | step h hn hlater => simp at hn

/-- A part of a text that ends with a token has the same tokens in all surroundings. -/
theorem Stretch.swap {p q v : Text} {offset : Nat} {placed : List Placed} (hp : AtEdge p)
    (hq : AtEdge q) (hslash : ¬ startsWith q ['/']) (h : Stretch p offset v placed)
    (offset' : Nat) : ∃ placed', Stretch q offset' v placed' ∧
      SameTokens (placed.map Placed.token) (placed'.map Placed.token) := by
  induction h generalizing offset' with
  | @last offset v token hv h =>
    have hpos := List.length_pos_iff.mpr hv
    have hlast : Stretch p offset v [⟨token, offset, offset + v.length⟩] := .last hv h
    obtain ⟨tokens', hone, hsame, -⟩ := scanOne_swap hp hq hslash hlast.ne_errorMark h hpos
      le_rfl (fun _ => rfl) (by simp)
    obtain ⟨token', rfl, htoken⟩ := List.map_eq_singleton_iff.mp hsame
    exact ⟨_, .last hv hone, [], token, token', rfl, rfl, htoken.symm⟩
  | @step offset n v tokens later h hn hlater ih =>
    obtain ⟨tokens', hone, -, hsame⟩ := scanOne_swap hp hq hslash
      (Stretch.step h hn hlater).ne_errorMark h (Nat.succ_pos n) hn.le (fun heq => by omega)
      fun heq => (heq ▸ hlater).not_slash
    obtain rfl := hsame hn
    obtain ⟨placed', hplaced, htokens⟩ := ih (offset' + (n + 1))
    refine ⟨_, .step hone hn hplaced, ?_⟩
    rw [List.map_append, List.map_append, List.map_map, List.map_map]
    exact htokens.append _

/-! ### Parts between tokens -/

theorem Scans.drop {p v : Text} {offset i : Nat} {placed : List Placed} {y : Placed}
    (h : Scans p offset v placed) (hy : placed[i]? = some y)
    (hfirst : ∀ x, 0 < i → placed[i - 1]? = some x → x.start ≠ y.start) :
    ∃ k, k ≤ v.length ∧ y.start = offset + k ∧ Scans p (offset + k) (v.drop k) (placed.drop i) := by
  induction h generalizing i with
  | nil offset => simp at hy
  | @step offset n v tokens later h hn hlater ih =>
    by_cases hi : i < tokens.length
    · rw [List.getElem?_append_left (by simpa using hi)] at hy
      obtain ⟨token, -, rfl⟩ := by simpa using hy
      obtain rfl : i = 0 := by
        by_contra hne
        refine hfirst ⟨tokens[i - 1], offset, offset + (n + 1)⟩ (Nat.pos_of_ne_zero hne) ?_ rfl
        rw [List.getElem?_append_left (by simp; omega)]
        simp
      exact ⟨0, Nat.zero_le _, rfl, .step h hn hlater⟩
    · rw [List.getElem?_append_right (by simpa using hi), List.length_map] at hy
      obtain ⟨k, hk, hstart, hscans⟩ := ih hy fun x hpos hx => by
        refine hfirst x (by omega) ?_
        rw [List.getElem?_append_right (by simp; omega), List.length_map, ← hx]
        congr 1
        omega
      rw [List.length_drop] at hk
      refine ⟨n + 1 + k, by omega, by omega, ?_⟩
      rw [List.drop_drop] at hscans
      have hplaced : (tokens.map (fun token => (⟨token, offset, offset + (n + 1)⟩ : Placed)) ++
          later).drop i = later.drop (i - tokens.length) := by
        simp [List.drop_append, Nat.le_of_not_lt hi]
      rw [hplaced, ← Nat.add_assoc]
      exact hscans

/-- The text up to the end of a token that is all that is read at once is a segment. -/
theorem Scans.take {p v : Text} {offset j : Nat} {placed : List Placed} {y : Placed}
    (h : Scans p offset v placed) (hy : placed[j]? = some y)
    (hfirst : ∀ x, 0 < j → placed[j - 1]? = some x → x.start ≠ y.start)
    (hlast : ∀ x, placed[j + 1]? = some x → x.start ≠ y.start) :
    ∃ k, k ≤ v.length ∧ y.stop = offset + k ∧
      Stretch (v.drop k ++ p) offset (v.take k) (placed.take (j + 1)) := by
  induction h generalizing j with
  | nil offset => simp at hy
  | @step offset n v tokens later h hn hlater ih =>
    by_cases hj : j < tokens.length
    · rw [List.getElem?_append_left (by simpa using hj)] at hy
      obtain ⟨token, htoken, rfl⟩ := by simpa using hy
      obtain rfl : j = 0 := by
        by_contra hne
        refine hfirst ⟨tokens[j - 1], offset, offset + (n + 1)⟩ (Nat.pos_of_ne_zero hne) ?_ rfl
        rw [List.getElem?_append_left (by simp; omega)]
        simp
      obtain rfl : tokens = [token] := by
        cases tokens with
        | nil => simp at hj
        | cons t tokens =>
          obtain rfl : t = token := by simpa using htoken
          cases tokens with
          | nil => rfl
          | cons u tokens =>
            exact absurd rfl (hlast ⟨u, offset, offset + (n + 1)⟩ (by simp))
      refine ⟨n + 1, hn, rfl, ?_⟩
      have hlength : (v.take (n + 1)).length = n + 1 := List.length_take_of_le hn
      have hstretch : Stretch (v.drop (n + 1) ++ p) offset (v.take (n + 1))
          [⟨token, offset, offset + (v.take (n + 1)).length⟩] := by
        refine .last (List.ne_nil_of_length_pos (by omega)) ?_
        rw [← List.append_assoc, List.take_append_drop, hlength, h]
      rw [hlength] at hstretch
      simpa using hstretch
    · rw [List.getElem?_append_right (by simpa using hj), List.length_map] at hy
      obtain ⟨k, hk, hstop, hstretch⟩ := ih hy
        (fun x hpos hx => by
          refine hfirst x (by omega) ?_
          rw [List.getElem?_append_right (by simp; omega), List.length_map, ← hx]
          congr 1
          omega)
        fun x hx => by
          refine hlast x ?_
          rw [List.getElem?_append_right (by simp; omega), List.length_map, ← hx]
          congr 1
          omega
      rw [List.length_drop] at hk
      have hne := List.length_pos_iff.mpr hstretch.ne_nil
      rw [List.length_take, List.length_drop] at hne
      refine ⟨n + 1 + k, by omega, by omega, ?_⟩
      have hplaced : (tokens.map (fun token => (⟨token, offset, offset + (n + 1)⟩ : Placed)) ++
          later).take (j + 1) =
            tokens.map (fun token => (⟨token, offset, offset + (n + 1)⟩ : Placed)) ++
              later.take (j - tokens.length + 1) := by
        have hsub : j + 1 - tokens.length = j - tokens.length + 1 := by omega
        have hle : tokens.length ≤ j + 1 := by omega
        rw [List.take_append, List.take_of_length_le (by simpa using hle), List.length_map, hsub]
      rw [hplaced]
      refine .step ?_ ?_ ?_
      · rw [← List.append_assoc, List.take_append_drop, h]
      · rw [List.length_take]
        omega
      · rw [List.drop_take, ← List.drop_drop]
        rwa [Nat.add_sub_cancel_left]

end MapperGen.Syntax
