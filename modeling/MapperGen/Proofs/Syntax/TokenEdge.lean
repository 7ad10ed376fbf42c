import MapperGen.Syntax.Scan
import Mathlib.Data.List.TakeWhile

/-!
# Edges of tokens

How far a token reaches does not depend on what follows it, if that is the end of the text, a gap, a
bracket, a comma, a semicolon or a comment. Quoted literals and block comments end by themselves;
numbers and identifiers end where such an edge begins.
-/

namespace MapperGen.Syntax

open MapperGen.Text

/-! ### Edges -/

/-- The code points of gaps, brackets, the comma, the semicolon, and the slash that begins a
comment. -/
def edgeCodes : List Nat :=
  [0x9, 0xA, 0xB, 0xC, 0xD, 0x20, 0x28, 0x29, 0x2C, 0x2F, 0x3B, 0x5B, 0x5D, 0x7B, 0x7D, 0x85, 0xA0,
    0x1680, 0x2000, 0x2001, 0x2002, 0x2003, 0x2004, 0x2005, 0x2006, 0x2007, 0x2008, 0x2009, 0x200A,
    0x200E, 0x200F, 0x2028, 0x2029, 0x202F, 0x205F, 0x3000]

/-- A character that no identifier, number or lifetime goes on with. -/
def isEdge (c : Char) : Bool := edgeCodes.contains c.toNat

/-- The text is empty or starts with an edge. -/
def AtEdge (t : Text) : Prop := ∀ c ∈ t.head?, isEdge c

theorem atEdge_nil : AtEdge [] := by simp [AtEdge]

theorem atEdge_cons {c : Char} {t : Text} : AtEdge (c :: t) ↔ isEdge c := by simp [AtEdge]

theorem isEdge_of_isGap {c : Char} (h : isGap c) : isEdge c := by
  have hrange (low count : Nat) (hcodes : ∀ n ∈ List.range' low count, edgeCodes.contains n)
      (hc : low ≤ c.toNat ∧ c.toNat < low + count) : isEdge c :=
    hcodes c.toNat (List.mem_range'_1.mpr hc)
  have hcode {n : Nat} (hn : edgeCodes.contains n) (hc : c.toNat = n) : isEdge c := by
    rw [isEdge, hc]
    exact hn
  simp only [isGap, isBlank, Bool.or_eq_true, Bool.and_eq_true, decide_eq_true_eq, beq_iff_eq,
    or_assoc] at h
  rcases h with hlow | h | h | h | h | hspaces | h | h | h | h | h | h | h
  case inl => exact hrange 0x9 5 (by decide) ⟨hlow.1, by omega⟩
  case inr.inr.inr.inr.inr.inl => exact hrange 0x2000 11 (by decide) ⟨hspaces.1, by omega⟩
  all_goals exact hcode rfl h

theorem of_isEdge (p : Char → Prop) [DecidablePred p] (h : ∀ n ∈ edgeCodes, p (Char.ofNat n))
    {c : Char} (hc : isEdge c) : p c := by
  have hmem : c.toNat ∈ edgeCodes := List.contains_iff_mem.mp hc
  have hp := h c.toNat hmem
  rwa [Char.ofNat_toNat] at hp

/-- A character that no identifier goes on with, and no number but in its exponent. It is in no
beginning of a literal. -/
def isStop (c : Char) : Bool :=
  !isIdentStart c && !isIdentContinue c && !".#'\"".toList.contains c

theorem isStop_of_isEdge {c : Char} (h : isEdge c) : isStop c :=
  of_isEdge (isStop · = true) (by decide +kernel) h

theorem isIdentStart_of_isStop {c : Char} (h : isStop c) : isIdentStart c = false := by
  simp only [isStop, Bool.and_eq_true, Bool.not_eq_true'] at h
  exact h.1.1

theorem isIdentContinue_of_isStop {c : Char} (h : isStop c) : isIdentContinue c = false := by
  simp only [isStop, Bool.and_eq_true, Bool.not_eq_true'] at h
  exact h.1.2

theorem hexValue?_of_isStop {c : Char} (h : isStop c) : hexValue? c = none := by
  by_contra hdigit
  have hle : c ≤ 'f' := by
    rw [hexValue?] at hdigit
    split at hdigit
    · next hc => exact Char.le_trans hc.2 (by decide)
    · split at hdigit
      · next hc => exact hc.2
      · split at hdigit
        · next hc => exact Char.le_trans hc.2 (by decide)
        · exact absurd rfl hdigit
  have hcodes : ∀ n < 128, hexValue? (Char.ofNat n) ≠ none → isStop (Char.ofNat n) = false := by
    decide +kernel
  have hstop := hcodes c.toNat (Nat.lt_of_le_of_lt hle (by decide))
  rw [Char.ofNat_toNat] at hstop
  rw [hstop hdigit] at h
  cases h

theorem isDigit_of_isStop {c : Char} (h : isStop c) : c.isDigit = false := by
  rw [← Bool.not_eq_true]
  intro hdigit
  have hc : '0' ≤ c ∧ c ≤ '9' := by
    rwa [Char.isDigit, Bool.and_eq_true, decide_eq_true_eq, decide_eq_true_eq] at hdigit
  have hnone := hexValue?_of_isStop h
  rw [hexValue?, if_pos hc] at hnone
  cases hnone

theorem ne_of_isStop {c d : Char} (h : isStop c) (hd : isStop d = false := by decide +kernel) :
    c ≠ d := by
  rintro rfl
  simp [h] at hd

/-- No identifier, no number and no beginning of a literal goes on with the text. -/
structure Halts (t : Text) : Prop where
  head : ∀ c ∈ t.head?, isStop c
  exponent : ∀ sign digit, exponentLength sign digit t = exponentLength sign digit []

theorem Halts.isStop {c : Char} {t : Text} (h : Halts (c :: t)) : isStop c := h.head c rfl

theorem halts_of_head {c : Char} {t : Text} (hc : isStop c) (hplus : c ≠ '+') (hminus : c ≠ '-') :
    Halts (c :: t) where
  head := by simpa using hc
  exponent sign digit := by
    have hlow : c ≠ '_' := ne_of_isStop hc
    simp [exponentLength, hplus, hminus, hlow, isDigit_of_isStop hc]

theorem AtEdge.halts {t : Text} (h : AtEdge t) : Halts t := by
  cases t with
  | nil => exact ⟨by simp, fun _ _ => rfl⟩
  | cons c t =>
    have hc := atEdge_cons.mp h
    have hsign : c ≠ '+' ∧ c ≠ '-' := of_isEdge (fun c => c ≠ '+' ∧ c ≠ '-') (by decide) hc
    exact halts_of_head (isStop_of_isEdge hc) hsign.1 hsign.2

theorem startsWith_iff {t head : Text} : startsWith t head ↔ head <+: t := by
  constructor
  · intro h
    obtain ⟨rest, hrest⟩ := Option.isSome_iff_exists.mp h
    exact ⟨rest, (eq_append_of_dropHead? hrest).symm⟩
  · rintro ⟨rest, rfl⟩
    simp [startsWith, dropHead?_append]

theorem startsWith_append_of_head {v p head : Text} (hp : ∀ c ∈ p.head?, c ∉ head) :
    startsWith (v ++ p) head = startsWith v head := by
  induction head generalizing v with
  | nil => rfl
  | cons h head ih =>
    cases v with
    | nil =>
      cases p with
      | nil => rfl
      | cons c p =>
        have hc : h ≠ c := fun heq => hp c (by simp) (heq ▸ List.mem_cons_self)
        simp [startsWith, dropHead?, hc]
    | cons c v =>
      have ih := @ih v (fun d hd hmem => hp d hd (List.mem_cons_of_mem _ hmem))
      simp only [startsWith, List.cons_append, dropHead?] at ih ⊢
      split
      · exact ih
      · rfl

theorem startsWith_append {v p head : Text} (hp : Halts p)
    (hhead : head.all (!isStop ·)) : startsWith (v ++ p) head = startsWith v head :=
  startsWith_append_of_head fun c hc hmem => by
    have hstop := hp.head c hc
    have hnot := List.all_eq_true.mp hhead c hmem
    simp [hstop] at hnot

theorem startsWith_append_of_length {v p head : Text} (h : head.length ≤ v.length) :
    startsWith (v ++ p) head = startsWith v head := by
  rw [Bool.eq_iff_iff, startsWith_iff, startsWith_iff]
  constructor
  · intro hpre
    exact List.prefix_of_prefix_length_le hpre (List.prefix_append v p) h
  · intro hpre
    exact hpre.trans (List.prefix_append v p)

theorem takeWhile_append {v p : Text} {q : Char → Bool} (hp : Halts p)
    (hq : ∀ c, isStop c → q c = false) : (v ++ p).takeWhile q = v.takeWhile q := by
  induction v with
  | nil =>
    cases p with
    | nil => rfl
    | cons c p => simp [hq c hp.isStop]
  | cons c v ih => by_cases h : q c <;> simp [h, ih]

theorem headIs_append {v p : Text} {q : Char → Bool} (hp : Halts p)
    (hq : ∀ c, isStop c → q c = false) : headIs q (v ++ p) = headIs q v := by
  cases v with
  | nil =>
    cases p with
    | nil => rfl
    | cons c p => simp [headIs, hq c hp.isStop]
  | cons c v => rfl

theorem length_takeWhile_le (t : Text) (q : Char → Bool) : (t.takeWhile q).length ≤ t.length :=
  (List.takeWhile_prefix q).length_le

/-! ### Identifiers -/

theorem identLength_append {v p : Text} (hp : Halts p) : identLength (v ++ p) = identLength v := by
  cases v with
  | nil =>
    cases p with
    | nil => rfl
    | cons c p => simp [identLength, isIdentStart_of_isStop hp.isStop]
  | cons c v =>
    have htail := takeWhile_append (v := v) hp fun c => isIdentContinue_of_isStop
    simp [identLength, htail]

theorem identLength_le (t : Text) : identLength t ≤ t.length := by
  cases t with
  | nil => simp [identLength]
  | cons c t =>
    have htail := length_takeWhile_le t isIdentContinue
    rw [identLength, List.length_cons]
    split <;> omega

theorem withSuffix_append {v p : Text} {n : Nat} (hp : Halts p) (hn : n ≤ v.length) :
    withSuffix (v ++ p) n = withSuffix v n := by
  rw [withSuffix, withSuffix, List.drop_append_of_le_length hn, identLength_append hp]

theorem withSuffix_le {t : Text} {n : Nat} (hn : n ≤ t.length) : withSuffix t n ≤ t.length := by
  have hsuffix := identLength_le (t.drop n)
  rw [List.length_drop] at hsuffix
  rw [withSuffix]
  omega

theorem anyIdentLength_append {v p : Text} (hp : Halts p) :
    anyIdentLength (v ++ p) = anyIdentLength v := by
  have hraw : startsWith (v ++ p) ['r', '#'] = startsWith v ['r', '#'] :=
    startsWith_append hp (by decide +kernel)
  rw [anyIdentLength, anyIdentLength, hraw, identLength_append hp]
  split
  · next hstart =>
    obtain ⟨rest, hrest⟩ := Option.isSome_iff_exists.mp hstart
    have hv := eq_append_of_dropHead? hrest
    have hle := identLength_le (v.drop 2)
    have hlength : 2 ≤ v.length := by simp [hv]
    rw [List.drop_append_of_le_length hlength, identLength_append hp]
    dsimp only
    rw [List.take_append_of_le_length hle]
  · rfl

theorem anyIdentLength_le {t : Text} {n : Nat} (h : anyIdentLength t = some n) : n ≤ t.length := by
  rw [anyIdentLength] at h
  dsimp only at h
  split at h
  · next hstart =>
    obtain ⟨rest, hrest⟩ := Option.isSome_iff_exists.mp hstart
    have ht := eq_append_of_dropHead? hrest
    have hle := identLength_le (t.drop 2)
    have hlength : 2 ≤ t.length := by simp [ht]
    rw [List.length_drop] at hle
    split at h
    · cases h
    · obtain rfl := Option.some.inj h
      omega
  · split at h
    · cases h
    · obtain rfl := Option.some.inj h
      exact identLength_le t

/-! ### Numbers -/

theorem exponentLength_append {v p : Text} (hp : Halts p) (sign digit : Bool) :
    exponentLength sign digit (v ++ p) = exponentLength sign digit v := by
  induction v generalizing sign digit with
  | nil => exact hp.exponent sign digit
  | cons c v ih => simp only [List.cons_append, exponentLength, ih]

theorem exponentLength_le {t : Text} {sign digit : Bool} {n : Nat}
    (h : exponentLength sign digit t = some n) : n ≤ t.length := by
  induction t generalizing sign digit n with
  | nil =>
    cases digit
    · cases h
    · obtain rfl := Option.some.inj h
      exact Nat.zero_le _
  | cons c t ih =>
    have hmap {s d : Bool} (h : (exponentLength s d t).map (· + 1) = some n) :
        n ≤ (c :: t).length := by
      obtain ⟨m, hm, rfl⟩ := Option.map_eq_some_iff.mp h
      exact Nat.succ_le_succ (ih hm)
    have hzero {d : Bool} (h : (if d then some 0 else none) = some n) : n ≤ (c :: t).length := by
      cases d
      · cases h
      · obtain rfl := Option.some.inj h
        exact Nat.zero_le _
    rw [exponentLength] at h
    split at h
    · cases digit
      · cases sign
        · exact hmap h
        · cases h
      · exact hzero (d := true) h
    · split at h
      · exact hmap h
      · split at h
        · exact hmap h
        · exact hzero h

theorem withExponent_append {v p : Text} (hp : Halts p) (n : Nat) :
    withExponent n (v ++ p) = withExponent n v := by
  rw [withExponent, withExponent, exponentLength_append hp]

theorem withExponent_le {t : Text} {n m : Nat} (h : withExponent n t = some m) :
    m ≤ n + 1 + t.length := by
  obtain ⟨k, hk, rfl⟩ := Option.map_eq_some_iff.mp h
  have hle := exponentLength_le hk
  omega

theorem floatTail_append {v p : Text} (hp : Halts p) (n : Nat) :
    (match v ++ p with
      | 'e' :: r | 'E' :: r => (withExponent n r).or (some n)
      | _ => some n) =
    match v with
      | 'e' :: r | 'E' :: r => (withExponent n r).or (some n)
      | _ => some n := by
  cases v with
  | nil =>
    cases p with
    | nil => rfl
    | cons c p =>
      have hc := hp.isStop
      have hsmall : c ≠ 'e' := ne_of_isStop hc
      have hlarge : c ≠ 'E' := ne_of_isStop hc
      simp [hsmall, hlarge]
  | cons c v =>
    simp only [List.cons_append]
    split
    · next heq =>
      obtain ⟨rfl, rfl⟩ := List.cons.inj heq
      simp [withExponent_append hp]
    · next heq =>
      obtain ⟨rfl, rfl⟩ := List.cons.inj heq
      simp [withExponent_append hp]
    · next hsmall hlarge =>
      split
      · next heq => exact absurd (by simp [(List.cons.inj heq).1]) (hsmall (v ++ p))
      · next heq => exact absurd (by simp [(List.cons.inj heq).1]) (hlarge (v ++ p))
      · rfl

theorem floatTail_le {t : Text} {n m : Nat}
    (h : (match t with
      | 'e' :: r | 'E' :: r => (withExponent n r).or (some n)
      | _ => some n) = some m) : m ≤ n + t.length := by
  have hexponent {r : Text} (h : (withExponent n r).or (some n) = some m) :
      m ≤ n + (r.length + 1) := by
    rcases Option.or_eq_some_iff.mp h with h | ⟨-, h⟩
    · have hle := withExponent_le h
      omega
    · obtain rfl := Option.some.inj h
      omega
  split at h
  · exact hexponent h
  · exact hexponent h
  · obtain rfl := Option.some.inj h
    omega

theorem floatDigitsLength_append {v p : Text} (hp : Halts p) :
    floatDigitsLength (v ++ p) = floatDigitsLength v := by
  have hlow : ∀ c, isStop c → isDigitOrLow c = false := fun c hc => by
    have hne : c ≠ '_' := ne_of_isStop hc
    simp [isDigitOrLow, isDigit_of_isStop hc, hne]
  have hstop : ∀ c, isStop c → (c == '.' || isIdentStart c) = false := fun c hc => by
    have hne : c ≠ '.' := ne_of_isStop hc
    simp [isIdentStart_of_isStop hc, hne]
  have hwhole := length_takeWhile_le v isDigitOrLow
  rw [floatDigitsLength, floatDigitsLength, headIs_append hp fun c => isDigit_of_isStop,
    takeWhile_append hp hlow]
  split
  · rfl
  · dsimp only
    rw [List.drop_append_of_le_length hwhole]
    have hlength : (v.drop (v.takeWhile isDigitOrLow).length).length =
        v.length - (v.takeWhile isDigitOrLow).length := List.length_drop
    generalize v.drop (v.takeWhile isDigitOrLow).length = rest at hlength ⊢
    rcases rest with _ | ⟨c, r⟩
    · cases p with
      | nil => rfl
      | cons c p =>
        have hc := hp.isStop
        have hpoint : c ≠ '.' := ne_of_isStop hc
        have hsmall : c ≠ 'e' := ne_of_isStop hc
        have hlarge : c ≠ 'E' := ne_of_isStop hc
        simp [hpoint, hsmall, hlarge]
    · rw [List.length_cons] at hlength
      by_cases hpoint : c = '.'
      · subst hpoint
        have hdigits := length_takeWhile_le r isDigitOrLow
        have hle : (v.takeWhile isDigitOrLow).length + 1 + (r.takeWhile isDigitOrLow).length ≤
            v.length := by omega
        simp only [List.cons_append]
        rw [headIs_append hp hstop, takeWhile_append hp hlow, List.drop_append_of_le_length hle]
        split
        · rfl
        · exact floatTail_append hp _
      · by_cases hsmall : c = 'e'
        · subst hsmall
          exact withExponent_append hp _
        · by_cases hlarge : c = 'E'
          · subst hlarge
            exact withExponent_append hp _
          · simp [hpoint, hsmall, hlarge]

theorem floatDigitsLength_le {t : Text} {n : Nat} (h : floatDigitsLength t = some n) :
    n ≤ t.length := by
  have hwhole := length_takeWhile_le t isDigitOrLow
  have hdrop : (t.drop (t.takeWhile isDigitOrLow).length).length =
      t.length - (t.takeWhile isDigitOrLow).length := List.length_drop
  rw [floatDigitsLength] at h
  split at h
  · cases h
  · dsimp only at h
    split at h
    · next r hr =>
      have hdigits := length_takeWhile_le r isDigitOrLow
      rw [hr, List.length_cons] at hdrop
      split at h
      · cases h
      · have hle := floatTail_le h
        rw [List.length_drop] at hle
        omega
    · next r hr =>
      have hle := withExponent_le h
      rw [hr, List.length_cons] at hdrop
      omega
    · next r hr =>
      have hle := withExponent_le h
      rw [hr, List.length_cons] at hdrop
      omega
    · cases h

theorem baseDigitsLength_append {v p : Text} (hp : Halts p) (base : Nat) (empty : Bool) :
    baseDigitsLength base empty (v ++ p) = baseDigitsLength base empty v := by
  induction v generalizing empty with
  | nil =>
    cases p with
    | nil => rfl
    | cons c p =>
      have hc := hp.isStop
      have hlow : c ≠ '_' := ne_of_isStop hc
      simp [baseDigitsLength, hlow, hexValue?_of_isStop hc]
  | cons c v ih => simp only [List.cons_append, baseDigitsLength, ih]

theorem baseDigitsLength_le {t : Text} {base n : Nat} {empty : Bool}
    (h : baseDigitsLength base empty t = some n) : n ≤ t.length := by
  induction t generalizing empty n with
  | nil =>
    cases empty
    · obtain rfl := Option.some.inj h
      exact Nat.zero_le _
    · cases h
  | cons c t ih =>
    have hmap {e : Bool} (h : (baseDigitsLength base e t).map (· + 1) = some n) :
        n ≤ (c :: t).length := by
      obtain ⟨m, hm, rfl⟩ := Option.map_eq_some_iff.mp h
      exact Nat.succ_le_succ (ih hm)
    have hzero {b : Bool} (h : (if b then none else some 0) = some n) : n ≤ (c :: t).length := by
      cases b
      · obtain rfl := Option.some.inj h
        exact Nat.zero_le _
      · cases h
    rw [baseDigitsLength] at h
    split at h
    · split at h
      · cases h
      · exact hmap h
    · split at h
      · split at h
        · exact hmap h
        · exact hzero h
      · exact hzero h

theorem wholeDigitsLength_eq {t : Text}
    (h : ∀ d r, t = '0' :: d :: r → d ≠ 'x' ∧ d ≠ 'o' ∧ d ≠ 'b') :
    wholeDigitsLength t = baseDigitsLength 10 true t := by
  rw [wholeDigitsLength] <;> intro r heq
  · exact (h _ _ heq).1 rfl
  · exact (h _ _ heq).2.1 rfl
  · exact (h _ _ heq).2.2 rfl

theorem wholeDigitsLength_append {v p : Text} (hp : Halts p) :
    wholeDigitsLength (v ++ p) = wholeDigitsLength v := by
  by_cases hmark : ∀ d r, v = '0' :: d :: r → d ≠ 'x' ∧ d ≠ 'o' ∧ d ≠ 'b'
  · rw [wholeDigitsLength_eq hmark, wholeDigitsLength_eq, baseDigitsLength_append hp]
    intro d r heq
    rcases v with _ | ⟨a, _ | ⟨b, v⟩⟩
    · rw [List.nil_append] at heq
      rw [heq] at hp
      exact absurd hp.isStop (by decide +kernel)
    · rw [List.cons_append, List.nil_append] at heq
      obtain ⟨-, rfl⟩ := List.cons.inj heq
      have hd := hp.isStop
      exact ⟨ne_of_isStop hd, ne_of_isStop hd, ne_of_isStop hd⟩
    · obtain ⟨ha, heq⟩ := List.cons.inj heq
      obtain ⟨hb, -⟩ := List.cons.inj heq
      exact hb ▸ hmark b v (by rw [ha])
  · simp only [not_forall] at hmark
    obtain ⟨d, r, rfl, hd⟩ := hmark
    have hbase : d = 'x' ∨ d = 'o' ∨ d = 'b' := by
      by_contra hne
      simp only [not_or] at hne
      exact hd hne
    obtain rfl | rfl | rfl := hbase
    all_goals simp [wholeDigitsLength, baseDigitsLength_append hp]

theorem wholeDigitsLength_le {t : Text} {n : Nat} (h : wholeDigitsLength t = some n) :
    n ≤ t.length := by
  have hmarked {base : Nat} {c d : Char} {r : Text}
      (h : (baseDigitsLength base true r).map (· + 2) = some n) : n ≤ (c :: d :: r).length := by
    obtain ⟨m, hm, rfl⟩ := Option.map_eq_some_iff.mp h
    exact Nat.add_le_add_right (baseDigitsLength_le hm) 2
  rw [wholeDigitsLength.eq_def] at h
  split at h
  · exact hmarked h
  · exact hmarked h
  · exact hmarked h
  · exact baseDigitsLength_le h

theorem numberEnd_append {v p : Text} {n : Nat} (hp : Halts p) (hn : n ≤ v.length) :
    numberEnd (v ++ p) n = numberEnd v n := by
  rw [numberEnd, numberEnd, withSuffix_append hp hn,
    List.drop_append_of_le_length (withSuffix_le hn),
    headIs_append hp fun c => isIdentContinue_of_isStop]

theorem numberEnd_le {t : Text} {digits n : Nat} (hdigits : digits ≤ t.length)
    (h : numberEnd t digits = some n) : n ≤ t.length := by
  rw [numberEnd] at h
  split at h
  · cases h
  · obtain rfl := Option.some.inj h
    exact withSuffix_le hdigits

theorem bind_numberEnd_append {v p : Text} {digits : Option Nat} (hp : Halts p)
    (hdigits : ∀ n, digits = some n → n ≤ v.length) :
    digits.bind (numberEnd (v ++ p)) = digits.bind (numberEnd v) := by
  cases digits with
  | none => rfl
  | some n => exact numberEnd_append hp (hdigits n rfl)

theorem numberLength_append {v p : Text} (hp : Halts p) :
    numberLength (v ++ p) = numberLength v := by
  rw [numberLength, numberLength, floatDigitsLength_append hp, wholeDigitsLength_append hp,
    bind_numberEnd_append hp fun n => floatDigitsLength_le,
    bind_numberEnd_append hp fun n => wholeDigitsLength_le]

theorem numberLength_le {t : Text} {n : Nat} (h : numberLength t = some n) : n ≤ t.length := by
  rcases Option.or_eq_some_iff.mp h with h | ⟨-, h⟩
  · obtain ⟨digits, hdigits, hend⟩ := Option.bind_eq_some_iff.mp h
    exact numberEnd_le (floatDigitsLength_le hdigits) hend
  · obtain ⟨digits, hdigits, hend⟩ := Option.bind_eq_some_iff.mp h
    exact numberEnd_le (wholeDigitsLength_le hdigits) hend


/-! ### What ends by itself -/

/-- The characters that are read are enough to know how many they are. -/
def SelfDelimiting (f : Text → Option Nat) : Prop :=
  ∀ ⦃t n⦄, f t = some n → n ≤ t.length ∧ ∀ u, f (t.take n ++ u) = some n

theorem SelfDelimiting.swap {f : Text → Option Nat} (hf : SelfDelimiting f) {v p q : Text} {n : Nat}
    (h : f (v ++ p) = some n) (hn : n ≤ v.length) : f (v ++ q) = some n := by
  have hq := (hf h).2 (v.drop n ++ q)
  rwa [List.take_append_of_le_length hn, ← List.append_assoc, List.take_append_drop] at hq

theorem SelfDelimiting.append {f : Text → Option Nat} (hf : SelfDelimiting f) {v q : Text} {n : Nat}
    (h : f v = some n) : f (v ++ q) = some n := by
  have hn := (hf h).1
  rw [← List.append_nil v] at h
  exact hf.swap h hn

theorem Quoting.bodyLength_selfDelimiting (q : Quoting) (mode : Quoting.Mode) :
    SelfDelimiting (q.bodyLength mode) := by
  intro t n h
  induction t generalizing mode n with
  | nil => cases h
  | cons c t ih =>
    rw [bodyLength] at h
    split at h
    · next hstep =>
      obtain rfl := Option.some.inj h
      exact ⟨by simp, fun u => by simp [bodyLength, hstep]⟩
    · cases h
    · next mode' hstep =>
      obtain ⟨m, hm, rfl⟩ := Option.map_eq_some_iff.mp h
      obtain ⟨hle, hlocal⟩ := ih mode' hm
      exact ⟨Nat.succ_le_succ hle, fun u => by simp [bodyLength, hstep, hlocal u]⟩

theorem Quoting.escapeLength_selfDelimiting (q : Quoting) (mode : Quoting.Mode) :
    SelfDelimiting (q.escapeLength mode) := by
  intro t n h
  induction t generalizing mode n with
  | nil => cases h
  | cons c t ih =>
    rw [escapeLength] at h
    split at h
    · next hstep =>
      obtain rfl := Option.some.inj h
      exact ⟨by simp, fun u => by simp [escapeLength, hstep]⟩
    · next mode' hplain hstep =>
      obtain ⟨m, hm, rfl⟩ := Option.map_eq_some_iff.mp h
      obtain ⟨hle, hlocal⟩ := ih mode' hm
      exact ⟨Nat.succ_le_succ hle, fun u => by simp [escapeLength, hstep, hlocal u]⟩
    · cases h

theorem Quoting.unitLength_selfDelimiting (q : Quoting) : SelfDelimiting q.unitLength := by
  intro t n h
  rw [unitLength.eq_def] at h
  split at h
  · cases h
  · next t =>
    split at h
    · cases h
    · next hline =>
      obtain ⟨m, hm, rfl⟩ := Option.map_eq_some_iff.mp h
      obtain ⟨hle, hlocal⟩ := q.escapeLength_selfDelimiting .escape hm
      refine ⟨Nat.succ_le_succ hle, fun u => ?_⟩
      -- the escape has a character of its own, so the line end is looked for in what was read
      have hhead : ∀ c : Char, startsWith (t.take m ++ u) [c] = startsWith t [c] := by
        intro c
        cases t with
        | nil => cases hm
        | cons d t =>
          cases m with
          | zero =>
            have hnil := hlocal []
            cases hnil
          | succ m =>
            simp only [startsWith, dropHead?, List.take_succ_cons, List.cons_append]
            split <;> rfl
      rw [List.take_succ_cons, List.cons_append, unitLength, hhead, hhead, hlocal u]
      simp [hline]
  · next c t hc =>
    split at h
    · next hplain =>
      obtain rfl := Option.some.inj h
      refine ⟨by simp, fun u => ?_⟩
      rw [unitLength.eq_def]
      split
      · simp_all
      · next heq => exact absurd (List.cons.inj heq).1 hc
      · next heq =>
        obtain ⟨rfl, -⟩ := List.cons.inj heq
        simp [hplain]
    · cases h

theorem Quoting.charLength_selfDelimiting (q : Quoting) : SelfDelimiting q.charLength := by
  intro t n h
  rw [charLength] at h
  split at h
  · next m hm =>
    split at h
    · next hquote =>
      obtain rfl := Option.some.inj h
      obtain ⟨hle, hlocal⟩ := q.unitLength_selfDelimiting hm
      obtain ⟨rest, hrest⟩ := startsWith_iff.mp hquote
      have ht : t = t.take m ++ '\'' :: rest := by
        rw [← List.singleton_append, hrest, List.take_append_drop]
      generalize hunit : t.take m = unit at ht hlocal
      have hlength : unit.length = m := by simp [← hunit, hle]
      refine ⟨by simp [ht, hlength], fun u => ?_⟩
      have htake : t.take (m + 1) = unit ++ ['\''] := by
        rw [ht, ← hlength, List.take_length_add_append]
        rfl
      rw [htake, List.append_assoc, charLength, hlocal, ← hlength]
      simp [startsWith, dropHead?]
    · cases h
  · cases h

theorem quote_mem_of_rawBodyLength {plain : Char → Bool} {hashes n : Nat} {t : Text}
    (h : rawBodyLength plain hashes t = some n) : '"' ∈ t.take n := by
  fun_induction rawBodyLength plain hashes t generalizing n with
  | case1 => cases h
  | case2 t hclose =>
    obtain rfl := Option.some.inj h
    simp
  | case3 t hopen ih =>
    obtain ⟨m, hm, rfl⟩ := Option.map_eq_some_iff.mp h
    simp
  | case4 t ih =>
    obtain ⟨m, hm, rfl⟩ := Option.map_eq_some_iff.mp h
    simp [ih hm]
  | case5 t hreturn => cases h
  | case6 c t hquote hline hreturn hplain ih =>
    obtain ⟨m, hm, rfl⟩ := Option.map_eq_some_iff.mp h
    simp [ih hm]
  | case7 => cases h

theorem rawBodyLength_selfDelimiting (plain : Char → Bool) (hashes : Nat) :
    SelfDelimiting (rawBodyLength plain hashes) := by
  intro t n h
  fun_induction rawBodyLength plain hashes t generalizing n with
  | case1 => cases h
  | case2 t hclose =>
    obtain rfl := Option.some.inj h
    obtain ⟨rest, rfl⟩ := startsWith_iff.mp hclose
    refine ⟨by simp, fun u => ?_⟩
    have hstart : startsWith (List.replicate hashes '#' ++ u) (List.replicate hashes '#') :=
      startsWith_iff.mpr ⟨u, rfl⟩
    have htake : (List.replicate hashes '#' ++ rest).take hashes = List.replicate hashes '#' := by
      simp
    rw [List.take_succ_cons, htake, List.cons_append, rawBodyLength, if_pos hstart]
  | case3 t hopen ih =>
    obtain ⟨m, hm, rfl⟩ := Option.map_eq_some_iff.mp h
    obtain ⟨hle, hlocal⟩ := ih hm
    refine ⟨Nat.succ_le_succ hle, fun u => ?_⟩
    -- the closing quote comes later, so the `#` that do not suffice here were all read
    have hstart : ¬ startsWith (t.take m ++ u) (List.replicate hashes '#') := by
      intro hstart
      have hquote := quote_mem_of_rawBodyLength hm
      rcases List.prefix_or_prefix_of_prefix (startsWith_iff.mp hstart)
        (List.prefix_append _ u) with hpre | hpre
      · exact hopen (startsWith_iff.mpr (hpre.trans (List.take_prefix m t)))
      · have hmem := hpre.subset hquote
        simp at hmem
    rw [List.take_succ_cons, List.cons_append, rawBodyLength, if_neg hstart, hlocal u]
    rfl
  | case4 t ih =>
    obtain ⟨m, hm, rfl⟩ := Option.map_eq_some_iff.mp h
    obtain ⟨hle, hlocal⟩ := ih hm
    refine ⟨Nat.add_le_add_right hle 2, fun u => ?_⟩
    simp [rawBodyLength, hlocal u]
  | case5 t hreturn => cases h
  | case6 c t hquote hline hreturn hplain ih =>
    obtain ⟨m, hm, rfl⟩ := Option.map_eq_some_iff.mp h
    obtain ⟨hle, hlocal⟩ := ih hm
    refine ⟨Nat.succ_le_succ hle, fun u => ?_⟩
    rw [List.take_succ_cons, List.cons_append, rawBodyLength.eq_def]
    split
    · simp_all
    · simp_all
    · simp_all
    · simp_all
    · next heq =>
      obtain ⟨rfl, rfl⟩ := List.cons.inj heq
      simp [hplain, hlocal u]
  | case7 => cases h

theorem rawLength_selfDelimiting (plain : Char → Bool) : SelfDelimiting (rawLength plain) := by
  intro t n h
  rw [rawLength] at h
  split at h
  · next body hbody =>
    split at h
    · next hhashes =>
      obtain ⟨m, hm, rfl⟩ := Option.map_eq_some_iff.mp h
      obtain ⟨hle, hlocal⟩ := rawBodyLength_selfDelimiting _ _ hm
      have ht : t = t.takeWhile (· == '#') ++ '"' :: body := by
        rw [← hbody]
        exact (List.prefix_iff_eq_append.mp (List.takeWhile_prefix _)).symm
      have hall : ∀ c ∈ t.takeWhile (· == '#'), (c == '#') = true := fun c =>
        List.mem_takeWhile_imp
      generalize t.takeWhile (· == '#') = marks at *
      subst ht
      refine ⟨by simp; omega, fun u => ?_⟩
      have hmarks : (marks ++ '"' :: (body.take m ++ u)).takeWhile (· == '#') = marks := by
        rw [List.takeWhile_append_of_pos hall]
        simp
      have htake : (marks ++ '"' :: body).take (m + (marks.length + 1)) =
          marks ++ '"' :: body.take m := by
        rw [show m + (marks.length + 1) = marks.length + (m + 1) by omega,
          List.take_length_add_append]
        rfl
      rw [htake, List.append_assoc, List.cons_append, rawLength, hmarks]
      simp [hhashes, hlocal u]
    · cases h
  · cases h

theorem two_le_of_blockLength {depth n : Nat} {t : Text} (h : blockLength depth t = some n) :
    2 ≤ n := by
  fun_induction blockLength depth t generalizing n with
  | case1 => cases h
  | case2 depth t ih =>
    obtain ⟨m, hm, rfl⟩ := Option.map_eq_some_iff.mp h
    omega
  | case3 depth t hdepth =>
    obtain rfl := Option.some.inj h
    rfl
  | case4 depth t hdepth ih =>
    obtain ⟨m, hm, rfl⟩ := Option.map_eq_some_iff.mp h
    omega
  | case5 depth c t hopen hclose ih =>
    obtain ⟨m, hm, rfl⟩ := Option.map_eq_some_iff.mp h
    have hle := ih hm
    omega

theorem blockLength_selfDelimiting (depth : Nat) : SelfDelimiting (blockLength depth) := by
  intro t n h
  fun_induction blockLength depth t generalizing n with
  | case1 => cases h
  | case2 depth t ih =>
    obtain ⟨m, hm, rfl⟩ := Option.map_eq_some_iff.mp h
    obtain ⟨hle, hlocal⟩ := ih hm
    exact ⟨Nat.add_le_add_right hle 2, fun u => by simp [blockLength, hlocal u]⟩
  | case3 depth t hdepth =>
    obtain rfl := Option.some.inj h
    exact ⟨by simp, fun u => by simp [blockLength, hdepth]⟩
  | case4 depth t hdepth ih =>
    obtain ⟨m, hm, rfl⟩ := Option.map_eq_some_iff.mp h
    obtain ⟨hle, hlocal⟩ := ih hm
    exact ⟨Nat.add_le_add_right hle 2, fun u => by simp [blockLength, hdepth, hlocal u]⟩
  | case5 depth c t hopen hclose ih =>
    obtain ⟨m, hm, rfl⟩ := Option.map_eq_some_iff.mp h
    obtain ⟨hle, hlocal⟩ := ih hm
    have hlong := two_le_of_blockLength hm
    refine ⟨Nat.succ_le_succ hle, fun u => ?_⟩
    -- the next character was read, so no mark begins at `c`
    obtain ⟨d, t, rfl⟩ : ∃ d r, t = d :: r := by
      cases t with
      | nil => simp at hle; omega
      | cons d t => exact ⟨d, t, rfl⟩
    obtain ⟨m, rfl⟩ : ∃ k, m = k + 1 := ⟨m - 1, by omega⟩
    have hrest := hlocal u
    rw [List.take_succ_cons, List.cons_append] at hrest
    rw [List.take_succ_cons, List.take_succ_cons, List.cons_append, List.cons_append, blockLength,
      hrest]
    · rfl
    · rintro r rfl heq
      obtain ⟨rfl, -⟩ := List.cons.inj heq
      exact hopen t rfl rfl
    · rintro r rfl heq
      obtain ⟨rfl, -⟩ := List.cons.inj heq
      exact hclose t rfl rfl


/-! ### Literals -/

/-- The beginnings of quoted literals, each with the length of what follows it. -/
def quotedForms : List (Text × (Text → Option Nat)) :=
  [(['"'], Quoting.text.bodyLength .plain), (['r'], rawLength fun _ => true),
    (['b', '"'], Quoting.bytes.bodyLength .plain), (['b', 'r'], rawLength isAscii),
    (['b', '\''], Quoting.bytes.charLength), (['c', '"'], Quoting.zeroEnded.bodyLength .plain),
    (['c', 'r'], rawLength (· != '\x00')), (['\''], Quoting.text.charLength)]

/-- The form of the quoted literal that may start here. -/
def quotedForm? (t : Text) : Option (Text × (Text → Option Nat)) :=
  quotedForms.find? fun form => startsWith t form.1

theorem literalLength_eq (t : Text) :
    literalLength t = match quotedForm? t with
      | some (head, body) => quotedLength t head.length (body (t.drop head.length))
      | none => numberLength t := by
  rw [literalLength.eq_def]
  split
  case h_9 =>
    have hnone : quotedForm? t = none := by
      rw [quotedForm?, List.find?_eq_none]
      rintro form hform hstart
      obtain ⟨r, rfl⟩ := startsWith_iff.mp hstart
      simp only [quotedForms, List.mem_cons, List.not_mem_nil, or_false] at hform
      obtain rfl | rfl | rfl | rfl | rfl | rfl | rfl | rfl := hform
      all_goals simp_all
    rw [hnone]
  all_goals rfl

theorem quotedForm?_append {v p : Text} (hp : Halts p) :
    quotedForm? (v ++ p) = quotedForm? v := by
  have hheads : ∀ form ∈ quotedForms, startsWith (v ++ p) form.1 = startsWith v form.1 := by
    have hplain : quotedForms.all (·.1.all (!isStop ·)) := by decide
    exact fun form hform => startsWith_append hp (List.all_eq_true.mp hplain form hform)
  rw [quotedForm?, quotedForm?]
  generalize quotedForms = forms at hheads
  induction forms with
  | nil => rfl
  | cons form forms ih =>
    rw [List.find?_cons, List.find?_cons, hheads form List.mem_cons_self,
      ih fun f hf => hheads f (List.mem_cons_of_mem _ hf)]

theorem quotedForm?_selfDelimiting {t head : Text} {body : Text → Option Nat}
    (h : quotedForm? t = some (head, body)) : SelfDelimiting body := by
  have hmem := List.mem_of_find?_eq_some h
  simp only [quotedForms, List.mem_cons, Prod.mk.injEq, List.not_mem_nil, or_false] at hmem
  obtain ⟨-, rfl⟩ | ⟨-, rfl⟩ | ⟨-, rfl⟩ | ⟨-, rfl⟩ | ⟨-, rfl⟩ | ⟨-, rfl⟩ | ⟨-, rfl⟩ | ⟨-, rfl⟩ := hmem
  · exact Quoting.bodyLength_selfDelimiting _ _
  · exact rawLength_selfDelimiting _
  · exact Quoting.bodyLength_selfDelimiting _ _
  · exact rawLength_selfDelimiting _
  · exact Quoting.charLength_selfDelimiting _
  · exact Quoting.bodyLength_selfDelimiting _ _
  · exact rawLength_selfDelimiting _
  · exact Quoting.charLength_selfDelimiting _


theorem startsWith_of_quotedForm? {t head : Text} {body : Text → Option Nat}
    (h : quotedForm? t = some (head, body)) : head <+: t := by
  rw [quotedForm?] at h
  have hstart := List.find?_some h
  exact startsWith_iff.mp hstart

theorem literalLength_le {t : Text} {n : Nat} (h : literalLength t = some n) : n ≤ t.length := by
  rw [literalLength_eq] at h
  split at h
  · next head body hform =>
    obtain ⟨m, hm, rfl⟩ := Option.map_eq_some_iff.mp h
    have hhead := (startsWith_of_quotedForm? hform).length_le
    have hbody := (quotedForm?_selfDelimiting hform hm).1
    rw [List.length_drop] at hbody
    exact withSuffix_le (by omega)
  · exact numberLength_le h

/-- A literal that ends before an edge ends there whatever the edge is. -/
theorem literalLength_swap {v p q : Text} {n : Nat} (hp : Halts p) (hq : Halts q)
    (h : literalLength (v ++ p) = some n) (hn : n ≤ v.length) :
    literalLength (v ++ q) = some n := by
  rw [literalLength_eq, quotedForm?_append hp] at h
  rw [literalLength_eq, quotedForm?_append hq]
  cases hform : quotedForm? v with
  | none =>
    simp only [hform, numberLength_append hp] at h
    simp only [numberLength_append hq, h]
  | some form =>
    obtain ⟨head, body⟩ := form
    simp only [hform] at h ⊢
    have hhead := (startsWith_of_quotedForm? hform).length_le
    obtain ⟨m, hm, hsuffix⟩ := Option.map_eq_some_iff.mp h
    have hbody : m + head.length ≤ v.length := by
      rw [withSuffix] at hsuffix
      omega
    rw [List.drop_append_of_le_length hhead] at hm ⊢
    have hswap := (quotedForm?_selfDelimiting hform).swap (q := q) hm
      (by rw [List.length_drop]; omega)
    rw [withSuffix_append hp hbody] at hsuffix
    rw [quotedLength, hswap, Option.map_some, withSuffix_append hq hbody, hsuffix]

end MapperGen.Syntax
