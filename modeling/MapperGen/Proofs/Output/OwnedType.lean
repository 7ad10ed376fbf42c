import MapperGen.Output.OwnedType
import MapperGen.Proofs.Syntax.FileStart
import MapperGen.Proofs.Syntax.Lexes
import MapperGen.Proofs.Syntax.TraitItems
import MapperGen.Proofs.Syntax.TypeNode
import MapperGen.Proofs.Text.Trim

/-!
# What a type refers to

The text of a type is edited without being parsed, so what is stripped is a matter of characters: a
keyword goes only if a blank stands behind it, and a lifetime ends where its letters and digits do.
`Owned` says which text is left, and `ownedType_eq_iff` that it is the one. A type that the grammar
takes for neither a reference nor a pointer is left as it is.
-/

namespace MapperGen

open Text Syntax

/-! ### Sigils -/

/-- The characters that a lifetime is taken to consist of. -/
def isLifetimePart (c : Char) : Bool := isAlphanumeric c || c == '_'

/-- One of the keywords and the blanks behind it, in front of a text; or nothing, if no keyword with
a blank behind it stands there. -/
inductive Keyword (keywords : List Text) : (part behind : Text) → Prop
  | absent {u : Text} (h : ∀ k ∈ keywords, ∀ c v, u = k ++ c :: v → isBlank c = false) :
    Keyword keywords [] u
  | present {k gap u : Text} (hk : k ∈ keywords) (hne : gap ≠ []) (hgap : ∀ c ∈ gap, isBlank c)
    (hu : trimStart u = u) : Keyword keywords (k ++ gap) u

/-- A lifetime and the blanks around it, in front of a text; or blanks, if no lifetime stands
there. -/
inductive Lifetime : (part behind : Text) → Prop
  | absent {gap u : Text} (hgap : ∀ c ∈ gap, isBlank c) (hu : trimStart u = u)
    (hquote : u.head? ≠ some '\'') : Lifetime gap u
  | present {gap name gap' u : Text} (hgap : ∀ c ∈ gap, isBlank c)
    (hname : ∀ c ∈ name, isLifetimePart c) (hgap' : ∀ c ∈ gap', isBlank c) (hu : trimStart u = u)
    (hend : ∀ c ∈ (gap' ++ u).head?, isLifetimePart c = false) :
    Lifetime (gap ++ '\'' :: (name ++ gap')) u

/-- What is left of a trimmed text if one sigil is taken from its start. -/
inductive Owned : (type owned : Text) → Prop
  | plain {u : Text} (h : ∀ c ∈ u.head?, c ≠ '&' ∧ c ≠ '*') : Owned u u
  | reference {lifetime mutability u : Text} (hlifetime : Lifetime lifetime (mutability ++ u))
    (hmutability : Keyword ["mut".toList] mutability u) :
    Owned ('&' :: (lifetime ++ (mutability ++ u))) u
  | pointer {gap mutability u : Text} (hgap : ∀ c ∈ gap, isBlank c)
    (hstart : trimStart (mutability ++ u) = mutability ++ u)
    (hmutability : Keyword ["const".toList, "mut".toList] mutability u) :
    Owned ('*' :: (gap ++ (mutability ++ u))) u

/-! ### Blanks at the ends -/

namespace Text

theorem trimStart_append {gap : Text} (hgap : ∀ c ∈ gap, isBlank c) (t : Text) :
    trimStart (gap ++ t) = trimStart t :=
  List.dropWhile_append_of_pos hgap

/-- A text is blanks and what trimming its start leaves. -/
theorem exists_blanks (t : Text) : ∃ gap, (∀ c ∈ gap, isBlank c) ∧ t = gap ++ trimStart t :=
  ⟨t.takeWhile isBlank, fun _ => List.mem_takeWhile_imp, List.takeWhile_append_dropWhile.symm⟩

/-- The end of a text that no blank ends. -/
theorem trimEnd_of_append {v u : Text} (h : trimEnd (v ++ u) = v ++ u) : trimEnd u = u := by
  refine List.rdropWhile_eq_self_iff.mpr fun hne => ?_
  have hlast := List.rdropWhile_eq_self_iff.mp h (List.append_ne_nil_of_right_ne_nil v hne)
  rwa [List.getLast_append_of_ne_nil _ hne] at hlast

end Text

/-! ### Keywords -/

theorem exists_keyword (keywords : List Text) (t : Text) :
    ∃ part u, t = part ++ u ∧ Keyword keywords part u := by
  by_cases h : ∀ k ∈ keywords, ∀ c v, t = k ++ c :: v → isBlank c = false
  · exact ⟨[], t, rfl, .absent h⟩
  · push Not at h
    obtain ⟨k, hk, c, v, rfl, hc⟩ := h
    obtain ⟨gap, hgap, hv⟩ := exists_blanks (c :: v)
    refine ⟨k ++ gap, trimStart (c :: v), by rw [List.append_assoc, ← hv], ?_⟩
    refine .present hk ?_ hgap (trimStart_trimStart _)
    rintro rfl
    have hlength := congrArg List.length hv
    have hle := List.length_dropWhile_le isBlank v
    rw [trimStart, List.dropWhile_cons_of_pos (by simpa using hc)] at hlength
    simp only [List.nil_append, List.length_cons] at hlength
    omega

/-- What stands behind a keyword starts without a blank if the keyword does. -/
theorem Keyword.trimStart_behind {keywords : List Text} {part u : Text}
    (h : Keyword keywords part u) (hstart : trimStart (part ++ u) = part ++ u) :
    trimStart u = u := by
  cases h with
  | absent h => exact hstart
  | present hk hne hgap hu => exact hu

/-- A keyword without a blank behind it stays. -/
theorem dropKeyword_of_not {k t : Text} (h : ∀ c v, t = k ++ c :: v → isBlank c = false) :
    dropKeyword k t = t := by
  rw [dropKeyword.eq_def]
  split
  · next c v hdrop =>
    rw [h c v (eq_append_of_dropHead? hdrop)]
    rfl
  · rfl

/-- A keyword with blanks behind it goes. -/
theorem dropKeyword_append {k gap u : Text} (hne : gap ≠ []) (hgap : ∀ c ∈ gap, isBlank c)
    (hu : trimStart u = u) : dropKeyword k (k ++ gap ++ u) = u := by
  obtain ⟨c, gap, rfl⟩ := List.exists_cons_of_ne_nil hne
  rw [dropKeyword, List.append_assoc, dropHead?_append]
  dsimp only [List.cons_append]
  rw [if_pos (hgap c List.mem_cons_self),
    trimStart_append (fun d hd => hgap d (List.mem_cons_of_mem c hd)), hu]

theorem Keyword.drop {k part u : Text} (h : Keyword [k] part u) : dropKeyword k (part ++ u) = u := by
  cases h with
  | absent h => exact dropKeyword_of_not (h k List.mem_cons_self)
  | present hk hne hgap hu =>
    obtain rfl := List.mem_singleton.mp hk
    exact dropKeyword_append hne hgap hu

/-- A keyword that another one does not start like. -/
theorem dropKeyword_other {k l gap u : Text} {c d : Char} (hne : c ≠ d) :
    dropKeyword (c :: k) (d :: l ++ gap ++ u) = d :: l ++ gap ++ u := by
  refine dropKeyword_of_not fun e v h => ?_
  exact absurd (List.cons.inj h).1.symm hne

/-- Of two keywords, the second goes only if the first does not. -/
theorem Keyword.drop_either {part u : Text} (h : Keyword ["const".toList, "mut".toList] part u) :
    (if (dropKeyword "const".toList (part ++ u)).length = (part ++ u).length then
      dropKeyword "mut".toList (part ++ u)
    else dropKeyword "const".toList (part ++ u)) = u := by
  cases h with
  | absent h =>
    have hconst := dropKeyword_of_not (h "const".toList (by simp))
    have hmut := dropKeyword_of_not (h "mut".toList (by simp))
    rw [List.nil_append, hconst, if_pos rfl, hmut]
  | @present k gap _ hk hne hgap hu =>
    have hdrop : dropKeyword k (k ++ gap ++ u) = u := dropKeyword_append hne hgap hu
    obtain rfl | hk := List.mem_cons.mp hk
    · rw [hdrop, if_neg]
      simp only [List.length_append, String.length_toList]
      have hfive : "const".length = 5 := rfl
      omega
    · obtain rfl := List.mem_singleton.mp hk
      have hconst : dropKeyword "const".toList ("mut".toList ++ gap ++ u) =
          "mut".toList ++ gap ++ u := dropKeyword_other (by decide)
      rw [hconst, if_pos rfl, hdrop]

/-! ### Lifetimes -/

theorem exists_lifetime (t : Text) : ∃ part u, t = part ++ u ∧ Lifetime part u := by
  obtain ⟨gap, hgap, ht⟩ := exists_blanks t
  by_cases hquote : (trimStart t).head? = some '\''
  · obtain ⟨rest, hrest⟩ := List.head?_eq_some_iff.mp hquote
    obtain ⟨gap', hgap', hbehind⟩ := exists_blanks (rest.dropWhile isLifetimePart)
    have hcut : rest = rest.takeWhile isLifetimePart ++ rest.dropWhile isLifetimePart :=
      List.takeWhile_append_dropWhile.symm
    refine ⟨gap ++ '\'' :: (rest.takeWhile isLifetimePart ++ gap'),
      trimStart (rest.dropWhile isLifetimePart), ?_, ?_⟩
    · rw [List.append_assoc, List.cons_append, List.append_assoc, ← hbehind, ← hcut, ← hrest, ← ht]
    · refine .present hgap (fun _ => List.mem_takeWhile_imp) hgap' (trimStart_trimStart _) ?_
      rw [← hbehind]
      intro c hc
      have hnot := List.head?_dropWhile_not isLifetimePart rest
      rw [hc] at hnot
      simpa using hnot
  · exact ⟨gap, trimStart t, ht, .absent hgap (trimStart_trimStart t) hquote⟩

theorem Lifetime.trimStart_behind {part u : Text} (h : Lifetime part u) : trimStart u = u := by
  cases h with
  | absent hgap hu hquote => exact hu
  | present hgap hname hgap' hu hend => exact hu

theorem Lifetime.drop {part u : Text} (h : Lifetime part u) : dropLifetime (part ++ u) = u := by
  cases h with
  | absent hgap hu hquote =>
    rw [dropLifetime.eq_def, trimStart_append hgap, hu]
    split
    · exact absurd rfl hquote
    · rfl
  | @present gap name gap' _ hgap hname hgap' hu hend =>
    have hbehind : (name ++ (gap' ++ u)).dropWhile isLifetimePart = gap' ++ u := by
      rw [List.dropWhile_append_of_pos hname]
      cases hw : gap' ++ u with
      | nil => rfl
      | cons c w =>
        have hc := hend c (by rw [hw]; rfl)
        exact List.dropWhile_cons_of_neg (by simp [hc])
    have hstart : trimStart (gap ++ '\'' :: (name ++ gap') ++ u) =
        '\'' :: (name ++ (gap' ++ u)) := by
      rw [List.append_assoc, trimStart_append hgap, List.cons_append, List.append_assoc]
      rfl
    rw [dropLifetime, hstart]
    exact (congrArg trimStart hbehind).trans ((trimStart_append hgap' u).trans hu)

/-! ### Types -/

theorem exists_owned (t : Text) : ∃ u, Owned t u := by
  rcases t with _ | ⟨c, rest⟩
  · exact ⟨[], .plain (by simp)⟩
  · by_cases href : c = '&'
    · obtain ⟨lifetime, w, rfl, hlifetime⟩ := exists_lifetime rest
      obtain ⟨mutability, u, rfl, hmutability⟩ := exists_keyword ["mut".toList] w
      exact ⟨u, href ▸ .reference hlifetime hmutability⟩
    · by_cases hptr : c = '*'
      · obtain ⟨gap, hgap, hrest⟩ := exists_blanks rest
        obtain ⟨mutability, u, hw, hmutability⟩ :=
          exists_keyword ["const".toList, "mut".toList] (trimStart rest)
        have hstart : trimStart (mutability ++ u) = mutability ++ u := by
          rw [← hw, trimStart_trimStart]
        rw [hw] at hrest
        exact ⟨u, hptr ▸ hrest ▸ .pointer hgap hstart hmutability⟩
      · exact ⟨c :: rest, .plain (by rintro _ ⟨⟩; exact ⟨href, hptr⟩)⟩

theorem trim_of_ends {t : Text} (hstart : trimStart t = t) (hend : trimEnd t = t) : trim t = t := by
  rw [trim, hstart, hend]

theorem Owned.eq_ownedType {t u : Text} (h : Owned (trim t) u) : ownedType t = u := by
  have hend : trimEnd (trim t) = trim t := trimEnd_trim t
  rw [ownedType]
  generalize trim t = type at h hend
  cases h with
  | plain h =>
    split
    · exact absurd rfl (h _ rfl).1
    · exact absurd rfl (h _ rfl).2
    · rfl
  | @reference lifetime mutability _ hlifetime hmutability =>
    have hstart := hmutability.trimStart_behind hlifetime.trimStart_behind
    have hu : trimEnd u = u := by
      refine trimEnd_of_append (v := '&' :: (lifetime ++ mutability)) ?_
      rwa [List.cons_append, List.append_assoc]
    change trim (dropKeyword "mut".toList (dropLifetime (lifetime ++ (mutability ++ u)))) = u
    rw [hlifetime.drop, hmutability.drop, trim_of_ends hstart hu]
  | @pointer gap mutability _ hgap hstart hmutability =>
    have hu : trimEnd u = u := by
      refine trimEnd_of_append (v := '*' :: (gap ++ mutability)) ?_
      rwa [List.cons_append, List.append_assoc]
    have hrest : trimStart (gap ++ (mutability ++ u)) = mutability ++ u :=
      (trimStart_append hgap _).trans hstart
    have hdrop := hmutability.drop_either
    rw [← hrest] at hdrop
    exact (congrArg trim hdrop).trans (trim_of_ends (hmutability.trimStart_behind hstart) hu)

/-- Exactly one sigil is taken from the start of the trimmed text, and nothing else. -/
theorem ownedType_eq_iff {t u : Text} : ownedType t = u ↔ Owned (trim t) u := by
  refine ⟨fun h => ?_, Owned.eq_ownedType⟩
  obtain ⟨w, hw⟩ := exists_owned (trim t)
  rwa [← h, hw.eq_ownedType]

theorem Owned.suffix {t u : Text} (h : Owned t u) : u <:+ t := by
  cases h with
  | plain h => exact List.suffix_rfl
  | @reference lifetime mutability u hlifetime hmutability =>
    exact ⟨'&' :: (lifetime ++ mutability), by simp⟩
  | @pointer gap mutability u hgap hstart hmutability =>
    exact ⟨'*' :: (gap ++ mutability), by simp⟩

theorem mem_of_mem_ownedType {c : Char} {type : Text} (h : c ∈ ownedType type) : c ∈ type :=
  mem_of_mem_trim ((ownedType_eq_iff.mp rfl).suffix.subset h)

-- no blank stands behind the keyword
example : ownedType "&mut(B)".toList = "mut(B)".toList := by decide

/-! ### Types that the grammar reads -/

namespace Syntax

/-- Is the type a reference or a pointer? -/
def TypeExpr.isIndirect : TypeExpr → Bool
  | .reference _ _ | .pointer _ _ => true
  | _ => false

namespace Grammar

open MapperGen.Syntax.Parser Trees

variable (r : Rules)

/-- A form with the sigil of a reference or a pointer is that of one. -/
theorem indirect_of_typeForm {plus bound : Bool} {c c' : Cursor} {form : TypeForm} {m : Char}
    {j : Bool} {i : Nat} {ts : Trees} (hm : m = '&' ∨ m = '*') (hrest : c.rest = .punct m j i :: ts)
    (h : typeForm r plus bound c = .ok (form, c')) (node : Node) : (form node).isIndirect := by
  rw [typeForm, ahead_bind_run, hrest] at h
  have hreference : Yields (fun form => (form node).isIndirect = true) (referenceType r) := by
    unfold referenceType
    repeat refine yields_bind fun _ => ?_
    exact yields_pure rfl
  have hpointer : Yields (fun form => (form node).isIndirect = true) (pointerType r) := by
    unfold pointerType
    repeat' first
      | exact yields_pure rfl
      | refine yields_bind fun _ => ?_
      | split
  obtain rfl | rfl := hm
  · simp [atGroup, atOneWord, atWord, atPathHead, atIdent, atOp, operator?] at h
    exact hreference _ _ _ h
  · simp [atGroup, atOneWord, atWord, atPathHead, atIdent, atOp, operator?] at h
    exact hpointer _ _ _ h

theorem indirect_of_typeExpr {plus : Bool} {c c' : Cursor} {type : TypeExpr} {m : Char} {j : Bool}
    {i : Nat} {ts : Trees} (hm : m = '&' ∨ m = '*') (hrest : c.rest = .punct m j i :: ts)
    (h : typeExpr r plus c = .ok (type, c')) : type.isIndirect := by
  obtain ⟨⟨form, node⟩, c₁, hspanned, h⟩ := bind_run_eq_ok_iff.mp h
  obtain ⟨rfl, -⟩ := Prod.mk.inj (Except.ok.inj h)
  obtain ⟨c₂, hrun, -⟩ := run_of_spanned hspanned
  -- no binder stands in front of a sigil
  obtain ⟨bound, c₃, hbinder, hrun⟩ := bind_run_eq_ok_iff.mp hrun
  have hword : c.rest.atWord "for" = false := by rw [hrest]; rfl
  rw [binder?, ahead_bind_run, if_neg (by simp [hword])] at hbinder
  obtain ⟨rfl, rfl⟩ := Prod.mk.inj (Except.ok.inj hbinder)
  have hform : typeForm r plus false { c with read := [] } = .ok (form, c₂) := hrun
  exact indirect_of_typeForm r hm (c := { c with read := [] }) hrest hform node

end Grammar

/-- The first tree of a text that starts with a sigil. -/
theorem Tokens.first_of_sigil {t : Text} {s : Tokens} {m : Char} (hm : m = '&' ∨ m = '*')
    (htrim : (trim t).head? = some m) (h : Tokens.read t = .ok s) :
    ∃ j i ts, s.trees = .punct m j i :: ts := by
  have hmem : m ∈ ['#', '!', '&', '*'] := by
    obtain rfl | rfl := hm
    all_goals simp
  obtain ⟨gap, hgap, ht⟩ := exists_blanks t
  obtain ⟨rest, hrest⟩ : ∃ rest, trimStart t = m :: rest := by
    obtain ⟨v, hv⟩ := trimEnd_prefix (trimStart t)
    obtain ⟨rest, hrest⟩ := List.head?_eq_some_iff.mp htrim
    exact ⟨rest ++ v, by rw [← hv, ← List.cons_append, ← hrest]; rfl⟩
  have hmark : markLength t = 0 := by
    rw [markLength_eq_zero_iff]
    intro hhead
    obtain ⟨v, rfl⟩ := List.head?_eq_some_iff.mp hhead
    have hself : trimStart (byteOrderMark :: v) = byteOrderMark :: v :=
      List.dropWhile_cons_of_neg (by decide)
    rw [hself] at hrest
    obtain ⟨rfl, -⟩ := List.cons.inj hrest
    exact absurd hmem (by decide)
  obtain ⟨placed, hscans, hnests, -, -⟩ := Tokens.read_eq_ok_iff.mp h
  rw [hmark, List.drop_zero] at hscans
  have hlexes := hscans.lexes
  have hgaps : ∀ c ∈ gap, isGap c := fun c hc => by simp [isGap, hgap c hc]
  obtain ⟨j, hone⟩ := scanOne_mark hmem rest
  rw [ht, hrest, Lexes.gaps_iff hgaps, Lexes.whole_iff hone] at hlexes
  obtain ⟨later, -, htokens⟩ := hlexes
  rw [htokens, List.singleton_append] at hnests
  obtain ⟨ts, htrees, -⟩ := hnests.cons_punct
  exact ⟨j, 0, ts, htrees⟩

end Syntax

/-- A type that is neither a reference nor a pointer is left as it is. -/
theorem ownedType_of_direct {t : Text} {type : TypeExpr} (h : TypeExpr.read t = .ok type)
    (hdirect : type.isIndirect = false) : ownedType t = trim t := by
  refine ownedType_eq_iff.mpr (.plain fun m hm => ?_)
  by_contra hsigil
  have hm' : m = '&' ∨ m = '*' := by tauto
  obtain ⟨tokens, hread, htype⟩ := TypeExpr.read_eq_ok_iff.mp h
  obtain ⟨j, i, ts, htrees⟩ := Tokens.first_of_sigil hm' hm hread
  obtain ⟨c', hrun⟩ := Parser.run_of_runAll htype
  have hindirect := Grammar.indirect_of_typeExpr _ hm' htrees hrun
  rw [hdirect] at hindirect
  cases hindirect

end MapperGen
