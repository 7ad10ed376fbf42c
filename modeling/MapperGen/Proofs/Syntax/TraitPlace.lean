import MapperGen.Proofs.Syntax.TraitNames
import MapperGen.Proofs.Syntax.TraitNode

/-!
# Where items begin

The indices that items, members, signatures and parameters carry are those of the first tokens they
were read from. A node is said to begin at a token if its parser reads it from trees that stand
among the tokens of the file with this one first.
-/

namespace MapperGen.Syntax

open MapperGen.Syntax.Parser Trees

variable {tokens : List Token}

/-- The first token of a member. -/
def Member.first : Member → Nat
  | .method first _ | .other first => first

/-! ### Beginnings -/

/-- Token number `index` comes first in the trees. -/
def Trees.BeginAt (ts : Trees) (index : Nat) : Prop := ts.head?.map Tree.first = some index

/-- On some level of the grammar, `p` reads `a` from trees among the tokens that begin with token
number `index`. -/
def BeginsAt {α : Type} (tokens : List Token) (p : Rules → Parser α) (index : Nat) (a : α) : Prop :=
  ∃ n c c', p (.level n) c = .ok (a, c') ∧ Located tokens c.rest ∧ c.rest.BeginAt index

/-- A word among the trees is the token that its index names. -/
theorem Located.ident {name : Text} {index : Nat} {ts : Trees}
    (h : Located tokens (.ident name index :: ts)) : tokens[index]? = some (.ident name) := by
  obtain ⟨before, left, own, right, rfl, hnests, -, -⟩ := h
  obtain ⟨front, back, rfl, -, hback⟩ := hnests.split
  cases hback with
  | @leaf _ token _ back _ htree hrest =>
    cases token with
    | ident =>
      obtain ⟨rfl, rfl⟩ := Tree.ident.inj (Option.some.inj htree)
      simp
    | opening | closing | punct | literal | comment => cases htree

namespace Parser

theorem ne_nil_of_reaches {c c' : Cursor} (h : c.Reaches c') (hrest : c'.rest ≠ []) :
    c.rest ≠ [] := by
  obtain ⟨passed, hpassed⟩ := h.suffix
  rw [← hpassed]
  exact List.append_ne_nil_of_right_ne_nil passed hrest

theorem beginAt_of_nextIndex {c c' : Cursor} {index : Nat} (h : nextIndex c = .ok (index, c'))
    (hrest : c.rest ≠ []) : c' = c ∧ c.rest.BeginAt index := by
  rw [nextIndex, ahead_bind_run] at h
  obtain ⟨hindex, rfl⟩ := Prod.mk.inj (Except.ok.inj h)
  refine ⟨rfl, ?_⟩
  subst hindex
  cases hts : c.rest with
  | nil => exact absurd hts hrest
  | cons tree ts => simp [Trees.BeginAt]

theorem ne_nil_of_op {symbol : String} (hsymbol : symbol.toList ≠ []) {c c' : Cursor} {u : Unit}
    (h : op symbol c = .ok (u, c')) : c.rest ≠ [] := by
  intro hrest
  rw [op, ahead_bind_run, hrest] at h
  cases hs : symbol.toList with
  | nil => exact hsymbol hs
  | cons d ds =>
    rw [hs] at h
    cases ds <;> cases h

theorem ne_nil_of_word {name : String} {c c' : Cursor} {u : Unit}
    (h : word name c = .ok (u, c')) : c.rest ≠ [] := by
  intro hrest
  rw [word, ahead_bind_run, hrest] at h
  cases h

end Parser

namespace Grammar

variable (r : Rules) [r.Advance]

/-! ### Parameters -/

/-- The pattern of a parameter; a type with generic arguments may stand in its place. -/
def parameterPattern : Parser Pattern := do
  if (← ahead).atIdent && (← ahead).behind.atOp "<" then
    let _ ← r.type true
    return .other
  else r.pattern

omit [r.Advance] in
theorem ne_nil_of_atIdent {c : Cursor} (h : c.rest.atIdent = true) : c.rest ≠ [] := by
  intro hrest
  rw [hrest] at h
  cases h

theorem pattern_of_argumentStep {c c' : Cursor} {pattern : Pattern} {patternAt : Nat}
    {type : TypeExpr} (h : argumentStep r c = .ok (.argument (.typed pattern patternAt type), c')) :
    ∃ c₁ c₂, c.Reaches c₁ ∧ c₁.rest.BeginAt patternAt ∧
      parameterPattern r c₁ = .ok (pattern, c₂) := by
  obtain ⟨_, c₁, hattributes, h⟩ := bind_run_eq_ok_iff.mp h
  obtain ⟨variadic, c₂, hvariadic, h⟩ := bind_run_eq_ok_iff.mp h
  split at h
  · cases h
  · obtain ⟨self, c₃, hself, h⟩ := bind_run_eq_ok_iff.mp h
    have hreach := (Advancing.reaches hattributes).trans <|
      (Advancing.reaches hvariadic).trans (Advancing.reaches hself)
    split at h
    · cases h
    · rw [ahead_bind_run, ahead_bind_run] at h
      split at h
      · next hnameless =>
        obtain ⟨first, c₄, hfirst, h⟩ := bind_run_eq_ok_iff.mp h
        obtain ⟨type', c₅, htype, h⟩ := bind_run_eq_ok_iff.mp h
        obtain ⟨hargument, rfl⟩ := Prod.mk.inj (Except.ok.inj h)
        cases hargument
        have hident : c₃.rest.atIdent = true := (Bool.and_eq_true_iff.mp hnameless).1
        obtain ⟨rfl, hbegin⟩ := beginAt_of_nextIndex hfirst (ne_nil_of_atIdent hident)
        refine ⟨c₄, c₅, hreach, hbegin, ?_⟩
        rw [parameterPattern, ahead_bind_run, ahead_bind_run, if_pos hnameless]
        exact bind_run_eq_ok_iff.mpr ⟨type, c₅, htype, rfl⟩
      · next hnamed =>
        obtain ⟨first, c₄, hfirst, h⟩ := bind_run_eq_ok_iff.mp h
        obtain ⟨pattern', c₅, hpattern, h⟩ := bind_run_eq_ok_iff.mp h
        obtain ⟨_, c₆, hcolon, h⟩ := bind_run_eq_ok_iff.mp h
        obtain ⟨dots, c₇, hdots, h⟩ := bind_run_eq_ok_iff.mp h
        split at h
        · cases h
        · obtain ⟨type', c₈, htype, h⟩ := bind_run_eq_ok_iff.mp h
          obtain ⟨hargument, rfl⟩ := Prod.mk.inj (Except.ok.inj h)
          cases hargument
          -- the colon behind the pattern stands among the trees even if the pattern were empty
          have hrest : c₃.rest ≠ [] :=
            ne_nil_of_reaches ((Advancing.reaches hfirst).trans (Advancing.reaches hpattern))
              (ne_nil_of_op (by decide) hcolon)
          obtain ⟨rfl, hbegin⟩ := beginAt_of_nextIndex hfirst hrest
          refine ⟨c₄, c₅, hreach, hbegin, ?_⟩
          rw [parameterPattern, ahead_bind_run, ahead_bind_run, if_neg hnamed]
          exact hpattern

theorem exists_run_of_mem_argumentList {n : Nat} {first : Bool} {c c' : Cursor}
    {arguments : List Argument} (h : argumentList r first n c = .ok (arguments, c')) :
    ∀ a ∈ arguments, a = .receiver ∨
      ∃ c₁ c₂, c.Reaches c₁ ∧ argumentStep r c₁ = .ok (.argument a, c₂) := by
  induction n generalizing first c c' arguments with
  | zero =>
    obtain ⟨rfl, -⟩ := Prod.mk.inj (Except.ok.inj h)
    simp
  | succ n ih =>
    obtain ⟨ended, c₀, hended, h⟩ := bind_run_eq_ok_iff.mp h
    obtain ⟨-, rfl⟩ := Prod.mk.inj (Except.ok.inj hended)
    split at h
    · obtain ⟨rfl, -⟩ := Prod.mk.inj (Except.ok.inj h)
      simp
    · obtain ⟨step, c₁, hstep, h⟩ := bind_run_eq_ok_iff.mp h
      have hreach := Advancing.reaches hstep
      have hlater {a : Argument} (ha : a = .receiver ∨ argumentStep r c = .ok (.argument a, c₁))
          (h : Follows c₁.rest ∧ (arguments = [a] ∨ ∃ c₂ later, c₁.Reaches c₂ ∧
            argumentList r false n c₂ = .ok (later, c') ∧ arguments = a :: later)) :
          ∀ b ∈ arguments, b = .receiver ∨
            ∃ c₂ c₃, c.Reaches c₂ ∧ argumentStep r c₂ = .ok (.argument b, c₃) := by
        have hhead : a = .receiver ∨
            ∃ c₂ c₃, c.Reaches c₂ ∧ argumentStep r c₂ = .ok (.argument a, c₃) :=
          ha.imp_right fun hrun => ⟨c, c₁, .refl c, hrun⟩
        obtain ⟨-, rfl | ⟨c₂, later, hreach', hrun, rfl⟩⟩ := h
        · simpa using hhead
        · rw [List.forall_mem_cons]
          refine ⟨hhead, fun b hb => (ih hrun b hb).imp_right ?_⟩
          rintro ⟨d, d', hd, hbrun⟩
          exact ⟨d, d', hreach.trans (hreach'.trans hd), hbrun⟩
      cases step with
      | variadic =>
        obtain ⟨ended, c₂, -, h⟩ := bind_run_eq_ok_iff.mp h
        dsimp only at h
        split at h
        · obtain ⟨u, c₃, -, h⟩ := bind_run_eq_ok_iff.mp h
          obtain ⟨rfl, -⟩ := Prod.mk.inj (Except.ok.inj h)
          simp
        · obtain ⟨rfl, -⟩ := Prod.mk.inj (Except.ok.inj h)
          simp
      | receiver selfAt =>
        dsimp only at h
        split at h
        · obtain ⟨u, c₂, hfail, -⟩ := bind_run_eq_ok_iff.mp h
          cases hfail
        · exact hlater (.inl rfl) (run_of_laterArguments r h)
      | argument a => exact hlater (.inr hstep) (run_of_laterArguments r h)

/-! ### Signatures -/

omit [r.Advance] in
theorem first_of_unmarkedSignature (first : Nat) :
    Yields (fun sig => sig.first = first) (unmarkedSignature r first) := by
  unfold unmarkedSignature
  iterate 7 refine yields_bind fun _ => ?_
  exact yields_pure rfl

omit [r.Advance] in
theorem beginAt_of_signature {c c' : Cursor} {allowSafe : Bool} {sig : Signature}
    (h : signature r allowSafe c = .ok (sig, c')) : c.rest.BeginAt sig.first := by
  obtain ⟨first, c₁, c₂, hfirst, hreach, hrun⟩ := run_of_signature r h
  obtain rfl := first_of_unmarkedSignature r first c₂ sig c' hrun
  obtain ⟨_, c₃, hconvention, hrun⟩ := bind_run_eq_ok_iff.mp hrun
  obtain ⟨_, c₄, hword, hrun⟩ := bind_run_eq_ok_iff.mp hrun
  have hrest : c.rest ≠ [] :=
    ne_nil_of_reaches (hreach.trans (Advancing.reaches hconvention)) (ne_nil_of_word hword)
  exact (beginAt_of_nextIndex hfirst hrest).2

theorem pattern_of_signature {allowSafe : Bool} {c c' : Cursor} {sig : Signature}
    (h : signature r allowSafe c = .ok (sig, c')) (hlocated : Located tokens c.rest)
    {pattern : Pattern} {patternAt : Nat} {type : TypeExpr}
    (ha : .typed pattern patternAt type ∈ sig.arguments) :
    ∃ c₁ c₂, Located tokens c₁.rest ∧ c₁.rest.BeginAt patternAt ∧
      parameterPattern r c₁ = .ok (pattern, c₂) := by
  obtain ⟨first, -, c₀, -, hmarks, h⟩ := run_of_signature r h
  obtain ⟨_, c₁, hconvention, h⟩ := bind_run_eq_ok_iff.mp h
  obtain ⟨_, c₂, hword, h⟩ := bind_run_eq_ok_iff.mp h
  obtain ⟨name, c₃, hname, h⟩ := bind_run_eq_ok_iff.mp h
  obtain ⟨generics, c₄, hgenerics, h⟩ := bind_run_eq_ok_iff.mp h
  obtain ⟨arguments, c₅, harguments, h⟩ := bind_run_eq_ok_iff.mp h
  obtain ⟨result, c₆, -, h⟩ := bind_run_eq_ok_iff.mp h
  obtain ⟨clause, c₇, -, h⟩ := bind_run_eq_ok_iff.mp h
  obtain ⟨rfl, -⟩ := Prod.mk.inj (Except.ok.inj h)
  have hfront : c.Reaches c₄ := hmarks.trans <| (Advancing.reaches hconvention).trans <|
    (Advancing.reaches hword).trans <| (Advancing.reaches hname).trans
      (Advancing.reaches hgenerics)
  have hlocated₄ := hlocated.suffix hfront.suffix
  obtain ⟨trees, opening, closing, inner, hrest, -, hcontent⟩ := rest_of_inGroup harguments
  rw [ahead_bind_run] at hcontent
  rw [hrest] at hlocated₄
  have hlevel : Located tokens trees := (hlocated₄.content (by decide)).ready.located
  rcases exists_run_of_mem_argumentList r hcontent _ ha with hreceiver | ⟨d, d', hd, hstep⟩
  · cases hreceiver
  · obtain ⟨e, e', he, hbegin, hpattern⟩ := pattern_of_argumentStep r hstep
    exact ⟨e, e', hlevel.suffix (hd.trans he).suffix, hbegin, hpattern⟩

omit [r.Advance] in
theorem name_of_signature {allowSafe : Bool} {c c' : Cursor} {sig : Signature}
    (h : signature r allowSafe c = .ok (sig, c')) (hlocated : Located tokens c.rest) :
    .ident sig.name ∈ tokens := by
  obtain ⟨first, -, c₀, -, hmarks, h⟩ := run_of_signature r h
  obtain ⟨_, c₁, hconvention, h⟩ := bind_run_eq_ok_iff.mp h
  obtain ⟨_, c₂, hword, h⟩ := bind_run_eq_ok_iff.mp h
  obtain ⟨name, c₃, hname, h⟩ := bind_run_eq_ok_iff.mp h
  obtain ⟨generics, c₄, -, h⟩ := bind_run_eq_ok_iff.mp h
  obtain ⟨arguments, c₅, -, h⟩ := bind_run_eq_ok_iff.mp h
  obtain ⟨result, c₆, -, h⟩ := bind_run_eq_ok_iff.mp h
  obtain ⟨clause, c₇, -, h⟩ := bind_run_eq_ok_iff.mp h
  obtain ⟨rfl, -⟩ := Prod.mk.inj (Except.ok.inj h)
  have hfront : c.Reaches c₂ :=
    hmarks.trans ((Advancing.reaches hconvention).trans (Advancing.reaches hword))
  have hlocated₂ := hlocated.suffix hfront.suffix
  obtain ⟨i, hrest⟩ := rest_of_ident hname
  rw [hrest] at hlocated₂
  exact List.mem_of_getElem? hlocated₂.ident

/-! ### Members -/

omit [r.Advance] in
theorem signature_of_traitMethod {attributes : List Attribute} {c c' : Cursor} {m : Method}
    (h : traitMethod r attributes c = .ok (m, c')) :
    ∃ c₁, signature r false c = .ok (m.signature, c₁) := by
  obtain ⟨sig, c₁, hsig, h⟩ := bind_run_eq_ok_iff.mp h
  rw [ahead_bind_run] at h
  split at h
  · obtain ⟨inner, c₂, -, h⟩ := bind_run_eq_ok_iff.mp h
    obtain ⟨rfl, -⟩ := Prod.mk.inj (Except.ok.inj h)
    exact ⟨c₁, hsig⟩
  · obtain ⟨u, c₂, -, h⟩ := bind_run_eq_ok_iff.mp h
    obtain ⟨rfl, -⟩ := Prod.mk.inj (Except.ok.inj h)
    exact ⟨c₁, hsig⟩

omit [r.Advance] in
theorem beginAt_of_traitMember {c c' : Cursor} {member : Member}
    (h : traitMember r c = .ok (member, c')) (hrest : c.rest ≠ []) :
    c.rest.BeginAt member.first := by
  obtain ⟨first, c₁, hfirst, hbehind⟩ := bind_run_eq_ok_iff.mp h
  obtain ⟨rfl, hbegin⟩ := beginAt_of_nextIndex hfirst hrest
  have hmember : member.first = first := by
    refine (?_ : Yields (fun member => member.first = first) _) c₁ member c' hbehind
    refine yields_bind fun attributes => yields_bind fun isPub => yields_bind fun isDefault =>
      yields_bind fun ts => ?_
    have hend {p : Parser (Option Method)} {k : Option Method → Parser Member}
        (hnone : k none = pure (.other first))
        (hsome : ∀ m, k (some m) =
          pure (if isPub || isDefault then .other first else .method first m)) :
        Yields (fun member => member.first = first) (p >>= k) := by
      refine yields_bind fun method => ?_
      cases method with
      | none =>
        rw [hnone]
        exact yields_pure rfl
      | some m =>
        rw [hsome]
        exact yields_pure (by split <;> rfl)
    dsimp only
    refine yields_ite (hend rfl fun _ => rfl) ?_
    refine yields_ite (hend rfl fun _ => rfl) ?_
    refine yields_ite (yields_bind fun _ => hend rfl fun _ => rfl) ?_
    exact yields_ite (yields_bind fun _ => hend rfl fun _ => rfl) (hend rfl fun _ => rfl)
  rwa [hmember]

/-! ### Traits -/

/-- A run that yields a trait comes to the name of the trait and from there to its tail. -/
theorem run_of_traitItem {mayAlias : Bool} {c c' : Cursor} {parts : ItemParts} {t : TraitDecl}
    (h : traitItem r mayAlias c = .ok (parts, c')) (ht : parts.1 = .traitDecl t) :
    ∃ keywordAt nameAt name parameters c₁ c₂ c₃ c₄, c.Reaches c₁ ∧
      nextIndex c₁ = .ok (nameAt, c₂) ∧ ident c₂ = .ok (name, c₃) ∧ c₃.Reaches c₄ ∧
        traitTail r keywordAt name nameAt parameters c₄ = .ok (parts, c') := by
  have hnamed {c₀ : Cursor} (hreach : c.Reaches c₀)
      (h : (nextIndex >>= fun keywordAt => word "trait" >>= fun _ =>
        nextIndex >>= fun nameAt => ident >>= fun name => generics r >>= fun parameters =>
          ahead >>= fun ts =>
            if !mayAlias || ts.atBrace || ts.atOp ":" || ts.atWord "where" then
              traitTail r keywordAt name nameAt parameters
            else traitAliasTail r) c₀ = .ok (parts, c')) :
      ∃ keywordAt nameAt name parameters c₁ c₂ c₃ c₄, c.Reaches c₁ ∧
        nextIndex c₁ = .ok (nameAt, c₂) ∧ ident c₂ = .ok (name, c₃) ∧ c₃.Reaches c₄ ∧
          traitTail r keywordAt name nameAt parameters c₄ = .ok (parts, c') := by
    obtain ⟨keywordAt, c₁, hkeywordAt, h⟩ := bind_run_eq_ok_iff.mp h
    obtain ⟨_, c₂, hkeyword, h⟩ := bind_run_eq_ok_iff.mp h
    obtain ⟨nameAt, c₃, hnameAt, h⟩ := bind_run_eq_ok_iff.mp h
    obtain ⟨name, c₄, hname, h⟩ := bind_run_eq_ok_iff.mp h
    obtain ⟨parameters, c₅, hparameters, h⟩ := bind_run_eq_ok_iff.mp h
    rw [ahead_bind_run] at h
    split at h
    · have hfront := (Advancing.reaches hkeywordAt).trans (Advancing.reaches hkeyword)
      exact ⟨keywordAt, nameAt, name, parameters, c₂, c₃, c₄, c₅, hreach.trans hfront, hnameAt,
        hname, Advancing.reaches hparameters, h⟩
    · -- an alias is no trait
      obtain ⟨_, c₆, -, h⟩ := bind_run_eq_ok_iff.mp h
      obtain ⟨_, c₇, -, h⟩ := bind_run_eq_ok_iff.mp h
      obtain ⟨_, c₈, -, h⟩ := bind_run_eq_ok_iff.mp h
      obtain ⟨_, c₉, -, h⟩ := bind_run_eq_ok_iff.mp h
      obtain ⟨rfl, -⟩ := Prod.mk.inj (Except.ok.inj h)
      cases ht
  obtain ⟨_, c₁, hvisibility, h⟩ := bind_run_eq_ok_iff.mp h
  dsimp only at h
  split at h
  · obtain ⟨_, c₂, hunsafe, h⟩ := bind_run_eq_ok_iff.mp h
    obtain ⟨_, c₃, hauto, h⟩ := bind_run_eq_ok_iff.mp h
    refine hnamed ?_ h
    exact (Advancing.reaches hvisibility).trans
      ((Advancing.reaches hunsafe).trans (Advancing.reaches hauto))
  · exact hnamed (Advancing.reaches hvisibility) h

end Grammar

/-- The name of the trait, its members, their signatures and their parameters begin at the tokens
that the trait keeps for them, and its methods are named by tokens. -/
structure TraitDecl.IsPlaced (tokens : List Token) (t : TraitDecl) : Prop where
  name : tokens[t.nameAt]? = some (.ident t.name)
  member : ∀ member ∈ t.members, BeginsAt tokens Grammar.traitMember member.first member
  method : ∀ first m, .method first m ∈ t.members → .ident m.signature.name ∈ tokens ∧
    BeginsAt tokens (fun r => Grammar.signature r false) m.signature.first m.signature
  parameter : ∀ first m, .method first m ∈ t.members →
    ∀ pattern patternAt type, .typed pattern patternAt type ∈ m.signature.arguments →
      BeginsAt tokens Grammar.parameterPattern patternAt pattern

namespace Grammar

/-- A trait is placed among the tokens where it stands among them. -/
def PlacedIn (tokens : List Token) (ts : Trees) (t : TraitDecl) : Prop :=
  Located tokens ts → t.IsPlaced tokens

instance : Inherited (PlacedIn tokens) where
  of_suffix hsuffix h hlocated := h (hlocated.suffix hsuffix)

theorem members_of_traitTail {r : Rules} [r.Advance] {keywordAt nameAt : Nat} {name : Text}
    {parameters : Option Clause} {c c' : Cursor} {parts : ItemParts} {t : TraitDecl}
    (h : traitTail r keywordAt name nameAt parameters c = .ok (parts, c'))
    (ht : parts.1 = .traitDecl t) (hlocated : Located tokens c.rest) :
    t.name = name ∧ t.nameAt = nameAt ∧ ∀ member ∈ t.members, ∃ c₁ c₂,
      Located tokens c₁.rest ∧ c₁.rest ≠ [] ∧ traitMember r c₁ = .ok (member, c₂) := by
  obtain ⟨_, c₁, hbounds, h⟩ := bind_run_eq_ok_iff.mp h
  obtain ⟨clause, c₂, hclause, h⟩ := bind_run_eq_ok_iff.mp h
  obtain ⟨⟨attributes, found⟩, c₃, hmembers, h⟩ := bind_run_eq_ok_iff.mp h
  obtain ⟨rfl, -⟩ := Prod.mk.inj (Except.ok.inj h)
  obtain rfl := ItemKind.traitDecl.inj ht
  refine ⟨rfl, rfl, fun member hmember => ?_⟩
  have hlocated₂ := hlocated.suffix
    ((Advancing.reaches hbounds).trans (Advancing.reaches hclause)).suffix
  obtain ⟨trees, opening, closing, inner, hrest, -, hcontent⟩ := rest_of_inGroup hmembers
  rw [hrest] at hlocated₂
  have hlevel : Located tokens trees := (hlocated₂.content (by decide)).ready.located
  obtain ⟨attributes', c₄, hattributes, hcontent⟩ := bind_run_eq_ok_iff.mp hcontent
  obtain ⟨found', c₅, hfound, hcontent⟩ := bind_run_eq_ok_iff.mp hcontent
  obtain ⟨heq, -⟩ := Prod.mk.inj (Except.ok.inj hcontent)
  obtain ⟨rfl, rfl⟩ := Prod.mk.inj heq
  obtain ⟨c₆, c₇, hreach, hne, hrun⟩ := exists_run_of_mem_untilEnd hfound _ hmember
  exact ⟨c₆, c₇, hlevel.suffix ((Advancing.reaches hattributes).trans hreach).suffix, hne, hrun⟩

theorem traitItem_placed (n : Nat) (mayAlias : Bool) :
    Traits (PlacedIn tokens) (traitItem (.level n) mayAlias) := by
  intro c parts c' h t ht hlocated
  obtain ⟨keywordAt, nameAt, name, parameters, c₁, c₂, c₃, c₄, hreach, hnameAt, hname, hparameters,
    htail⟩ := run_of_traitItem (.level n) h ht
  obtain ⟨i, hrest⟩ := rest_of_ident hname
  have hlocated₂ := hlocated.suffix (hreach.trans (Advancing.reaches hnameAt)).suffix
  have hlocated₄ := hlocated₂.suffix ((Advancing.reaches hname).trans hparameters).suffix
  obtain ⟨rfl, rfl, hmembers⟩ := members_of_traitTail htail ht hlocated₄
  have hsignature {first : Nat} {m : Method} (hm : .method first m ∈ t.members) :
      ∃ c₅ c₆, Located tokens c₅.rest ∧ signature (.level n) false c₅ = .ok (m.signature, c₆) := by
    obtain ⟨c₅, c₆, hlocated₅, -, hrun⟩ := hmembers _ hm
    obtain ⟨attributes, c₇, c₈, hreach, hmethod⟩ := run_of_method (.level n) hrun
    obtain ⟨c₉, hsig⟩ := signature_of_traitMethod (.level n) hmethod
    exact ⟨c₇, c₉, hlocated₅.suffix hreach.suffix, hsig⟩
  constructor
  · have hne : c₁.rest ≠ [] :=
      ne_nil_of_reaches (Advancing.reaches hnameAt) (by rw [hrest]; exact List.cons_ne_nil _ _)
    obtain ⟨rfl, hbegin⟩ := beginAt_of_nextIndex hnameAt hne
    rw [hrest] at hbegin hlocated₂
    obtain rfl : i = t.nameAt := Option.some.inj hbegin
    exact hlocated₂.ident
  · intro member hmember
    obtain ⟨c₅, c₆, hlocated₅, hne, hrun⟩ := hmembers member hmember
    exact ⟨n, c₅, c₆, hrun, hlocated₅, beginAt_of_traitMember (.level n) hrun hne⟩
  · intro first m hm
    obtain ⟨c₅, c₆, hlocated₅, hrun⟩ := hsignature hm
    refine ⟨name_of_signature (.level n) hrun hlocated₅, n, c₅, c₆, hrun, hlocated₅, ?_⟩
    exact beginAt_of_signature (.level n) hrun
  · intro first m hm pattern patternAt type ha
    obtain ⟨c₅, c₆, hlocated₅, hrun⟩ := hsignature hm
    obtain ⟨c₇, c₈, hlocated₇, hbegin, hpattern⟩ :=
      pattern_of_signature (.level n) hrun hlocated₅ ha
    exact ⟨n, c₇, c₈, hpattern, hlocated₇, hbegin⟩

end Grammar

/-! ### Files -/

variable {text : Text} {file : SourceFile}

/-- The traits of a file are placed among its tokens. -/
theorem SourceFile.traits_placed (h : SourceFile.read text = .ok file) {item : Item}
    (hitem : item ∈ file.items) {t : TraitDecl} (ht : item.kind = .traitDecl t) :
    t.IsPlaced file.tokens.sequence := by
  obtain ⟨htokens, hitems⟩ := SourceFile.read_eq_ok_iff.mp h
  obtain ⟨placed, -, hnests, hplaced, -⟩ := Tokens.read_eq_ok_iff.mp htokens
  obtain ⟨c', hrun⟩ := run_of_runAll hitems
  refine Grammar.traits_of_file Grammar.traitItem_placed hrun item hitem t ht ?_
  rw [Tokens.sequence, hplaced]
  exact (Level.of_nests hnests).ready.located

/-- The items of a file begin at the tokens that they keep. -/
theorem SourceFile.items_placed (h : SourceFile.read text = .ok file) {item : Item}
    (hitem : item ∈ file.items) :
    BeginsAt file.tokens.sequence Grammar.nestedItem item.first item := by
  obtain ⟨htokens, hitems⟩ := SourceFile.read_eq_ok_iff.mp h
  obtain ⟨placed, -, hnests, hplaced, -⟩ := Tokens.read_eq_ok_iff.mp htokens
  obtain ⟨c', hrun⟩ := run_of_runAll hitems
  have hlevel : Located file.tokens.sequence file.tokens.trees := by
    rw [Tokens.sequence, hplaced]
    exact (Level.of_nests hnests).ready.located
  obtain ⟨_, c₁, hinner, hrun⟩ := bind_run_eq_ok_iff.mp hrun
  obtain ⟨c₂, c₃, hreach, hne, hrun⟩ := exists_run_of_mem_untilEnd hrun item hitem
  have hlocated := hlevel.suffix ((Advancing.reaches hinner).trans hreach).suffix
  refine ⟨_, c₂, c₃, hrun, hlocated, ?_⟩
  obtain ⟨first, c₄, hfirst, hrun⟩ := bind_run_eq_ok_iff.mp hrun
  obtain ⟨attributes, c₅, -, hrun⟩ := bind_run_eq_ok_iff.mp hrun
  obtain ⟨parts, c₆, -, hrun⟩ := bind_run_eq_ok_iff.mp hrun
  obtain ⟨rfl, -⟩ := Prod.mk.inj (Except.ok.inj hrun)
  exact (beginAt_of_nextIndex hfirst hne).2

end MapperGen.Syntax
