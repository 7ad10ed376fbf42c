import MapperGen.Proofs.Syntax.GrammarAdvance

/-!
# Items that are traits

Only the parser of traits yields a trait. So what it says of a trait and of the trees ahead holds of
every trait in a file, if it goes on to hold where more trees are ahead.
-/

namespace MapperGen.Syntax

open MapperGen.Syntax.Parser Trees

/-! ### Runs -/

namespace Parser

theorem exists_run_of_mem_collectUpTo {α : Type} {step : Parser (Option α)} [Advancing step]
    {n : Nat} {c c' : Cursor} {as : List α} (h : collectUpTo step n c = .ok (as, c')) :
    ∀ a ∈ as, ∃ c₁ c₂, c.Reaches c₁ ∧ step c₁ = .ok (some a, c₂) := by
  induction n generalizing c as with
  | zero =>
    obtain ⟨rfl, -⟩ := Prod.mk.inj (Except.ok.inj h)
    simp
  | succ n ih =>
    obtain ⟨o, c₁, hstep, hrest⟩ := bind_run_eq_ok_iff.mp h
    cases o with
    | none =>
      obtain ⟨rfl, -⟩ := Prod.mk.inj (Except.ok.inj hrest)
      simp
    | some a =>
      obtain ⟨later, c₂, hlater, hpure⟩ := bind_run_eq_ok_iff.mp hrest
      obtain ⟨rfl, rfl⟩ := Prod.mk.inj (Except.ok.inj hpure)
      intro b hb
      rcases List.mem_cons.mp hb with rfl | hb
      · exact ⟨c, c₁, .refl c, hstep⟩
      · obtain ⟨d, d', hd, hrun⟩ := ih hlater b hb
        exact ⟨d, d', (Advancing.reaches hstep).trans hd, hrun⟩

theorem exists_run_of_mem_untilEnd {α : Type} {p : Parser α} [Advancing p] {c c' : Cursor}
    {as : List α} (h : untilEnd p c = .ok (as, c')) :
    ∀ a ∈ as, ∃ c₁ c₂, c.Reaches c₁ ∧ c₁.rest ≠ [] ∧ p c₁ = .ok (a, c₂) := by
  intro a ha
  rw [untilEnd, whileSees, collect, ahead_bind_run] at h
  obtain ⟨c₁, c₂, hreach, hrun⟩ := exists_run_of_mem_collectUpTo h a ha
  rw [ahead_bind_run] at hrun
  split at hrun
  · next hrest =>
    obtain ⟨b, c₃, hb, hpure⟩ := bind_run_eq_ok_iff.mp hrun
    obtain ⟨hab, rfl⟩ := Prod.mk.inj (Except.ok.inj hpure)
    obtain rfl := Option.some.inj hab
    exact ⟨c₁, c₃, hreach, by simpa using hrest, hb⟩
  · cases hrun

end Parser

theorem Parser.run_of_runAll {α : Type} {p : Parser α} {trees : List Tree} {a : α}
    (h : p.runAll trees = .ok a) : ∃ c', p ⟨trees, .textEnd, 0, false, none, []⟩ = .ok (a, c') := by
  rw [runAll] at h
  split at h
  · cases h
  · next c' hrun =>
    split at h
    · cases h
    · obtain rfl := Except.ok.inj h
      exact ⟨c', hrun⟩

namespace Grammar

/-! ### Parsers of items -/

variable (P : Trees → TraitDecl → Prop)

/-- What holds of a trait with trees ahead also holds with more trees before these. -/
class Inherited : Prop where
  of_suffix : ∀ {ts ts' t}, ts' <:+ ts → P ts' t → P ts t

/-- If the parser yields a trait, `P` holds of it and of the trees ahead. -/
def Traits (p : Parser ItemParts) : Prop :=
  ∀ c parts c', p c = .ok (parts, c') → ∀ t, parts.1 = .traitDecl t → P c.rest t

variable {P}

theorem traits_pure {parts : ItemParts} (h : ∀ t, parts.1 ≠ .traitDecl t) :
    Traits P (pure parts) := by
  intro c parts' c' hrun t ht
  obtain ⟨rfl, -⟩ := Prod.mk.inj (Except.ok.inj hrun)
  exact absurd ht (h t)

theorem traits_uninterpreted : Traits P (pure uninterpretedParts) :=
  traits_pure (by simp [uninterpretedParts])

theorem traits_bind [Inherited P] {α : Type} {p : Parser α} {f : α → Parser ItemParts}
    [Advancing p] (hf : ∀ a, Traits P (f a)) : Traits P (p >>= f) := by
  intro c parts c' hrun t ht
  obtain ⟨a, c₁, hc₁, hfa⟩ := bind_run_eq_ok_iff.mp hrun
  exact Inherited.of_suffix (Advancing.reaches hc₁).suffix (hf a c₁ parts c' hfa t ht)

theorem traits_ite {b : Prop} [Decidable b] {p q : Parser ItemParts} (hp : Traits P p)
    (hq : Traits P q) : Traits P (if b then p else q) := by
  split
  · exact hp
  · exact hq

theorem traits_failBefore (ts : Trees) : Traits P (failBefore ts) := by
  intro c parts c' hrun
  obtain ⟨spot, c₁, -, hfail⟩ := bind_run_eq_ok_iff.mp hrun
  cases hfail

variable [Inherited P] (r : Rules) [r.Advance]

theorem functionItem_traits : Traits P (functionItem r) := by
  unfold functionItem
  repeat' first
    | refine traits_bind fun _ => ?_
    | exact traits_uninterpreted
    | exact traits_pure (by simp)
    | split

theorem staticItem_traits : Traits P (staticItem r) := by
  unfold staticItem
  repeat' first
    | refine traits_bind fun _ => ?_
    | exact traits_uninterpreted
    | exact traits_pure (by simp)
    | split

theorem constantItem_traits : Traits P (constantItem r) := by
  unfold constantItem
  repeat refine traits_bind fun _ => ?_
  exact traits_pure (by intro t; split <;> simp [uninterpretedParts])

theorem typeAliasItem_traits : Traits P (typeAliasItem r) := by
  unfold typeAliasItem
  repeat refine traits_bind fun _ => ?_
  exact traits_pure (by intro t; split <;> simp [uninterpretedParts])

theorem structItem_traits : Traits P (structItem r) := by
  unfold structItem
  dsimp only
  repeat' first
    | refine traits_bind fun _ => ?_
    | exact traits_pure (by simp)
    | split

theorem enumItem_traits : Traits P (enumItem r) := by
  unfold enumItem
  repeat refine traits_bind fun _ => ?_
  exact traits_pure (by simp)

theorem unionItem_traits : Traits P (unionItem r) := by
  unfold unionItem
  repeat refine traits_bind fun _ => ?_
  exact traits_pure (by simp)

theorem moduleItem_traits : Traits P (moduleItem r) := by
  unfold moduleItem
  dsimp only
  repeat' first
    | refine traits_bind fun _ => ?_
    | exact traits_pure (by simp)
    | split

theorem externCrateItem_traits : Traits P externCrateItem := by
  unfold externCrateItem
  dsimp only
  repeat' first
    | refine traits_bind fun _ => ?_
    | exact traits_pure (by simp)
    | split

theorem useItem_traits : Traits P (useItem r) := by
  unfold useItem
  repeat refine traits_bind fun _ => ?_
  exact traits_pure (by intro t; split <;> simp [uninterpretedParts])

theorem externBlockItem_traits : Traits P (externBlockItem r) := by
  unfold externBlockItem
  repeat' first
    | refine traits_bind fun _ => ?_
    | exact traits_pure (by simp)
    | exact traits_fail
    | split

theorem traitAliasTail_traits : Traits P (traitAliasTail r) := by
  unfold traitAliasTail
  repeat refine traits_bind fun _ => ?_
  exact traits_pure (by simp)

theorem implItem_traits : Traits P (implItem r) := by
  unfold implItem
  dsimp only
  repeat' first
    | refine traits_bind fun _ => ?_
    | exact traits_pure (by intro t; split <;> simp [uninterpretedParts])
    | split

theorem macroDefinition_traits : Traits P macroDefinition := by
  unfold macroDefinition
  dsimp only
  repeat' first
    | refine traits_bind fun _ => ?_
    | exact traits_uninterpreted
    | exact traits_fail
    | split

theorem macroItem_traits : Traits P macroItem := by
  unfold macroItem
  dsimp only
  repeat' first
    | refine traits_bind fun _ => ?_
    | exact traits_pure (by simp)
    | split

theorem externItem_traits (ts : Trees) : Traits P (externItem r ts) := by
  unfold externItem
  dsimp only
  refine traits_ite externCrateItem_traits ?_
  refine traits_ite (externBlockItem_traits r) ?_
  refine traits_ite ?_ (traits_failBefore _)
  exact traits_ite (externBlockItem_traits r) (traits_failBefore _)

/-- A trait comes of its head, from its name on, and its tail. -/
theorem traitItem_traits (mayAlias : Bool)
    (htail : ∀ keywordAt nameAt, Traits P (ident >>= fun name => generics r >>= fun parameters =>
      traitTail r keywordAt name nameAt parameters)) : Traits P (traitItem r mayAlias) := by
  have hnamed (keywordAt nameAt : Nat) :
      Traits P (ident >>= fun name => generics r >>= fun parameters => ahead >>= fun ts =>
        if !mayAlias || ts.atBrace || ts.atOp ":" || ts.atWord "where" then
          traitTail r keywordAt name nameAt parameters
        else traitAliasTail r) := by
    intro c parts c' h t ht
    obtain ⟨name, c₁, hname, h⟩ := bind_run_eq_ok_iff.mp h
    obtain ⟨parameters, c₂, hparameters, h⟩ := bind_run_eq_ok_iff.mp h
    rw [ahead_bind_run] at h
    split at h
    · refine htail keywordAt nameAt c parts c' ?_ t ht
      exact bind_run_eq_ok_iff.mpr ⟨name, c₁, hname,
        bind_run_eq_ok_iff.mpr ⟨parameters, c₂, hparameters, h⟩⟩
    · have hreach := (Advancing.reaches hname).trans (Advancing.reaches hparameters)
      exact Inherited.of_suffix hreach.suffix (traitAliasTail_traits r c₂ parts c' h t ht)
  have hrest : Traits P (nextIndex >>= fun keywordAt => word "trait" >>= fun _ =>
      nextIndex >>= fun nameAt => ident >>= fun name => generics r >>= fun parameters =>
        ahead >>= fun ts =>
          if !mayAlias || ts.atBrace || ts.atOp ":" || ts.atWord "where" then
            traitTail r keywordAt name nameAt parameters
          else traitAliasTail r) := by
    refine traits_bind fun keywordAt => ?_
    refine traits_bind fun _ => ?_
    exact traits_bind fun nameAt => hnamed keywordAt nameAt
  unfold traitItem
  dsimp only
  refine traits_bind fun _ => ?_
  refine traits_ite ?_ hrest
  refine traits_bind fun _ => ?_
  exact traits_bind fun _ => hrest

theorem unsafeItem_traits (htrait : ∀ mayAlias, Traits P (traitItem r mayAlias)) (ts : Trees) : Traits P (unsafeItem r ts) := by
  unfold unsafeItem
  dsimp only
  refine traits_ite (htrait false) ?_
  refine traits_ite (implItem_traits r) ?_
  refine traits_ite (externBlockItem_traits r) ?_
  exact traits_ite (moduleItem_traits r) (traits_failBefore _)

theorem itemParts_traits (htrait : ∀ mayAlias, Traits P (traitItem r mayAlias)) : Traits P (itemParts r) := by
  unfold itemParts
  refine traits_bind fun _ => ?_
  refine traits_ite (functionItem_traits r) ?_
  refine traits_ite (externItem_traits r _) ?_
  refine traits_ite (useItem_traits r) ?_
  refine traits_ite (staticItem_traits r) ?_
  refine traits_ite (constantItem_traits r) ?_
  refine traits_ite (unsafeItem_traits r htrait _) ?_
  refine traits_ite (moduleItem_traits r) ?_
  refine traits_ite (typeAliasItem_traits r) ?_
  refine traits_ite (structItem_traits r) ?_
  refine traits_ite (enumItem_traits r) ?_
  refine traits_ite (unionItem_traits r) ?_
  refine traits_ite (htrait true) ?_
  refine traits_ite (htrait false) ?_
  refine traits_ite (implItem_traits r) ?_
  refine traits_ite macroDefinition_traits ?_
  exact traits_ite macroItem_traits (traits_failBefore _)

/-- What the parser of traits says of a trait holds of the traits in a file. -/
theorem traits_of_file {tokens : Nat}
    (htrait : ∀ n mayAlias, Traits P (traitItem (.level n) mayAlias)) {c c' : Cursor}
    {items : List Item} (h : file (.ofSize tokens) c = .ok (items, c')) :
    ∀ it ∈ items, ∀ t, it.kind = .traitDecl t → P c.rest t := by
  intro it hit t ht
  obtain ⟨_, c₁, hinner, h⟩ := bind_run_eq_ok_iff.mp h
  obtain ⟨c₂, c₃, hreach, -, h⟩ := exists_run_of_mem_untilEnd h it hit
  obtain ⟨first, c₄, hfirst, h⟩ := bind_run_eq_ok_iff.mp h
  obtain ⟨attributes, c₅, hattributes, h⟩ := bind_run_eq_ok_iff.mp h
  -- the rules of a file have at least one level, whose items are items of the grammar
  obtain ⟨parts, c₆, hparts, h⟩ := bind_run_eq_ok_iff.mp h
  obtain ⟨rfl, -⟩ := Prod.mk.inj (Except.ok.inj h)
  have hahead := (Advancing.reaches hinner).trans (hreach.trans
    ((Advancing.reaches hfirst).trans (Advancing.reaches hattributes)))
  refine Inherited.of_suffix hahead.suffix ?_
  exact itemParts_traits (.level (4 * tokens + 15)) (htrait _) c₅ parts c₆ hparts t ht

end Grammar
end MapperGen.Syntax
