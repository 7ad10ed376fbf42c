import MapperGen.Syntax.Parser

/-!
# How parsers move

How a parser that succeeds moves is said by a relation between the cursors before and behind it.
`Along` is a class, so that the parsers of a grammar inherit it from the parsers they are made of;
this works for every relation that holds where nothing moves and composes. The first of them is that
of `Advancing`: a parser passes over some of the trees ahead of it, and the cursor knows the last
token among these.
-/

namespace MapperGen.Syntax

open Trees

variable {α β : Type}

/-! ### Cursors -/

/-- A cursor stands behind trees that were ahead of another one. -/
def Cursor.Reaches (c c' : Cursor) : Prop :=
  ∃ passed, c.rest = passed ++ c'.rest ∧
    c'.last = (passed.getLast?.map Tree.last).getD c.last

theorem Cursor.Reaches.of_eq {c c' : Cursor} (hrest : c'.rest = c.rest) (hlast : c'.last = c.last) :
    c.Reaches c' :=
  ⟨[], by simp [hrest], by simp [hlast]⟩

theorem Cursor.Reaches.refl (c : Cursor) : c.Reaches c := .of_eq rfl rfl

theorem Cursor.Reaches.trans {a b c : Cursor} (hab : a.Reaches b) (hbc : b.Reaches c) :
    a.Reaches c := by
  obtain ⟨left, hleft, hb⟩ := hab
  obtain ⟨right, hright, hc⟩ := hbc
  refine ⟨left ++ right, by rw [hleft, hright, List.append_assoc], ?_⟩
  rw [hc, hb, List.getLast?_append]
  cases right.getLast? <;> rfl

theorem Cursor.Reaches.suffix {c c' : Cursor} (h : c.Reaches c') : c'.rest <:+ c.rest := by
  obtain ⟨passed, hpassed, -⟩ := h
  exact ⟨passed, hpassed.symm⟩

/-! ### Runs -/

theorem Parser.bind_run (p : Parser α) (f : α → Parser β) (c : Cursor) :
    (p >>= f) c = match p c with
      | .ok (a, c') => f a c'
      | .error spot => .error spot := by
  simp only [bind, StateT.bind, Except.bind]
  cases p c <;> rfl

theorem Parser.bind_run_eq_ok_iff {p : Parser α} {f : α → Parser β} {c c' : Cursor} {b : β} :
    (p >>= f) c = .ok (b, c') ↔ ∃ a c₁, p c = .ok (a, c₁) ∧ f a c₁ = .ok (b, c') := by
  rw [bind_run]
  cases hp : p c with
  | error spot => simp
  | ok r => exact ⟨fun h => ⟨r.1, r.2, rfl, h⟩, by rintro ⟨a, c₁, ⟨rfl⟩, h⟩; exact h⟩

/-! ### Motions -/

/-- A relation between cursors that holds where nothing moves and composes. -/
class Motion (R : Cursor → Cursor → Prop) : Prop where
  of_eq : ∀ {c c'}, c'.rest = c.rest → c'.last = c.last → R c c'
  trans : ∀ {a b c}, R a b → R b c → R a c

theorem Motion.refl {R : Cursor → Cursor → Prop} [Motion R] (c : Cursor) : R c c := of_eq rfl rfl

instance : Motion Cursor.Reaches where
  of_eq := .of_eq
  trans := .trans

/-- A parser that succeeds has moved as the relation says. -/
class Along (R : Cursor → Cursor → Prop) (p : Parser α) : Prop where
  along : ∀ {c a c'}, p c = .ok (a, c') → R c c'

/-- A parser that succeeds has moved over trees. -/
abbrev Advancing (p : Parser α) : Prop := Along Cursor.Reaches p

theorem Advancing.reaches {p : Parser α} [Advancing p] {c c' : Cursor} {a : α}
    (h : p c = .ok (a, c')) : c.Reaches c' := Along.along h

namespace Parser

variable {R : Cursor → Cursor → Prop} [Motion R]

/-! ### Composition -/

instance (a : α) : Along R (pure a : Parser α) where
  along h := by
    obtain ⟨rfl, rfl⟩ := Prod.mk.inj (Except.ok.inj h)
    exact Motion.refl _

theorem along_bind {p : Parser α} {f : α → Parser β} [hp : Along R p]
    (hf : ∀ a, Along R (f a)) : Along R (p >>= f) where
  along h := by
    obtain ⟨a, c₁, hc, hfa⟩ := bind_run_eq_ok_iff.mp h
    exact Motion.trans (hp.along hc) ((hf a).along hfa)

instance (p : Parser α) (f : α → Parser β) [Along R p] [hf : ∀ a, Along R (f a)] :
    Along R (p >>= f) := along_bind hf

instance (f : α → β) (p : Parser α) [Along R p] : Along R (f <$> p) := by
  rw [map_eq_pure_bind]
  infer_instance

instance (p : Parser α) [Along R p] : Along R (discard p) := by
  rw [discard, LawfulFunctor.map_const, Function.comp_apply]
  infer_instance

omit [Motion R] in
theorem along_ite {b : Prop} [Decidable b] {p q : Parser α} (hp : Along R p)
    (hq : Along R q) : Along R (if b then p else q) := by
  split
  · exact hp
  · exact hq

omit [Motion R] in
instance (b : Prop) [Decidable b] (p q : Parser α) [hp : Along R p] [hq : Along R q] :
    Along R (if b then p else q) := along_ite hp hq

/-! ### Looking and failing -/

theorem ahead_bind_run (f : Trees → Parser α) (c : Cursor) : (ahead >>= f) c = f c.rest c := rfl

instance : Along R (get : Parser Cursor) where
  along h := by
    obtain ⟨rfl, rfl⟩ := Prod.mk.inj (Except.ok.inj h)
    exact Motion.refl _

instance : Along R ahead := by
  unfold ahead
  infer_instance

instance (test : Trees → Bool) : Along R (sees test) := by
  unfold sees
  infer_instance

instance : Along R nextIndex := by
  unfold nextIndex
  infer_instance

instance : Along R atEnd := by
  unfold atEnd
  infer_instance

omit [Motion R] in
instance (spot : Spot) : Along R (failAt spot : Parser α) where
  along h := by cases h

omit [Motion R] in
instance (index : Nat) : Along R (failAtToken index : Parser α) := by
  unfold failAtToken
  infer_instance

omit [Motion R] in
instance : Along R (fail : Parser α) where
  along h := by cases h

/-- What a cursor has read is no part of its position. -/
theorem along_modify_read (f : Cursor → List Tree) :
    Along R (modify fun c => { c with read := f c }) where
  along h := by
    obtain ⟨-, rfl⟩ := Prod.mk.inj (Except.ok.inj h)
    exact Motion.of_eq rfl rfl

/-! ### Reading one thing -/

/-- The cursor moves over trees that were ahead; their printed forms end where they do. -/
theorem reaches_of_pass {c c' : Cursor} (passed : List Tree) {trees rest : List Tree} {u : Unit}
    (hrest : c.rest = passed ++ rest)
    (hlast : passed.getLast?.map Tree.last = trees.getLast?.map Tree.last)
    (h : pass trees rest c = .ok (u, c')) : c.Reaches c' := by
  obtain ⟨-, rfl⟩ := Prod.mk.inj (Except.ok.inj h)
  exact ⟨passed, hrest, by simp [hlast]⟩

instance : Advancing anyTree where
  along {c a c'} h := by
    rw [anyTree, ahead_bind_run] at h
    cases hrest : c.rest with
    | nil =>
      rw [hrest] at h
      cases h
    | cons tree rest =>
      rw [hrest] at h
      obtain ⟨u, c₁, hpass, hpure⟩ := bind_run_eq_ok_iff.mp h
      obtain ⟨rfl, rfl⟩ := Prod.mk.inj (Except.ok.inj hpure)
      exact reaches_of_pass [tree] hrest rfl hpass

/-- An operator is read in its printed form, which ends where the trees of its characters do. -/
theorem eq_append_of_operator? {symbol : Text} {ts trees rest : Trees}
    (h : operator? symbol ts = some (trees, rest)) :
    ∃ passed, ts = passed ++ rest ∧ passed.map Tree.last = trees.map Tree.last := by
  induction symbol generalizing ts trees with
  | nil =>
    obtain ⟨rfl, rfl⟩ := Prod.mk.inj (Option.some.inj h)
    exact ⟨[], rfl, rfl⟩
  | cons c symbol ih =>
    match ts with
    | .punct d joint i :: ts =>
      simp only [operator?] at h
      split at h
      · obtain ⟨⟨read, rest'⟩, hread, heq⟩ := Option.map_eq_some_iff.mp h
        obtain ⟨rfl, rfl⟩ := Prod.mk.inj heq
        obtain ⟨passed, rfl, hlast⟩ := ih hread
        exact ⟨.punct d joint i :: passed, rfl, by simp [hlast, Tree.last]⟩
      · cases h
    | [] => cases h
    | .ident .. :: _ => cases h
    | .literal .. :: _ => cases h
    | .group .. :: _ => cases h

instance (symbol : String) : Advancing (op symbol) where
  along {c a c'} h := by
    rw [op, ahead_bind_run] at h
    cases hop : operator? symbol.toList c.rest with
    | none =>
      rw [hop] at h
      cases h
    | some r =>
      rw [hop] at h
      obtain ⟨passed, hrest, hlast⟩ := eq_append_of_operator? hop
      refine reaches_of_pass passed hrest ?_ h
      rw [← List.getLast?_map, hlast, List.getLast?_map]

instance (symbol : String) [Along R (op symbol)] : Along R (op? symbol) := by
  unfold op?
  infer_instance

theorem rest_of_anyWord {c c' : Cursor} {name : Text} (h : anyWord c = .ok (name, c')) :
    ∃ i, c.rest = .ident name i :: c'.rest ∧ c'.last = i := by
  rw [anyWord, ahead_bind_run] at h
  generalize hts : c.rest = ts at h
  split at h
  · next i rest =>
    obtain ⟨u, c₁, hpass, hpure⟩ := bind_run_eq_ok_iff.mp h
    obtain ⟨rfl, rfl⟩ := Prod.mk.inj (Except.ok.inj hpure)
    obtain ⟨-, rfl⟩ := Prod.mk.inj (Except.ok.inj hpass)
    exact ⟨i, rfl, rfl⟩
  · cases h

instance : Advancing anyWord where
  along h := by
    obtain ⟨i, hrest, hlast⟩ := rest_of_anyWord h
    exact ⟨[_], hrest, hlast⟩

instance [Along R anyWord] : Along R ident := by
  unfold ident
  infer_instance

instance (name : String) [Along R anyWord] : Along R (word name) := by
  unfold word
  infer_instance

instance (name : String) [Along R (word name)] : Along R (word? name) := by
  unfold word?
  infer_instance

instance [Along R anyTree] : Along R lifetime := by
  unfold lifetime
  infer_instance

instance [Along R lifetime] : Along R lifetime? := by
  unfold lifetime?
  infer_instance

instance : Advancing literal where
  along {c a c'} h := by
    rw [literal, ahead_bind_run] at h
    generalize hts : c.rest = ts at h
    split at h
    · obtain ⟨u, c₁, hpass, hpure⟩ := bind_run_eq_ok_iff.mp h
      obtain ⟨-, rfl⟩ := Prod.mk.inj (Except.ok.inj hpure)
      exact reaches_of_pass [_] hts rfl hpass
    · next joint i lexeme j rest =>
      obtain ⟨u, c₁, hpass, hpure⟩ := bind_run_eq_ok_iff.mp h
      obtain ⟨-, rfl⟩ := Prod.mk.inj (Except.ok.inj hpure)
      refine reaches_of_pass [.punct '-' joint i, .literal (.number lexeme) j] hts ?_ hpass
      rfl
    · exact Advancing.reaches h

/-! ### Groups -/

theorem rest_of_inGroup {d : Delimiter} {content : Parser α} {c c' : Cursor} {a : α}
    (h : inGroup d content c = .ok (a, c')) : ∃ trees opening closing inner,
      c.rest = .group d trees opening closing :: c'.rest ∧ c'.last = closing ∧
        content ⟨trees, .token closing, opening, false, c.leftover, []⟩ = .ok (a, inner) := by
  rw [inGroup] at h
  split at h
  · next e trees opening closing rest hrest =>
    split at h
    · next hd =>
      subst hd
      split at h
      · cases h
      · next inner hrun =>
        obtain ⟨rfl, rfl⟩ := Prod.mk.inj (Except.ok.inj h)
        exact ⟨trees, opening, closing, inner, hrest, rfl, hrun⟩
    · cases h
  · cases h

instance (d : Delimiter) (content : Parser α) : Advancing (inGroup d content) where
  along h := by
    obtain ⟨trees, opening, closing, inner, hrest, hlast, -⟩ := rest_of_inGroup h
    exact ⟨[_], hrest, hlast⟩

instance : Advancing anyGroup where
  along {c a c'} h := by
    rw [anyGroup, ahead_bind_run] at h
    generalize hts : c.rest = ts at h
    split at h
    · obtain ⟨u, c₁, hpass, hpure⟩ := bind_run_eq_ok_iff.mp h
      obtain ⟨-, rfl⟩ := Prod.mk.inj (Except.ok.inj hpure)
      exact reaches_of_pass [_] hts rfl hpass
    · cases h

instance : Advancing everything where
  along {c a c'} h := by
    rw [everything, ahead_bind_run] at h
    exact reaches_of_pass _ (List.append_nil _).symm rfl h

/-! ### Trying -/

instance (p : Parser α) [hp : Along R p] : Along R (attempt? p) where
  along h := by
    rw [attempt?] at h
    split at h
    · next hrun =>
      obtain ⟨-, rfl⟩ := Prod.mk.inj (Except.ok.inj h)
      exact hp.along hrun
    · obtain ⟨-, rfl⟩ := Prod.mk.inj (Except.ok.inj h)
      exact Motion.refl _

instance (p : Parser α) : Along R (foresee p) where
  along h := by
    rw [foresee] at h
    split at h
    · obtain ⟨-, rfl⟩ := Prod.mk.inj (Except.ok.inj h)
      exact Motion.refl _
    · cases h

/-! ### Repeating -/

section Repeating

variable (p : Parser α) [Along R p] (step : Parser (Option α)) [Along R step]
  (separator : Parser Unit) [Along R separator] (test : Trees → Bool)

theorem collectUpTo_along (n : Nat) : Along R (collectUpTo step n) := by
  induction n with
  | zero =>
    unfold collectUpTo
    infer_instance
  | succ n ih =>
    unfold collectUpTo
    refine along_bind fun o => ?_
    cases o <;> infer_instance

instance : Along R (collect step) := by
  have := collectUpTo_along (R := R) step
  unfold collect
  infer_instance

instance : Along R (whileSees test p) := by
  unfold whileSees
  infer_instance

instance : Along R (untilEnd p) := by
  unfold untilEnd
  infer_instance

theorem separatedUpTo_along (n : Nat) : Along R (separatedUpTo test p separator n) := by
  induction n with
  | zero =>
    unfold separatedUpTo
    infer_instance
  | succ n ih =>
    unfold separatedUpTo
    infer_instance

instance : Along R (separated test p separator) := by
  have := separatedUpTo_along (R := R) p separator test
  unfold separated
  infer_instance

instance [Along R (op ",")] : Along R (commaList p) := by
  unfold commaList
  infer_instance

theorem joinedUpTo_along (symbol : String) [Along R (op symbol)] (n : Nat) :
    Along R (joinedUpTo test p symbol n) := by
  induction n with
  | zero =>
    unfold joinedUpTo
    infer_instance
  | succ n ih =>
    unfold joinedUpTo
    infer_instance

instance (symbol : String) [Along R (op symbol)] : Along R (joined test p symbol) := by
  have := joinedUpTo_along (R := R) p test symbol
  unfold joined
  infer_instance

theorem refineUpTo_along (better : α → Parser (Option α)) [∀ a, Along R (better a)]
    (n : Nat) (a : α) : Along R (refineUpTo better n a) := by
  induction n generalizing a with
  | zero =>
    unfold refineUpTo
    infer_instance
  | succ n ih =>
    unfold refineUpTo
    refine along_bind fun o => ?_
    cases o <;> infer_instance

instance (better : α → Parser (Option α)) [∀ a, Along R (better a)] (a : α) :
    Along R (refine better a) := by
  have := refineUpTo_along (R := R) better
  unfold refine
  infer_instance

/-! ### What was read -/

instance : Along R (taking p) := by
  have := along_modify_read (R := R)
  unfold taking
  infer_instance

instance (trees : List Tree) : Along R (putRead trees) := by
  have := along_modify_read (R := R)
  unfold putRead
  infer_instance

instance : Along R (spanned p) := by
  unfold spanned
  infer_instance

end Repeating
end Parser
end MapperGen.Syntax
