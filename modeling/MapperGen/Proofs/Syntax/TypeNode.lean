import MapperGen.Proofs.Syntax.Settling

/-!
# Extents of types

The extent of a type is that of the trees its parser passes over, and where no attribute has begun
before it, no documentation comment lies on its edges. The same holds of the elements of a tuple.
-/

namespace MapperGen.Syntax

open MapperGen.Syntax.Parser Trees

variable {tokens : List Token}

/-! ### Places -/

/-- The trees stand at the end of a level. -/
def Located (tokens : List Token) (ts : Trees) : Prop := ∃ before, Level tokens (before ++ ts)

/-- The trees stand at the end of a level, and no attribute has begun before them. -/
def Ready (tokens : List Token) (ts : Trees) : Prop :=
  ∃ before, Level tokens (before.reverse ++ ts) ∧ opensAttribute before = false

/-- What the trees begin with ends what stands before it. -/
def Follows (ts : Trees) : Prop := ∀ x ∈ ts.head?, x.MayFollow

theorem Level.ready {ts : Trees} (h : Level tokens ts) : Ready tokens ts := ⟨[], h, rfl⟩

theorem Ready.located {ts : Trees} (h : Ready tokens ts) : Located tokens ts := by
  obtain ⟨before, hlevel, -⟩ := h
  exact ⟨_, hlevel⟩

theorem Located.suffix {ts ts' : Trees} (h : Located tokens ts) (hsuffix : ts' <:+ ts) :
    Located tokens ts' := by
  obtain ⟨before, hlevel⟩ := h
  obtain ⟨passed, rfl⟩ := hsuffix
  exact ⟨before ++ passed, by rwa [List.append_assoc]⟩

theorem Located.ends {c c' : Cursor} (h : Located tokens c.rest) (hends : c.Ends c') :
    Ready tokens c'.rest := by
  obtain ⟨before, hlevel⟩ := h
  obtain ⟨passed, hpassed, hended⟩ := hends
  refine ⟨passed.reverse ++ before.reverse, ?_, (hended _).opensAttribute⟩
  rw [hpassed] at hlevel
  simpa using hlevel

theorem Ready.settles {c c' : Cursor} (h : Ready tokens c.rest) (hsettles : c.Settles c') :
    Ready tokens c'.rest := by
  obtain ⟨before, hlevel, hbefore⟩ := h
  obtain ⟨passed, hpassed, hsettled⟩ := hsettles
  refine ⟨passed.reverse ++ before, ?_, ?_⟩
  · rw [hpassed] at hlevel
    simpa using hlevel
  · rcases hsettled before hbefore with rfl | hended
    · exact hbefore
    · exact hended.opensAttribute

theorem Located.content {content rest : List Tree} {d : Delimiter} {opening closing : Nat}
    (h : Located tokens (.group d content opening closing :: rest)) (hd : d ≠ .bracket) :
    Level tokens content := by
  obtain ⟨before, hlevel⟩ := h
  exact hlevel.content hd

theorem Ready.whole {c c' : Cursor} {node : Node} {passed : List Tree}
    (h : Ready tokens c.rest) (hsettles : c.Settles c') (hpassed : c.rest = passed ++ c'.rest)
    (hspans : node.Spans passed) (hfollows : Follows c'.rest) : node.IsWhole tokens := by
  obtain ⟨before, hlevel, hbefore⟩ := h
  obtain ⟨passed', hpassed', hsettled⟩ := hsettles
  obtain rfl : passed = passed' := List.append_cancel_right (hpassed.symm.trans hpassed')
  rw [hpassed, ← List.append_assoc] at hlevel
  refine hlevel.whole hspans hbefore ?_ hfollows
  rcases hsettled before hbefore with rfl | hended
  · cases hspans.1
  · exact hended

theorem follows_of_op {symbol : String} {d : Char} (hsymbol : symbol.toList = [d])
    (hd : d = ',' ∨ d = ';') {c c' : Cursor} {u : Unit} (h : op symbol c = .ok (u, c')) :
    Follows c.rest := by
  obtain ⟨passed, hrest, hmarks⟩ := marks_of_op h
  rw [hsymbol] at hmarks
  obtain ⟨x, rfl, hmark⟩ := List.map_eq_singleton_iff.mp hmarks
  rw [hrest]
  rintro _ ⟨⟩
  cases x with
  | punct =>
    obtain rfl := Option.some.inj hmark
    exact hd
  | ident | literal | group => cases hmark

theorem follows_nil : Follows [] := by
  rintro _ ⟨⟩

/-! ### Values of parsers -/

section Yields

variable {α β : Type} {P : β → Prop}

/-- `P` holds of what the parser answers with. -/
def Yields (P : β → Prop) (p : Parser β) : Prop := ∀ c b c', p c = .ok (b, c') → P b

theorem yields_pure {b : β} (h : P b) : Yields P (pure b) := by
  intro c b' c' hrun
  obtain ⟨rfl, -⟩ := Prod.mk.inj (Except.ok.inj hrun)
  exact h

theorem yields_bind {p : Parser α} {f : α → Parser β} (hf : ∀ a, Yields P (f a)) :
    Yields P (p >>= f) := by
  intro c b c' hrun
  obtain ⟨a, c₁, -, hfa⟩ := bind_run_eq_ok_iff.mp hrun
  exact hf a c₁ b c' hfa

theorem yields_ite {b : Prop} [Decidable b] {p q : Parser β} (hp : Yields P p)
    (hq : Yields P q) : Yields P (if b then p else q) := by
  split
  · exact hp
  · exact hq

theorem yields_fail : Yields P fail := by
  intro c b c' hrun
  cases hrun

theorem yields_inGroup {d : Delimiter} {p : Parser β} (hp : Yields P p) :
    Yields P (inGroup d p) := by
  intro c b c' hrun
  obtain ⟨trees, opening, closing, inner, -, -, hcontent⟩ := rest_of_inGroup hrun
  exact hp _ b inner hcontent

end Yields

/-! ### Forms of types -/

/-- The types of the elements, if the type is a tuple. -/
def TypeExpr.elements : TypeExpr → List TypeExpr
  | .tuple _ elements => elements
  | _ => []

namespace Grammar

/-- The type that comes of the form has the extent it is given, and is no tuple. -/
structure TypeForm.IsPlain (form : TypeForm) : Prop where
  node : ∀ n, (form n).node = n
  elements : ∀ n, (form n).elements = []

variable (r : Rules)

theorem functionType_plain : Yields TypeForm.IsPlain (functionType r) := by
  unfold functionType
  repeat refine yields_bind fun _ => ?_
  exact yields_pure ⟨fun _ => rfl, fun _ => rfl⟩

theorem pathType_plain (plus bound : Bool) : Yields TypeForm.IsPlain (pathType r plus bound) := by
  unfold pathType
  repeat' first
    | exact yields_pure ⟨fun _ => rfl, fun _ => rfl⟩
    | refine yields_bind fun _ => ?_
    | split

theorem lifetimeObject_plain : Yields TypeForm.IsPlain (lifetimeObject r) := by
  unfold lifetimeObject
  repeat refine yields_bind fun _ => ?_
  exact yields_pure ⟨fun _ => rfl, fun _ => rfl⟩

theorem dynType_plain (plus : Bool) : Yields TypeForm.IsPlain (dynType r plus) := by
  unfold dynType
  repeat refine yields_bind fun _ => ?_
  exact yields_pure ⟨fun _ => rfl, fun _ => rfl⟩

theorem implType_plain (plus : Bool) : Yields TypeForm.IsPlain (implType r plus) := by
  unfold implType
  repeat refine yields_bind fun _ => ?_
  exact yields_pure ⟨fun _ => rfl, fun _ => rfl⟩

theorem sliceType_plain : Yields TypeForm.IsPlain (sliceType r) := by
  unfold sliceType
  refine yields_inGroup ?_
  repeat' first
    | exact yields_pure ⟨fun _ => rfl, fun _ => rfl⟩
    | refine yields_bind fun _ => ?_
    | split

theorem pointerType_plain : Yields TypeForm.IsPlain (pointerType r) := by
  unfold pointerType
  repeat' first
    | exact yields_pure ⟨fun _ => rfl, fun _ => rfl⟩
    | refine yields_bind fun _ => ?_
    | split

theorem referenceType_plain : Yields TypeForm.IsPlain (referenceType r) := by
  unfold referenceType
  repeat refine yields_bind fun _ => ?_
  exact yields_pure ⟨fun _ => rfl, fun _ => rfl⟩

/-- A form that starts with a parenthesis is plain, or that of the tuple in the parentheses. -/
theorem form_of_parenType {plus : Bool} {c c' : Cursor} {form : TypeForm}
    (h : parenType r plus c = .ok (form, c')) : form.IsPlain ∨ ∃ elements c₁,
      form = (.tuple · elements) ∧ parens (parenContent r) c = .ok (.tuple elements, c₁) := by
  obtain ⟨content, c₁, hcontent, h⟩ := bind_run_eq_ok_iff.mp h
  cases content with
  | tuple elements =>
    obtain ⟨rfl, -⟩ := Prod.mk.inj (Except.ok.inj h)
    exact .inr ⟨elements, c₁, rfl, hcontent⟩
  | object =>
    obtain ⟨rfl, -⟩ := Prod.mk.inj (Except.ok.inj h)
    exact .inl ⟨fun _ => rfl, fun _ => rfl⟩
  | questioned =>
    obtain ⟨more, c₂, -, h⟩ := bind_run_eq_ok_iff.mp h
    obtain ⟨rfl, -⟩ := Prod.mk.inj (Except.ok.inj h)
    exact .inl ⟨fun _ => rfl, fun _ => rfl⟩
  | one first =>
    dsimp only at h
    rw [ahead_bind_run] at h
    split at h
    · obtain ⟨more, c₂, -, h⟩ := bind_run_eq_ok_iff.mp h
      obtain ⟨rfl, -⟩ := Prod.mk.inj (Except.ok.inj h)
      exact .inl ⟨fun _ => rfl, fun _ => rfl⟩
    · obtain ⟨rfl, -⟩ := Prod.mk.inj (Except.ok.inj h)
      exact .inl ⟨fun _ => rfl, fun _ => rfl⟩

theorem form_of_typeForm {plus bound : Bool} {c c' : Cursor} {form : TypeForm}
    (h : typeForm r plus bound c = .ok (form, c')) : form.IsPlain ∨ ∃ elements c₁,
      form = (.tuple · elements) ∧ parens (parenContent r) c = .ok (.tuple elements, c₁) := by
  rw [typeForm, ahead_bind_run] at h
  split at h
  · exact form_of_parenType r h
  · left
    refine (?_ : Yields TypeForm.IsPlain _) c form c' h
    refine yields_ite (functionType_plain r) ?_
    refine yields_ite (pathType_plain r plus bound) ?_
    refine yields_ite (dynType_plain r plus) ?_
    refine yields_ite (sliceType_plain r) ?_
    refine yields_ite (pointerType_plain r) ?_
    refine yields_ite (referenceType_plain r) ?_
    refine yields_ite (yields_bind fun _ => yields_pure ⟨fun _ => rfl, fun _ => rfl⟩) ?_
    refine yields_ite (implType_plain r plus) ?_
    refine yields_ite (yields_bind fun _ => yields_pure ⟨fun _ => rfl, fun _ => rfl⟩) ?_
    exact yields_ite (lifetimeObject_plain r) yields_fail

end Grammar

/-! ### Types -/

-- the instance of a parser with many steps is a large term
set_option synthInstance.maxSize 100000

/-- The extent of a type that the rules read is that of the trees passed over. -/
class Rules.SpanTypes (r : Rules) : Prop where
  spans : ∀ {plus c type c'}, r.type plus c = .ok (type, c') →
    ∃ passed, c.rest = passed ++ c'.rest ∧ type.node.Spans passed

namespace Grammar

variable (r : Rules) [r.Advance] [r.Settle]

theorem form_of_typeExpr {plus : Bool} {c c' : Cursor} {type : TypeExpr}
    (h : typeExpr r plus c = .ok (type, c')) : ∃ form node passed c₁ c₂ bound,
      type = form node ∧ c.rest = passed ++ c'.rest ∧ node.Spans passed ∧ c₁.rest <:+ c.rest ∧
        typeForm r plus bound c₁ = .ok (form, c₂) := by
  obtain ⟨⟨form, node⟩, c₃, hspanned, h⟩ := bind_run_eq_ok_iff.mp h
  obtain ⟨rfl, rfl⟩ := Prod.mk.inj (Except.ok.inj h)
  obtain ⟨passed, hpassed, hspans⟩ := spans_of_spanned (typeExpr_inner_passing r plus) hspanned
  obtain ⟨c₄, hrun, -, -, -⟩ := run_of_spanned hspanned
  obtain ⟨bound, c₁, hbinder, hrun⟩ := bind_run_eq_ok_iff.mp hrun
  have hsuffix := (Advancing.reaches hbinder).suffix
  have hform : typeForm r plus bound c₁ = .ok (form, c₄) := by
    rw [ahead_bind_run] at hrun
    split at hrun
    · obtain ⟨_, _, hfail, -⟩ := bind_run_eq_ok_iff.mp hrun
      cases hfail
    · exact hrun
  exact ⟨form, node, passed, c₁, c₄, bound, rfl, hpassed, hspans, hsuffix, hform⟩

omit [r.Advance] [r.Settle] in
theorem node_of_form {plus bound : Bool} {c c' : Cursor} {form : TypeForm}
    (h : typeForm r plus bound c = .ok (form, c')) (node : Node) : (form node).node = node := by
  rcases form_of_typeForm r h with hplain | ⟨elements, c₁, rfl, -⟩
  · exact hplain.node node
  · rfl

end Grammar

theorem Rules.none_spanTypes : Rules.none.SpanTypes where
  spans h := by cases h

theorem Rules.next_spanTypes (r : Rules) [r.Advance] [r.Settle] : r.next.SpanTypes where
  spans {plus c type c'} h := by
    obtain ⟨form, node, passed, c₁, c₂, bound, rfl, hpassed, hspans, -, hform⟩ :=
      Grammar.form_of_typeExpr r h
    exact ⟨passed, hpassed, by rwa [Grammar.node_of_form r hform]⟩

instance Rules.level_spanTypes (n : Nat) : (Rules.level n).SpanTypes := by
  cases n with
  | zero => exact Rules.none_spanTypes
  | succ n => exact Rules.next_spanTypes (Rules.level n)

/-! ### Elements of tuples -/

namespace Grammar

variable (r : Rules) [r.Advance] [r.Settle] [r.SpanTypes]

omit [r.Advance] in
theorem type_whole {plus : Bool} {c c' : Cursor} {type : TypeExpr}
    (h : r.type plus c = .ok (type, c')) (hready : Ready tokens c.rest)
    (hfollows : Follows c'.rest) : type.node.IsWhole tokens := by
  obtain ⟨passed, hpassed, hspans⟩ := Rules.SpanTypes.spans h
  exact hready.whole (Along.along h) hpassed hspans hfollows

/-- Each item of a list starts where the list does, or behind a comma, and a comma or the end of the
group follows it. -/
theorem run_of_mem_separatedUpTo {α : Type} {item : Parser α} [Advancing item] {n : Nat}
    {c c' : Cursor} {as : List α} {trailing : Bool}
    (h : separatedUpTo (·.isEmpty) item (op ",") n c = .ok ((as, trailing), c')) :
    ∀ a ∈ as, ∃ c₁ c₂, (c = c₁ ∨ c.Ends c₁) ∧ item c₁ = .ok (a, c₂) ∧ Follows c₂.rest := by
  induction n generalizing c c' as trailing with
  | zero =>
    obtain ⟨hnil, -⟩ := Prod.mk.inj (Except.ok.inj h)
    obtain ⟨rfl, -⟩ := Prod.mk.inj hnil
    simp
  | succ n ih =>
    rw [separatedUpTo, ahead_bind_run] at h
    split at h
    · obtain ⟨hnil, -⟩ := Prod.mk.inj (Except.ok.inj h)
      obtain ⟨rfl, -⟩ := Prod.mk.inj hnil
      simp
    · obtain ⟨a, c₁, hitem, h⟩ := bind_run_eq_ok_iff.mp h
      rw [ahead_bind_run] at h
      split at h
      · next hempty =>
        obtain ⟨hone, -⟩ := Prod.mk.inj (Except.ok.inj h)
        obtain ⟨rfl, -⟩ := Prod.mk.inj hone
        intro b hb
        obtain rfl := List.mem_singleton.mp hb
        refine ⟨c, c₁, .inl rfl, hitem, ?_⟩
        rw [List.isEmpty_iff.mp hempty]
        exact follows_nil
      · obtain ⟨u, c₂, hcomma, h⟩ := bind_run_eq_ok_iff.mp h
        obtain ⟨⟨later, trailing'⟩, c₃, hlater, h⟩ := bind_run_eq_ok_iff.mp h
        obtain ⟨hcons, -⟩ := Prod.mk.inj (Except.ok.inj h)
        obtain ⟨rfl, -⟩ := Prod.mk.inj hcons
        have hfollows := follows_of_op (d := ',') (by decide) (.inl rfl) hcomma
        have hends := (Advancing.reaches hitem).ends (Along.along hcomma)
        intro b hb
        rcases List.mem_cons.mp hb with rfl | hb
        · exact ⟨c, c₁, .inl rfl, hitem, hfollows⟩
        · obtain ⟨d, d', hd, hrun, hfollows'⟩ := ih hlater b hb
          refine ⟨d, d', .inr ?_, hrun, hfollows'⟩
          rcases hd with rfl | hd
          · exact hends
          · exact hends.trans hd.settles

theorem elements_of_parenContent {c c' : Cursor} {elements : List TypeExpr}
    (h : parenContent r c = .ok (.tuple elements, c')) (hlevel : Level tokens c.rest) :
    ∀ e ∈ elements, e.node.IsWhole tokens := by
  rw [parenContent, ahead_bind_run] at h
  split at h
  · obtain ⟨hnil, -⟩ := Prod.mk.inj (Except.ok.inj h)
    obtain rfl := ParenContent.tuple.inj hnil
    simp
  · split at h
    · obtain ⟨_, c₁, -, h⟩ := bind_run_eq_ok_iff.mp h
      cases h
    · split at h
      · obtain ⟨_, c₁, -, h⟩ := bind_run_eq_ok_iff.mp h
        cases h
      · obtain ⟨first, c₁, hfirst, h⟩ := bind_run_eq_ok_iff.mp h
        rw [ahead_bind_run] at h
        split at h
        · obtain ⟨u, c₂, hcomma, h⟩ := bind_run_eq_ok_iff.mp h
          obtain ⟨later, c₃, hlater, h⟩ := bind_run_eq_ok_iff.mp h
          obtain ⟨hcons, -⟩ := Prod.mk.inj (Except.ok.inj h)
          obtain rfl := ParenContent.tuple.inj hcons
          obtain ⟨⟨later, trailing⟩, c₄, hseparated, h⟩ := bind_run_eq_ok_iff.mp hlater
          obtain ⟨rfl, rfl⟩ := Prod.mk.inj (Except.ok.inj h)
          have hlocated := hlevel.ready.located.suffix (Advancing.reaches hfirst).suffix
          have hready := hlocated.ends (Along.along hcomma)
          intro e he
          rcases List.mem_cons.mp he with rfl | he
          · refine type_whole r hfirst hlevel.ready ?_
            exact follows_of_op (d := ',') (by decide) (.inl rfl) hcomma
          · rw [separated, ahead_bind_run] at hseparated
            obtain ⟨d, d', hd, hrun, hfollows⟩ := run_of_mem_separatedUpTo hseparated e he
            refine type_whole r hrun ?_ hfollows
            rcases hd with rfl | hd
            · exact hready
            · exact hready.located.ends hd
        · cases h

theorem elements_of_typeExpr {plus : Bool} {c c' : Cursor} {type : TypeExpr}
    (h : typeExpr r plus c = .ok (type, c')) (hlocated : Located tokens c.rest) :
    ∀ e ∈ type.elements, e.node.IsWhole tokens := by
  obtain ⟨form, node, passed, c₁, c₂, bound, rfl, -, -, hsuffix, hform⟩ := form_of_typeExpr r h
  rcases form_of_typeForm r hform with hplain | ⟨elements, c₃, rfl, hparens⟩
  · simp [hplain.elements node]
  · obtain ⟨trees, opening, closing, inner, hrest, -, hcontent⟩ := rest_of_inGroup hparens
    have hgroup := hlocated.suffix hsuffix
    rw [hrest] at hgroup
    exact elements_of_parenContent r hcontent (hgroup.content (by decide))

end Grammar

/-! ### Whole types -/

/-- A type and, if it is a tuple, its elements stand among the tokens with no documentation comment
on their edges. -/
structure TypeExpr.IsWhole (tokens : List Token) (type : TypeExpr) : Prop where
  node : type.node.IsWhole tokens
  elements : ∀ e ∈ type.elements, e.node.IsWhole tokens

/-- A type that the rules read where no attribute has begun is whole if something follows it that
ends it. -/
class Rules.WholeTypes (r : Rules) : Prop where
  whole : ∀ {tokens plus c type c'}, r.type plus c = .ok (type, c') → Ready tokens c.rest →
    Follows c'.rest → type.IsWhole tokens

instance Rules.level_wholeTypes (n : Nat) : (Rules.level n).WholeTypes where
  whole h hready hfollows := by
    refine ⟨Grammar.type_whole _ h hready hfollows, ?_⟩
    cases n with
    | zero => cases h
    | succ n => exact Grammar.elements_of_typeExpr (.level n) h hready.located

end MapperGen.Syntax
