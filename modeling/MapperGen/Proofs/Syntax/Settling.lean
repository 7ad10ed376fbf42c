import MapperGen.Proofs.Syntax.GrammarAdvance
import MapperGen.Proofs.Syntax.NodeEdge

/-!
# Where types end

A type, a bound or a path that a parser passes over ends as a node may: not with the brackets of an
attribute, as long as none has begun before it. The mark of an attribute is read in lists of
parameters only, which are enclosed in `<` and `>` or stand in a group.
-/

namespace MapperGen.Syntax

open MapperGen.Syntax.Parser Trees

variable {α β : Type}

/-! ### Ends -/

/-- What is passed over between the cursors, if anything, ends as a node may, unless an attribute
has begun before it. -/
def Cursor.Settles (c c' : Cursor) : Prop :=
  ∃ passed, c.rest = passed ++ c'.rest ∧
    ∀ before, opensAttribute before = false → passed = [] ∨ Ended (passed.reverse ++ before)

/-- What is passed over between the cursors ends as a node may, whatever stands before it. -/
def Cursor.Ends (c c' : Cursor) : Prop :=
  ∃ passed, c.rest = passed ++ c'.rest ∧ ∀ before, Ended (passed.reverse ++ before)

/-- Something is passed over between the cursors. -/
def Cursor.Passes (c c' : Cursor) : Prop := c'.rest.length < c.rest.length

theorem Cursor.Settles.trans {a b c : Cursor} (hab : a.Settles b) (hbc : b.Settles c) :
    a.Settles c := by
  obtain ⟨left, hleft, hl⟩ := hab
  obtain ⟨right, hright, hr⟩ := hbc
  refine ⟨left ++ right, by rw [hleft, hright, List.append_assoc], fun before hbefore => ?_⟩
  rw [List.reverse_append, List.append_assoc]
  rcases hl before hbefore with rfl | hended
  · simpa using hr before hbefore
  · rcases hr _ hended.opensAttribute with rfl | hended'
    · exact .inr (by simpa using hended)
    · exact .inr hended'

instance : Motion Cursor.Settles where
  of_eq hrest _ := ⟨[], by simp [hrest], by simp⟩
  trans := .trans

theorem Cursor.Ends.settles {c c' : Cursor} (h : c.Ends c') : c.Settles c' := by
  obtain ⟨passed, hpassed, hended⟩ := h
  exact ⟨passed, hpassed, fun before _ => .inr (hended before)⟩

theorem Cursor.Ends.passes {c c' : Cursor} (h : c.Ends c') : c.Passes c' := by
  obtain ⟨passed, hpassed, hended⟩ := h
  have hne : passed ≠ [] := by
    rintro rfl
    exact hended []
  have hpos := List.length_pos_iff.mpr hne
  rw [Passes, hpassed, List.length_append]
  omega

theorem Cursor.Reaches.ends {a b c : Cursor} (hab : a.Reaches b) (hbc : b.Ends c) : a.Ends c := by
  obtain ⟨left, hleft, -⟩ := hab
  obtain ⟨right, hright, hended⟩ := hbc
  refine ⟨left ++ right, by rw [hleft, hright, List.append_assoc], fun before => ?_⟩
  rw [List.reverse_append, List.append_assoc]
  exact hended _

theorem Cursor.Ends.trans {a b c : Cursor} (hab : a.Ends b) (hbc : b.Settles c) : a.Ends c := by
  obtain ⟨left, hleft, hl⟩ := hab
  obtain ⟨right, hright, hr⟩ := hbc
  refine ⟨left ++ right, by rw [hleft, hright, List.append_assoc], fun before => ?_⟩
  have hended := hl before
  rcases hr _ hended.opensAttribute with rfl | hended'
  · simpa using hended
  · rwa [List.reverse_append, List.append_assoc]

theorem Cursor.Reaches.length_le {c c' : Cursor} (h : c.Reaches c') :
    c'.rest.length ≤ c.rest.length := h.suffix.length_le

/-! ### Parsers -/

/-- What the parser passes over ends as a node may, unless an attribute has begun before it. -/
abbrev Settling (p : Parser α) : Prop := Along Cursor.Settles p

/-- What the parser passes over ends as a node may, whatever stands before it. -/
abbrev Ending (p : Parser α) : Prop := Along Cursor.Ends p

/-- The parser passes over something. -/
abbrev Passing (p : Parser α) : Prop := Along Cursor.Passes p

theorem Along.settling {p : Parser α} (h : Ending p) : Settling p := ⟨fun hrun => (h.along hrun).settles⟩

theorem Along.passing {p : Parser α} (h : Ending p) : Passing p := ⟨fun hrun => (h.along hrun).passes⟩

namespace Parser

theorem ending_bind {p : Parser α} {f : α → Parser β} [hp : Advancing p]
    (hf : ∀ a, Ending (f a)) : Ending (p >>= f) where
  along h := by
    obtain ⟨a, c₁, hc, hfa⟩ := bind_run_eq_ok_iff.mp h
    exact (hp.along hc).ends ((hf a).along hfa)

theorem ending_bind_left {p : Parser α} {f : α → Parser β} (hp : Ending p)
    [hf : ∀ a, Settling (f a)] : Ending (p >>= f) where
  along h := by
    obtain ⟨a, c₁, hc, hfa⟩ := bind_run_eq_ok_iff.mp h
    exact (hp.along hc).trans ((hf a).along hfa)

theorem passing_bind {p : Parser α} {f : α → Parser β} [hp : Advancing p]
    (hf : ∀ a, Passing (f a)) : Passing (p >>= f) where
  along h := by
    obtain ⟨a, c₁, hc, hfa⟩ := bind_run_eq_ok_iff.mp h
    exact Nat.lt_of_lt_of_le ((hf a).along hfa) (hp.along hc).length_le

theorem passing_bind_left {p : Parser α} {f : α → Parser β} (hp : Passing p)
    [hf : ∀ a, Advancing (f a)] : Passing (p >>= f) where
  along h := by
    obtain ⟨a, c₁, hc, hfa⟩ := bind_run_eq_ok_iff.mp h
    exact Nat.lt_of_le_of_lt ((hf a).along hfa).length_le (hp.along hc)

theorem passing_discard {p : Parser α} (hp : Passing p) : Passing (discard p) where
  along h := by
    obtain ⟨a, hrun⟩ := discard_run_eq_ok_iff.mp h
    exact hp.along hrun

/-! ### Reading one thing -/

theorem settles_of_mayEnd {c c' : Cursor} (passed : List Tree) (hrest : c.rest = passed ++ c'.rest)
    (hpassed : ∀ x ∈ passed, x.mayEnd = true) : c.Settles c' := by
  refine ⟨passed, hrest, ?_⟩
  clear hrest
  induction passed with
  | nil => exact fun _ _ => .inl rfl
  | cons x passed ih =>
    intro before hbefore
    have hended := Ended.cons (hpassed x List.mem_cons_self) hbefore
    have hmore := ih (fun y hy => hpassed y (List.mem_cons_of_mem x hy)) _ hended.opensAttribute
    rw [List.reverse_cons, List.append_assoc, List.singleton_append]
    rcases hmore with rfl | hmore
    · exact .inr hended
    · exact .inr hmore

theorem marks_of_op {symbol : String} {c c' : Cursor} {u : Unit} (h : op symbol c = .ok (u, c')) :
    ∃ passed, c.rest = passed ++ c'.rest ∧
      passed.map Tree.mark? = symbol.toList.map some := by
  obtain ⟨trees, hop⟩ := rest_of_op h
  generalize symbol.toList = chars at hop
  generalize c.rest = ts at hop
  induction chars generalizing ts trees with
  | nil =>
    obtain ⟨-, rfl⟩ := Prod.mk.inj (Option.some.inj hop)
    exact ⟨[], rfl, rfl⟩
  | cons d chars ih =>
    match ts with
    | .punct e joint i :: ts =>
      simp only [operator?] at hop
      split at hop
      · next hmark =>
        rw [Bool.and_eq_true, decide_eq_true_eq] at hmark
        obtain ⟨⟨read, rest⟩, hread, heq⟩ := Option.map_eq_some_iff.mp hop
        obtain ⟨-, rfl⟩ := Prod.mk.inj heq
        obtain ⟨passed, rfl, hpassed⟩ := ih read ts hread
        exact ⟨.punct e joint i :: passed, rfl, by simp [Tree.mark?, hmark.1, hpassed]⟩
      · cases hop
    | [] => cases hop
    | .ident .. :: _ => cases hop
    | .literal .. :: _ => cases hop
    | .group .. :: _ => cases hop

theorem op_passing {symbol : String} (h : symbol.toList ≠ []) : Passing (op symbol) where
  along hrun := by
    obtain ⟨passed, hrest, hmarks⟩ := marks_of_op hrun
    have hlength := congrArg List.length hmarks
    have hpos := List.length_pos_iff.mpr h
    rw [List.length_map, List.length_map] at hlength
    rw [Cursor.Passes, hrest, List.length_append, hlength]
    omega

/-- The operator has neither the mark of an attribute, nor a quote, nor a point. -/
def isEndMark (symbol : String) : Bool := symbol.toList.all (!"#.'".toList.contains ·)

theorem mayEnd_of_marks {symbol : String} (h : isEndMark symbol = true) {passed : List Tree}
    (hmarks : passed.map Tree.mark? = symbol.toList.map some) : ∀ x ∈ passed, x.mayEnd = true := by
  intro x hx
  have hmem := List.mem_map_of_mem (f := Tree.mark?) hx
  rw [hmarks] at hmem
  obtain ⟨d, hd, hmark⟩ := List.mem_map.mp hmem
  have hplain := List.all_eq_true.mp h d hd
  cases x with
  | punct c joint i =>
    obtain rfl := Option.some.inj hmark
    exact hplain
  | ident | literal | group => cases hmark

theorem op_settling {symbol : String} (h : isEndMark symbol = true) : Settling (op symbol) where
  along hrun := by
    obtain ⟨passed, hrest, hmarks⟩ := marks_of_op hrun
    exact settles_of_mayEnd passed hrest (mayEnd_of_marks h hmarks)

instance : Settling (op "<") := op_settling (by decide)
instance : Settling (op ">") := op_settling (by decide)
instance : Settling (op "::") := op_settling (by decide)
instance : Settling (op ",") := op_settling (by decide)
instance : Settling (op "+") := op_settling (by decide)
instance : Settling (op "->") := op_settling (by decide)
instance : Settling (op ":") := op_settling (by decide)
instance : Settling (op "?") := op_settling (by decide)
instance : Settling (op "!") := op_settling (by decide)
instance : Settling (op "*") := op_settling (by decide)
instance : Settling (op "&") := op_settling (by decide)

/-- An operator ends whatever it stands behind, unless its last mark is that of an inner
attribute. -/
theorem op_ending {symbol : String} (front : Text) (d : Char) (h : isEndMark symbol = true)
    (hsymbol : symbol.toList = front ++ [d]) (hd : d ≠ '!') : Ending (op symbol) where
  along hrun := by
    obtain ⟨passed, hrest, hmarks⟩ := marks_of_op hrun
    have hmayEnd := mayEnd_of_marks h hmarks
    rw [hsymbol, List.map_append, List.map_singleton] at hmarks
    obtain ⟨left, right, rfl, -, hright⟩ := List.map_eq_append_iff.mp hmarks
    obtain ⟨x, rfl, hmark⟩ := List.map_eq_singleton_iff.mp hright
    refine ⟨left ++ [x], hrest, fun before => ?_⟩
    rw [List.reverse_append]
    refine .of_plain (hmayEnd x (by simp)) (by simpa [hmark] using hd) ?_ _
    cases x with
    | group => cases hmark
    | ident | punct | literal => rfl

instance : Ending (op ">") := op_ending [] '>' (by decide) (by decide) (by decide)
instance : Ending (op ",") := op_ending [] ',' (by decide) (by decide) (by decide)
instance : Ending (op ":") := op_ending [] ':' (by decide) (by decide) (by decide)
instance : Ending (op "->") := op_ending ['-'] '>' (by decide) (by decide) (by decide)

instance : Ending anyWord where
  along h := by
    obtain ⟨i, hrest, -⟩ := rest_of_anyWord h
    exact ⟨[_], hrest, fun before => .of_plain rfl (by simp [Tree.mark?]) rfl before⟩

instance : Settling anyWord := Along.settling inferInstance

instance (name : String) : Ending (word name) where
  along h := by
    rw [word, ahead_bind_run] at h
    split at h
    · obtain ⟨name, hword⟩ := discard_run_eq_ok_iff.mp h
      exact Along.along hword
    · cases h

instance : Ending ident where
  along h := by
    rw [ident, ahead_bind_run] at h
    split at h
    · exact Along.along h
    · cases h

theorem rest_of_anyTree {c c' : Cursor} {x : Tree} (h : anyTree c = .ok (x, c')) :
    c.rest = x :: c'.rest := by
  rw [anyTree, ahead_bind_run] at h
  generalize c.rest = ts at h
  split at h
  · obtain ⟨u, c₁, hpass, hpure⟩ := bind_run_eq_ok_iff.mp h
    obtain ⟨rfl, rfl⟩ := Prod.mk.inj (Except.ok.inj hpure)
    obtain ⟨-, rfl⟩ := Prod.mk.inj (Except.ok.inj hpass)
    rfl
  · cases h

/-- A lifetime ends with its word. -/
instance : Ending lifetime where
  along {c a c'} h := by
    rw [lifetime, ahead_bind_run] at h
    split at h
    · next hsees =>
      obtain ⟨_, c₁, hquote, h⟩ := bind_run_eq_ok_iff.mp h
      obtain ⟨quote, hquote⟩ := discard_run_eq_ok_iff.mp hquote
      obtain ⟨name, hname⟩ := discard_run_eq_ok_iff.mp h
      have hrest := rest_of_anyTree hquote
      rw [rest_of_anyTree hname] at hrest
      refine ⟨[quote, name], hrest, fun before => ?_⟩
      rw [hrest] at hsees
      cases name with
      | ident name i => exact .of_plain rfl (by simp [Tree.mark?]) rfl _
      | punct | literal | group =>
        rw [atLifetime.eq_def] at hsees
        simp at hsees
    · cases h

instance : Settling lifetime := Along.settling inferInstance

instance (d : Delimiter) (content : Parser α) : Settling (inGroup d content) where
  along h := by
    obtain ⟨trees, opening, closing, inner, hrest, -, -⟩ := rest_of_inGroup h
    exact settles_of_mayEnd [_] hrest (by simp [Tree.mayEnd])

theorem inGroup_passing (d : Delimiter) (content : Parser α) : Passing (inGroup d content) where
  along h := by
    obtain ⟨trees, opening, closing, inner, hrest, -, -⟩ := rest_of_inGroup h
    rw [Cursor.Passes, hrest]
    exact Nat.lt_succ_self _

instance : Settling anyGroup where
  along h := by
    rw [anyGroup, ahead_bind_run] at h
    generalize hrest : Cursor.rest _ = ts at h
    split at h
    · obtain ⟨u, c₁, hpass, hpure⟩ := bind_run_eq_ok_iff.mp h
      obtain ⟨-, rfl⟩ := Prod.mk.inj (Except.ok.inj hpure)
      obtain ⟨-, rfl⟩ := Prod.mk.inj (Except.ok.inj hpass)
      exact settles_of_mayEnd [_] hrest (by simp [Tree.mayEnd])
    · cases h

/-! ### Extents -/

theorem run_of_taking {p : Parser α} {c c' : Cursor} {r : α × List Tree}
    (h : taking p c = .ok (r, c')) : ∃ c₁, p { c with read := [] } = .ok (r.1, c₁) ∧
      c'.rest = c₁.rest ∧ c'.last = c₁.last := by
  obtain ⟨c₀, c₁, hget, h⟩ := bind_run_eq_ok_iff.mp h
  obtain ⟨rfl, rfl⟩ := Prod.mk.inj (Except.ok.inj hget)
  obtain ⟨u, c₂, hmodify, h⟩ := bind_run_eq_ok_iff.mp h
  obtain ⟨-, rfl⟩ := Prod.mk.inj (Except.ok.inj hmodify)
  obtain ⟨a, c₃, hrun, h⟩ := bind_run_eq_ok_iff.mp h
  obtain ⟨c₄, c₅, hget', h⟩ := bind_run_eq_ok_iff.mp h
  obtain ⟨rfl, rfl⟩ := Prod.mk.inj (Except.ok.inj hget')
  obtain ⟨u', c₆, hmodify', h⟩ := bind_run_eq_ok_iff.mp h
  obtain ⟨-, rfl⟩ := Prod.mk.inj (Except.ok.inj hmodify')
  obtain ⟨rfl, rfl⟩ := Prod.mk.inj (Except.ok.inj h)
  exact ⟨_, hrun, rfl, rfl⟩

/-- The extent of what was read starts with the tree that was ahead and ends with the last token. -/
theorem run_of_spanned {p : Parser α} {c c' : Cursor} {r : α × Node}
    (h : spanned p c = .ok (r, c')) : ∃ c₁, p { c with read := [] } = .ok (r.1, c₁) ∧
      c'.rest = c₁.rest ∧ r.2.first = (c.rest.head?.map Tree.first).getD c.last ∧
        r.2.last = c₁.last := by
  obtain ⟨first, c₀, hfirst, h⟩ := bind_run_eq_ok_iff.mp h
  obtain ⟨rfl, rfl⟩ := Prod.mk.inj (Except.ok.inj hfirst)
  obtain ⟨taken, c₂, htaking, h⟩ := bind_run_eq_ok_iff.mp h
  obtain ⟨c₁, hrun, hrest, hlast⟩ := run_of_taking htaking
  obtain ⟨u, c₃, hput, h⟩ := bind_run_eq_ok_iff.mp h
  obtain ⟨-, rfl⟩ := Prod.mk.inj (Except.ok.inj hput)
  obtain ⟨c₄, c₅, hget, h⟩ := bind_run_eq_ok_iff.mp h
  obtain ⟨rfl, rfl⟩ := Prod.mk.inj (Except.ok.inj hget)
  obtain ⟨rfl, rfl⟩ := Prod.mk.inj (Except.ok.inj h)
  exact ⟨c₁, hrun, hrest, rfl, hlast⟩

theorem spans_of_spanned {p : Parser α} [hp : Advancing p] (hpassing : Passing p) {c c' : Cursor}
    {r : α × Node} (h : spanned p c = .ok (r, c')) :
    ∃ passed, c.rest = passed ++ c'.rest ∧ r.2.Spans passed := by
  obtain ⟨c₁, hrun, hrest, hfirst, hlast⟩ := run_of_spanned h
  obtain ⟨passed, hpassed, hlast'⟩ := hp.along hrun
  have hlength := hpassing.along hrun
  rw [Cursor.Passes] at hlength
  dsimp only at hpassed hlength hlast'
  rw [hrest]
  refine ⟨passed, hpassed, ?_⟩
  cases passed with
  | nil => simp [hpassed] at hlength
  | cons x passed =>
    rw [hpassed] at hfirst
    rw [hlast'] at hlast
    obtain ⟨y, hy⟩ : ∃ y, (x :: passed).getLast? = some y := ⟨_, List.getLast?_cons⟩
    rw [hy] at hlast
    exact ⟨by simp [hfirst], by simp [hy, hlast]⟩

end Parser

/-! ### Paths and binders -/

-- the instance of a parser with many steps is a large term
set_option synthInstance.maxSize 100000

/-- Types and bounds of a level end as nodes may, and bounds are not empty. -/
class Rules.Settle (r : Rules) : Prop where
  type : ∀ plus, Settling (r.type plus)
  bound : ∀ capturing const, Settling (r.bound capturing const)
  bound_passing : ∀ capturing const, Passing (r.bound capturing const)

attribute [instance] Rules.Settle.type Rules.Settle.bound

namespace Grammar

variable (r : Rules) [r.Advance]

theorem angleList_ending (entry : Parser Bool) [Advancing entry] : Ending (angleList entry) := by
  unfold angleList
  refine ending_bind fun _ => ending_bind fun _ => ending_bind fun _ => ending_bind fun _ => ?_
  exact ending_bind_left inferInstance

instance (entry : Parser Bool) [Advancing entry] : Settling (angleList entry) :=
  (angleList_ending entry).settling

theorem binder_ending : Ending (binder r) := by
  unfold binder
  refine ending_bind fun _ => ending_bind fun _ => ending_bind fun _ => ?_
  infer_instance

instance : Settling (binder r) := (binder_ending r).settling

instance : Settling (binder? r) := by
  unfold binder?
  infer_instance

theorem captures_ending : Ending captures := by
  unfold captures
  refine ending_bind fun _ => ending_bind fun _ => ending_bind fun _ => ?_
  infer_instance

instance : Settling captures := captures_ending.settling

instance : Settling (angleArguments r) := by
  unfold angleArguments
  infer_instance

instance (inExpr : Bool) : Settling (segment r inExpr) := by
  unfold segment
  infer_instance

instance (inExpr : Bool) : Settling (nextSegment r inExpr) := by
  unfold nextSegment
  infer_instance

instance (inExpr : Bool) : Settling (path r inExpr) := by
  unfold path
  infer_instance

/-! ### Paths and bounds are not empty -/

theorem segment_passing (inExpr : Bool) : Passing (segment r inExpr) := by
  have hword : Passing anyWord := Along.passing inferInstance
  have hident : Passing ident := Along.passing inferInstance
  unfold segment
  refine passing_bind fun ts => along_ite (passing_bind_left hword) ?_
  exact along_ite (passing_bind_left hword) (passing_bind_left hident)

theorem path_passing (inExpr : Bool) : Passing (path r inExpr) := by
  unfold path
  exact passing_bind fun _ => passing_bind_left (segment_passing r inExpr)

theorem qualifiedPath_passing (inExpr : Bool) : Passing (qualifiedPath r inExpr) := by
  unfold qualifiedPath
  refine passing_bind fun ts => along_ite ?_ (passing_bind_left (path_passing r inExpr))
  exact passing_bind_left (op_passing (by decide))

theorem traitBound_passing (const : Bool) : Passing (traitBound r const) := by
  have hpath := path_passing r false
  unfold traitBound
  refine passing_bind fun _ => passing_bind fun _ => passing_bind fun _ => passing_bind fun _ => ?_
  refine along_ite (passing_bind fun _ => ?_) (passing_bind fun _ => ?_)
  · exact passing_bind_left hpath
  · exact passing_bind_left hpath

theorem bound_passing (capturing const : Bool) : Passing (bound r capturing const) := by
  unfold bound
  refine passing_bind fun ts => along_ite (passing_bind_left (Along.passing inferInstance)) ?_
  refine along_ite (passing_bind fun _ => passing_bind_left captures_ending.passing) ?_
  refine along_ite (passing_bind_left (inGroup_passing _ _)) ?_
  exact passing_bind_left (traitBound_passing r const)

/-! ### Bounds -/

variable [r.Settle]

instance (inExpr : Bool) : Settling (qualifiedPath r inExpr) := by
  unfold qualifiedPath
  infer_instance

instance (plus : Bool) : Settling (resultType r plus) := by
  unfold resultType
  infer_instance

instance : Settling (callArguments r) := by
  unfold callArguments
  infer_instance

instance (allowed : Bool) : Settling (constMark allowed) := by
  unfold constMark
  infer_instance

instance (const : Bool) : Settling (traitBound r const) := by
  unfold traitBound
  infer_instance

instance (capturing const : Bool) : Settling (bound r capturing const) := by
  unfold bound
  infer_instance

instance (const : Bool) (bound : Parser Bound) [Settling bound] :
    Settling (furtherBound const bound) := by
  unfold furtherBound
  infer_instance

instance (plus capturing const : Bool) : Settling (bounds r plus capturing const) := by
  unfold bounds
  infer_instance

instance : Settling (wherePredicate r) := by
  unfold wherePredicate
  infer_instance

/-! ### Types -/

instance (index : Nat) (plus capturing const : Bool) :
    Settling (objectBounds r index plus capturing const) := by
  unfold objectBounds
  infer_instance

instance : Settling (lifetimeObject r) := by
  unfold lifetimeObject
  infer_instance

instance : Settling (plusBounds r) := by
  unfold plusBounds
  infer_instance

instance : Settling (looseBounds r) := by
  unfold looseBounds
  infer_instance

instance (plus : Bool) : Settling (parenType r plus) := by
  unfold parenType
  repeat' first | infer_instance | refine along_bind fun _ => ?_ | split

omit [r.Advance] in
theorem functionType_ending : Ending (functionType r) := by
  unfold functionType
  refine ending_bind fun _ => ending_bind fun _ => ?_
  exact ending_bind_left inferInstance

instance : Settling (functionType r) := (functionType_ending r).settling

instance : Settling macroTail := by
  unfold macroTail
  infer_instance

instance (plus bound : Bool) : Settling (pathType r plus bound) := by
  unfold pathType
  infer_instance

instance (plus : Bool) : Settling (dynType r plus) := by
  unfold dynType
  infer_instance

instance (plus : Bool) : Settling (implType r plus) := by
  unfold implType
  infer_instance

instance : Settling (sliceType r) := by
  unfold sliceType
  infer_instance

instance : Settling (pointerType r) := by
  unfold pointerType
  infer_instance

instance : Settling (referenceType r) := by
  unfold referenceType
  infer_instance

instance (plus bound : Bool) : Settling (typeForm r plus bound) := by
  unfold typeForm
  infer_instance

instance (plus : Bool) : Settling (typeExpr r plus) := by
  unfold typeExpr
  infer_instance

/-! ### Types are not empty -/

theorem objectBounds_passing (index : Nat) (plus capturing const : Bool) :
    Passing (objectBounds r index plus capturing const) := by
  unfold objectBounds bounds
  refine passing_bind_left (passing_bind_left ?_)
  exact Rules.Settle.bound_passing capturing const

omit [r.Settle] in
theorem parenType_passing (plus : Bool) : Passing (parenType r plus) := by
  unfold parenType
  refine @passing_bind_left _ _ _ _ (inGroup_passing _ _) fun content => ?_
  cases content <;> infer_instance

omit [r.Settle] in
theorem pathType_passing (plus bound : Bool) : Passing (pathType r plus bound) := by
  unfold pathType
  exact passing_bind_left (qualifiedPath_passing r false)

theorem typeForm_passing (plus bound : Bool) : Passing (typeForm r plus bound) := by
  have hword (name : String) : Passing (word name) := Along.passing inferInstance
  unfold typeForm
  refine passing_bind fun ts => along_ite (parenType_passing r plus) ?_
  refine along_ite (functionType_ending r).passing ?_
  refine along_ite (pathType_passing r plus bound) ?_
  refine along_ite (passing_bind fun _ => passing_bind_left (hword "dyn")) ?_
  refine along_ite (inGroup_passing _ _) ?_
  refine along_ite (passing_bind_left (op_passing (by decide))) ?_
  refine along_ite (passing_bind_left (op_passing (by decide))) ?_
  refine along_ite (passing_bind_left (op_passing (by decide))) ?_
  refine along_ite (passing_bind fun _ => passing_bind_left (hword "impl")) ?_
  refine along_ite (passing_bind_left (hword "_")) ?_
  refine along_ite ?_ inferInstance
  refine passing_bind fun _ => passing_bind_left (passing_discard ?_)
  exact objectBounds_passing r _ true false false

/-- What the extent of a type is taken of. -/
theorem typeExpr_inner_passing (plus : Bool) : Passing (do
    let bound ← binder? r
    if bound && !seesBindable (← ahead) then fail
    typeForm r plus bound) := by
  refine passing_bind fun bound => passing_bind fun ts => along_ite ?_ ?_
  · exact passing_bind fun _ => typeForm_passing r plus bound
  · exact typeForm_passing r plus bound

end Grammar

/-! ### Levels -/

theorem Rules.none_settle : Rules.none.Settle where
  type _ := by
    dsimp only [Rules.none]
    infer_instance
  bound _ _ := by
    dsimp only [Rules.none]
    infer_instance
  bound_passing _ _ := by
    dsimp only [Rules.none]
    infer_instance

theorem Rules.next_settle (r : Rules) [r.Advance] [r.Settle] : r.next.Settle where
  type := inferInstanceAs (∀ plus, Settling (Grammar.typeExpr r plus))
  bound := inferInstanceAs (∀ capturing const, Settling (Grammar.bound r capturing const))
  bound_passing := Grammar.bound_passing r

instance Rules.level_settle (n : Nat) : (Rules.level n).Settle := by
  induction n with
  | zero => exact Rules.none_settle
  | succ n ih => exact Rules.next_settle (Rules.level n)

end MapperGen.Syntax
