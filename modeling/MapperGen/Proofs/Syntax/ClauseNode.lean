import MapperGen.Proofs.Syntax.TypeNode

/-!
# Extents of clauses

The extent of a generic parameter list or of a where clause is that of the trees its parser passes
over, and no documentation comment lies on its edges. A clause that declares nothing consists of its
marks alone; one that declares something has more tokens.
-/

namespace MapperGen.Syntax

open MapperGen.Syntax.Parser Trees

variable {tokens : List Token}

/-! ### Whole clauses -/

/-- A clause stands among the tokens of a text with no documentation comment on its edges, and it
has just its marks exactly if it declares nothing. -/
structure Clause.IsWhole (tokens : List Token) (marks : Nat) (clause : Clause) : Prop where
  node : clause.node.IsWhole tokens
  isEmpty_iff : clause.isEmpty = true ↔ clause.node.last + 1 = clause.node.first + marks

/-! ### Numbers of tokens -/

/-- The tree is a token. -/
def Tree.isLeaf : Tree → Bool
  | .group .. => false
  | _ => true

theorem Nests.length_le {index : Nat} {trees : List Tree} (h : Nests index tokens trees) :
    trees.length ≤ tokens.length := by
  induction h with
  | nil => exact Nat.le_refl 0
  | leaf htree hrest ih => simpa using ih
  | group hcontent hrest _ ih =>
    simp only [List.length_append, List.length_cons]
    omega

theorem Nests.length_eq {index : Nat} {trees : List Tree} (h : Nests index tokens trees)
    (hleaf : ∀ x ∈ trees, x.isLeaf = true) : tokens.length = trees.length := by
  induction h with
  | nil => rfl
  | leaf htree hrest ih =>
    rw [List.length_cons, List.length_cons, ih fun x hx => hleaf x (List.mem_cons_of_mem _ hx)]
  | group => exact absurd (hleaf _ List.mem_cons_self) Bool.false_ne_true

/-- The trees over which a node extends have the tokens over which it extends. -/
theorem Located.extent {passed rest : List Tree} {node : Node}
    (h : Located tokens (passed ++ rest)) (hspans : node.Spans passed) :
    ∃ own, Nests node.first own passed ∧ node.last + 1 = node.first + own.length := by
  obtain ⟨before, left, own, right, -, hown, -, -⟩ := h
  obtain ⟨front, own, rfl, -, hown'⟩ := hown.split
  obtain ⟨inner, back, rfl, hinner, -⟩ := hown'.split
  obtain ⟨first, hfirst, hfirst'⟩ := Option.map_eq_some_iff.mp hspans.1
  obtain ⟨last, hlast, hlast'⟩ := Option.map_eq_some_iff.mp hspans.2
  rw [← hfirst', hinner.first first hfirst, ← hlast']
  exact ⟨inner, hinner, hinner.last last hlast⟩

/-- What is passed over between the cursors is the marks of a clause, and more if the clause
declares something. -/
def Cursor.Declares (c c' : Cursor) (marks : Nat) (isEmpty : Bool) : Prop :=
  ∃ passed, c.rest = passed ++ c'.rest ∧
    (isEmpty = true → passed.length = marks ∧ ∀ x ∈ passed, x.isLeaf = true) ∧
    (isEmpty = false → marks < passed.length)

theorem Ready.clause_whole {c c' : Cursor} {clause : Clause} {marks : Nat} {passed : List Tree}
    (h : Ready tokens c.rest) (hsettles : c.Settles c') (hpassed : c.rest = passed ++ c'.rest)
    (hspans : clause.node.Spans passed) (hfollows : Follows c'.rest)
    (hdeclares : c.Declares c' marks clause.isEmpty) : clause.IsWhole tokens marks := by
  refine ⟨h.whole hsettles hpassed hspans hfollows, ?_⟩
  obtain ⟨passed', hpassed', hempty, hmore⟩ := hdeclares
  obtain rfl : passed = passed' := List.append_cancel_right (hpassed.symm.trans hpassed')
  have hlocated := h.located
  rw [hpassed] at hlocated
  obtain ⟨own, hown, hlast⟩ := hlocated.extent hspans
  cases hclause : clause.isEmpty with
  | true =>
    obtain ⟨hlength, hleaf⟩ := hempty hclause
    have hequal := hown.length_eq hleaf
    simp only [true_iff]
    omega
  | false =>
    have hlength := hmore hclause
    have hle := hown.length_le
    simp only [Bool.false_eq_true, false_iff]
    omega

/-! ### Lists -/

section Lists

variable {α : Type} {stop : Trees → Bool} {item : Parser α} [Advancing item] {c c' : Cursor}

theorem passes_of_separated {separator : Parser Unit} [Advancing separator] {r : List α × Bool}
    (hitem : Passing item) (h : separated stop item separator c = .ok (r, c')) :
    (r.1 = [] ∧ c' = c) ∨ (r.1 ≠ [] ∧ c.Passes c') := by
  have hrest := separatedUpTo_along (R := Cursor.Reaches) item separator stop
  rw [separated, ahead_bind_run, separatedUpTo, ahead_bind_run] at h
  split at h
  · obtain ⟨rfl, rfl⟩ := Prod.mk.inj (Except.ok.inj h)
    exact .inl ⟨rfl, rfl⟩
  · refine .inr ⟨?_, (passing_bind_left hitem).along h⟩
    obtain ⟨a, c₁, -, h⟩ := bind_run_eq_ok_iff.mp h
    rw [ahead_bind_run] at h
    split at h
    · obtain ⟨rfl, -⟩ := Prod.mk.inj (Except.ok.inj h)
      exact List.cons_ne_nil a []
    · obtain ⟨_, c₂, -, h⟩ := bind_run_eq_ok_iff.mp h
      obtain ⟨⟨as, trailing⟩, c₃, -, h⟩ := bind_run_eq_ok_iff.mp h
      obtain ⟨rfl, -⟩ := Prod.mk.inj (Except.ok.inj h)
      exact List.cons_ne_nil a as

theorem passes_of_joined {symbol : String} {as : List α}
    (hitem : Passing item) (h : joined stop item symbol c = .ok (as, c')) :
    (as = [] ∧ c' = c) ∨ (as ≠ [] ∧ c.Passes c') := by
  have hrest := joinedUpTo_along (R := Cursor.Reaches) item stop symbol
  rw [joined, ahead_bind_run, joinedUpTo, ahead_bind_run] at h
  split at h
  · obtain ⟨rfl, rfl⟩ := Prod.mk.inj (Except.ok.inj h)
    exact .inl ⟨rfl, rfl⟩
  · refine .inr ⟨?_, (passing_bind_left hitem).along h⟩
    obtain ⟨a, c₁, -, h⟩ := bind_run_eq_ok_iff.mp h
    obtain ⟨found, c₂, -, h⟩ := bind_run_eq_ok_iff.mp h
    split at h
    · obtain ⟨as, c₃, -, h⟩ := bind_run_eq_ok_iff.mp h
      obtain ⟨rfl, -⟩ := Prod.mk.inj (Except.ok.inj h)
      exact List.cons_ne_nil a as
    · obtain ⟨rfl, -⟩ := Prod.mk.inj (Except.ok.inj h)
      exact List.cons_ne_nil a []

omit [Advancing item] in
theorem taking_passing (hitem : Passing item) : Passing (taking item) where
  along h := by
    obtain ⟨c₁, hrun, hrest, -⟩ := run_of_taking h
    have hpasses := hitem.along hrun
    rwa [Cursor.Passes, hrest]

end Lists

/-! ### Items -/

namespace Grammar

-- the instance of a parser with many steps is a large term
set_option synthInstance.maxSize 100000

variable (r : Rules) [r.Advance]

theorem genericParameter_passing (placeholders : Bool) :
    Passing (genericParameter r placeholders) := by
  have hword (name : String) : Passing (word name) := Along.passing inferInstance
  have hlifetime : Passing lifetime := Along.passing inferInstance
  have hident : Passing ident := Along.passing inferInstance
  unfold genericParameter lifetimeParameter typeParameter constParameter
  refine passing_bind fun _ => passing_bind fun ts => along_ite ?_ ?_
  · exact passing_bind_left (passing_bind_left hlifetime)
  · refine along_ite (passing_bind_left (passing_bind_left (passing_discard hident))) ?_
    refine along_ite (passing_bind_left (passing_bind_left (hword "const"))) ?_
    exact along_ite (passing_bind_left (hword "_")) (passing_bind_left inferInstance)

theorem wherePredicate_passing : Passing (wherePredicate r) := by
  have hcolon : Passing (op ":") := op_passing (by decide)
  have hlifetime : Passing lifetime := Along.passing inferInstance
  unfold wherePredicate
  refine passing_bind fun _ => passing_bind fun _ => along_ite (passing_bind_left hlifetime) ?_
  exact passing_bind fun _ => passing_bind fun _ => passing_bind_left hcolon

/-! ### Clauses -/

omit [r.Advance] in
theorem rest_of_word {name : String} {c c' : Cursor} {u : Unit}
    (h : word name c = .ok (u, c')) : ∃ found index, c.rest = .ident found index :: c'.rest := by
  rw [word, ahead_bind_run] at h
  split at h
  · obtain ⟨found, hword⟩ := discard_run_eq_ok_iff.mp h
    obtain ⟨index, hrest, -⟩ := rest_of_anyWord hword
    exact ⟨found, index, hrest⟩
  · cases h

omit [r.Advance] in
theorem isLeaf_of_op {symbol : String} {c c' : Cursor} {u : Unit}
    (h : op symbol c = .ok (u, c')) : ∃ passed, c.rest = passed ++ c'.rest ∧
      passed.length = symbol.toList.length ∧ ∀ x ∈ passed, x.isLeaf = true := by
  obtain ⟨passed, hrest, hmarks⟩ := marks_of_op h
  have hlength := congrArg List.length hmarks
  rw [List.length_map, List.length_map] at hlength
  refine ⟨passed, hrest, hlength, fun x hx => ?_⟩
  have hmem := List.mem_map_of_mem (f := Tree.mark?) hx
  rw [hmarks] at hmem
  obtain ⟨d, -, hmark⟩ := List.mem_map.mp hmem
  cases x with
  | group => cases hmark
  | ident | punct | literal => rfl

omit [r.Advance] in
theorem angleList_declares {entry : Parser Bool} [Advancing entry] (hentry : Passing entry)
    {c c' : Cursor} {entries : List (List Tree)} (h : angleList entry c = .ok (entries, c')) :
    c.Declares c' 2 entries.isEmpty := by
  obtain ⟨_, c₁, hopening, h⟩ := bind_run_eq_ok_iff.mp h
  obtain ⟨⟨⟨read, trailing⟩, trees⟩, c₂, htaking, h⟩ := bind_run_eq_ok_iff.mp h
  obtain ⟨_, c₃, hindex, h⟩ := bind_run_eq_ok_iff.mp h
  obtain ⟨_, c₄, hput, h⟩ := bind_run_eq_ok_iff.mp h
  obtain ⟨_, c₅, hclosing, h⟩ := bind_run_eq_ok_iff.mp h
  obtain ⟨rfl, rfl⟩ := Prod.mk.inj (Except.ok.inj h)
  obtain ⟨-, rfl⟩ := Prod.mk.inj (Except.ok.inj hindex)
  obtain ⟨-, rfl⟩ := Prod.mk.inj (Except.ok.inj hput)
  obtain ⟨opening, hrest, hopening, hopens⟩ := isLeaf_of_op hopening
  obtain ⟨closing, hrest₂, hclosing, hcloses⟩ := isLeaf_of_op hclosing
  obtain ⟨c₆, hrun, hrest₁, -⟩ := run_of_taking htaking
  obtain ⟨inner, hinner, -⟩ := Advancing.reaches hrun
  dsimp only at hinner hrest₁ hrest₂
  rw [hrest₁] at hrest₂
  rw [hinner, hrest₂] at hrest
  refine ⟨opening ++ inner ++ closing, by simpa using hrest, ?_, ?_⟩
  all_goals rw [List.isEmpty_map]
  all_goals intro hentries
  · rcases passes_of_separated (taking_passing hentry) hrun with ⟨-, rfl⟩ | ⟨hne, -⟩
    · obtain rfl := List.self_eq_append_left.mp hinner
      rw [List.append_nil, List.length_append, hopening, hclosing]
      exact ⟨rfl, fun x hx => (List.mem_append.mp hx).elim (hopens x) (hcloses x)⟩
    · exact absurd (List.isEmpty_iff.mp hentries) hne
  · rcases passes_of_separated (taking_passing hentry) hrun with ⟨rfl, -⟩ | ⟨-, hpasses⟩
    · cases hentries
    · rw [Cursor.Passes, hinner, List.length_append] at hpasses
      rw [List.length_append, List.length_append, hopening, hclosing]
      change 2 < 1 + inner.length + 1
      omega

theorem whereClause_declares {c c' : Cursor} {predicates : List Unit}
    (h : (do
      word "where"
      if (← ahead).atGenerics then fail
      joined endsWhere (wherePredicate r) "," : Parser (List Unit)) c = .ok (predicates, c')) :
    c.Declares c' 1 predicates.isEmpty := by
  obtain ⟨_, c₁, hword, h⟩ := bind_run_eq_ok_iff.mp h
  obtain ⟨name, index, hrest⟩ := rest_of_word hword
  rw [ahead_bind_run] at h
  dsimp only at h
  split at h
  · obtain ⟨_, c₂, hfail, -⟩ := bind_run_eq_ok_iff.mp h
    cases hfail
  · rcases passes_of_joined (wherePredicate_passing r) h with ⟨rfl, rfl⟩ | ⟨hne, hpasses⟩
    · exact ⟨[_], hrest, fun _ => ⟨rfl, by simp [Tree.isLeaf]⟩, by simp⟩
    · obtain ⟨inner, hinner, -⟩ := Advancing.reaches h
      rw [hinner] at hrest
      refine ⟨_ :: inner, hrest, fun hempty => absurd (List.isEmpty_iff.mp hempty) hne, fun _ => ?_⟩
      rw [Cursor.Passes, hinner, List.length_append] at hpasses
      rw [List.length_cons]
      omega

theorem generics_whole {c c' : Cursor} {clause : Clause}
    (h : generics r c = .ok (some clause, c')) (hready : Ready tokens c.rest)
    (hfollows : Follows c'.rest) : clause.IsWhole tokens 2 := by
  rw [generics, ahead_bind_run] at h
  split at h
  · obtain ⟨⟨entries, node⟩, c₁, hspanned, h⟩ := bind_run_eq_ok_iff.mp h
    obtain ⟨hclause, rfl⟩ := Prod.mk.inj (Except.ok.inj h)
    obtain rfl := Option.some.inj hclause
    obtain ⟨passed, hpassed, hspans⟩ := spans_of_spanned (angleList_ending _).passing hspanned
    obtain ⟨c₂, hrun, hrest, -, -⟩ := run_of_spanned hspanned
    have hdeclares := angleList_declares (genericParameter_passing r true) hrun
    rw [Cursor.Declares, ← hrest] at hdeclares
    exact hready.clause_whole (Along.along hspanned) hpassed hspans hfollows hdeclares
  · cases h

variable [r.Settle]

theorem whereClause_whole {c c' : Cursor} {clause : Clause}
    (h : whereClause r c = .ok (some clause, c')) (hready : Ready tokens c.rest)
    (hfollows : Follows c'.rest) : clause.IsWhole tokens 1 := by
  rw [whereClause, ahead_bind_run] at h
  split at h
  · obtain ⟨⟨predicates, node⟩, c₁, hspanned, h⟩ := bind_run_eq_ok_iff.mp h
    obtain ⟨hclause, rfl⟩ := Prod.mk.inj (Except.ok.inj h)
    obtain rfl := Option.some.inj hclause
    have hword : Passing (word "where") := Along.passing inferInstance
    obtain ⟨passed, hpassed, hspans⟩ := spans_of_spanned (passing_bind_left hword) hspanned
    obtain ⟨c₂, hrun, hrest, -, -⟩ := run_of_spanned hspanned
    have hdeclares := whereClause_declares r hrun
    rw [Cursor.Declares, ← hrest] at hdeclares
    exact hready.clause_whole (Along.along hspanned) hpassed hspans hfollows hdeclares
  · cases h

omit [r.Advance] [r.Settle] in
/-- A where clause, or what stands in its place, ends what stands before it. -/
theorem follows_of_whereClause {c c' : Cursor} {clause : Option Clause}
    (h : whereClause r c = .ok (clause, c')) (hfollows : Follows c'.rest) : Follows c.rest := by
  rw [whereClause, ahead_bind_run] at h
  split at h
  · next hword =>
    generalize c.rest = ts at hword
    rw [atWord.eq_def] at hword
    split at hword
    · rintro _ ⟨⟩
      exact beq_iff_eq.mp hword
    · cases hword
  · obtain ⟨-, rfl⟩ := Prod.mk.inj (Except.ok.inj h)
    exact hfollows

end Grammar

end MapperGen.Syntax
