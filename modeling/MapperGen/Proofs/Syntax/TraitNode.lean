import MapperGen.Proofs.Syntax.ClauseNode
import MapperGen.Proofs.Syntax.TraitItems

/-!
# Extents in traits

The types, generic parameter lists and where clauses in the methods of a trait stand in the text with
no documentation comment on their edges: each stands behind a token that begins no attribute, and
before one that ends it.
-/

namespace MapperGen.Syntax

open MapperGen.Syntax.Parser Trees

variable {tokens : List Token}

/-! ### Whole signatures -/

/-- The type of the parameter is whole if the parameter binds a name. -/
def Argument.IsWhole (tokens : List Token) (a : Argument) : Prop :=
  ∀ name refined index type, a = .typed (.binding name refined) index type → type.IsWhole tokens

/-- The types of the parameters and of the result are whole, and so are the clauses. -/
structure Signature.IsWhole (tokens : List Token) (sig : Signature) : Prop where
  generics : ∀ clause ∈ sig.generics, clause.IsWhole tokens 2
  arguments : ∀ a ∈ sig.arguments, a.IsWhole tokens
  result : ∀ type ∈ sig.result, type.IsWhole tokens
  whereClause : ∀ clause ∈ sig.whereClause, clause.IsWhole tokens 1

/-- The signatures of the methods are whole. -/
def TraitDecl.IsWhole (tokens : List Token) (t : TraitDecl) : Prop :=
  ∀ first m, .method first m ∈ t.members → m.signature.IsWhole tokens

theorem Parser.eq_of_op? {symbol : String} {c c' : Cursor} (h : op? symbol c = .ok (false, c')) :
    c' = c := by
  rw [op?, ahead_bind_run] at h
  split at h
  · obtain ⟨u, c₁, -, h⟩ := bind_run_eq_ok_iff.mp h
    cases h
  · obtain ⟨-, rfl⟩ := Prod.mk.inj (Except.ok.inj h)
    rfl

theorem Parser.run_of_op? {symbol : String} {c c' : Cursor} (h : op? symbol c = .ok (true, c')) :
    ∃ u, op symbol c = .ok (u, c') := by
  rw [op?, ahead_bind_run] at h
  split at h
  · obtain ⟨u, c₁, hop, h⟩ := bind_run_eq_ok_iff.mp h
    obtain ⟨-, rfl⟩ := Prod.mk.inj (Except.ok.inj h)
    exact ⟨u, hop⟩
  · cases h

theorem Parser.parens_ending {α : Type} (content : Parser α) : Ending (parens content) where
  along h := by
    obtain ⟨trees, opening, closing, inner, hrest, -, -⟩ := rest_of_inGroup h
    exact ⟨[_], hrest, fun before => .of_plain rfl (by simp [Tree.mark?]) rfl before⟩

namespace Grammar

-- the instance of a parser with many steps is a large term
set_option synthInstance.maxSize 100000

variable (r : Rules) [r.Advance] [r.Settle]

/-! ### Parameters -/

omit [r.Settle] in
theorem argumentStep_whole [r.WholeTypes] {c c' : Cursor} {a : Argument}
    (h : argumentStep r c = .ok (.argument a, c')) (hlocated : Located tokens c.rest)
    (hfollows : Follows c'.rest) : a.IsWhole tokens := by
  rintro name refined index type rfl
  obtain ⟨_, c₁, hattributes, h⟩ := bind_run_eq_ok_iff.mp h
  obtain ⟨variadic, c₂, hvariadic, h⟩ := bind_run_eq_ok_iff.mp h
  split at h
  · cases h
  · obtain ⟨self, c₃, hself, h⟩ := bind_run_eq_ok_iff.mp h
    split at h
    · cases h
    · rw [ahead_bind_run, ahead_bind_run] at h
      split at h
      · obtain ⟨patternAt, c₄, -, h⟩ := bind_run_eq_ok_iff.mp h
        obtain ⟨type', c₅, -, h⟩ := bind_run_eq_ok_iff.mp h
        cases h
      · obtain ⟨patternAt, c₄, hfirst, h⟩ := bind_run_eq_ok_iff.mp h
        obtain ⟨pattern, c₅, hpattern, h⟩ := bind_run_eq_ok_iff.mp h
        obtain ⟨u, c₆, hcolon, h⟩ := bind_run_eq_ok_iff.mp h
        obtain ⟨dots, c₇, hdots, h⟩ := bind_run_eq_ok_iff.mp h
        split at h
        · cases h
        · next hnone =>
          obtain ⟨type', c₈, htype, h⟩ := bind_run_eq_ok_iff.mp h
          obtain ⟨hargument, rfl⟩ := Prod.mk.inj (Except.ok.inj h)
          cases hargument
          rw [Bool.not_eq_true] at hnone
          subst hnone
          obtain rfl := eq_of_op? hdots
          have hreach := (Advancing.reaches hattributes).trans <|
            (Advancing.reaches hvariadic).trans <| (Advancing.reaches hself).trans <|
              (Advancing.reaches hfirst).trans (Advancing.reaches hpattern)
          have hready := (hlocated.suffix hreach.suffix).ends (Along.along hcolon)
          exact Rules.WholeTypes.whole htype hready hfollows

omit [r.Advance] [r.Settle] in
/-- Behind a parameter the list ends, or a comma follows and further parameters behind it. -/
theorem run_of_laterArguments {n : Nat} {a : Argument} {arguments : List Argument} {c c' : Cursor}
    (h : (do
      if ← atEnd then return [a]
      op ","
      return a :: (← argumentList r false n) : Parser (List Argument)) c = .ok (arguments, c')) :
    Follows c.rest ∧ (arguments = [a] ∨ ∃ c₁ later, c.Reaches c₁ ∧
      argumentList r false n c₁ = .ok (later, c') ∧ arguments = a :: later) := by
  obtain ⟨ended, c₀, hended, h⟩ := bind_run_eq_ok_iff.mp h
  obtain ⟨hempty, rfl⟩ := Prod.mk.inj (Except.ok.inj hended)
  split at h
  · next hend =>
    obtain ⟨rfl, -⟩ := Prod.mk.inj (Except.ok.inj h)
    rw [List.isEmpty_iff.mp (hempty.trans hend)]
    exact ⟨follows_nil, .inl rfl⟩
  · obtain ⟨u, c₁, hcomma, h⟩ := bind_run_eq_ok_iff.mp h
    obtain ⟨later, c₂, hlater, h⟩ := bind_run_eq_ok_iff.mp h
    obtain ⟨rfl, rfl⟩ := Prod.mk.inj (Except.ok.inj h)
    refine ⟨follows_of_op (d := ',') (by decide) (.inl rfl) hcomma, .inr ?_⟩
    exact ⟨c₁, later, Advancing.reaches hcomma, hlater, rfl⟩

omit [r.Settle] in
theorem argumentList_whole [r.WholeTypes] {n : Nat} {first : Bool} {c c' : Cursor}
    {arguments : List Argument} (h : argumentList r first n c = .ok (arguments, c'))
    (hlocated : Located tokens c.rest) : ∀ a ∈ arguments, a.IsWhole tokens := by
  induction n generalizing first c c' arguments with
  | zero =>
    obtain ⟨rfl, -⟩ := Prod.mk.inj (Except.ok.inj h)
    simp
  | succ n ih =>
    obtain ⟨ended, c₀, hended, h⟩ := bind_run_eq_ok_iff.mp h
    obtain ⟨-, rfl⟩ := Prod.mk.inj (Except.ok.inj hended)
    split at h
    · obtain ⟨rfl, -⟩ := Prod.mk.inj (Except.ok.inj h)
      simp
    · obtain ⟨step, c₁, hstep, h⟩ := bind_run_eq_ok_iff.mp h
      have hlocated₁ := hlocated.suffix (Advancing.reaches hstep).suffix
      have hlater {a : Argument} (ha : Follows c₁.rest → a.IsWhole tokens)
          (h : Follows c₁.rest ∧ (arguments = [a] ∨ ∃ c₂ later, c₁.Reaches c₂ ∧
            argumentList r false n c₂ = .ok (later, c') ∧ arguments = a :: later)) :
          ∀ a ∈ arguments, a.IsWhole tokens := by
        obtain ⟨hfollows, rfl | ⟨c₂, later, hreach, hrun, rfl⟩⟩ := h
        · simpa using ha hfollows
        · rw [List.forall_mem_cons]
          exact ⟨ha hfollows, ih hrun (hlocated₁.suffix hreach.suffix)⟩
      cases step with
      | variadic =>
        obtain ⟨ended, c₂, -, h⟩ := bind_run_eq_ok_iff.mp h
        dsimp only at h
        split at h
        · obtain ⟨u, c₃, -, h⟩ := bind_run_eq_ok_iff.mp h
          obtain ⟨rfl, -⟩ := Prod.mk.inj (Except.ok.inj h)
          simp
        · obtain ⟨rfl, -⟩ := Prod.mk.inj (Except.ok.inj h)
          simp
      | receiver selfAt =>
        dsimp only at h
        split at h
        · obtain ⟨u, c₂, hfail, -⟩ := bind_run_eq_ok_iff.mp h
          cases hfail
        · exact hlater (fun _ => by simp [Argument.IsWhole]) (run_of_laterArguments r h)
      | argument a =>
        exact hlater (argumentStep_whole r hstep hlocated) (run_of_laterArguments r h)

/-! ### Signatures -/

/-- A signature behind the marks that may stand before its calling convention. -/
def unmarkedSignature (first : Nat) : Parser Signature := do
  convention
  word "fn"
  let name ← ident
  let generics ← generics r
  let arguments ← parens do argumentList r true ((← ahead).length + 1)
  let result ← resultType r true
  let whereClause ← whereClause r
  return { first, name, generics, arguments, result, whereClause }

omit [r.Advance] [r.Settle] in
theorem run_of_signature {allowSafe : Bool} {c c' : Cursor} {sig : Signature}
    (h : signature r allowSafe c = .ok (sig, c')) :
    ∃ first c₁ c₂, nextIndex c = .ok (first, c₁) ∧ c.Reaches c₂ ∧
      unmarkedSignature r first c₂ = .ok (sig, c') := by
  obtain ⟨first, c₁, hfirst, h⟩ := bind_run_eq_ok_iff.mp h
  obtain ⟨_, c₂, hconst, h⟩ := bind_run_eq_ok_iff.mp h
  obtain ⟨_, c₃, hasync, h⟩ := bind_run_eq_ok_iff.mp h
  obtain ⟨isUnsafe, c₄, hunsafe, h⟩ := bind_run_eq_ok_iff.mp h
  dsimp only at h
  have hmarks : c.Reaches c₄ := (Advancing.reaches hfirst).trans <|
    (Advancing.reaches hconst).trans <| (Advancing.reaches hasync).trans (Advancing.reaches hunsafe)
  split at h
  · split at h
    · obtain ⟨_, c₅, hsafe, h⟩ := bind_run_eq_ok_iff.mp h
      exact ⟨first, c₁, c₅, hfirst, hmarks.trans (Advancing.reaches hsafe), h⟩
    · exact ⟨first, c₁, c₄, hfirst, hmarks, h⟩
  · exact ⟨first, c₁, c₄, hfirst, hmarks, h⟩

omit [r.Advance] [r.Settle] in
theorem result_whole [r.WholeTypes] {c c' : Cursor} {result : Option TypeExpr}
    (h : resultType r true c = .ok (result, c')) (hlocated : Located tokens c.rest)
    (hfollows : Follows c'.rest) : ∀ type ∈ result, type.IsWhole tokens := by
  obtain ⟨found, c₁, harrow, h⟩ := bind_run_eq_ok_iff.mp h
  split at h
  · next hfound =>
    subst hfound
    obtain ⟨type, c₂, htype, h⟩ := bind_run_eq_ok_iff.mp h
    obtain ⟨rfl, rfl⟩ := Prod.mk.inj (Except.ok.inj h)
    obtain ⟨u, harrow⟩ := run_of_op? harrow
    have hready := hlocated.ends (Along.along harrow)
    rintro _ ⟨⟩
    exact Rules.WholeTypes.whole htype hready hfollows
  · obtain ⟨rfl, -⟩ := Prod.mk.inj (Except.ok.inj h)
    simp

theorem signature_whole [r.WholeTypes] {allowSafe : Bool} {c c' : Cursor} {sig : Signature}
    (h : signature r allowSafe c = .ok (sig, c')) (hlocated : Located tokens c.rest)
    (hfollows : Follows c'.rest) : sig.IsWhole tokens := by
  obtain ⟨first, -, c₀, -, hmarks, h⟩ := run_of_signature r h
  obtain ⟨_, c₁, hconvention, h⟩ := bind_run_eq_ok_iff.mp h
  obtain ⟨_, c₂, hword, h⟩ := bind_run_eq_ok_iff.mp h
  obtain ⟨name, c₃, hname, h⟩ := bind_run_eq_ok_iff.mp h
  obtain ⟨generics, c₄, hgenerics, h⟩ := bind_run_eq_ok_iff.mp h
  obtain ⟨arguments, c₅, harguments, h⟩ := bind_run_eq_ok_iff.mp h
  obtain ⟨result, c₆, hresult, h⟩ := bind_run_eq_ok_iff.mp h
  obtain ⟨clause, c₇, hclause, h⟩ := bind_run_eq_ok_iff.mp h
  obtain ⟨rfl, rfl⟩ := Prod.mk.inj (Except.ok.inj h)
  have hfront : c.Reaches c₂ :=
    hmarks.trans ((Advancing.reaches hconvention).trans (Advancing.reaches hword))
  have hnamed : Ready tokens c₃.rest := (hlocated.suffix hfront.suffix).ends (Along.along hname)
  have hlocated₄ := hnamed.located.suffix (Advancing.reaches hgenerics).suffix
  obtain ⟨trees, opening, closing, inner, hrest, -, hcontent⟩ := rest_of_inGroup harguments
  have hready₅ : Ready tokens c₅.rest := hlocated₄.ends ((parens_ending _).along harguments)
  have hfollows₆ := follows_of_whereClause r hclause hfollows
  constructor
  · intro clause' hclause'
    obtain rfl := Option.mem_def.mp hclause'
    refine generics_whole r hgenerics hnamed ?_
    rw [hrest]
    rintro _ ⟨⟩
    trivial
  · rw [ahead_bind_run] at hcontent
    rw [hrest] at hlocated₄
    exact argumentList_whole r hcontent (hlocated₄.content (by decide)).ready.located
  · exact result_whole r hresult hready₅.located hfollows₆
  · intro clause' hclause'
    obtain rfl := Option.mem_def.mp hclause'
    exact whereClause_whole r hclause (hready₅.settles (Along.along hresult)) hfollows

/-! ### Members -/

theorem traitMethod_whole [r.WholeTypes] {attributes : List Attribute} {c c' : Cursor} {m : Method}
    (h : traitMethod r attributes c = .ok (m, c')) (hlocated : Located tokens c.rest) :
    m.signature.IsWhole tokens := by
  obtain ⟨sig, c₁, hsig, h⟩ := bind_run_eq_ok_iff.mp h
  rw [ahead_bind_run] at h
  split at h
  · next hbrace =>
    obtain ⟨inner, c₂, -, h⟩ := bind_run_eq_ok_iff.mp h
    obtain ⟨rfl, -⟩ := Prod.mk.inj (Except.ok.inj h)
    refine signature_whole r hsig hlocated ?_
    generalize c₁.rest = ts at hbrace
    rw [atBrace, atGroup.eq_def] at hbrace
    split at hbrace
    · rintro _ ⟨⟩
      trivial
    · cases hbrace
  · obtain ⟨u, c₂, hsemicolon, h⟩ := bind_run_eq_ok_iff.mp h
    obtain ⟨rfl, -⟩ := Prod.mk.inj (Except.ok.inj h)
    have hfollows := follows_of_op (d := ';') (by decide) (.inr rfl) hsemicolon
    exact signature_whole r hsig hlocated hfollows

omit [r.Advance] [r.Settle] in
theorem run_of_constMember {ts : Trees} {attributes : List Attribute} {c c' : Cursor} {m : Method}
    (h : constMember r ts attributes c = .ok (some m, c')) :
    ∃ c₂, traitMethod r attributes c = .ok (m, c₂) := by
  rw [constMember] at h
  split at h
  · obtain ⟨_, c₁, -, h⟩ := bind_run_eq_ok_iff.mp h
    obtain ⟨_, c₂, -, h⟩ := bind_run_eq_ok_iff.mp h
    cases h
  · split at h
    · obtain ⟨method, c₁, hmethod, h⟩ := bind_run_eq_ok_iff.mp h
      obtain ⟨hsome, rfl⟩ := Prod.mk.inj (Except.ok.inj h)
      obtain rfl := Option.some.inj hsome
      exact ⟨c₁, hmethod⟩
    · obtain ⟨spot, c₁, -, h⟩ := bind_run_eq_ok_iff.mp h
      cases h

omit [r.Advance] [r.Settle] in
theorem run_of_method {c c' : Cursor} {first : Nat} {m : Method}
    (h : traitMember r c = .ok (.method first m, c')) :
    ∃ attributes c₁ c₂, c.Reaches c₁ ∧ traitMethod r attributes c₁ = .ok (m, c₂) := by
  obtain ⟨first', c₁, hfirst, h⟩ := bind_run_eq_ok_iff.mp h
  obtain ⟨attributes, c₂, hattributes, h⟩ := bind_run_eq_ok_iff.mp h
  obtain ⟨isPub, c₃, hpub, h⟩ := bind_run_eq_ok_iff.mp h
  obtain ⟨isDefault, c₄, hdefault, h⟩ := bind_run_eq_ok_iff.mp h
  have hreach : c.Reaches c₄ := (Advancing.reaches hfirst).trans <|
    (Advancing.reaches hattributes).trans <| (Advancing.reaches hpub).trans
      (Advancing.reaches hdefault)
  have hmethod {found : Method} {c₅ : Cursor}
      (h : (pure (if isPub || isDefault then .other first' else .method first' found) :
        Parser Member) c₅ = .ok (.method first m, c')) : found = m := by
    obtain ⟨heq, -⟩ := Prod.mk.inj (Except.ok.inj h)
    split at heq
    · cases heq
    · exact (Member.method.inj heq).2
  rw [ahead_bind_run] at h
  dsimp only at h
  split at h
  · obtain ⟨method, c₅, hrun, h⟩ := bind_run_eq_ok_iff.mp h
    rw [map_eq_pure_bind] at hrun
    obtain ⟨found, c₆, hfound, hrun⟩ := bind_run_eq_ok_iff.mp hrun
    obtain ⟨rfl, rfl⟩ := Prod.mk.inj (Except.ok.inj hrun)
    obtain rfl := hmethod h
    exact ⟨attributes, c₄, c₆, hreach, hfound⟩
  · split at h
    · obtain ⟨method, c₅, hrun, h⟩ := bind_run_eq_ok_iff.mp h
      cases method with
      | none => cases h
      | some found =>
        obtain rfl := hmethod h
        obtain ⟨c₆, hfound⟩ := run_of_constMember r hrun
        exact ⟨attributes, c₄, c₆, hreach, hfound⟩
    -- what else a trait may hold is no method
    · split at h
      · obtain ⟨_, c₅, -, h⟩ := bind_run_eq_ok_iff.mp h
        obtain ⟨method, c₆, hnone, h⟩ := bind_run_eq_ok_iff.mp h
        cases hnone
        cases h
      · split at h
        · obtain ⟨_, c₅, -, h⟩ := bind_run_eq_ok_iff.mp h
          obtain ⟨method, c₆, hnone, h⟩ := bind_run_eq_ok_iff.mp h
          cases hnone
          cases h
        · obtain ⟨method, c₅, hfail, -⟩ := bind_run_eq_ok_iff.mp h
          cases hfail

/-! ### Traits -/

/-- The signatures of a trait are whole wherever the trait stands at the end of a level. -/
def WholeIn (tokens : List Token) (ts : Trees) (t : TraitDecl) : Prop :=
  Located tokens ts → t.IsWhole tokens

instance : Inherited (WholeIn tokens) where
  of_suffix hsuffix h hlocated := h (hlocated.suffix hsuffix)

theorem traitTail_whole [r.WholeTypes] (keywordAt : Nat) (name : Text) (nameAt : Nat)
    (parameters : Option Clause) :
    Traits (WholeIn tokens) (traitTail r keywordAt name nameAt parameters) := by
  intro c parts c' h t ht hlocated
  obtain ⟨_, c₁, hbounds, h⟩ := bind_run_eq_ok_iff.mp h
  obtain ⟨clause, c₂, hclause, h⟩ := bind_run_eq_ok_iff.mp h
  obtain ⟨⟨attributes, found⟩, c₃, hmembers, h⟩ := bind_run_eq_ok_iff.mp h
  obtain ⟨rfl, -⟩ := Prod.mk.inj (Except.ok.inj h)
  obtain rfl := ItemKind.traitDecl.inj ht
  have hlocated₂ := hlocated.suffix
    ((Advancing.reaches hbounds).trans (Advancing.reaches hclause)).suffix
  obtain ⟨trees, opening, closing, inner, hrest, -, hcontent⟩ := rest_of_inGroup hmembers
  rw [hrest] at hlocated₂
  have hlevel := (hlocated₂.content (by decide)).ready.located
  obtain ⟨attributes', c₄, hattributes, hcontent⟩ := bind_run_eq_ok_iff.mp hcontent
  obtain ⟨found', c₅, hfound, hcontent⟩ := bind_run_eq_ok_iff.mp hcontent
  obtain ⟨heq, -⟩ := Prod.mk.inj (Except.ok.inj hcontent)
  obtain ⟨rfl, rfl⟩ := Prod.mk.inj heq
  intro first m hm
  obtain ⟨c₆, c₇, hreach, -, hmember⟩ := exists_run_of_mem_untilEnd hfound _ hm
  obtain ⟨attributes, c₈, c₉, hmethodAt, hmethod⟩ := run_of_method r hmember
  refine traitMethod_whole r hmethod (hlevel.suffix ?_)
  exact ((Advancing.reaches hattributes).trans (hreach.trans hmethodAt)).suffix

theorem traitItem_whole [r.WholeTypes] (mayAlias : Bool) :
    Traits (WholeIn tokens) (traitItem r mayAlias) := by
  refine traitItem_traits r mayAlias fun keywordAt nameAt => ?_
  refine traits_bind fun name => traits_bind fun parameters => ?_
  exact traitTail_whole r keywordAt name nameAt parameters

end Grammar

/-! ### Files -/

/-- The signatures in the traits of a file are whole. -/
theorem SourceFile.traits_whole {text : Text} {file : SourceFile}
    (h : SourceFile.read text = .ok file) {item : Item} (hitem : item ∈ file.items)
    {t : TraitDecl} (ht : item.kind = .traitDecl t) :
    t.IsWhole file.tokens.sequence := by
  obtain ⟨htokens, hitems⟩ := SourceFile.read_eq_ok_iff.mp h
  obtain ⟨placed, -, hnests, hplaced, -⟩ := Tokens.read_eq_ok_iff.mp htokens
  obtain ⟨c', hrun⟩ := run_of_runAll hitems
  refine Grammar.traits_of_file (fun n => Grammar.traitItem_whole (.level n)) hrun item hitem t ht ?_
  rw [Tokens.sequence, hplaced]
  exact (Level.of_nests hnests).ready.located

end MapperGen.Syntax
