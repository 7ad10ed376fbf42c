import MapperGen.Declaration.Extract
import MapperGen.Proofs.Traversal

/-!
# Shapes of marked items

Which marked items can be mappers, said of the syntax alone. `readMarked_ok_iff` shows that exactly
these are taken out of a file, whatever their annotations say.
-/

namespace MapperGen

open Syntax

/-! ### Shapes -/

/-- The parameter is a receiver, or it binds one name. -/
def Syntax.Argument.IsWellShaped : Argument → Prop
  | .receiver => True
  | .typed pattern _ _ => ∃ name, pattern = .binding name false

/-- The method has no body, and its parameters bind one name each. -/
structure Syntax.Method.IsWellShaped (m : Method) : Prop where
  noBody : m.hasBody = false
  arguments : ∀ a ∈ m.signature.arguments, a.IsWellShaped

/-- The member is a method without a body. -/
def Syntax.Member.IsWellShaped : Member → Prop
  | .method _ m => m.IsWellShaped
  | .other _ => False

/-- The trait has generic parameters or a where clause. -/
def Syntax.TraitDecl.isGeneric (t : TraitDecl) : Bool :=
  t.generics.any (!·.isEmpty) || t.whereClause.isSome

/-- The trait declares no generic parameters and has no where clause, and its members are methods
without bodies. -/
structure Syntax.TraitDecl.IsWellShaped (t : TraitDecl) : Prop where
  noParameters : ∀ clause ∈ t.generics, clause.isEmpty = true
  noWhereClause : t.whereClause = none
  members : ∀ member ∈ t.members, member.IsWellShaped

/-- The item is a trait that can be a mapper. -/
def Syntax.Item.IsWellShaped (item : Item) : Prop :=
  ∃ t : TraitDecl, item.kind = .traitDecl t ∧ t.IsWellShaped

/-- All marked items of the file can be mappers. -/
def Syntax.SourceFile.IsWellShaped (file : SourceFile) : Prop :=
  ∀ item ∈ file.items, isMarked file.tokens item = true → item.IsWellShaped

/-! ### What is taken out of a file -/

variable {s : Tokens} {text : Text}

theorem singleName?_eq_some_iff {pattern : Pattern} {name : Text} :
    pattern.singleName? = some name ↔ pattern = .binding name false := by
  cases pattern with
  | binding bound refined => cases refined <;> simp [Pattern.singleName?]
  | rest => simp [Pattern.singleName?]
  | openRange dots => simp [Pattern.singleName?]
  | other => simp [Pattern.singleName?]

theorem readParameters_ok_iff {method : Text} {index : Nat} {arguments : List Argument} :
    (∃ parameters, readParameters s text method index arguments = .ok parameters) ↔
      ∀ a ∈ arguments, a.IsWellShaped := by
  induction arguments generalizing index with
  | nil => simp [readParameters]
  | cons a rest ih =>
    cases a with
    | receiver => simp [readParameters, ih, Argument.IsWellShaped]
    | typed pattern patternAt type =>
      rw [List.forall_mem_cons, ← @ih (index + 1)]
      simp only [readParameters, Argument.IsWellShaped, ← singleName?_eq_some_iff]
      cases hname : pattern.singleName? with
      | none => simp
      | some name => simp [map_eq_ok_iff]

theorem readMethod_ok_iff {m : Method} :
    (∃ d, readMethod s text m = .ok d) ↔ m.IsWellShaped := by
  simp only [readMethod]
  split
  · next hbody =>
    constructor
    · rintro ⟨d, hd⟩
      cases hd
    · intro h
      simp [h.noBody] at hbody
  · next hbody =>
    simp only [map_eq_ok_iff]
    constructor
    · rintro ⟨d, parameters, hparameters, -⟩
      exact ⟨by simpa using hbody, readParameters_ok_iff.mp ⟨parameters, hparameters⟩⟩
    · intro h
      obtain ⟨parameters, hparameters⟩ := readParameters_ok_iff.mpr h.arguments
      exact ⟨_, parameters, hparameters, rfl⟩

theorem readMember_ok_iff {member : Member} :
    (∃ d, readMember s text member = .ok d) ↔ member.IsWellShaped := by
  cases member with
  | method first m => exact readMethod_ok_iff
  | other first => simp [readMember, Member.IsWellShaped]

/-- A marked item is taken out of the file exactly if it can be a mapper. -/
theorem readMarked_ok_iff {item : Item} :
    (∃ d, readMarked s text item = .ok d) ↔ item.IsWellShaped := by
  simp only [Item.IsWellShaped, readMarked]
  split
  · next t hkind =>
    split
    · next hgeneric =>
      constructor
      · rintro ⟨d, hd⟩
        cases hd
      · rintro ⟨t', ht', h⟩
        obtain rfl := ItemKind.traitDecl.inj (hkind.symm.trans ht')
        rw [h.noWhereClause, Option.isSome_none, Bool.or_false, Option.any_eq_true] at hgeneric
        obtain ⟨clause, hclause, hempty⟩ := hgeneric
        simp [h.noParameters clause hclause] at hempty
    · next hgeneric =>
      have hmembers : (∃ methods, t.members.mapM (readMember s text) = .ok methods) ↔
          ∀ member ∈ t.members, member.IsWellShaped := by
        simp only [exists_mapM_eq_ok_iff, readMember_ok_iff]
      constructor
      · rintro ⟨d, hd⟩
        split at hd
        · cases hd
        · next methods hmethods =>
          refine ⟨t, hkind, ?_, ?_, hmembers.mp ⟨methods, hmethods⟩⟩
          · intro clause hclause
            cases hempty : clause.isEmpty
            · simp_all
            · rfl
          · cases hwhere : t.whereClause
            · rfl
            · simp [hwhere] at hgeneric
      · rintro ⟨t', ht', h⟩
        obtain rfl := ItemKind.traitDecl.inj (hkind.symm.trans ht')
        obtain ⟨methods, hmethods⟩ := hmembers.mpr h.members
        rw [hmethods]
        exact ⟨_, rfl⟩
  · next hkind =>
    constructor
    · rintro ⟨d, hd⟩
      cases hd
    · rintro ⟨t, ht, -⟩
      exact absurd ht (hkind t)

/-- The declarations of a file can be taken out of it exactly if its marked items can be
mappers. -/
theorem declarations_ok_iff {file : SourceFile} :
    (∃ ds, file.declarations text = .ok ds) ↔ file.IsWellShaped := by
  rw [SourceFile.declarations, exists_mapM_eq_ok_iff, SourceFile.IsWellShaped]
  simp only [readMarked_ok_iff, List.mem_filter, and_imp]

end MapperGen
