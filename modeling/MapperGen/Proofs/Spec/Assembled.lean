import MapperGen.Proofs.Annotation.DirectiveGrammar
import MapperGen.Proofs.Traversal
import MapperGen.Spec.Assembly

/-!
# Assembled specs

What assembly makes of declarations. If each mapper has a name, each method one result, and each
annotation is a directive, then all of them go into the spec, one to one and in order. Otherwise
assembly ends at the first of all misdeclarations, in the order in which a reader of the file comes
across them.
-/

namespace MapperGen

/-! ### From declarations to specs -/

/-- The conversion that a declared method becomes: the same but for its annotations, which are read
as directives, and its results, of which there is one. -/
structure Conversion.AssembledFrom (m : MethodDecl) (c : Conversion) : Prop where
  name : c.name = m.name
  generics : c.generics = m.generics
  parameters : c.parameters = m.parameters
  result : m.results = [c.result]
  whereClause : c.whereClause = m.whereClause
  directives : m.comments.Forall₂ (fun comment d => Directive.read comment = .ok d) c.directives

/-- The mapper that a declaration becomes. -/
structure Mapper.AssembledFrom (d : MapperDecl) (m : Mapper) : Prop where
  named : d.name ≠ []
  name : m.name = d.name
  conversions : d.methods.Forall₂ Conversion.AssembledFrom m.conversions

theorem MethodDecl.assemble_eq_ok_iff {m : MethodDecl} {c : Conversion} :
    m.assemble = .ok c ↔ Conversion.AssembledFrom m c := by
  constructor
  · intro h
    rw [assemble] at h
    split at h
    · next result hresult =>
      split at h
      · cases h
      · next directives hdirectives =>
        obtain rfl := Except.ok.inj h
        exact ⟨rfl, rfl, rfl, hresult, rfl, mapM_eq_ok_iff.mp hdirectives⟩
    · cases h
  · intro h
    have hdirectives := mapM_eq_ok_iff.mpr h.directives
    simp only [assemble, h.result, hdirectives, ← h.name, ← h.generics, ← h.parameters,
      ← h.whereClause]

theorem MapperDecl.assemble_eq_ok_iff {d : MapperDecl} {m : Mapper} :
    d.assemble = .ok m ↔ Mapper.AssembledFrom d m := by
  have hconversions (conversions : List Conversion) :
      d.methods.mapM MethodDecl.assemble = .ok conversions ↔
        d.methods.Forall₂ Conversion.AssembledFrom conversions := by
    simp only [mapM_eq_ok_iff, MethodDecl.assemble_eq_ok_iff]
  constructor
  · intro h
    rw [assemble] at h
    split at h
    · cases h
    · next hname =>
      split at h
      · cases h
      · next conversions hmethods =>
        obtain rfl := Except.ok.inj h
        exact ⟨by simpa using hname, rfl, (hconversions conversions).mp hmethods⟩
  · intro h
    have hname : ¬ d.name.isEmpty := by simpa using h.named
    rw [assemble, if_neg hname, (hconversions _).mpr h.conversions, ← h.name]

theorem Spec.assemble_eq_ok_iff {moduleName : Text} {declarations : List MapperDecl} {s : Spec} :
    Spec.assemble moduleName declarations = .ok s ↔
      s.moduleName = moduleName ∧ declarations.Forall₂ Mapper.AssembledFrom s.mappers := by
  simp only [Spec.assemble, map_eq_ok_iff, mapM_eq_ok_iff, MapperDecl.assemble_eq_ok_iff]
  constructor
  · rintro ⟨mappers, hmappers, rfl⟩
    exact ⟨rfl, hmappers⟩
  · rintro ⟨rfl, hmappers⟩
    exact ⟨s.mappers, hmappers, rfl⟩

/-! ### What can be assembled -/

theorem MethodDecl.assemble_ok_iff {d : MethodDecl} :
    (∃ c, d.assemble = .ok c) ↔
      d.results.length = 1 ∧ ∃ directives, d.comments.mapM Directive.read = .ok directives := by
  simp only [MethodDecl.assemble]
  split
  · next result hresult =>
    rw [hresult]
    split
    · next fault hfault => simp [hfault]
    · next directives hdirectives => simp [hdirectives]
  · next hresult =>
    constructor
    · rintro ⟨c, hc⟩
      cases hc
    · rintro ⟨hlength, -⟩
      obtain ⟨result, hresults⟩ := List.length_eq_one_iff.mp hlength
      exact absurd hresults (hresult result)

theorem MapperDecl.assemble_ok_iff {d : MapperDecl} :
    (∃ m, d.assemble = .ok m) ↔
      d.name ≠ [] ∧ ∀ method ∈ d.methods, ∃ c, method.assemble = .ok c := by
  rw [← exists_mapM_eq_ok_iff, Ne, ← List.isEmpty_iff]
  simp only [MapperDecl.assemble]
  split
  · next hempty => simp [hempty]
  · next hnamed =>
    split
    · next fault hfault => simp [hfault]
    · next conversions hconversions => simp [hnamed, hconversions]

theorem Spec.assemble_ok_iff {moduleName : Text} {declarations : List MapperDecl} :
    (∃ s, Spec.assemble moduleName declarations = .ok s) ↔
      ∀ d ∈ declarations, ∃ m, d.assemble = .ok m := by
  rw [← exists_mapM_eq_ok_iff]
  simp only [Spec.assemble, map_eq_ok_iff]
  constructor
  · rintro ⟨s, mappers, hmappers, -⟩
    exact ⟨mappers, hmappers⟩
  · rintro ⟨mappers, hmappers⟩
    exact ⟨_, mappers, hmappers, rfl⟩

/-! ### Misdeclarations -/

/-- What keeps a declaration from being assembled. -/
inductive Misdeclaration where
  | unnamed (d : MapperDecl)
  | notOneResult (d : MapperDecl) (m : MethodDecl)
  | notDirective (d : MapperDecl) (fault : DirectiveFault)

namespace Misdeclaration

/-- The mapper in a method of which it is. -/
def mapper : Misdeclaration → Option Text
  | unnamed _ => none
  | notOneResult d _ | notDirective d _ => some d.name

/-- Where the declaration is, if a report tells it. -/
def location : Misdeclaration → Option Location
  | unnamed d => some d.location
  | notOneResult _ m => some m.location
  | notDirective _ _ => none

/-- What is wrong, with the place. -/
def problem : Misdeclaration → Text
  | unnamed d => "mapper name cannot be empty ".toList ++ d.location.display
  | notOneResult _ m => "mapper function must have exactly one result, but ".toList ++ m.name ++
      " has ".toList ++ Text.ofNat m.results.length ++ ' ' :: m.location.display
  | notDirective _ fault => fault.message

/-- How a report says in which mapper it is. -/
def label (name : Text) : Text := "cannot create mapper for ".toList ++ name ++ ": ".toList

/-- The report of a misdeclaration. -/
def message (v : Misdeclaration) : Text := (v.mapper.map label).getD [] ++ v.problem

/-- The fault that it is reported as. -/
def fault : Misdeclaration → SpecFault
  | unnamed d => .emptyName d.location
  | notOneResult d m => .inMethod d.name (.resultCount m.name m.results.length m.location)
  | notDirective d fault => .inMethod d.name (.directive fault)

theorem toFailure_fault (v : Misdeclaration) : v.fault.toFailure = .misspecified v.message := by
  cases v <;> rfl

/-- No problem starts as a label does, so a report is not labelled twice. -/
theorem not_label_prefix_problem (v : Misdeclaration) (name : Text) :
    ¬ label name <+: v.problem := by
  have hfirst : v.problem.head? ≠ some 'c' := by
    cases v with
    | unnamed d =>
      show ("mapper name cannot be empty ".toList ++ _).head? ≠ some 'c'
      simp
    | notOneResult d m =>
      show ("mapper function must have exactly one result, but ".toList ++ _ ++ _ ++ _ ++ _).head? ≠
        some 'c'
      simp
    | notDirective d fault =>
      obtain ⟨behind, hbehind⟩ := fault.bracketed_prefix_message
      show fault.message.head? ≠ some 'c'
      simp [← hbehind]
  rintro ⟨behind, hbehind⟩
  apply hfirst
  rw [← hbehind]
  show ("cannot create mapper for ".toList ++ _ ++ _ ++ _).head? = some 'c'
  simp

theorem location_suffix_problem {v : Misdeclaration} {l : Location} (h : v.location = some l) :
    l.display <:+ v.problem := by
  cases v with
  | unnamed d =>
    obtain rfl : d.location = l := Option.some.inj h
    exact List.suffix_append _ _
  | notOneResult d m =>
    obtain rfl : m.location = l := Option.some.inj h
    exact (List.suffix_cons ' ' _).trans (List.suffix_append _ _)
  | notDirective d fault => cases h

end Misdeclaration

/-- The misdeclarations in a method: the number of its results comes before its annotations. -/
def MethodDecl.misdeclarations (d : MapperDecl) (m : MethodDecl) : List Misdeclaration :=
  let annotations := m.comments.flatMap fun comment =>
    match Directive.read comment with
    | .error fault => [.notDirective d fault]
    | .ok _ => []
  if m.results.length = 1 then annotations else .notOneResult d m :: annotations

/-- The misdeclarations in a mapper: its name comes before its methods. -/
def MapperDecl.misdeclarations (d : MapperDecl) : List Misdeclaration :=
  let methods := d.methods.flatMap (MethodDecl.misdeclarations d)
  if d.name = [] then .unnamed d :: methods else methods

/-- The misdeclarations in the mappers of a file. -/
def misdeclarations (declarations : List MapperDecl) : List Misdeclaration :=
  declarations.flatMap MapperDecl.misdeclarations

/-! ### What assembly stops at -/

theorem annotations_stopsAtFirst (d : MapperDecl) (comments : List Text) :
    StopsAtFirst ((comments.mapM Directive.read).mapError fun fault =>
        .inMethod d.name (.directive fault))
      ((comments.flatMap fun comment =>
        match Directive.read comment with
        | .error fault => [.notDirective d fault]
        | .ok _ => []).map Misdeclaration.fault) := by
  rw [mapError_mapM, List.map_flatMap]
  apply StopsAtFirst.mapM
  intro comment _
  cases Directive.read comment with
  | error fault => exact .error _ _
  | ok directive => exact .ok directive

theorem MethodDecl.assemble_stopsAtFirst (d : MapperDecl) (m : MethodDecl) :
    StopsAtFirst (m.assemble.mapError (.inMethod d.name))
      ((m.misdeclarations d).map Misdeclaration.fault) := by
  have hannotations := annotations_stopsAtFirst d m.comments
  rw [assemble, misdeclarations]
  split
  · next result hresult =>
    rw [if_pos (by rw [hresult]; rfl)]
    intro e
    rw [← hannotations e]
    cases m.comments.mapM Directive.read with
    | error fault => simp [Except.mapError]
    | ok directives => simp [Except.mapError]
  · next hresult =>
    have hcount : m.results.length ≠ 1 := fun hlength =>
      (List.length_eq_one_iff.mp hlength).elim hresult
    rw [if_neg hcount]
    exact .error _ _

theorem MapperDecl.assemble_stopsAtFirst (d : MapperDecl) :
    StopsAtFirst d.assemble (d.misdeclarations.map Misdeclaration.fault) := by
  have hmethods : StopsAtFirst
      ((d.methods.mapM MethodDecl.assemble).mapError (.inMethod d.name))
      ((d.methods.flatMap (MethodDecl.misdeclarations d)).map Misdeclaration.fault) := by
    rw [mapError_mapM, List.map_flatMap]
    exact .mapM fun m _ => m.assemble_stopsAtFirst d
  rw [assemble, misdeclarations]
  by_cases hname : d.name = []
  · rw [if_pos hname, if_pos (by rw [hname]; rfl)]
    exact .error _ _
  · rw [if_neg hname, if_neg (by simpa using hname)]
    intro e
    rw [← hmethods e]
    cases d.methods.mapM MethodDecl.assemble with
    | error fault => simp [Except.mapError]
    | ok conversions => simp [Except.mapError]

theorem Spec.assemble_stopsAtFirst (moduleName : Text) (declarations : List MapperDecl) :
    StopsAtFirst (Spec.assemble moduleName declarations)
      ((misdeclarations declarations).map Misdeclaration.fault) := by
  rw [Spec.assemble, MapperGen.misdeclarations, List.map_flatMap]
  apply StopsAtFirst.map
  exact .mapM fun d _ => d.assemble_stopsAtFirst

/-! ### All or nothing -/

/-- How declarations are assembled: all of them, or up to the first misdeclaration. This one is
reported as a specification failure, labelled once with the name of the mapper if it is in a method,
and with the place of the declaration at the end if it is the name of a mapper or the number of
results. -/
structure AssembledWhole (moduleName : Text) (declarations : List MapperDecl) : Prop where
  succeeds : (∃ s, Spec.assemble moduleName declarations = .ok s) ↔
    ∀ d ∈ declarations, d.name ≠ [] ∧ ∀ m ∈ d.methods, m.results.length = 1 ∧
      ∀ comment ∈ m.comments, ∃ directive, Directive.read comment = .ok directive
  preserves : ∀ s, Spec.assemble moduleName declarations = .ok s ↔
    s.moduleName = moduleName ∧ declarations.Forall₂ Mapper.AssembledFrom s.mappers
  fails : ∀ failure,
    (Spec.assemble moduleName declarations).mapError SpecFault.toFailure = .error failure ↔
      ∃ v, (misdeclarations declarations).head? = some v ∧ failure = .misspecified v.message
  labelledOnce : ∀ v ∈ misdeclarations declarations, ∀ name,
    ¬ Misdeclaration.label name <+: v.problem
  located : ∀ v ∈ misdeclarations declarations, ∀ l, v.location = some l → l.display <:+ v.message

/-- Assembly takes in all declarations, or ends at the first one that does not fit. -/
theorem Spec.assemble_whole (moduleName : Text) (declarations : List MapperDecl) :
    AssembledWhole moduleName declarations := by
  constructor
  case succeeds =>
    rw [Spec.assemble_ok_iff]
    simp only [MapperDecl.assemble_ok_iff, MethodDecl.assemble_ok_iff, exists_mapM_eq_ok_iff]
  case preserves =>
    intro s
    exact Spec.assemble_eq_ok_iff
  case fails =>
    intro failure
    have hstops := (Spec.assemble_stopsAtFirst moduleName declarations).mapError SpecFault.toFailure
    rw [hstops failure, List.map_map, List.head?_map, Option.map_eq_some_iff]
    constructor
    · rintro ⟨v, hv, rfl⟩
      exact ⟨v, hv, v.toFailure_fault⟩
    · rintro ⟨v, hv, rfl⟩
      exact ⟨v, hv, v.toFailure_fault⟩
  case labelledOnce =>
    intro v _ name
    exact v.not_label_prefix_problem name
  case located =>
    intro v _ l hl
    exact (Misdeclaration.location_suffix_problem hl).trans (List.suffix_append _ _)

end MapperGen
