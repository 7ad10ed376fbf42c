import MapperGen.Proofs.Declaration.Shape
import MapperGen.Proofs.Spec.Correspondence
import MapperGen.Proofs.Syntax.TraitNames

/-!
# Why a source has no spec

The stages at which the reading of a source can end, told apart by the exit status of the failure:
the text is no file, a marked item has the wrong shape, or a method of a mapper has the wrong number
of results or an annotation that is no directive. Shapes count first, wherever in the file they are.
-/

namespace MapperGen

open Syntax Annotation

/-! ### Annotated methods -/

/-- How many results a signature has: the elements of a tuple, or one. -/
def Syntax.Signature.resultCount (sig : Signature) : Nat :=
  match sig.result with
  | none => 0
  | some (.tuple _ elements) => elements.length
  | some _ => 1

/-- The method has one result, and its annotations are directives. -/
structure Syntax.Method.IsWellSpecified (s : Tokens) (m : Method) : Prop where
  oneResult : m.signature.resultCount = 1
  directives : ∀ line ∈ documentation s m.attributes, isTagged line = true →
    ∃ d, Directive.Written (Text.trim line) d

/-- The methods of all mappers in the file are well specified. -/
def Syntax.SourceFile.IsWellSpecified (file : SourceFile) : Prop :=
  ∀ item ∈ file.items, isMarked file.tokens item = true → ∀ t, item.kind = .traitDecl t →
    ∀ first m, .method first m ∈ t.members → m.IsWellSpecified file.tokens

variable {s : Tokens} {text : Text}

theorem length_resultTexts {sig : Signature} :
    (resultTexts s text sig.result).length = sig.resultCount := by
  rw [Signature.resultCount]
  cases sig.result with
  | none => rfl
  | some type => cases type <;> simp [resultTexts]

theorem taggedComments_ok_iff {attributes : List Attribute} :
    (∃ directives, (taggedComments s attributes).mapM Directive.read = .ok directives) ↔
      ∀ line ∈ documentation s attributes, isTagged line = true →
        ∃ d, Directive.Written (Text.trim line) d := by
  rw [exists_mapM_eq_ok_iff, taggedComments_eq]
  simp only [List.forall_mem_map, List.mem_filter, and_imp, Directive.read_eq_ok_iff_written,
    Text.trim_trim]

theorem assemble_readMethod_ok_iff {m : Method} {d : MethodDecl}
    (h : readMethod s text m = .ok d) : (∃ c, d.assemble = .ok c) ↔ m.IsWellSpecified s := by
  simp only [readMethod] at h
  split at h
  · cases h
  · obtain ⟨parameters, -, rfl⟩ := map_eq_ok_iff.mp h
    rw [MethodDecl.assemble_ok_iff, length_resultTexts, taggedComments_ok_iff]
    exact ⟨fun h => ⟨h.1, h.2⟩, fun h => ⟨h.oneResult, h.directives⟩⟩

/-! ### Marked items -/

/-- The methods of a trait are assembled exactly if all of them are well specified. -/
theorem assemble_members_ok_iff {members : List Member} {methods : List MethodDecl}
    (h : members.mapM (readMember s text) = .ok methods) :
    (∀ method ∈ methods, ∃ c, method.assemble = .ok c) ↔
      ∀ first m, .method first m ∈ members → m.IsWellSpecified s := by
  have hmembers : (∀ member ∈ members, ∀ first m, member = .method first m → m.IsWellSpecified s) ↔
      ∀ method ∈ methods, ∃ c, method.assemble = .ok c := by
    refine forall_mem_iff_of_mapM h fun member _ method hmethod => ?_
    cases member with
    | other first => cases hmethod
    | method first m =>
      rw [assemble_readMethod_ok_iff hmethod]
      simp
  rw [← hmembers]
  constructor
  · rintro hall first m hmem
    exact hall _ hmem first m rfl
  · rintro hall _ hmem first m rfl
    exact hall first m hmem

theorem assemble_readMarked_ok_iff {item : Item} {d : MapperDecl}
    (h : readMarked s text item = .ok d) (hnames : ∀ t, item.kind = .traitDecl t → t.name ≠ []) :
    (∃ m, d.assemble = .ok m) ↔ ∀ t, item.kind = .traitDecl t →
      ∀ first m, .method first m ∈ t.members → m.IsWellSpecified s := by
  simp only [readMarked] at h
  split at h
  · next t hkind =>
    split at h
    · cases h
    · split at h
      · cases h
      · next methods hmethods =>
        obtain rfl := Except.ok.inj h
        rw [MapperDecl.assemble_ok_iff, and_iff_right (hnames t hkind),
          assemble_members_ok_iff hmethods]
        constructor
        · intro hall t' ht'
          obtain rfl := ItemKind.traitDecl.inj (hkind.symm.trans ht')
          exact hall
        · intro hall
          exact hall t hkind
  · cases h

/-! ### Failures -/

theorem ShapeFault.exitCode_toFailure (f : ShapeFault) : f.toFailure.exitCode = 3 := by
  obtain ⟨mapper, location, problem⟩ := f
  cases mapper <;> rfl

theorem SpecFault.exitCode_toFailure (f : SpecFault) : f.toFailure.exitCode = 4 := by
  cases f with
  | emptyName location => rfl
  | inMethod mapper fault => cases fault <;> rfl

/-! ### Sources -/

variable {source : Text} (moduleName : Text)

theorem Spec.read_of_unparsable {fault : Fault}
    (h : SourceFile.read (withoutMark source) = .error fault) :
    ∃ failure, Spec.read source moduleName = .error failure ∧ failure.exitCode = 2 := by
  refine ⟨fault.toFailure, ?_, rfl⟩
  rw [withoutMark] at h
  simp only [Spec.read, MapperDecl.readAll, h]

theorem Spec.read_of_parsable {file : SourceFile}
    (h : SourceFile.read (withoutMark source) = .ok file) :
    Spec.read source moduleName =
      match file.declarations (withoutMark source) with
      | .error fault => .error fault.toFailure
      | .ok declarations =>
        (Spec.assemble moduleName declarations).mapError SpecFault.toFailure := by
  rw [withoutMark] at h ⊢
  simp only [Spec.read, MapperDecl.readAll, h]
  cases file.declarations _ <;> rfl

theorem Spec.read_of_misshapen {file : SourceFile}
    (h : SourceFile.read (withoutMark source) = .ok file) (hshape : ¬ file.IsWellShaped) :
    ∃ failure, Spec.read source moduleName = .error failure ∧ failure.exitCode = 3 := by
  rw [Spec.read_of_parsable moduleName h]
  cases hall : file.declarations (withoutMark source) with
  | error fault => exact ⟨fault.toFailure, rfl, fault.exitCode_toFailure⟩
  | ok declarations => exact absurd (declarations_ok_iff.mp ⟨declarations, hall⟩) hshape

/-- Declarations that were taken out of a file make a spec exactly if the file is well
specified. -/
theorem assemble_declarations_ok_iff {file : SourceFile} {declarations : List MapperDecl}
    (h : SourceFile.read text = .ok file) (hall : file.declarations text = .ok declarations) :
    (∃ spec, Spec.assemble moduleName declarations = .ok spec) ↔ file.IsWellSpecified := by
  rw [Spec.assemble_ok_iff, SourceFile.IsWellSpecified, ← forall_mem_iff_of_mapM hall fun item hitem d hd =>
    (assemble_readMarked_ok_iff hd fun t ht =>
      SourceFile.name_ne_nil h (List.mem_of_mem_filter hitem) ht).symm]
  simp only [List.mem_filter, and_imp]

theorem Spec.read_of_misspecified {file : SourceFile}
    (h : SourceFile.read (withoutMark source) = .ok file) (hshape : file.IsWellShaped)
    (hspec : ¬ file.IsWellSpecified) :
    ∃ failure, Spec.read source moduleName = .error failure ∧ failure.exitCode = 4 := by
  obtain ⟨declarations, hall⟩ := declarations_ok_iff.mpr hshape
  rw [Spec.read_of_parsable moduleName h, hall]
  cases hassemble : Spec.assemble moduleName declarations with
  | error fault =>
    exact ⟨fault.toFailure, mapError_eq_error_iff.mpr ⟨fault, hassemble, rfl⟩,
      fault.exitCode_toFailure⟩
  | ok spec =>
    exact absurd ((assemble_declarations_ok_iff moduleName h hall).mp ⟨spec, hassemble⟩) hspec

/-- A source has a spec if it is a file whose marked items are well shaped and well specified. -/
theorem Spec.read_of_wellSpecified {file : SourceFile}
    (h : SourceFile.read (withoutMark source) = .ok file) (hshape : file.IsWellShaped)
    (hspec : file.IsWellSpecified) : ∃ spec, Spec.read source moduleName = .ok spec := by
  obtain ⟨declarations, hall⟩ := declarations_ok_iff.mpr hshape
  obtain ⟨spec, hassemble⟩ := (assemble_declarations_ok_iff moduleName h hall).mpr hspec
  rw [Spec.read_of_parsable moduleName h, hall]
  exact ⟨spec, mapError_eq_ok_iff.mpr hassemble⟩

end MapperGen
