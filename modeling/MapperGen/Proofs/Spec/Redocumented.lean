import MapperGen.Proofs.Annotation.Respelling
import MapperGen.Proofs.Spec.Rejection

/-!
# Redistributed documentation

Two files agree if they declare the same, but for places and for how the annotation lines are
distributed over attributes. Then the declarations taken out of them are the same but for places, and
so are the specs.
-/

namespace MapperGen

open Text Syntax Annotation

/-! ### What is taken of declarations -/

/-- What is taken of a parameter: nothing of a receiver, else the name that the pattern binds, if it
binds one, and the text of the type. -/
def Syntax.Argument.taken (s : Tokens) (text : Text) : Argument → Option (Option Text × Text)
  | .receiver => none
  | .typed pattern _ type => some (pattern.singleName?, nodeText s text type.node)

/-- What is taken of a method, apart from its annotations and its place. -/
structure MethodHead where
  name : Text
  generics : Option Text
  arguments : List (Option (Option Text × Text))
  results : List Text
  whereClause : Option Text
  hasBody : Bool
  deriving DecidableEq

/-- The head of a method. -/
def Syntax.Method.head (s : Tokens) (text : Text) (m : Method) : MethodHead where
  name := m.signature.name
  generics := clauseText s text m.signature.generics
  arguments := m.signature.arguments.map (Argument.taken s text)
  results := resultTexts s text m.signature.result
  whereClause := clauseText s text m.signature.whereClause
  hasBody := m.hasBody

/-- The trait that an item declares. -/
def Syntax.ItemKind.trait? : ItemKind → Option TraitDecl
  | .traitDecl t => some t
  | _ => none

/-- Are the attributes of such an item searched for the marker? -/
def Syntax.ItemKind.isInterpreted : ItemKind → Bool
  | .uninterpreted => false
  | _ => true

theorem Syntax.ItemKind.isInterpreted_eq (kind : ItemKind) :
    kind.isInterpreted = (kind.trait?.isSome || kind.describe != "an unsupported item".toList) := by
  cases kind <;> rfl

/-! ### Agreement -/

section Agreement

variable (s s' : Tokens) (text text' : Text)

/-- The methods are the same but for their places and the distribution of their annotations. -/
def Syntax.Method.Agrees (m m' : Method) : Prop :=
  m.head s text = m'.head s' text' ∧ Redistributed (docs s m.attributes) (docs s' m'.attributes)

/-- Both members are methods, and these agree, or neither is. -/
def Syntax.Member.Agrees : Member → Member → Prop
  | .method _ m, .method _ m' => m.Agrees s s' text text' m'
  | .other _, .other _ => True
  | _, _ => False

/-- The traits have the same name, and their members agree one to one. -/
def Syntax.TraitDecl.Agrees (t t' : TraitDecl) : Prop :=
  t.name = t'.name ∧ t.isGeneric = t'.isGeneric ∧
    t.members.Forall₂ (Member.Agrees s s' text text') t'.members

/-- Both are traits, and these agree, or both are of the same other kind. -/
def Syntax.ItemKind.Agrees (kind kind' : ItemKind) : Prop :=
  match kind.trait?, kind'.trait? with
  | some t, some t' => t.Agrees s s' text text' t'
  | none, none => kind.describe = kind'.describe
  | _, _ => False

/-- The items are the same but for their places and the distribution of annotations. -/
def Syntax.Item.Agrees (item item' : Item) : Prop :=
  item.kind.Agrees s s' text text' item'.kind ∧
    Redistributed (docs s item.attributes) (docs s' item'.attributes)

/-- The files have the same items, but for places and the distribution of annotations. -/
def Syntax.SourceFile.Agrees (file file' : SourceFile) : Prop :=
  file.items.Forall₂ (Item.Agrees file.tokens file'.tokens text text') file'.items

instance (m m' : Method) : Decidable (m.Agrees s s' text text' m') :=
  inferInstanceAs (Decidable (_ ∧ _))

instance : ∀ member member' : Member, Decidable (member.Agrees s s' text text' member')
  | .method _ m, .method _ m' => inferInstanceAs (Decidable (m.Agrees s s' text text' m'))
  | .other _, .other _ => .isTrue trivial
  | .method .., .other _ => .isFalse id
  | .other _, .method .. => .isFalse id

instance (t t' : TraitDecl) : Decidable (t.Agrees s s' text text' t') :=
  inferInstanceAs (Decidable (_ ∧ _ ∧ _))

instance (kind kind' : ItemKind) : Decidable (kind.Agrees s s' text text' kind') := by
  unfold ItemKind.Agrees
  split <;> infer_instance

instance (item item' : Item) : Decidable (item.Agrees s s' text text' item') :=
  inferInstanceAs (Decidable (_ ∧ _))

instance (file file' : SourceFile) : Decidable (file.Agrees text text' file') :=
  inferInstanceAs (Decidable (List.Forall₂ _ _ _))

end Agreement

/-! ### Declarations without their places -/

/-- A declared method without its place. -/
def MethodDecl.unplaced (d : MethodDecl) : MethodDecl := { d with location := .start }

/-- A declared mapper without the places in it. -/
def MapperDecl.unplaced (d : MapperDecl) : MapperDecl :=
  { d with location := .start, methods := d.methods.map MethodDecl.unplaced }

/-- A problem without its place. -/
def ShapeFault.unplaced (f : ShapeFault) : ShapeFault := { f with location := .start }

/-- What is wrong with a method, without the place. -/
def MethodFault.unplaced : MethodFault → MethodFault
  | resultCount method count _ => .resultCount method count .start
  | directive fault => .directive fault

/-- What is wrong with a mapper, without the place. -/
def SpecFault.unplaced : SpecFault → SpecFault
  | emptyName _ => .emptyName .start
  | inMethod mapper fault => .inMethod mapper fault.unplaced

/-- What is taken out of a file, or why nothing is, without the places. -/
def Syntax.SourceFile.unplacedDeclarations (file : SourceFile) (text : Text) :
    Except ShapeFault (List MapperDecl) :=
  ((file.declarations text).mapError ShapeFault.unplaced).map (List.map MapperDecl.unplaced)

/-! ### Reading files that agree -/

section Reading

variable {s s' : Tokens} {text text' : Text}

theorem taggedComments_eq_iff {attributes attributes' : List Attribute} :
    taggedComments s attributes = taggedComments s' attributes' ↔
      Redistributed (docs s attributes) (docs s' attributes') := by
  rw [taggedComments_eq_annotations, taggedComments_eq_annotations, redistributed_iff]

theorem readParameters_agree {method : Text} {index : Nat} {arguments arguments' : List Argument}
    (h : arguments.map (Argument.taken s text) = arguments'.map (Argument.taken s' text')) :
    (readParameters s text method index arguments).mapError Prod.snd =
      (readParameters s' text' method index arguments').mapError Prod.snd := by
  induction arguments generalizing index arguments' with
  | nil =>
    obtain rfl := List.map_eq_nil_iff.mp h.symm
    rfl
  | cons a rest ih =>
    obtain ⟨a', rest', rfl, ha, hrest⟩ := List.map_eq_cons_iff.mp h.symm
    cases a with
    | receiver =>
      cases a' with
      | receiver =>
        simp only [readParameters]
        exact ih hrest.symm
      | typed => cases ha
    | typed pattern patternAt type =>
      cases a' with
      | receiver => cases ha
      | typed pattern' patternAt' type' =>
        obtain ⟨hname, htype⟩ := Prod.mk.inj (Option.some.inj ha)
        simp only [readParameters, hname, htype]
        cases pattern.singleName? with
        | none => rfl
        | some name =>
          dsimp only
          rw [mapError_map, mapError_map, ih hrest.symm]

theorem readMethod_agree {m m' : Method} (h : m.Agrees s s' text text' m') :
    ((readMethod s text m).mapError Prod.snd).map MethodDecl.unplaced =
      ((readMethod s' text' m').mapError Prod.snd).map MethodDecl.unplaced := by
  obtain ⟨hhead, hdocs⟩ := h
  obtain ⟨hname, hgenerics, harguments, hresults, hwhere, hbody⟩ := MethodHead.mk.inj hhead
  have hcomments := taggedComments_eq_iff.mpr hdocs
  simp only [readMethod, hname, hgenerics, hresults, hwhere, hbody, hcomments]
  split
  · rfl
  · rw [mapError_map, mapError_map, readParameters_agree harguments]
    cases (readParameters s' text' _ 0 _).mapError Prod.snd <;> rfl

theorem readMember_agree {member member' : Member} (h : member.Agrees s s' text text' member') :
    ((readMember s text member).mapError Prod.snd).map MethodDecl.unplaced =
      ((readMember s' text' member').mapError Prod.snd).map MethodDecl.unplaced := by
  cases member with
  | method first m =>
    cases member' with
    | method first' m' => exact readMethod_agree h
    | other first' => exact h.elim
  | other first =>
    cases member' with
    | method first' m' => exact h.elim
    | other first' => rfl

theorem readMembers_agree {members members' : List Member}
    (h : members.Forall₂ (Member.Agrees s s' text text') members') :
    ((members.mapM (readMember s text)).mapError Prod.snd).map (List.map MethodDecl.unplaced) =
      ((members'.mapM (readMember s' text')).mapError Prod.snd).map
        (List.map MethodDecl.unplaced) := by
  rw [mapError_mapM, mapError_mapM, map_mapM, map_mapM]
  exact mapM_eq_of_forall₂ (h.imp fun _ _ => readMember_agree)

/-- What a marked item is read as, without the places, by what is taken of it. -/
theorem unplaced_readMarked (s : Tokens) (text : Text) (item : Item) :
    ((readMarked s text item).mapError ShapeFault.unplaced).map MapperDecl.unplaced =
      match item.kind.trait? with
      | none => .error ⟨none, .start, .notTrait item.kind.describe⟩
      | some t =>
        if t.isGeneric then .error ⟨none, .start, .genericTrait t.name⟩
        else
          ((((t.members.mapM (readMember s text)).mapError Prod.snd).map
            (List.map MethodDecl.unplaced)).mapError fun problem =>
              ⟨some t.name, .start, problem⟩).map fun methods =>
                ⟨t.name, taggedComments s item.attributes, .start, methods⟩ := by
  obtain ⟨first, attributes, kind⟩ := item
  cases kind with
  | traitDecl t =>
    have hgeneric : ((t.generics.any (!·.isEmpty)) || t.whereClause.isSome) = t.isGeneric := rfl
    simp only [readMarked, ItemKind.trait?, hgeneric]
    cases t.isGeneric with
    | true => rfl
    | false => cases t.members.mapM (readMember s text) <;> rfl
  | _ => rfl

theorem readMarked_agree {item item' : Item} (h : item.Agrees s s' text text' item') :
    ((readMarked s text item).mapError ShapeFault.unplaced).map MapperDecl.unplaced =
      ((readMarked s' text' item').mapError ShapeFault.unplaced).map MapperDecl.unplaced := by
  obtain ⟨hkind, hdocs⟩ := h
  rw [unplaced_readMarked, unplaced_readMarked, taggedComments_eq_iff.mpr hdocs]
  rw [ItemKind.Agrees] at hkind
  split at hkind
  · next t t' ht ht' =>
    obtain ⟨hname, hgeneric, hmembers⟩ := hkind
    simp only [ht, ht', hname, hgeneric, readMembers_agree hmembers]
  · next ht ht' => simp only [ht, ht', hkind]
  · exact hkind.elim

theorem isMarked_eq (s : Tokens) (item : Item) :
    isMarked s item =
      (item.kind.isInterpreted && (docs s item.attributes).annotations.any isMapperMarker) := by
  obtain ⟨first, attributes, kind⟩ := item
  cases kind with
  | uninterpreted => rfl
  | _ => exact any_isMapperMarker s attributes

theorem isMarked_redistributed {item item' : Item}
    (hkind : item.kind.isInterpreted = item'.kind.isInterpreted)
    (hdocs : Redistributed (docs s item.attributes) (docs s' item'.attributes)) :
    isMarked s item = isMarked s' item' := by
  rw [isMarked_eq, isMarked_eq, hkind, hdocs.annotations_eq]

theorem Syntax.ItemKind.Agrees.isInterpreted_eq {kind kind' : ItemKind}
    (h : kind.Agrees s s' text text' kind') : kind.isInterpreted = kind'.isInterpreted := by
  rw [ItemKind.isInterpreted_eq, ItemKind.isInterpreted_eq]
  rw [ItemKind.Agrees] at h
  split at h
  · next ht ht' => simp [ht, ht']
  · next ht ht' => rw [ht, ht', h]
  · exact h.elim

theorem unplacedDeclarations_agree {file file' : SourceFile} (h : file.Agrees text text' file') :
    file.unplacedDeclarations text = file'.unplacedDeclarations text' := by
  have hmarked : (file.items.filter (isMarked file.tokens)).Forall₂
      (Item.Agrees file.tokens file'.tokens text text')
      (file'.items.filter (isMarked file'.tokens)) := by
    refine List.rel_filter ?_ h
    intro item item' hitem
    show isMarked _ item = true ↔ isMarked _ item' = true
    rw [isMarked_redistributed hitem.1.isInterpreted_eq hitem.2]
  rw [SourceFile.unplacedDeclarations, SourceFile.unplacedDeclarations, SourceFile.declarations,
    SourceFile.declarations, mapError_mapM, mapError_mapM, map_mapM, map_mapM]
  exact mapM_eq_of_forall₂ (hmarked.imp fun _ _ => readMarked_agree)

end Reading

/-! ### Assembly without places -/

theorem MethodDecl.assemble_unplaced (d : MethodDecl) :
    d.unplaced.assemble = d.assemble.mapError MethodFault.unplaced := by
  simp only [assemble, unplaced]
  split
  · cases d.comments.mapM Directive.read <;> rfl
  · rfl

theorem MapperDecl.assemble_unplaced (d : MapperDecl) :
    d.unplaced.assemble = d.assemble.mapError SpecFault.unplaced := by
  have hmethods : d.unplaced.methods.mapM MethodDecl.assemble =
      (d.methods.mapM MethodDecl.assemble).mapError MethodFault.unplaced := by
    rw [unplaced, List.mapM_map, mapError_mapM]
    congr 1
    funext m
    exact m.assemble_unplaced
  rw [assemble, assemble, hmethods]
  have hname : d.unplaced.name = d.name := rfl
  rw [hname]
  split
  · rfl
  · cases d.methods.mapM MethodDecl.assemble <;> rfl

theorem Spec.assemble_unplaced (moduleName : Text) (declarations : List MapperDecl) :
    Spec.assemble moduleName (declarations.map MapperDecl.unplaced) =
      (Spec.assemble moduleName declarations).mapError SpecFault.unplaced := by
  rw [Spec.assemble, Spec.assemble, mapError_map, List.mapM_map, mapError_mapM]
  congr 2
  funext d
  exact d.assemble_unplaced

/-! ### Specs of files that agree -/

theorem Spec.exitCode_eq (source moduleName : Text) {file : SourceFile}
    (h : SourceFile.read (withoutMark source) = .ok file) :
    (Spec.read source moduleName).mapError Failure.exitCode =
      match file.unplacedDeclarations (withoutMark source) with
      | .error _ => .error 3
      | .ok declarations => (Spec.assemble moduleName declarations).mapError fun _ => 4 := by
  rw [Spec.read_of_parsable moduleName h, SourceFile.unplacedDeclarations]
  cases file.declarations (withoutMark source) with
  | error fault => exact congrArg Except.error fault.exitCode_toFailure
  | ok declarations =>
    simp only [Except.mapError, Except.map, Spec.assemble_unplaced]
    cases Spec.assemble moduleName declarations with
    | error fault => exact congrArg Except.error fault.exitCode_toFailure
    | ok spec => rfl

/-- How annotation lines are distributed over attributes does not matter. The annotations of an item
or a method stay the same exactly if they are redistributed, and then it is marked or not as before.
Each spelling of documentation is read as attributes that document what it says, so a source whose
annotations are spelled in another way is read as the same items with the same annotations. Files
that agree have the same declarations, and if they are read from sources, these have the same spec or
fail with the same exit status. -/
structure IgnoresDistribution : Prop where
  comments : ∀ (s s' : Tokens) (attributes attributes' : List Attribute),
    taggedComments s attributes = taggedComments s' attributes' ↔
      Redistributed (docs s attributes) (docs s' attributes')
  marks : ∀ (s s' : Tokens) (item item' : Item),
    item.kind.isInterpreted = item'.kind.isInterpreted →
    Redistributed (docs s item.attributes) (docs s' item'.attributes) →
    isMarked s item = isMarked s' item'
  spellings : ∀ ds : List DocSpelling, (∀ d ∈ ds, d.IsReadable) → DocSpelling.ReadAsAttributes ds
  respelled : ∀ (source source' : Text) (file : SourceFile),
    Relation.ReflTransGen Respelled source source' → SourceFile.read source = .ok file →
    ∃ file', SourceFile.read source' = .ok file' ∧ file'.items = file.items ∧
      ∀ attributes, Redistributed (docs file.tokens attributes) (docs file'.tokens attributes)
  declarations : ∀ (file file' : SourceFile) (text text' : Text),
    file.Agrees text text' file' → file.unplacedDeclarations text = file'.unplacedDeclarations text'
  specs : ∀ (source source' moduleName : Text) (file file' : SourceFile),
    SourceFile.read (withoutMark source) = .ok file →
    SourceFile.read (withoutMark source') = .ok file' →
    file.Agrees (withoutMark source) (withoutMark source') file' →
    (Spec.read source moduleName).mapError Failure.exitCode =
      (Spec.read source' moduleName).mapError Failure.exitCode

/-- Annotation lines may be distributed over attributes in any way. -/
theorem ignoresDistribution : IgnoresDistribution where
  comments _ _ _ _ := taggedComments_eq_iff
  marks _ _ _ _ := isMarked_redistributed
  spellings _ := DocSpelling.readAsAttributes
  respelled _ _ _ := read_of_respelled
  declarations _ _ _ _ := unplacedDeclarations_agree
  specs source source' moduleName file file' h h' hagrees := by
    rw [Spec.exitCode_eq source moduleName h, Spec.exitCode_eq source' moduleName h',
      unplacedDeclarations_agree hagrees]

/-- A trait annotated by comment lines, one of them no annotation. -/
def annotatedByLines : Text :=
  "/// +mapwright:mapper\ntrait A \x7b\n/// plain\n/// +mapwright:ignore:b\n".toList ++
    "///+mapwright:link:x.a->a\nfn f(&self, x: &B) -> D;\n\x7d".toList

/-- The same trait annotated by a block and by a text of two lines. -/
def annotatedByTexts : Text :=
  "/** +mapwright:mapper */\n#[allow(unused)]\ntrait A \x7b\n".toList ++
    "#[doc = \"+mapwright:ignore:b\\n +mapwright:link:x.a->a\"]\n".toList ++
    "fn f(&self, x: &B) -> D;\n\x7d".toList

/-- The marker in all spellings. -/
def spelledMarkers : List DocSpelling :=
  [.line " +mapwright:mapper".toList true, .block " +mapwright:mapper ".toList,
    .written "\"+mapwright:mapper\"".toList]

/-- A source with documentation between two traits. -/
def documentedBy (ds : List DocSpelling) : Text :=
  "trait A \x7b\x7d\n".toList ++ (ds.flatMap DocSpelling.text ++ "trait B \x7b\x7d".toList)

theorem ignoresDistribution_annotated :
    DocSpelling.ReadAsAttributes spelledMarkers ∧
    (∃ file file', SourceFile.read (documentedBy spelledMarkers) = .ok file ∧
      SourceFile.read (documentedBy spelledMarkers.reverse) = .ok file' ∧
      file'.items = file.items) ∧
    (Spec.read annotatedByTexts ['m']).mapError Failure.exitCode = .ok ⟨['m'], [⟨['A'],
      [⟨['f'], none, [⟨['x'], ['&', 'B']⟩], ['D'], none,
        [.ignore ['b'], .link (.field ['x'] ['a']) ['a']]⟩]⟩]⟩ := by
  have hreadable : ∀ d ∈ spelledMarkers, d.IsReadable := by
    simp only [spelledMarkers, List.forall_mem_cons, List.not_mem_nil, false_imp_iff,
      implies_true, and_true]
    refine ⟨⟨by decide, by decide, by decide⟩, ⟨⟨' ', rfl, by decide⟩, by decide, by decide⟩, ?_⟩
    exact ⟨by decide, by decide⟩
  have hreversed : ∀ d ∈ spelledMarkers.reverse, d.IsReadable :=
    fun d hd => hreadable d (List.mem_reverse.mp hd)
  refine ⟨ignoresDistribution.spellings spelledMarkers hreadable, ?_, ?_⟩
  · have hblank : ∀ c ∈ "trait A \x7b\x7d\n".toList.getLast?, isBlank c := by
      intro c hc
      obtain rfl : '\n' = c := Option.some.inj hc
      rfl
    have hrespelled : Respelled (documentedBy spelledMarkers) (documentedBy spelledMarkers.reverse) :=
      .intro hreadable hreversed (by decide +kernel) (by decide) hblank (by decide +kernel)
    have hread : (SourceFile.read (documentedBy spelledMarkers)).toOption.isSome := by
      decide +kernel
    obtain ⟨file, hfile⟩ := Option.isSome_iff_exists.mp hread
    have hok := eq_ok_of_toOption hfile
    obtain ⟨file', hok', hitems, -⟩ :=
      ignoresDistribution.respelled _ _ file (.single hrespelled) hok
    exact ⟨file, file', hok, hok', hitems⟩
  · have h : (SourceFile.read (withoutMark annotatedByLines)).toOption.any fun file =>
        (SourceFile.read (withoutMark annotatedByTexts)).toOption.any fun file' =>
          file.Agrees (withoutMark annotatedByLines) (withoutMark annotatedByTexts) file' := by
      decide +kernel
    rw [Option.any_eq_true] at h
    obtain ⟨file, hfile, h⟩ := h
    rw [Option.any_eq_true] at h
    obtain ⟨file', hfile', h⟩ := h
    rw [← ignoresDistribution.specs annotatedByLines annotatedByTexts ['m'] file file'
      (eq_ok_of_toOption hfile) (eq_ok_of_toOption hfile') (of_decide_eq_true h),
      mapError_eq_ok_iff]
    exact eq_ok_of_toOption (by decide +kernel)

end MapperGen
