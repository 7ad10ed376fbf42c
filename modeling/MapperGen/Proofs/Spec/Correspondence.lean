import MapperGen.Proofs.Spec.Assembled

/-!
# Specs and their sources

What a spec has in common with the file it was read from. `read_corresponds` says that marked items
and mappers, members and conversions, typed parameters and parameters, annotation lines and
directives correspond one to one and in order, so nothing is lost, repeated or moved on the way.
-/

namespace MapperGen

open Syntax Annotation

/-! ### Documentation -/

/-- All lines of documentation in attributes, as they stand in the texts of the attributes. -/
def documentation (s : Tokens) (attributes : List Attribute) : List Text :=
  attributes.flatMap fun
    | .doc index => Text.lines ((s.textAt index).getD [])
    | .other => []

theorem docLines_eq_map_trim (s : Tokens) (attributes : List Attribute) :
    docLines s attributes = (documentation s attributes).map Text.trim := by
  rw [docLines, documentation, List.map_flatMap]
  congr 1
  funext a
  cases a <;> rfl

/-- Blanks around a line do not count for the tag. -/
theorem isTagged_trim (line : Text) :
    isTagged (Text.trim line) = isTagged line := by
  rw [isTagged, Text.trim_trim, isTagged]

theorem isMapperMarker_trim (line : Text) :
    isMapperMarker (Text.trim line) = isMapperMarker line := by
  rw [isMapperMarker, Text.trim_trim, isMapperMarker]

theorem Directive.read_trim (line : Text) :
    Directive.read (Text.trim line) = Directive.read line := by
  rw [Directive.read, Text.trim_trim, Directive.read]

theorem taggedComments_eq (s : Tokens) (attributes : List Attribute) :
    taggedComments s attributes =
      ((documentation s attributes).filter isTagged).map Text.trim := by
  rw [taggedComments, docLines_eq_map_trim, List.filter_map]
  congr 2
  funext line
  exact isTagged_trim line

/-- An item is marked if a line of its documentation is the marker. -/
theorem isMarked_iff {s : Tokens} {item : Item} :
    isMarked s item = true ↔
      ∃ line ∈ documentation s item.markable, isMapperMarker line = true := by
  simp [isMarked, docLines_eq_map_trim, isMapperMarker_trim]

/-! ### Correspondences -/

variable (s : Tokens) (text : Text)

/-- A parameter of a signature other than the receiver. -/
def Syntax.Argument.isTyped : Argument → Bool
  | .receiver => false
  | .typed .. => true

/-- A typed parameter binds the name of a parameter and has its type. -/
def Parameter.Matches (a : Argument) (p : Parameter) : Prop :=
  ∃ patternAt type, a = .typed (.binding p.name false) patternAt type ∧
    p.type = nodeText s text type.node

/-- A method and a conversion have the same name, generic parameters, result and where clause; the
typed parameters of the one are the parameters of the other, and the annotation lines of the one
write the directives of the other. -/
structure Conversion.Matches (m : Method) (c : Conversion) : Prop where
  name : c.name = m.signature.name
  generics : c.generics = clauseText s text m.signature.generics
  parameters :
    (m.signature.arguments.filter Argument.isTyped).Forall₂ (Parameter.Matches s text) c.parameters
  result : resultTexts s text m.signature.result = [c.result]
  whereClause : c.whereClause = clauseText s text m.signature.whereClause
  directives :
    ((documentation s m.attributes).filter isTagged).Forall₂
      (fun line d => Directive.read line = .ok d) c.directives

/-- A member is a method that has no body and matches a conversion. -/
def Conversion.MatchesMember (member : Member) (c : Conversion) : Prop :=
  ∃ first m, member = .method first m ∧ m.hasBody = false ∧ Conversion.Matches s text m c

/-- An item is a trait with the name of a mapper, and its members are the conversions. -/
def Mapper.Matches (item : Item) (m : Mapper) : Prop :=
  ∃ t : TraitDecl, item.kind = .traitDecl t ∧ m.name = t.name ∧
    t.members.Forall₂ (Conversion.MatchesMember s text) m.conversions

/-! ### From a source to declarations -/

variable {s text}

theorem readParameters_matches {method : Text} {index : Nat} {arguments : List Argument}
    {parameters : List Parameter}
    (h : readParameters s text method index arguments = .ok parameters) :
    (arguments.filter Argument.isTyped).Forall₂ (Parameter.Matches s text) parameters := by
  induction arguments generalizing index parameters with
  | nil =>
    obtain rfl : [] = parameters := by simpa [readParameters] using h
    exact .nil
  | cons a rest ih =>
    cases a with
    | receiver => exact ih h
    | typed pattern patternAt type =>
      simp only [readParameters] at h
      split at h
      · simp at h
      · next name hname =>
        obtain ⟨later, hl, rfl⟩ := map_eq_ok_iff.mp h
        have hp : pattern = .binding name false := by
          cases pattern with
          | binding n refined =>
            cases refined <;> simp_all [Pattern.singleName?]
          | _ => simp [Pattern.singleName?] at hname
        exact .cons ⟨patternAt, type, by rw [hp], rfl⟩ (ih hl)

theorem readMethod_matches {m : Method} {d : MethodDecl} {c : Conversion}
    (hread : readMethod s text m = .ok d) (hassemble : d.assemble = .ok c) :
    m.hasBody = false ∧ Conversion.Matches s text m c := by
  simp only [readMethod] at hread
  split at hread
  · simp at hread
  · next hbody =>
    obtain ⟨parameters, hparameters, rfl⟩ := map_eq_ok_iff.mp hread
    have h := MethodDecl.assemble_eq_ok_iff.mp hassemble
    refine ⟨by simpa using hbody, h.name, h.generics, ?_, h.result, h.whereClause, ?_⟩
    · rw [h.parameters]
      exact readParameters_matches hparameters
    · have hdirectives := h.directives
      rw [taggedComments_eq, List.forall₂_map_left_iff] at hdirectives
      simpa only [Directive.read_trim] using hdirectives

theorem readMember_matches {member : Member} {d : MethodDecl} {c : Conversion}
    (hread : readMember s text member = .ok d) (hassemble : d.assemble = .ok c) :
    Conversion.MatchesMember s text member c := by
  cases member with
  | method first m =>
    have hm := readMethod_matches hread hassemble
    exact ⟨first, m, rfl, hm.1, hm.2⟩
  | other first => simp [readMember] at hread

/-- Two traversals one after the other relate the elements they start from to their results. -/
theorem forall₂_of_mapM_mapM {ε ε' α β γ : Type} {f : α → Except ε β} {g : β → Except ε' γ}
    {R : α → γ → Prop} (hR : ∀ a b c, f a = .ok b → g b = .ok c → R a c) {xs : List α}
    {ys : List β} {zs : List γ} (hf : xs.mapM f = .ok ys) (hg : ys.mapM g = .ok zs) :
    xs.Forall₂ R zs := by
  rw [mapM_eq_ok_iff] at hf hg
  induction hf generalizing zs with
  | nil =>
    cases hg
    exact .nil
  | cons ha _ ih =>
    cases hg with
    | cons hb hrest => exact .cons (hR _ _ _ ha hb) (ih hrest)

theorem readMarked_matches {item : Item} {d : MapperDecl} {m : Mapper}
    (hread : readMarked s text item = .ok d) (hassemble : d.assemble = .ok m) :
    Mapper.Matches s text item m := by
  simp only [readMarked] at hread
  split at hread
  · next t hkind =>
    split at hread
    · simp at hread
    · split at hread
      · simp at hread
      · next methods hmethods =>
        obtain rfl := Except.ok.inj hread
        have h := MapperDecl.assemble_eq_ok_iff.mp hassemble
        have hconversions := mapM_eq_ok_iff.mpr
          (h.conversions.imp fun _ _ => MethodDecl.assemble_eq_ok_iff.mpr)
        refine ⟨t, hkind, h.name, ?_⟩
        exact forall₂_of_mapM_mapM (fun _ _ _ => readMember_matches) hmethods hconversions
  · simp at hread

/-! ### From a source to a spec -/

/-- A source without the byte order mark that may stand at its start. -/
def withoutMark (source : Text) : Text := (Text.dropHead? [byteOrderMark] source).getD source

/-- A spec has the name of its module and one mapper for each item of the file whose documentation
has the marker as a line. -/
def Spec.Matches (source moduleName : Text) (spec : Spec) : Prop :=
  spec.moduleName = moduleName ∧
  ∃ file : SourceFile, SourceFile.read (withoutMark source) = .ok file ∧
    (∀ item, isMarked file.tokens item = true ↔
      ∃ line ∈ documentation file.tokens item.markable, isMapperMarker line = true) ∧
    (file.items.filter (isMarked file.tokens)).Forall₂
      (Mapper.Matches file.tokens (withoutMark source)) spec.mappers

/-- A spec that was read has one mapper for each marked item of the file, one conversion for each
member of the trait, one parameter for each typed parameter of the method, and one directive for
each annotation line of its documentation, all in the order of the source. -/
theorem Spec.read_corresponds (source moduleName : Text) (spec : Spec)
    (h : Spec.read source moduleName = .ok spec) : spec.Matches source moduleName := by
  simp only [Spec.read] at h
  split at h
  · simp at h
  · next declarations hall =>
    rw [mapError_eq_ok_iff, Spec.assemble, map_eq_ok_iff] at h
    obtain ⟨mappers, hmappers, rfl⟩ := h
    simp only [MapperDecl.readAll] at hall
    split at hall
    · simp at hall
    · next file hfile =>
      rw [mapError_eq_ok_iff] at hall
      refine ⟨rfl, file, hfile, fun item => isMarked_iff, ?_⟩
      exact forall₂_of_mapM_mapM (fun _ _ _ => readMarked_matches) hall hmappers

/-- A trait whose first method has two doc attributes, one of them of two lines, and a receiver. -/
def annotatedTrait : Text :=
  "/// +mapwright:mapper\ntrait A \x7b\n#[doc = \"+mapwright:ignore:b\\nplain\"]\n".toList ++
    "/// +mapwright:link:x.a->a\nfn f(&self, x: &B) -> D;\nfn g(y: E) -> F;\n\x7d".toList

theorem Spec.read_corresponds_annotatedTrait :
    Spec.Matches annotatedTrait ['m'] ⟨['m'], [⟨['A'],
      [⟨['f'], none, [⟨['x'], ['&', 'B']⟩], ['D'], none,
          [.ignore ['b'], .link (.field ['x'] ['a']) ['a']]⟩,
        ⟨['g'], none, [⟨['y'], ['E']⟩], ['F'], none, []⟩]⟩]⟩ :=
  Spec.read_corresponds _ _ _ (eq_ok_of_toOption (by decide +kernel))

end MapperGen
