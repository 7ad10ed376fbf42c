import Mathlib.Logic.Relation
import MapperGen.Proofs.Spec.Correspondence
import MapperGen.Proofs.Text.Reflow

/-!
# Distribution of annotation lines

The lines of documentation may be spread over any number of attributes, with other attributes and
lines between them. `Redistributed` is the relation between two such distributions, generated by
small changes. `redistributed_iff` shows that it is decided by the annotation lines in order, and
these are all that a declaration takes from its attributes.
-/

namespace MapperGen

open Text Syntax Annotation

/-! ### Annotation lines of a text -/

/-- The annotation lines of a text, cut at its line feeds, without the blanks around them. -/
def annotationLines (t : Text) : List Text := ((splitOn '\n' t).map trim).filter isTagged

theorem annotationLines_append (s t : Text) :
    annotationLines (s ++ '\n' :: t) = annotationLines s ++ annotationLines t := by
  rw [annotationLines, splitOn_append, List.map_append, List.filter_append]
  rfl

theorem annotationLines_line {line : Text} (h : '\n' ∉ line) :
    annotationLines line = if isTagged line then [trim line] else [] := by
  rw [annotationLines, splitOn_of_notMem h, List.map_singleton, List.filter_singleton,
    isTagged_trim]
  cases isTagged line <;> rfl

theorem annotationLines_nil : annotationLines [] = [] := by decide

theorem annotationLines_joinWith (parts : List Text) :
    annotationLines (joinWith ['\n'] parts) = parts.flatMap annotationLines := by
  fun_induction joinWith ['\n'] parts with
  | case1 => exact annotationLines_nil
  | case2 part => simp
  | case3 part parts hparts ih =>
    rw [List.append_assoc, List.singleton_append, annotationLines_append, ih, List.flatMap_cons]

/-- A carriage return before a line feed is a blank, and what follows a final line feed is no
annotation, so it does not matter how exactly a text is cut into lines. -/
theorem annotationLines_eq (t : Text) :
    annotationLines t = ((lines t).filter isTagged).map trim := by
  have hends : annotationLines t = ((lineEnds t).map trim).filter isTagged := by
    rw [annotationLines, lineEnds, List.map_map]
    congr 2
    funext line
    exact (trim_trimEnd line).symm
  have hlines : annotationLines t = ((lines t).map trim).filter isTagged := by
    have hmap : ((lines t).map trimEnd).map trim = (lines t).map trim := by
      rw [List.map_map]
      congr 1
      funext line
      exact trim_trimEnd line
    have hempty : [trim []].filter isTagged = [] := by decide
    rw [hends]
    rcases lineEnds_lines t with h | h
    · rw [h, hmap]
    · rw [h, List.map_append, List.filter_append, hmap, List.map_singleton, hempty, List.append_nil]
  rw [hlines, List.filter_map]
  congr 2
  funext line
  exact isTagged_trim line

/-! ### Annotations of attributes -/

/-- What the attributes of an item or a method document: the text of each documentation attribute,
and nothing for each other one. -/
abbrev Docs := List (Option Text)

/-- The annotation lines of some attributes. -/
def Docs.annotations (docs : Docs) : List Text :=
  docs.flatMap fun
    | some t => annotationLines t
    | none => []

theorem Docs.annotations_append (docs docs' : Docs) :
    annotations (docs ++ docs') = docs.annotations ++ docs'.annotations := List.flatMap_append

theorem Docs.annotations_text (t : Text) : annotations [some t] = annotationLines t := by
  simp [annotations]

/-- What an attribute documents. -/
def Syntax.Attribute.doc? (s : Tokens) : Attribute → Option Text
  | .doc index => some ((s.textAt index).getD [])
  | .other => none

/-- What attributes document. -/
def docs (s : Tokens) (attributes : List Attribute) : Docs := attributes.map (Attribute.doc? s)

theorem taggedComments_eq_annotations (s : Tokens) (attributes : List Attribute) :
    taggedComments s attributes = (docs s attributes).annotations := by
  rw [taggedComments_eq, documentation, List.filter_flatMap, List.map_flatMap, Docs.annotations,
    docs, List.flatMap_map]
  congr 1
  funext a
  cases a with
  | doc index => exact (annotationLines_eq _).symm
  | other => rfl

theorem isTagged_of_isMapperMarker {line : Text} (h : isMapperMarker line = true) :
    isTagged line = true := by
  rw [isMapperMarker] at h
  split at h
  · next rest hrest =>
    have hmarker : mapperMarker = tag ++ "mapper".toList := by decide
    rw [isTagged, eq_append_of_dropHead? hrest, hmarker, List.append_assoc, startsWith,
      dropHead?_append]
    rfl
  · cases h

/-- The marker is an annotation, so it is looked for among these. -/
theorem any_isMapperMarker (s : Tokens) (attributes : List Attribute) :
    (docLines s attributes).any isMapperMarker =
      (docs s attributes).annotations.any isMapperMarker := by
  rw [← taggedComments_eq_annotations, taggedComments, List.any_filter]
  congr 1
  funext line
  cases hmarker : isMapperMarker line with
  | false => simp
  | true => simp [isTagged_of_isMapperMarker hmarker]

/-! ### Redistribution -/

/-- A change of some attributes in a row: a text is split at a line feed into two attributes; an
attribute that documents nothing is taken out; a line that is no annotation is taken out, where it
is all of an attribute or a part of one; the blanks around a line are changed. -/
inductive Change : Docs → Docs → Prop
  | split (s t : Text) : Change [some (s ++ '\n' :: t)] [some s, some t]
  | other : Change [none] []
  | plain {line : Text} (hline : '\n' ∉ line) (hplain : isTagged line = false) :
      Change [some line] []
  | plainWithin (above below : List Text) {line : Text} (hline : '\n' ∉ line)
      (hplain : isTagged line = false) :
      Change [some (joinWith ['\n'] (above ++ line :: below))]
        [some (joinWith ['\n'] (above ++ below))]
  | blanks {line line' : Text} (hline : '\n' ∉ line) (hline' : '\n' ∉ line')
      (h : trim line = trim line') : Change [some line] [some line']

/-- A change between the other attributes. -/
inductive ChangesTo : Docs → Docs → Prop
  | within (before behind : Docs) {docs docs' : Docs} (h : Change docs docs') :
      ChangesTo (before ++ docs ++ behind) (before ++ docs' ++ behind)

/-- Changes in either direction lead from the one to the other. -/
def Redistributed : Docs → Docs → Prop := Relation.EqvGen ChangesTo

theorem Change.annotations_eq {docs docs' : Docs} (h : Change docs docs') :
    docs.annotations = docs'.annotations := by
  cases h with
  | split s t => simp [Docs.annotations, annotationLines_append]
  | other => rfl
  | plain hline hplain => simp [Docs.annotations, annotationLines_line hline, hplain]
  | plainWithin above below hline hplain =>
    simp [Docs.annotations, annotationLines_joinWith, annotationLines_line hline, hplain]
  | @blanks line line' hline hline' h =>
    have htagged : isTagged line = isTagged line' := by rw [← isTagged_trim, h, isTagged_trim]
    simp [Docs.annotations, annotationLines_line hline, annotationLines_line hline', h, htagged]

namespace Redistributed

theorem annotations_eq {docs docs' : Docs} (h : Redistributed docs docs') :
    docs.annotations = docs'.annotations := by
  induction h with
  | rel _ _ h =>
    obtain ⟨before, behind, h⟩ := h
    simp only [Docs.annotations_append, h.annotations_eq]
  | refl _ => rfl
  | symm _ _ _ ih => exact ih.symm
  | trans _ _ _ _ _ ih₁ ih₂ => exact ih₁.trans ih₂

theorem refl (docs : Docs) : Redistributed docs docs := Relation.EqvGen.refl docs

theorem symm {docs docs' : Docs} (h : Redistributed docs docs') : Redistributed docs' docs :=
  Relation.EqvGen.symm _ _ h

theorem trans {docs docs' docs'' : Docs} (h : Redistributed docs docs')
    (h' : Redistributed docs' docs'') : Redistributed docs docs'' := Relation.EqvGen.trans _ _ _ h h'

theorem of_change {docs docs' : Docs} (h : Change docs docs') : Redistributed docs docs' := by
  have hwithin := ChangesTo.within [] [] h
  simp only [List.nil_append, List.append_nil] at hwithin
  exact .rel _ _ hwithin

theorem within (before behind : Docs) {docs docs' : Docs} (h : Redistributed docs docs') :
    Redistributed (before ++ docs ++ behind) (before ++ docs' ++ behind) := by
  induction h with
  | rel _ _ h =>
    obtain ⟨before', behind', h⟩ := h
    have hwithin := ChangesTo.within (before ++ before') (behind' ++ behind) h
    simp only [List.append_assoc] at hwithin ⊢
    exact .rel _ _ hwithin
  | refl _ => exact refl _
  | symm _ _ _ ih => exact ih.symm
  | trans _ _ _ _ _ ih₁ ih₂ => exact ih₁.trans ih₂

theorem append {docs docs' more more' : Docs} (h : Redistributed docs docs')
    (hmore : Redistributed more more') : Redistributed (docs ++ more) (docs' ++ more') := by
  have hleft := h.within [] more
  have hright := hmore.within docs' []
  simp only [List.nil_append, List.append_nil] at hleft hright
  exact hleft.trans hright

/-! ### One attribute for each annotation -/

theorem of_line {line : Text} (hline : '\n' ∉ line) :
    Redistributed [some line] ((annotationLines line).map some) := by
  rw [annotationLines_line hline]
  cases htagged : isTagged line with
  | false => exact of_change (.plain hline htagged)
  | true =>
    have htrim : '\n' ∉ trim line := fun hmem => hline (mem_of_mem_trim hmem)
    exact of_change (.blanks hline htrim (trim_trim line).symm)

theorem of_lines {parts : List Text} (hne : parts ≠ []) (h : ∀ part ∈ parts, '\n' ∉ part) :
    Redistributed [some (joinWith ['\n'] parts)] ((parts.flatMap annotationLines).map some) := by
  induction parts with
  | nil => exact absurd rfl hne
  | cons part parts ih =>
    rw [List.forall_mem_cons] at h
    have hpart := of_line h.1
    cases parts with
    | nil => simpa [joinWith] using hpart
    | cons next parts =>
      have hrest := ih (List.cons_ne_nil next parts) h.2
      have hsplit := of_change (.split part (joinWith ['\n'] (next :: parts)))
      rw [joinWith, List.append_assoc, List.singleton_append, List.flatMap_cons, List.map_append]
      · exact hsplit.trans (hpart.append hrest)
      · exact List.cons_ne_nil next parts

theorem of_text (t : Text) : Redistributed [some t] ((annotationLines t).map some) := by
  have hlines : ∀ part ∈ splitOn '\n' t, '\n' ∉ part :=
    fun part hpart hmem => (mem_of_mem_splitOn hpart hmem).2 rfl
  have h := of_lines (splitOn_ne_nil '\n' t) hlines
  rwa [← annotationLines_joinWith, joinWith_splitOn] at h

/-- Each annotation can be given an attribute of its own, and nothing else is needed. -/
theorem annotations (docs : Docs) : Redistributed docs (docs.annotations.map some) := by
  induction docs with
  | nil => exact refl []
  | cons doc docs ih =>
    have hdoc : Redistributed [doc] ((Docs.annotations [doc]).map some) := by
      cases doc with
      | none => exact of_change .other
      | some t =>
        rw [Docs.annotations_text]
        exact of_text t
    have hdocs := hdoc.append ih
    rwa [← List.map_append, ← Docs.annotations_append] at hdocs

end Redistributed

/-- Documentation can be redistributed exactly if the annotation lines stay the same. -/
theorem redistributed_iff {docs docs' : Docs} :
    Redistributed docs docs' ↔ docs.annotations = docs'.annotations := by
  constructor
  · exact Redistributed.annotations_eq
  · intro h
    have hdocs := Redistributed.annotations docs
    rw [h] at hdocs
    exact hdocs.trans (Redistributed.annotations docs').symm

instance (docs docs' : Docs) : Decidable (Redistributed docs docs') :=
  decidable_of_iff _ redistributed_iff.symm

end MapperGen
