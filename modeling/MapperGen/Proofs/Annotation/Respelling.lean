import MapperGen.Proofs.Annotation.DocSpelling

/-!
# Respelled documentation

Documentation in a source may be spelled in other ways as long as each attribute has the same
annotation lines. The source is then read as the same items, and these have the same annotations.
-/

namespace MapperGen.Syntax

open MapperGen.Text

/-! ### What tokens say -/

/-- What a token says, if it is one that may document. -/
def Token.said : Token → Text
  | .literal lexeme => (textValue? lexeme).getD []
  | .comment content => content
  | _ => []

theorem Tokens.textAt_eq (s : Tokens) (index : Nat) :
    (s.textAt index).getD [] = (s.sequence[index]?.map Token.said).getD [] := by
  rw [textAt, sequence, List.getElem?_map, Array.getElem?_toList]
  cases s.placed[index]? with
  | none => rfl
  | some p =>
    obtain ⟨token, start, stop⟩ := p
    cases token <;> rfl

/-- A token can take the place of another one, and it says the same annotations. -/
structure Token.SaysAs (a b : Token) : Prop extends a.NestsAs b where
  lines : annotationLines a.said = annotationLines b.said

theorem Token.SaysAs.refl (token : Token) : token.SaysAs token := ⟨.refl token, rfl⟩

theorem docs_redistributed {s s' : Tokens}
    (h : List.Forall₂ Token.SaysAs s.sequence s'.sequence) (attributes : List Attribute) :
    Redistributed (docs s attributes) (docs s' attributes) := by
  have hlines (t : Tokens) (index : Nat) : annotationLines ((t.textAt index).getD []) =
      ((t.sequence.map fun token => annotationLines token.said)[index]?).getD [] := by
    rw [Tokens.textAt_eq, List.getElem?_map]
    cases t.sequence[index]? with
    | none => exact annotationLines_nil
    | some token => rfl
  have hsaid : (s.sequence.map fun token => annotationLines token.said) =
      s'.sequence.map fun token => annotationLines token.said := by
    rw [← List.forall₂_eq_eq_eq, List.forall₂_map_left_iff, List.forall₂_map_right_iff]
    exact h.imp fun _ _ => Token.SaysAs.lines
  rw [redistributed_iff, Docs.annotations, Docs.annotations, docs, docs, List.flatMap_map,
    List.flatMap_map]
  congr 1
  funext a
  cases a with
  | other => rfl
  | doc index =>
    show annotationLines _ = annotationLines _
    rw [hlines, hlines, hsaid]

/-! ### Spellings of the same lines -/

namespace DocSpelling

/-- The annotation lines that are documented. -/
def lines (d : DocSpelling) : List Text := annotationLines d.content

theorem said_token (d : DocSpelling) : d.token.said = d.content := by cases d <;> rfl

theorem saysAs_token {d d' : DocSpelling} (h : d.IsReadable) (h' : d'.IsReadable)
    (hlines : d.lines = d'.lines) : d.token.SaysAs d'.token where
  leaf index := by rw [leaf?_token h, leaf?_token h']
  bracket hnone := by
    rw [leaf?_token h] at hnone
    cases hnone
  lines := by rwa [said_token, said_token]

theorem saysAs_allTokens {ds ds' : List DocSpelling} (h : ∀ d ∈ ds, d.IsReadable)
    (h' : ∀ d ∈ ds', d.IsReadable) (hlines : ds.map lines = ds'.map lines) :
    List.Forall₂ Token.SaysAs (ds.flatMap tokens) (ds'.flatMap tokens) := by
  induction ds generalizing ds' with
  | nil =>
    obtain rfl := List.map_eq_nil_iff.mp hlines.symm
    exact .nil
  | cons d ds ih =>
    obtain ⟨d', rest, rfl, hd, hrest⟩ := List.map_eq_cons_iff.mp hlines.symm
    rw [List.forall_mem_cons] at h h'
    have htoken := saysAs_token h.1 h'.1 hd.symm
    have hlater := ih h.2 h'.2 hrest.symm
    exact .cons (.refl _) (.cons (.refl _) (.cons (.refl _) (.cons (.refl _) (.cons htoken
      (.cons (.refl _) hlater)))))

theorem exists_text (d : DocSpelling) :
    ∃ c t, d.text = c :: t ∧ isGap c = false ∧ c ≠ byteOrderMark := by
  cases d with
  | line | block => exact ⟨'/', _, rfl, by decide, by decide⟩
  | written => exact ⟨'#', _, rfl, by decide, by decide⟩

end DocSpelling

/-! ### Respelled sources -/

/-- The texts differ in how annotations are spelled at one place that the scanner comes to, behind a
blank or at the start. -/
inductive Respelled : Text → Text → Prop
  | intro {w v : Text} {ds ds' : List DocSpelling} (hds : ∀ d ∈ ds, d.IsReadable)
      (hds' : ∀ d ∈ ds', d.IsReadable)
      (hlines : ds.map DocSpelling.lines = ds'.map DocSpelling.lines)
      (hmark : markLength w = 0) (hw : ∀ c ∈ w.getLast?, isBlank c)
      (hplace : StandsAt w (ds.flatMap DocSpelling.text ++ v)) :
      Respelled (w ++ (ds.flatMap DocSpelling.text ++ v)) (w ++ (ds'.flatMap DocSpelling.text ++ v))

theorem markLength_before {w : Text} (h : markLength w = 0) (d : DocSpelling) (t : Text) :
    markLength (w ++ (d.text ++ t)) = 0 := by
  obtain ⟨c, u, htext, -, hc⟩ := d.exists_text
  rw [markLength_eq_zero_iff] at h ⊢
  rw [htext, List.head?_append]
  cases hhead : w.head? with
  | none => simpa using hc
  | some e =>
    rw [hhead] at h
    exact h

/-- The tokens of a respelled text take the places of those of the text and say the same. -/
theorem Respelled.lexes {s t : Text} (h : Respelled s t) {us : List Token} (hus : Lexes [] s us) :
    ∃ us', Lexes [] t us' ∧ List.Forall₂ Token.SaysAs us us' := by
  have hrefl (tokens : List Token) : List.Forall₂ Token.SaysAs tokens tokens :=
    List.forall₂_same.mpr fun token _ => .refl token
  obtain @⟨w, v, ds, ds', hds, hds', hlines, hmark, hw, ts, hplace⟩ := h
  have hsays := DocSpelling.saysAs_allTokens hds hds' hlines
  cases ds with
  | nil =>
    obtain rfl := List.map_eq_nil_iff.mp hlines.symm
    exact ⟨us, hus, hrefl us⟩
  | cons d rest =>
    have hfront (q : Text) (us : List Token) :
        Lexes [] (w ++ q) us ↔ ∃ later, Lexes [] q later ∧ us = ts ++ later := by
      obtain ⟨c, u, htext, hgap, -⟩ := d.exists_text
      rw [List.flatMap_cons, htext] at hplace
      exact hplace.place hw hgap
    obtain ⟨_, hmiddle, rfl⟩ := (hfront _ us).mp hus
    obtain ⟨later, hlater, rfl⟩ := (DocSpelling.lexes_allTexts hds v).mp hmiddle
    have hmiddle' := (DocSpelling.lexes_allTexts hds' v).mpr ⟨later, hlater, rfl⟩
    refine ⟨_, (hfront _ _).mpr ⟨_, hmiddle', rfl⟩, ?_⟩
    exact List.rel_append (hrefl ts) (List.rel_append hsays (hrefl later))

/-- Annotations that are spelled in another way are the same and belong to the same items. -/
theorem Respelled.read {s t : Text} {file : SourceFile} (h : Respelled s t)
    (hread : SourceFile.read s = .ok file) : ∃ file', SourceFile.read t = .ok file' ∧
      file'.items = file.items ∧
      ∀ attributes, Redistributed (docs file.tokens attributes) (docs file'.tokens attributes) := by
  have hlexes (us : List Token) (hus : Lexes [] s us) := h.lexes hus
  obtain @⟨w, v, ds, ds', -, -, hlines, hmark, -, -⟩ := h
  cases ds with
  | nil =>
    obtain rfl := List.map_eq_nil_iff.mp hlines.symm
    exact ⟨file, hread, rfl, fun _ => .refl _⟩
  | cons d rest =>
    obtain ⟨d', rest', rfl, -, -⟩ := List.map_eq_cons_iff.mp hlines.symm
    have hzero (d : DocSpelling) (rest : List DocSpelling) :
        markLength (w ++ ((d :: rest).flatMap DocSpelling.text ++ v)) = 0 := by
      rw [List.flatMap_cons, List.append_assoc]
      exact markLength_before hmark d _
    obtain ⟨file', hread', hitems, -, hsequence⟩ := SourceFile.read_of_nestsAs
      (fun _ _ => Token.SaysAs.toNestsAs) (hzero d rest) (hzero d' rest') hlexes hread
    exact ⟨file', hread', hitems, docs_redistributed hsequence⟩

/-- Annotations may be spelled in another way at any number of places. -/
theorem read_of_respelled {s t : Text} {file : SourceFile} (h : Relation.ReflTransGen Respelled s t)
    (hread : SourceFile.read s = .ok file) : ∃ file', SourceFile.read t = .ok file' ∧
      file'.items = file.items ∧
      ∀ attributes, Redistributed (docs file.tokens attributes) (docs file'.tokens attributes) := by
  induction h with
  | refl => exact ⟨file, hread, rfl, fun _ => .refl _⟩
  | tail _ h ih =>
    obtain ⟨middle, hmiddle, hitems, hdocs⟩ := ih
    obtain ⟨file', hfile', hitems', hdocs'⟩ := h.read hmiddle
    exact ⟨file', hfile', hitems'.trans hitems, fun as => (hdocs as).trans (hdocs' as)⟩

end MapperGen.Syntax
