import MapperGen.Output.Generated
import MapperGen.Proofs.Output.EntryLines
import MapperGen.Proofs.Output.Exchange
import MapperGen.Proofs.Spec.Assembled

/-!
# Ignored fields

An ignored field leaves no token in the generated code, as long as the scanner comes to its comment
between two tokens. Then the field may be left out, or its name be exchanged, and the code keeps its
tokens. But the source of a link is any text, and one that opens a comment of its own runs over the
lines behind it. Then the name of an ignored field decides what is read.
-/

namespace MapperGen

open Syntax Text

/-! ### Other ignored fields -/

/-- Is the field of a directive ignored? -/
def Directive.isIgnored : Directive → Bool
  | .ignore _ => true
  | .link .. | .call .. => false

/-- The same directives but for ignored fields: some are left out, and some give way to others that
annotations ignore. -/
inductive Directive.SameButIgnored : List Directive → List Directive → Prop
  | nil : SameButIgnored [] []
  | keep (d : Directive) {ds ds' : List Directive} (h : SameButIgnored ds ds') :
      SameButIgnored (d :: ds) (d :: ds')
  | leaveOut (target : Text) {ds ds' : List Directive} (h : SameButIgnored ds ds') :
      SameButIgnored (.ignore target :: ds) ds'
  | replace (target : Text) {target' comment : Text} {ds ds' : List Directive}
      (hread : Directive.read comment = .ok (.ignore target')) (h : SameButIgnored ds ds') :
      SameButIgnored (.ignore target :: ds) (.ignore target' :: ds')

/-- Conversions that are the same but for ignored fields. -/
structure Conversion.SameButIgnored (c c' : Conversion) : Prop where
  directives : Directive.SameButIgnored c.directives c'.directives
  others : c' = { c with directives := c'.directives }

/-- Mappers that are the same but for ignored fields. -/
structure Mapper.SameButIgnored (m m' : Mapper) : Prop where
  name : m'.name = m.name
  conversions : List.Forall₂ Conversion.SameButIgnored m.conversions m'.conversions

/-- Specs that are the same but for ignored fields. -/
structure Spec.SameButIgnored (s s' : Spec) : Prop where
  moduleName : s'.moduleName = s.moduleName
  mappers : List.Forall₂ Mapper.SameButIgnored s.mappers s'.mappers

/-- A spec without its ignored fields. -/
def Spec.withoutIgnored (s : Spec) : Spec :=
  { s with mappers := s.mappers.map fun m => { m with conversions := m.conversions.map fun c =>
    { c with directives := c.directives.filter (!·.isIgnored) } } }

theorem Directive.sameButIgnored_filter (ds : List Directive) :
    SameButIgnored ds (ds.filter (!·.isIgnored)) := by
  induction ds with
  | nil => exact .nil
  | cons d ds ih =>
    cases d with
    | link source target => exact .keep _ ih
    | call sources method target => exact .keep _ ih
    | ignore target => exact .leaveOut target ih

theorem Spec.sameButIgnored_withoutIgnored (s : Spec) : s.SameButIgnored s.withoutIgnored where
  moduleName := rfl
  mappers := by
    rw [withoutIgnored, List.forall₂_map_right_iff, List.forall₂_same]
    refine fun m _ => ⟨rfl, ?_⟩
    rw [List.forall₂_map_right_iff, List.forall₂_same]
    exact fun c _ => ⟨Directive.sameButIgnored_filter c.directives, rfl⟩

theorem Directive.SameButIgnored.isIgnored {ds : List Directive} (h : SameButIgnored ds []) :
    ds.all isIgnored := by
  generalize hnil : ([] : List Directive) = ds' at h
  induction h with
  | nil => rfl
  | keep d h ih => cases hnil
  | leaveOut target h ih => simpa [Directive.isIgnored] using ih hnil
  | replace target hread h ih => cases hnil

/-! ### Where the scanner comes to ignored fields -/

/-- The scanner comes to the comment of each ignored field between two tokens, so that nothing in
front of the comment runs over it. -/
def FieldsApart (front : Text) : (directives : List Directive) → (behind : Text) → Prop
  | [], _ => True
  | d :: ds, behind =>
    (d.isIgnored → StandsAt (front ++ margin 3) (d.entry ++ '\n' :: (entryLines ds ++ behind))) ∧
      FieldsApart (front ++ indented 3 d.entry) ds behind

/-- In a struct literal it also comes to the opening brace so, if all fields are ignored. -/
def Piece.IgnoredApart (front behind : Text) : Piece → Prop
  | .code _ => True
  | .literal head ds =>
    (ds ≠ [] → ds.all Directive.isIgnored → StandsAt (front ++ margin 2 ++ head ++ [' '])
      ("\x7b\n".toList ++ entryLines ds ++ indented 2 ['\x7d'] ++ behind)) ∧
      FieldsApart (front ++ indented 2 (head ++ " \x7b".toList)) ds (indented 2 ['\x7d'] ++ behind)

/-- It does so in all struct literals. -/
def IgnoredApart (front : Text) : List Piece → Prop
  | [] => True
  | piece :: rest =>
    piece.IgnoredApart front (Piece.join rest) ∧ IgnoredApart (front ++ piece.text) rest

/-- It does so in the rendered text of a spec. -/
def Spec.IgnoredApart (s : Spec) (imports : List Text) : Prop :=
  ∃ pieces, s.pieces = .ok pieces ∧ MapperGen.IgnoredApart (s.front imports) pieces

instance decidableFieldsApart (front : Text) : (ds : List Directive) → (behind : Text) →
    Decidable (FieldsApart front ds behind)
  | [], _ => .isTrue trivial
  | d :: ds, behind =>
    have := decidableFieldsApart (front ++ indented 3 d.entry) ds behind
    inferInstanceAs (Decidable ((_ → StandsAt _ _) ∧ _))

instance (front behind : Text) : (piece : Piece) → Decidable (piece.IgnoredApart front behind)
  | .code _ => .isTrue trivial
  | .literal _ _ => inferInstanceAs (Decidable ((_ → _ → StandsAt _ _) ∧ FieldsApart _ _ _))

instance decidableIgnoredApart (front : Text) : (pieces : List Piece) →
    Decidable (IgnoredApart front pieces)
  | [] => .isTrue trivial
  | piece :: rest =>
    have := decidableIgnoredApart (front ++ piece.text) rest
    inferInstanceAs (Decidable (Piece.IgnoredApart _ _ piece ∧ _))

instance (s : Spec) (imports : List Text) : Decidable (s.IgnoredApart imports) :=
  match h : s.pieces with
  | .ok pieces =>
    decidable_of_iff (IgnoredApart (s.front imports) pieces) (by simp [Spec.IgnoredApart, h])
  | .error fault => .isFalse (by simp [Spec.IgnoredApart, h])

/-! ### Fields -/

theorem Directive.endsLine (d : Directive) : EndsLine (indented 3 d.entry) := by
  obtain ⟨c, hlast, hc⟩ := d.getLast?_entry
  have hmargin := (endsLine_of_getLast? hlast hc).append (margin 3)
  rwa [← List.append_assoc] at hmargin

variable {v v' behind : Text} {ds ds' : List Directive}

/-- The lines of fields may stand behind texts that may be exchanged, whatever is ignored. -/
theorem Alike.entryLines (h : Directive.SameButIgnored ds ds')
    (hlines : ∀ d ∈ ds, '\n' ∉ d.entry) (hstart : StartsLine v) (hend : EndsLine v)
    (hapart : FieldsApart v ds behind) (hv : Alike v v') :
    Alike (v ++ entryLines ds) (v' ++ entryLines ds') := by
  have hcons (v : Text) (d : Directive) (ds : List Directive) :
      v ++ MapperGen.entryLines (d :: ds) = v ++ indented 3 d.entry ++ MapperGen.entryLines ds :=
    (List.append_assoc ..).symm
  induction h generalizing v v' with
  | nil => exact hv.append []
  | keep d h ih =>
    rw [List.forall_mem_cons] at hlines
    rw [hcons, hcons]
    exact ih hlines.2 (hstart.append _) (d.endsLine.append v) hapart.2 (hv.append _)
  | leaveOut target h ih =>
    rw [List.forall_mem_cons] at hlines
    rw [hcons]
    have hgone := Alike.ignored hstart hend hlines.1 (hapart.1 rfl)
    exact ih hlines.2 (hstart.append _) ((Directive.endsLine _).append v) hapart.2 (hgone.trans hv)
  | replace target hread h ih =>
    rw [List.forall_mem_cons] at hlines
    rw [hcons, hcons]
    have hgone := Alike.ignored hstart hend hlines.1 (hapart.1 rfl)
    have hnew := Alike.ignored hstart hend (Directive.entryOf_of_read hread).2 (hapart.1 rfl)
    exact ih hlines.2 (hstart.append _) ((Directive.endsLine _).append v) hapart.2
      ((hgone.trans hnew.symm).trans (hv.append _))

/-! ### Pieces -/

/-- Pieces of a text and of the text with other ignored fields. -/
inductive Piece.SameButIgnored : Piece → Piece → Prop
  | code (t : Text) : SameButIgnored (.code t) (.code t)
  | literal (head : Text) {ds ds' : List Directive} (h : Directive.SameButIgnored ds ds')
      (hlines : ∀ d ∈ ds, '\n' ∉ d.entry) :
      SameButIgnored (.literal head ds) (.literal head ds')

theorem Piece.text_literal {head : Text} (hds : ds ≠ []) : (literal head ds).text =
    indented 2 (head ++ " \x7b".toList) ++ entryLines ds ++ indented 2 ['\x7d'] := by
  rw [text, if_neg (by simpa using hds)]

theorem Alike.piece {piece piece' : Piece} (h : piece.SameButIgnored piece')
    (hstart : StartsLine v) (hapart : piece.IgnoredApart v behind) (hv : Alike v v') :
    Alike (v ++ piece.text) (v' ++ piece'.text) := by
  cases h with
  | code t => exact hv.append t
  | @literal head ds ds' h hlines =>
    obtain ⟨hbrace, hfields⟩ := hapart
    by_cases hds : ds = []
    · subst hds
      cases h with
      | nil => exact hv.append _
    have hend : EndsLine (indented 2 (head ++ " \x7b".toList)) :=
      ⟨margin 2 ++ head ++ [' '], '\x7b', by simp [indented_eq], by decide⟩
    have hentries := Alike.entryLines h hlines (hstart.append _) (hend.append v) hfields
      (hv.append _)
    rw [Piece.text_literal hds]
    by_cases hds' : ds' = []
    · -- no field is left, so both braces stand on one line
      subst hds'
      have hopen : v ++ indented 2 (head ++ " \x7b".toList) =
          v ++ margin 2 ++ head ++ " \x7b\n".toList := by simp [indented_eq]
      have hclosed : v ++ (Piece.literal head []).text =
          v ++ margin 2 ++ head ++ " \x7b\x7d\n".toList := by simp [Piece.text, indented_eq]
      have hnone : Alike (v' ++ indented 2 (head ++ " \x7b".toList) ++ MapperGen.entryLines [])
          (v ++ indented 2 (head ++ " \x7b".toList)) :=
        (List.append_nil _).symm ▸ (hv.append _).symm
      have hhollow := Alike.hollow ((hstart.append _).append _) (hbrace hds h.isIgnored)
      rw [← hopen, ← hclosed] at hhollow
      have hgone := ((hentries.trans hnone).append _).trans hhollow
      simpa only [List.append_assoc] using hgone.trans (hv.append _)
    · rw [Piece.text_literal hds']
      simpa only [List.append_assoc] using hentries.append (indented 2 ['\x7d'])

theorem Alike.pieces {pieces pieces' : List Piece}
    (h : List.Forall₂ Piece.SameButIgnored pieces pieces') (hstart : StartsLine v)
    (hapart : IgnoredApart v pieces) (hv : Alike v v') :
    Alike (v ++ Piece.join pieces) (v' ++ Piece.join pieces') := by
  have hcons (v : Text) (piece : Piece) (rest : List Piece) :
      v ++ Piece.join (piece :: rest) = v ++ piece.text ++ Piece.join rest :=
    (List.append_assoc ..).symm
  induction h generalizing v v' with
  | nil => exact hv.append []
  | cons h _ ih =>
    rw [hcons, hcons]
    exact ih (hstart.append _) hapart.2 (Alike.piece h hstart hapart.1 hv)

/-! ### Specs -/

/-- Each directive of a spec was read from an annotation. -/
theorem Spec.directives_read {source moduleName : Text} {s : Spec}
    (h : Spec.read source moduleName = .ok s) : ∀ m ∈ s.mappers, ∀ c ∈ m.conversions,
      ∀ d ∈ c.directives, ∃ comment, Directive.read comment = .ok d := by
  rw [Spec.read] at h
  split at h
  · cases h
  · next declarations _ =>
    have hmappers := (Spec.assemble_eq_ok_iff.mp (mapError_eq_ok_iff.mp h)).2
    intro m hm c hc d hd
    obtain ⟨declaration, -, hmapper⟩ := exists_mem_of_forall₂ hmappers hm
    obtain ⟨method, -, hconversion⟩ := exists_mem_of_forall₂ hmapper.conversions hc
    obtain ⟨comment, -, hread⟩ := exists_mem_of_forall₂ hconversion.directives hd
    exact ⟨comment, hread⟩

theorem Conversion.SameButIgnored.pieces {c c' : Conversion} {pieces : List Piece}
    (h : c.SameButIgnored c') (hlines : ∀ d ∈ c.directives, '\n' ∉ d.entry)
    (hpieces : c.pieces = .ok pieces) :
    ∃ pieces', c'.pieces = .ok pieces' ∧ List.Forall₂ Piece.SameButIgnored pieces pieces' := by
  obtain ⟨hdirectives, hothers⟩ := h
  generalize c'.directives = ds' at hdirectives hothers
  subst hothers
  obtain ⟨head, hhead, rfl⟩ := map_eq_ok_iff.mp hpieces
  refine ⟨_, map_eq_ok_iff.mpr ⟨head, hhead, rfl⟩, ?_⟩
  exact .cons (.code _) (.cons (.literal head hdirectives hlines) (.cons (.code _) .nil))

theorem Piece.sameButIgnored_intercalate {separator : Text} {methods methods' : List (List Piece)}
    (h : List.Forall₂ (List.Forall₂ SameButIgnored) methods methods') :
    List.Forall₂ SameButIgnored (List.intercalate [code separator] methods)
      (List.intercalate [code separator] methods') := by
  induction h with
  | nil => exact .nil
  | cons hmethod hrest ih =>
    cases hrest with
    | nil => simpa only [List.intercalate_singleton] using hmethod
    | cons hnext hrest =>
      rw [List.intercalate_cons_cons, List.intercalate_cons_cons]
      exact List.rel_append (List.rel_append hmethod (.cons (.code separator) .nil)) ih

theorem Mapper.SameButIgnored.pieces {m m' : Mapper} {pieces : List Piece}
    (h : m.SameButIgnored m')
    (hlines : ∀ c ∈ m.conversions, ∀ d ∈ c.directives, '\n' ∉ d.entry)
    (hpieces : m.pieces = .ok pieces) :
    ∃ pieces', m'.pieces = .ok pieces' ∧ List.Forall₂ Piece.SameButIgnored pieces pieces' := by
  obtain ⟨name, conversions⟩ := m
  obtain ⟨name', conversions'⟩ := m'
  obtain ⟨hname, hconversions⟩ := h
  obtain rfl : name' = name := hname
  rw [Mapper.pieces] at hpieces
  split at hpieces
  · next hempty =>
    obtain rfl : conversions = [] := List.isEmpty_iff.mp hempty
    cases hconversions
    cases hpieces
    exact ⟨_, rfl, .cons (.code _) .nil⟩
  · next hempty =>
    obtain ⟨methods, hmethods, rfl⟩ := map_eq_ok_iff.mp hpieces
    have hlined := (List.forall₂_and_left conversions conversions').mpr ⟨hlines, hconversions⟩
    obtain ⟨methods', hmethods', hsame⟩ := exists_mapM_of_forall₂
      (S := List.Forall₂ Piece.SameButIgnored) (fun c c' pieces hc hpieces => by
        obtain ⟨pieces', hpieces', hsame⟩ := hc.2.pieces hc.1 (mapError_eq_ok_iff.mp hpieces)
        exact ⟨pieces', mapError_eq_ok_iff.mpr hpieces', hsame⟩) hlined hmethods
    have hempty' : ¬ conversions'.isEmpty := by
      simp only [List.isEmpty_iff, ← List.length_eq_zero_iff, ← hconversions.length_eq] at hempty ⊢
      exact hempty
    refine ⟨_, (if_neg hempty').trans (map_eq_ok_iff.mpr ⟨methods', hmethods', rfl⟩), ?_⟩
    exact .cons (.code _) (List.rel_append (Piece.sameButIgnored_intercalate hsame)
      (.cons (.code _) .nil))

theorem Spec.SameButIgnored.pieces {s s' : Spec} {pieces : List Piece} (h : s.SameButIgnored s')
    (hlines : ∀ m ∈ s.mappers, ∀ c ∈ m.conversions, ∀ d ∈ c.directives, '\n' ∉ d.entry)
    (hpieces : s.pieces = .ok pieces) :
    ∃ pieces', s'.pieces = .ok pieces' ∧ List.Forall₂ Piece.SameButIgnored pieces pieces' := by
  obtain ⟨mappers, hmappers, rfl⟩ := map_eq_ok_iff.mp hpieces
  have hlined := (List.forall₂_and_left s.mappers s'.mappers).mpr ⟨hlines, h.mappers⟩
  obtain ⟨mappers', hmappers', hsame⟩ := exists_mapM_of_forall₂
    (fun m m' pieces hm hpieces => hm.2.pieces hm.1 hpieces) hlined hmappers
  refine ⟨_, map_eq_ok_iff.mpr ⟨mappers', hmappers', rfl⟩, ?_⟩
  exact List.rel_flatMap hsame fun _ _ hm => .cons (.code _) hm

/-! ### Generated code -/

theorem Spec.generate_eq_code_iff {s : Spec} {imports : List Text} {formatter : Formatter}
    {text : Text} : s.generate imports formatter = some (.code text) ↔
      s.mappers ≠ [] ∧
        ∃ rendered, s.render imports = .ok rendered ∧ formatter rendered = .ok text := by
  rw [generate, isEmpty, write]
  cases s.mappers with
  | nil => simp
  | cons m rest =>
    cases s.render imports with
    | error fault => simp
    | ok rendered => cases hformat : formatter rendered <;> simp [hformat]

theorem Generated.exists_code {g : Option Generated} (h : g.any (·.fault?.isNone)) :
    ∃ text, g = some (.code text) := by
  obtain ⟨code | fault, rfl, hcode⟩ := (Option.any_eq_true _ _).mp h
  · exact ⟨code, rfl⟩
  · cases hcode

/-- Ignored fields leave nothing in the generated code: without them, or with others in their
places, a spec becomes code of the same tokens. -/
theorem Spec.generate_sameButIgnored (source moduleName : Text) (imports : List Text) (s s' : Spec)
    (text : Text) (hread : Spec.read source moduleName = .ok s)
    (hgenerate : s.generate imports builtinFormatter = some (.code text))
    (hapart : s.IgnoredApart imports) (hsame : s.SameButIgnored s') :
    ∃ text', s'.generate imports builtinFormatter = some (.code text') ∧
      KeepsTokens Eq text text' := by
  obtain ⟨hmappers, rendered, hrender, hformat⟩ := Spec.generate_eq_code_iff.mp hgenerate
  obtain ⟨pieces, hpieces, hapart⟩ := hapart
  have hlines : ∀ m ∈ s.mappers, ∀ c ∈ m.conversions, ∀ d ∈ c.directives, '\n' ∉ d.entry := by
    intro m hm c hc d hd
    obtain ⟨comment, hcomment⟩ := Spec.directives_read hread m hm c hc d hd
    exact (Directive.entryOf_of_read hcomment).2
  obtain ⟨pieces', hpieces', hsames⟩ := hsame.pieces hlines hpieces
  obtain rfl : s.front imports ++ Piece.join pieces = rendered := by
    rw [Spec.render_eq, hpieces] at hrender
    exact Except.ok.inj hrender
  have hfront : s'.front imports = s.front imports := by
    rw [Spec.front, Spec.front, hsame.moduleName]
  have hrender' : s'.render imports = .ok (s.front imports ++ Piece.join pieces') := by
    rw [Spec.render_eq, hpieces', hfront]
    rfl
  obtain ⟨front, hheader⟩ : ∃ front, s.front imports = '/' :: front := ⟨_, rfl⟩
  have halike := Alike.pieces hsames ⟨'/', front, hheader, by decide⟩ hapart (.refl _)
  rw [hheader] at halike hformat hrender'
  obtain ⟨text', hformat', htokens⟩ := builtinFormatter_of_alike halike hformat
  have hmappers' : s'.mappers ≠ [] := by
    intro hnil
    have hnone := hsame.mappers
    rw [hnil, List.forall₂_nil_right_iff] at hnone
    exact hmappers hnone
  exact ⟨text', Spec.generate_eq_code_iff.mpr ⟨hmappers', _, hrender', hformat'⟩, htokens⟩

/-- A mapper that links a text with the start of a comment in it and ignores two fields. -/
def quotedTrait : Text :=
  ["/// +mapwright:mapper".toList, "trait A \x7b".toList,
    "    /// +mapwright:link:\"/*\"->x".toList, "    /// +mapwright:ignore:*/ y".toList,
    "    /// +mapwright:ignore:z".toList, "    fn f(&self) -> B;".toList,
    "\x7d".toList].flatMap line

/-- Its spec, but for the ignored fields. -/
def quotedSpec (ignored : List Directive) : Spec :=
  ⟨['m'], [⟨['A'], [⟨['f'], none, [], ['B'], none,
    .link (.whole "\"/*\"".toList) ['x'] :: ignored⟩]⟩]⟩

/-- The code for it. -/
def quotedCode : Text :=
  ["// Code generated by mapwright from m. DO NOT EDIT.".toList, [],
    "#[derive(Debug, Clone, Copy, Default)]".toList, "pub struct AImpl;".toList, [],
    "#[allow(unused_variables)]".toList, "impl AImpl \x7b".toList,
    "    pub fn f(&self) -> B \x7b".toList, "        B \x7b".toList,
    "            x: \"/*\",".toList, "            // */ y: (ignored)".toList,
    "            // z: (ignored)".toList, "        \x7d".toList, "    \x7d".toList,
    "\x7d".toList].flatMap line

theorem Spec.generate_sameButIgnored_quotedTrait : ∃ text,
    (quotedSpec [.ignore "/* ' \"".toList]).generate [] builtinFormatter = some (.code text) ∧
      KeepsTokens Eq quotedCode text :=
  have hread : Spec.read quotedTrait ['m'] =
      .ok (quotedSpec [.ignore "*/ y".toList, .ignore ['z']]) :=
    eq_ok_of_toOption (by decide +kernel)
  have hcomment : Directive.read "+mapwright:ignore:/* ' \"".toList =
      .ok (.ignore "/* ' \"".toList) := eq_ok_of_toOption (by decide +kernel)
  Spec.generate_sameButIgnored quotedTrait ['m'] [] _ _ quotedCode hread
    (by decide +kernel) (by decide +kernel)
    ⟨rfl, .cons ⟨rfl, .cons ⟨.keep _ (.replace _ hcomment (.leaveOut _ .nil)), rfl⟩ .nil⟩ .nil⟩

/-- A mapper whose link opens a comment that the name of the ignored field closes. -/
def openCommentTrait : Text :=
  ["/// +mapwright:mapper".toList, "trait A \x7b".toList, "    /// +mapwright:link:/*->x".toList,
    "    /// +mapwright:ignore:*/ 1, //".toList, "    fn f(&self, p: P) -> B;".toList,
    "\x7d".toList].flatMap line

/-- Its spec. -/
def openCommentSpec : Spec :=
  ⟨['m'], [⟨['A'], [⟨['f'], none, [⟨['p'], ['P']⟩], ['B'], none,
    [.link (.whole "/*".toList) ['x'], .ignore "*/ 1, //".toList]⟩]⟩]⟩

/-- If a comment starts in front of an ignored field, all code may be lost without the field. -/
theorem Spec.generate_needs_ignored : ¬ ∀ (source moduleName : Text) (imports : List Text)
    (s s' : Spec) (text : Text), Spec.read source moduleName = .ok s →
      s.generate imports builtinFormatter = some (.code text) → s.SameButIgnored s' →
      ∃ text', s'.generate imports builtinFormatter = some (.code text') ∧
        KeepsTokens Eq text text' := by
  intro h
  have hread : Spec.read openCommentTrait ['m'] = .ok openCommentSpec :=
    eq_ok_of_toOption (by decide +kernel)
  obtain ⟨text, hcode⟩ : ∃ text, openCommentSpec.generate [] builtinFormatter = some (.code text) :=
    Generated.exists_code (by decide +kernel)
  obtain ⟨text', hgenerate, -⟩ := h _ _ _ _ _ _ hread hcode
    openCommentSpec.sameButIgnored_withoutIgnored
  have hfailed : (openCommentSpec.withoutIgnored.generate [] builtinFormatter).any
      (·.fault?.isSome) := by decide +kernel
  rw [hgenerate] at hfailed
  cases hfailed

end MapperGen
