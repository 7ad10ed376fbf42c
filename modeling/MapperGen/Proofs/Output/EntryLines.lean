import MapperGen.Output.Render
import MapperGen.Proofs.Annotation.DirectiveRoundTrip
import MapperGen.Proofs.Traversal

/-!
# Lines of struct literals

An annotation becomes one line of a struct literal. `EntryOf` says which line it becomes by the
texts that stand in the annotation, without a directive between them. So nothing of an annotation is
lost on the way to the output and nothing comes in, and no annotation takes more than its line.
-/

namespace MapperGen

open Text

/-! ### Annotations and lines -/

/-- The line that the details behind a verb become. -/
inductive Verb.Entry : Verb → Text → Text → Prop where
  | link {details source target : Text} (split : LinkSplit details source target) :
      Entry .link details (target ++ ": ".toList ++ trim source ++ [','])
  | call {details sources method target : Text} (split : CallSplit details sources method target) :
      Entry .call details (target ++ ": self.".toList ++ method ++ ['('] ++
        joinWith ", ".toList ((splitOn ',' sources).map trim) ++ "),".toList)
  | ignore {details : Text} :
      Entry .ignore details ("// ".toList ++ trim details ++ ": (ignored)".toList)

/-- The line that an annotation becomes. -/
def EntryOf (comment entry : Text) : Prop :=
  ∃ (verb : Verb) (details : Text),
    trim comment = Annotation.tag ++ verb.text ++ ':' :: details ∧ verb.Entry details entry

/-- The arrows of an annotation tell its parts apart, so it becomes one line only. -/
theorem Verb.Entry.unique {verb : Verb} {details entry entry' : Text}
    (h : verb.Entry details entry) (h' : verb.Entry details entry') : entry = entry' := by
  cases h with
  | link split =>
    cases h' with
    | link split' =>
      obtain ⟨rfl, rfl⟩ := split.unique split'
      rfl
  | call split =>
    cases h' with
    | call split' =>
      obtain ⟨rfl, rfl, rfl⟩ := split.unique split'
      rfl
  | ignore =>
    cases h'
    rfl

theorem EntryOf.unique {comment entry entry' : Text} (h : EntryOf comment entry)
    (h' : EntryOf comment entry') : entry = entry' := by
  obtain ⟨verb, details, hline, hentry⟩ := h
  obtain ⟨verb', details', hline', hentry'⟩ := h'
  have hsame : verb.text ++ ':' :: details = verb'.text ++ ':' :: details' := by
    rw [hline, List.append_assoc, List.append_assoc] at hline'
    exact List.append_cancel_left hline'
  have hcolon (v : Verb) : ':' ∉ v.text := notMem_of_isWordText v.isWordText_text
  have htext : verb.text = verb'.text := by
    have hfields := congrArg (splitOn ':') hsame
    rw [splitOn_append_sep (hcolon verb), splitOn_append_sep (hcolon verb')] at hfields
    exact (List.cons.inj hfields).1
  obtain rfl : verb' = verb := by
    rw [← Verb.ofText?_eq_some_iff, Verb.ofText?_text] at htext
    exact (Option.some.inj htext).symm
  obtain rfl : details = details' := (List.cons.inj (List.append_cancel_left hsame)).2
  exact hentry.unique hentry'

/-! ### One line -/

theorem Verb.Entry.oneLine {verb : Verb} {details entry : Text} (h : verb.Entry details entry)
    (hdetails : '\n' ∉ details) : '\n' ∉ entry := by
  cases h with
  | @link _ source target split =>
    have hsource : '\n' ∉ source := fun hmem => hdetails (by simp [split.1, hmem])
    have htarget : '\n' ∉ target := fun hmem => hdetails (by simp [split.1, hmem])
    have htrim : '\n' ∉ trim source := fun hmem => hsource (mem_of_mem_trim hmem)
    simp [htarget, htrim]
  | @call _ sources method target split =>
    have hsources : '\n' ∉ sources := fun hmem => hdetails (by simp [split.1, hmem])
    have hmethod : '\n' ∉ method := fun hmem => hdetails (by simp [split.1, hmem])
    have htarget : '\n' ∉ target := fun hmem => hdetails (by simp [split.1, hmem])
    have hjoined : '\n' ∉ joinWith ", ".toList ((splitOn ',' sources).map trim) := by
      intro hmem
      rcases mem_of_mem_joinWith hmem with hmem | ⟨part, hpart, hmem⟩
      · simp at hmem
      · obtain ⟨piece, hpiece, rfl⟩ := List.mem_map.mp hpart
        exact hsources (mem_of_mem_splitOn hpiece (mem_of_mem_trim hmem)).1
    generalize joinWith ", ".toList ((splitOn ',' sources).map trim) = arguments at hjoined ⊢
    simp [hmethod, htarget, hjoined]
  | ignore =>
    have htrim : '\n' ∉ trim details := fun hmem => hdetails (mem_of_mem_trim hmem)
    simp [htrim]

/-! ### Entries -/

/-- The entry of a directive is the line of the details it was read from. -/
theorem Verb.Details.entry {verb : Verb} {details : Text} {d : Directive}
    (h : verb.Details details d) : verb.Entry details d.entry := by
  cases h with
  | @link _ source target split filled =>
    have hentry := Verb.Entry.link split
    simpa [Directive.entry, fieldInit, Source.expression_ofText] using hentry
  | @call _ sources method target split filled =>
    have hpieces : ((splitOn ',' sources).map Source.ofText).map Source.expression =
        (splitOn ',' sources).map trim := by
      rw [List.map_map]
      exact List.map_congr_left fun piece _ => Source.expression_ofText piece
    have hentry := Verb.Entry.call split
    rw [← hpieces] at hentry
    simpa [Directive.entry, fieldInit] using hentry
  | ignore filled => exact .ignore

/-- An accepted annotation becomes its line, and the line holds no line feed. -/
theorem Directive.entryOf_of_read {comment : Text} {d : Directive}
    (h : Directive.read comment = .ok d) : EntryOf comment d.entry ∧ '\n' ∉ d.entry := by
  obtain ⟨verb, details, hline, hdetails, hwritten⟩ := Directive.read_eq_ok_iff_written.mp h
  exact ⟨⟨verb, details, hline, hwritten.entry⟩, hwritten.entry.oneLine hdetails⟩

theorem Directive.getLast?_entry (d : Directive) :
    ∃ c, d.entry.getLast? = some c ∧ isBlank c = false := by
  cases d with
  | link source target => exact ⟨',', List.getLast?_concat, by decide⟩
  | call sources method target => exact ⟨',', List.getLast?_concat, by decide⟩
  | ignore target => exact ⟨')', List.getLast?_append.trans rfl, by decide⟩

/-! ### Struct literals -/

/-- The struct literal in the text of a conversion consists of a head line, the lines of the
annotations in their order, and the line of its closing brace. -/
def Conversion.HasEntryLines (comments : List Text) (c : Conversion) (text : Text) : Prop :=
  ∃ head entries, literalHead (ownedType c.result) = .ok head ∧
    List.Forall₂ (fun comment entry =>
      (∀ entry', EntryOf comment entry' ↔ entry' = entry) ∧ '\n' ∉ entry) comments entries ∧
    text = indented 1 c.head ++ indented 2 (head ++ " \x7b".toList) ++
      entries.flatMap (fun entry => List.replicate 12 ' ' ++ entry ++ ['\n']) ++
      indented 2 ['\x7d'] ++ indented 1 ['\x7d']

/-- Each annotation becomes one line of the rendered conversion, and there are no lines besides. -/
theorem Conversion.render_entryLines (comments : List Text) (c : Conversion) (text : Text)
    (hcomments : comments ≠ []) (hread : comments.mapM Directive.read = .ok c.directives)
    (hrender : c.render = .ok text) : c.HasEntryLines comments text := by
  obtain ⟨head, hhead, rfl⟩ := map_eq_ok_iff.mp hrender
  have hreads := mapM_eq_ok_iff.mp hread
  refine ⟨head, c.directives.map Directive.entry, hhead, ?_, ?_⟩
  · rw [List.forall₂_map_right_iff]
    refine hreads.imp fun comment d hd => ?_
    obtain ⟨hentry, hline⟩ := Directive.entryOf_of_read hd
    exact ⟨fun entry' => ⟨fun h => h.unique hentry, fun h => h ▸ hentry⟩, hline⟩
  · have hdirectives : c.directives.isEmpty = false := by
      have hlength := hreads.length_eq
      rw [List.isEmpty_eq_false_iff]
      rintro hnil
      rw [hnil] at hlength
      exact hcomments (List.eq_nil_of_length_eq_zero hlength)
    rw [Conversion.body, hdirectives]
    simp [List.flatMap_map, indented, line]

/-- A link whose source holds an arrow, a call with blanks around its sources, and an ignored name
of two words. -/
def spacedAnnotations : List Text :=
  [" +mapwright:link: a->b.c\t->d".toList, "+mapwright:linkfunc:x , b.a ->make->e\n".toList,
    "+mapwright:ignore: f g ".toList]

theorem Conversion.render_entryLines_spacedAnnotations :
    Conversion.HasEntryLines spacedAnnotations
      ⟨['f'], none, [], ['B'], none,
        [.link (.whole "a->b.c".toList) ['d'],
          .call [.whole ['x'], .field ['b'] ['a']] "make".toList ['e'], .ignore "f g".toList]⟩
      ("    pub fn f(&self) -> B \x7b\n        B \x7b\n            d: a->b.c,\n".toList ++
        "            e: self.make(x, b.a),\n            // f g: (ignored)\n".toList ++
        "        \x7d\n    \x7d\n".toList) :=
  Conversion.render_entryLines _ _ _ (by decide) (eq_ok_of_toOption (by decide +kernel))
    (eq_ok_of_toOption (by decide +kernel))

end MapperGen
