import MapperGen.Proofs.Annotation.DirectiveGrammar
import MapperGen.Proofs.Syntax.TokenEdge
import MapperGen.Proofs.Text.Fields

/-!
# Directives written and read again

A directive that was read is written as a line that reads as the same directive, whatever its
sources hold: arrows, points, colons and inner blanks are found again in the same places.
`Directive.Legible` says which directives come out of reading; those made of words do.
-/

namespace MapperGen

open Text

/-! ### Words -/

theorem isBlank_of_isWord {c : Char} (h : isWord c = true) : isBlank c = false := by
  by_contra hb
  have hgap : Syntax.isGap c = true := by simp [Syntax.isGap, eq_true_of_ne_false hb]
  have hword : isWord c = false :=
    Syntax.of_isEdge (isWord · = false) (by decide +kernel) (Syntax.isEdge_of_isGap hgap)
  rw [h] at hword
  cases hword

theorem notMem_of_isWordText {w : Text} {c : Char} (h : isWordText w = true)
    (hc : isWord c = false := by decide) : c ∉ w := by
  intro hmem
  have hword := (isWordText_iff.mp h).2 c hmem
  rw [hc] at hword
  cases hword

theorem isAllBlank_of_isWordText {w : Text} (h : isWordText w = true) : isAllBlank w = false := by
  obtain ⟨hne, hall⟩ := isWordText_iff.mp h
  obtain ⟨c, rest, rfl⟩ := List.exists_cons_of_ne_nil hne
  have hc := isBlank_of_isWord (hall c List.mem_cons_self)
  simp [isAllBlank, hc]

theorem trimEnd_of_isWordText {w : Text} (h : isWordText w = true) : trimEnd w = w := by
  refine List.rdropWhile_eq_self_iff.mpr fun hne => ?_
  have hlast := (isWordText_iff.mp h).2 _ (List.getLast_mem hne)
  simp [isBlank_of_isWord hlast]

theorem trim_of_isWordText {w : Text} (h : isWordText w = true) : trim w = w := by
  obtain ⟨hne, hall⟩ := isWordText_iff.mp h
  obtain ⟨c, rest, rfl⟩ := List.exists_cons_of_ne_nil hne
  have hc := isBlank_of_isWord (hall c List.mem_cons_self)
  rw [trim, trimStart, List.dropWhile_cons_of_neg (by simp [hc]), trimEnd_of_isWordText h]

/-! ### Sources -/

/-- A source that its expression names, on one line and not blank. -/
structure Source.Legible (s : Source) : Prop where
  named : Source.ofText s.expression = s
  filled : isAllBlank s.expression = false
  oneLine : '\n' ∉ s.expression

/-- A word, or two words around a point. -/
def Source.InWords : Source → Prop
  | .whole name => isWordText name = true
  | .field owner name => isWordText owner = true ∧ isWordText name = true

/-- A source says again what it was read from, but for the blanks around it. -/
theorem Source.expression_ofText (t : Text) : (Source.ofText t).expression = trim t := by
  rw [Source.ofText]
  split
  · next owner name hs =>
    have hjoin := joinWith_splitOn '.' (trim t)
    rw [hs] at hjoin
    split
    · rw [← hjoin]
      simp [Source.expression, joinWith]
    · rfl
  · rfl

theorem Source.ofText_trim (t : Text) : Source.ofText (trim t) = Source.ofText t := by
  rw [Source.ofText, Source.ofText, trim_trim]

theorem Source.legible_ofText {t : Text} (hfilled : isAllBlank t = false) (hline : '\n' ∉ t) :
    (Source.ofText t).Legible where
  named := by rw [Source.expression_ofText, Source.ofText_trim]
  filled := by
    rw [Source.expression_ofText, ← isEmpty_trim, trim_trim, isEmpty_trim]
    exact hfilled
  oneLine := by
    rw [Source.expression_ofText]
    exact fun h => hline (mem_of_mem_trim h)

theorem Source.trim_expression_of_inWords {s : Source} (h : s.InWords) :
    trim s.expression = s.expression := by
  cases s with
  | whole name => exact trim_of_isWordText h
  | field owner name =>
    obtain ⟨howner, hname⟩ := h
    obtain ⟨hne, hall⟩ := isWordText_iff.mp howner
    obtain ⟨c, rest, rfl⟩ := List.exists_cons_of_ne_nil hne
    have hc := isBlank_of_isWord (hall c List.mem_cons_self)
    have hend := trimEnd_append_of_trimEnd (c :: rest ++ ['.']) (isWordText_iff.mp hname).1
      (trimEnd_of_isWordText hname)
    rw [List.append_assoc, List.singleton_append] at hend
    rw [trim, Source.expression, List.cons_append, trimStart,
      List.dropWhile_cons_of_neg (by simp [hc])]
    exact hend

theorem Source.legible_of_inWords {s : Source} (h : s.InWords) : s.Legible where
  named := by
    rw [Source.ofText, Source.trim_expression_of_inWords h]
    cases s with
    | whole name =>
      have hpoint : '.' ∉ name := notMem_of_isWordText h
      simp [Source.expression, splitOn_of_notMem hpoint]
    | field owner name =>
      have howner : '.' ∉ owner := notMem_of_isWordText h.1
      have hname : '.' ∉ name := notMem_of_isWordText h.2
      simp [Source.expression, splitOn_append_sep howner, splitOn_of_notMem hname, h.1, h.2]
  filled := by
    cases s with
    | whole name => exact isAllBlank_of_isWordText h
    | field owner name =>
      have howner := isAllBlank_of_isWordText h.1
      simp only [isAllBlank] at howner
      simp [Source.expression, isAllBlank, howner]
  oneLine := by
    cases s with
    | whole name => exact notMem_of_isWordText h
    | field owner name =>
      have howner : '\n' ∉ owner := notMem_of_isWordText h.1
      have hname : '\n' ∉ name := notMem_of_isWordText h.2
      simp [Source.expression, howner, hname]

theorem Source.notMem_comma_of_inWords {s : Source} (h : s.InWords) : ',' ∉ s.expression := by
  cases s with
  | whole name => exact notMem_of_isWordText h
  | field owner name =>
    have howner : ',' ∉ owner := notMem_of_isWordText h.1
    have hname : ',' ∉ name := notMem_of_isWordText h.2
    simp [Source.expression, howner, hname]

/-! ### Directives -/

/-- The directives that lines can say. The sources of a call are told apart by commas, so none of
them holds one. -/
def Directive.Legible : Directive → Prop
  | .link source target => source.Legible ∧ isWordText target = true
  | .call sources method target =>
    sources ≠ [] ∧ (∀ s ∈ sources, s.Legible ∧ ',' ∉ s.expression) ∧
      isWordText method = true ∧ isWordText target = true
  | .ignore target => target ≠ [] ∧ trim target = target ∧ '\n' ∉ target

/-- Directives made of words only; what is ignored may be any trimmed text of one line. -/
def Directive.InWords : Directive → Prop
  | .link source target => source.InWords ∧ isWordText target = true
  | .call sources method target =>
    sources ≠ [] ∧ (∀ s ∈ sources, s.InWords) ∧
      isWordText method = true ∧ isWordText target = true
  | .ignore target => target ≠ [] ∧ trim target = target ∧ '\n' ∉ target

theorem Directive.legible_of_inWords {d : Directive} (h : d.InWords) : d.Legible := by
  cases d with
  | link source target => exact ⟨Source.legible_of_inWords h.1, h.2⟩
  | call sources method target =>
    obtain ⟨hne, hsources, hmethod, htarget⟩ := h
    refine ⟨hne, fun s hs => ?_, hmethod, htarget⟩
    exact ⟨Source.legible_of_inWords (hsources s hs),
      Source.notMem_comma_of_inWords (hsources s hs)⟩
  | ignore target => exact h

theorem Directive.legible_of_read {line : Text} {d : Directive}
    (h : Directive.read line = .ok d) : d.Legible := by
  obtain ⟨verb, details, -, hline, hdetails⟩ := Directive.read_eq_ok_iff_written.mp h
  cases hdetails with
  | @link _ source target split filled =>
    have hsource : '\n' ∉ source := fun hmem => hline (by simp [split.1, hmem])
    exact ⟨Source.legible_ofText filled hsource, split.2⟩
  | @call _ sources method target split filled =>
    have hsources : '\n' ∉ sources := fun hmem => hline (by simp [split.1, hmem])
    refine ⟨by simp [splitOn_ne_nil], fun s hs => ?_, split.2.1, split.2.2⟩
    obtain ⟨piece, hpiece, rfl⟩ := List.mem_map.mp hs
    refine ⟨Source.legible_ofText (filled piece hpiece) fun hmem => ?_, fun hmem => ?_⟩
    · exact hsources (mem_of_mem_splitOn hpiece hmem).1
    · rw [Source.expression_ofText] at hmem
      exact (mem_of_mem_splitOn hpiece (mem_of_mem_trim hmem)).2 rfl
  | ignore filled =>
    refine ⟨fun hnil => ?_, trim_trim details, fun hmem => hline (mem_of_mem_trim hmem)⟩
    rw [trim_eq_nil_iff.mp hnil] at filled
    cases filled

/-! ### Written details -/

theorem Directive.trimEnd_details {d : Directive} (h : d.Legible) :
    d.details ≠ [] ∧ trimEnd d.details = d.details := by
  have hword (front : Text) {w : Text} (hw : isWordText w = true) :
      front ++ w ≠ [] ∧ trimEnd (front ++ w) = front ++ w := by
    have hne : w ≠ [] := (isWordText_iff.mp hw).1
    exact ⟨by simp [hne], trimEnd_append_of_trimEnd front hne (trimEnd_of_isWordText hw)⟩
  cases d with
  | link source target => exact hword _ h.2
  | call sources method target => exact hword _ h.2.2.2
  | ignore target =>
    refine ⟨h.1, ?_⟩
    rw [Directive.details, ← h.2.1]
    exact trimEnd_trim target

theorem Directive.notMem_newline_details {d : Directive} (h : d.Legible) : '\n' ∉ d.details := by
  cases d with
  | link source target =>
    have htarget : '\n' ∉ target := notMem_of_isWordText h.2
    simp [Directive.details, arrow, h.1.oneLine, htarget]
  | call sources method target =>
    obtain ⟨-, hsources, hmethod, htarget⟩ := h
    have hjoined : '\n' ∉ joinWith [','] (sources.map Source.expression) := by
      intro hmem
      rcases mem_of_mem_joinWith hmem with hmem | ⟨part, hpart, hmem⟩
      · simp at hmem
      · obtain ⟨s, hs, rfl⟩ := List.mem_map.mp hpart
        exact (hsources s hs).1.oneLine hmem
    have hmethod' : '\n' ∉ method := notMem_of_isWordText hmethod
    have htarget' : '\n' ∉ target := notMem_of_isWordText htarget
    simp [Directive.details, arrow, hjoined, hmethod', htarget']
  | ignore target => exact h.2.2

/-- The details of a directive write it: the arrows and commas that were written are those that
separate. -/
theorem Directive.details_write {d : Directive} (h : d.Legible) :
    d.verb.Details d.details d := by
  cases d with
  | link source target =>
    obtain ⟨⟨hnamed, hfilled, -⟩, htarget⟩ := h
    have hsplit : LinkSplit (source.expression ++ arrow ++ target) source.expression target :=
      ⟨rfl, htarget⟩
    have hdetails := Verb.Details.link hsplit hfilled
    rwa [hnamed] at hdetails
  | call sources method target =>
    obtain ⟨hne, hsources, hmethod, htarget⟩ := h
    have hpieces : splitOn ',' (joinWith [','] (sources.map Source.expression)) =
        sources.map Source.expression := by
      refine splitOn_joinWith (by simpa using hne) fun part hpart => ?_
      obtain ⟨s, hs, rfl⟩ := List.mem_map.mp hpart
      exact (hsources s hs).2
    have hread : (sources.map Source.expression).map Source.ofText = sources := by
      rw [List.map_map]
      conv_rhs => rw [← List.map_id sources]
      exact List.map_congr_left fun s hs => (hsources s hs).1.named
    have hsplit : CallSplit
        (joinWith [','] (sources.map Source.expression) ++ arrow ++ method ++ arrow ++ target)
        (joinWith [','] (sources.map Source.expression)) method target := ⟨rfl, hmethod, htarget⟩
    have hdetails := Verb.Details.call hsplit fun piece hpiece => by
      rw [hpieces] at hpiece
      obtain ⟨s, hs, rfl⟩ := List.mem_map.mp hpiece
      exact (hsources s hs).1.filled
    rwa [hpieces, hread] at hdetails
  | ignore target =>
    obtain ⟨hne, htrim, -⟩ := h
    have hfilled : isAllBlank target = false := by
      rw [← isEmpty_trim, htrim]
      simpa using hne
    have hdetails := Verb.Details.ignore hfilled
    rwa [htrim] at hdetails

/-! ### The round trip -/

theorem Directive.trim_print {d : Directive} (h : d.Legible) : trim d.print = d.print := by
  obtain ⟨hne, hend⟩ := Directive.trimEnd_details h
  have hprint : d.print = Annotation.tag ++ d.verb.text ++ [':'] ++ d.details := by
    simp [Directive.print]
  rw [trim, show trimStart d.print = d.print from rfl, hprint]
  exact trimEnd_append_of_trimEnd _ hne hend

theorem Directive.read_print_of_legible {d : Directive} (h : d.Legible) :
    Directive.read d.print = .ok d := by
  rw [Directive.read_eq_ok_iff_written, Directive.trim_print h]
  exact ⟨d.verb, d.details, rfl, Directive.notMem_newline_details h, Directive.details_write h⟩

/-- A directive that was read from any line is read again from its written form, and so is every
directive made of words. -/
theorem Directive.read_print (d : Directive) :
    (∀ line, Directive.read line = .ok d → Directive.read d.print = .ok d) ∧
      (d.InWords → Directive.read d.print = .ok d) := by
  constructor
  · intro line h
    exact Directive.read_print_of_legible (Directive.legible_of_read h)
  · intro h
    exact Directive.read_print_of_legible (Directive.legible_of_inWords h)

end MapperGen
