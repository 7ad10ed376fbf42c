import Mathlib.Data.List.TakeWhile
import MapperGen.Annotation.Directive
import MapperGen.Proofs.Text.Trim
import MapperGen.Spec.Assembly

/-!
# The grammar of directive lines

`Directive.Written` says which lines write which directive, without saying how a line is read: the
details of a link or call are any text with arrows in the right places. `read_exact` says that
reading accepts these lines only, and that the arrows that separate are the last ones.
-/

namespace MapperGen

open Text

/-! ### Lines -/

/-- Details that consist of a source, an arrow and a word. -/
def LinkSplit (details source target : Text) : Prop :=
  details = source ++ arrow ++ target ∧ isWordText target = true

/-- Details that consist of sources and two words with arrows between them. -/
def CallSplit (details sources method target : Text) : Prop :=
  details = sources ++ arrow ++ method ++ arrow ++ target ∧
    isWordText method = true ∧ isWordText target = true

/-- The details that write a directive behind each verb. No source may be blank. -/
inductive Verb.Details : Verb → Text → Directive → Prop where
  | link {details source target : Text} (split : LinkSplit details source target)
      (filled : isAllBlank source = false) :
      Details .link details (.link (.ofText source) target)
  | call {details sources method target : Text} (split : CallSplit details sources method target)
      (filled : ∀ piece ∈ splitOn ',' sources, isAllBlank piece = false) :
      Details .call details (.call ((splitOn ',' sources).map .ofText) method target)
  | ignore {details : Text} (filled : isAllBlank details = false) :
      Details .ignore details (.ignore (trim details))

/-- A line that writes a directive: the tag, a verb, a colon and details on the same line. -/
def Directive.Written (line : Text) (directive : Directive) : Prop :=
  ∃ (verb : Verb) (details : Text),
    line = Annotation.tag ++ verb.text ++ ':' :: details ∧ '\n' ∉ details ∧
      verb.Details details directive

/-! ### Words -/

theorem isWordText_iff {t : Text} :
    isWordText t = true ↔ t ≠ [] ∧ ∀ c ∈ t, isWord c = true := by
  simp [isWordText]

theorem Verb.isWordText_text (v : Verb) : isWordText v.text = true := by
  cases v <;> decide

theorem Verb.ofText?_eq_some_iff {word : Text} {v : Verb} :
    Verb.ofText? word = some v ↔ word = v.text := by
  constructor
  · intro h
    have hv := List.find?_some h
    simpa using (beq_iff_eq.mp hv).symm
  · intro h
    rw [h]
    exact ofText?_text v

/-- A word holds no arrow. -/
theorem not_arrow_infix_of_isWordText {w : Text} (h : isWordText w = true) : ¬ arrow <:+: w := by
  intro ha
  have hm : '-' ∈ w := ha.subset (by simp [arrow])
  have hw := (isWordText_iff.mp h).2 '-' hm
  exact absurd hw (by decide)

/-! ### Arrows -/

/-- Nothing is cut if no arrow is there. -/
theorem splitAtLastArrow_eq_none_iff {t : Text} : splitAtLastArrow t = none ↔ ¬ arrow <:+: t := by
  induction t with
  | nil => simp [splitAtLastArrow, arrow]
  | cons c t ih =>
    rw [List.infix_cons_iff, splitAtLastArrow]
    cases hs : splitAtLastArrow t with
    | some parts =>
      have ha : arrow <:+: t := by
        by_contra hn
        rw [ih.mpr hn] at hs
        simp at hs
      simp [ha]
    | none =>
      have ha : ¬ arrow <:+: t := ih.mp hs
      have hd : dropHead? arrow (c :: t) = none ↔ ¬ arrow <+: c :: t := by
        constructor
        · rintro h ⟨rest, hr⟩
          rw [← hr, dropHead?_append] at h
          simp at h
        · intro h
          cases hc : dropHead? arrow (c :: t) with
          | none => rfl
          | some rest => exact absurd ⟨rest, (eq_append_of_dropHead? hc).symm⟩ h
      simp [ha, hd]

/-- An arrow does not begin with its second character. -/
theorem arrow_infix_of_cons {t : Text} (h : arrow <:+: '>' :: t) : arrow <:+: t := by
  rcases List.infix_cons_iff.mp h with hp | hi
  · obtain ⟨rest, hr⟩ := hp
    simp [arrow] at hr
  · exact hi

/-- The cut is at an arrow behind which there is no further one. -/
theorem splitAtLastArrow_eq_some_iff {t before behind : Text} :
    splitAtLastArrow t = some (before, behind) ↔
      t = before ++ arrow ++ behind ∧ ¬ arrow <:+: behind := by
  induction t generalizing before with
  | nil => simp [splitAtLastArrow, arrow]
  | cons c t ih =>
    rw [splitAtLastArrow]
    cases before with
    | nil =>
      cases hs : splitAtLastArrow t with
      | some parts =>
        constructor
        · simp
        · rintro ⟨ht, hn⟩
          have htail : t = '>' :: behind := by
            simp only [arrow, List.nil_append, List.cons_append, List.cons.injEq] at ht
            exact ht.2
          have hi : ¬ arrow <:+: t := fun ha => hn (arrow_infix_of_cons (htail ▸ ha))
          rw [splitAtLastArrow_eq_none_iff.mpr hi] at hs
          simp at hs
      | none =>
        have hi : ¬ arrow <:+: t := splitAtLastArrow_eq_none_iff.mp hs
        constructor
        · intro h
          obtain ⟨rest, hd, hr⟩ := Option.map_eq_some_iff.mp h
          have ht := eq_append_of_dropHead? hd
          obtain rfl : rest = behind := by simpa using hr
          refine ⟨ht, fun ha => hi ?_⟩
          have htail : t = '>' :: rest := by
            simp only [arrow, List.cons_append, List.cons.injEq] at ht
            exact ht.2
          rw [htail]
          exact ha.trans (List.suffix_cons '>' rest).isInfix
        · rintro ⟨ht, -⟩
          have hd := dropHead?_append arrow behind
          rw [ht, List.nil_append]
          simp [hd]
    | cons b before =>
      cases hs : splitAtLastArrow t with
      | some parts =>
        obtain ⟨front, rest⟩ := parts
        have hparts : (front = before ∧ rest = behind) ↔
            (t = before ++ arrow ++ behind ∧ ¬ arrow <:+: behind) := by
          rw [← ih, hs]
          simp
        simp only [Option.some.injEq, Prod.mk.injEq, List.cons.injEq, List.cons_append]
        constructor
        · rintro ⟨⟨hc, hf⟩, hr⟩
          obtain ⟨ht, hn⟩ := hparts.mp ⟨hf, hr⟩
          exact ⟨⟨hc, ht⟩, hn⟩
        · rintro ⟨⟨hc, ht⟩, hn⟩
          obtain ⟨hf, hr⟩ := hparts.mpr ⟨ht, hn⟩
          exact ⟨⟨hc, hf⟩, hr⟩
      | none =>
        have hi : ¬ arrow <:+: t := splitAtLastArrow_eq_none_iff.mp hs
        constructor
        · intro h
          obtain ⟨rest, -, hr⟩ := Option.map_eq_some_iff.mp h
          simp at hr
        · rintro ⟨ht, -⟩
          have htail : t = before ++ arrow ++ behind := by
            simp only [List.cons_append, List.cons.injEq] at ht
            exact ht.2
          exact absurd ⟨before, behind, htail.symm⟩ hi

/-- A cut before a word is the cut at the last arrow. -/
theorem linkSplit_iff {details source target : Text} :
    LinkSplit details source target ↔
      splitAtLastArrow details = some (source, target) ∧ isWordText target = true := by
  rw [LinkSplit, splitAtLastArrow_eq_some_iff]
  constructor
  · rintro ⟨hd, hw⟩
    exact ⟨⟨hd, not_arrow_infix_of_isWordText hw⟩, hw⟩
  · rintro ⟨⟨hd, -⟩, hw⟩
    exact ⟨hd, hw⟩

/-- Two cuts before words are the cuts at the last two arrows. -/
theorem callSplit_iff {details sources method target : Text} :
    CallSplit details sources method target ↔
      LinkSplit details (sources ++ arrow ++ method) target ∧
        LinkSplit (sources ++ arrow ++ method) sources method := by
  simp only [CallSplit, LinkSplit]
  tauto

theorem LinkSplit.unique {details s w s' w' : Text} (h : LinkSplit details s w)
    (h' : LinkSplit details s' w') : s = s' ∧ w = w' := by
  have hs := (linkSplit_iff.mp h).1
  rw [(linkSplit_iff.mp h').1] at hs
  simpa [eq_comm] using hs

theorem CallSplit.unique {details s f w s' f' w' : Text} (h : CallSplit details s f w)
    (h' : CallSplit details s' f' w') : s = s' ∧ f = f' ∧ w = w' := by
  obtain ⟨outer, inner⟩ := callSplit_iff.mp h
  obtain ⟨outer', inner'⟩ := callSplit_iff.mp h'
  obtain ⟨hs, hw⟩ := outer.unique outer'
  rw [hs] at inner
  obtain ⟨hs, hf⟩ := inner.unique inner'
  exact ⟨hs, hf, hw⟩

/-! ### Details -/

theorem splitTarget_eq_some_iff {details source target : Text} :
    splitTarget details = some (source, target) ↔ LinkSplit details source target := by
  rw [linkSplit_iff, splitTarget]
  cases hs : splitAtLastArrow details with
  | none => simp
  | some parts =>
    obtain ⟨s, w⟩ := parts
    by_cases hw : isWordText w = true
    · simp only [hw, if_true, Option.some.injEq, Prod.mk.injEq]
      constructor
      · rintro ⟨rfl, rfl⟩
        exact ⟨⟨rfl, rfl⟩, hw⟩
      · exact fun h => h.1
    · simp only [hw, if_false, reduceCtorEq, Option.some.injEq, Prod.mk.injEq, false_iff]
      rintro ⟨⟨rfl, rfl⟩, h⟩
      exact hw h

theorem readLink_eq_some_iff {details : Text} {d : Directive} :
    readLink details = some d ↔ Verb.link.Details details d := by
  constructor
  · intro h
    rw [readLink] at h
    split at h
    · next source target hs =>
      have split := splitTarget_eq_some_iff.mp hs
      split at h
      · simp at h
      · next hb =>
        obtain rfl := Option.some.inj h
        exact .link split (by simpa using hb)
    · simp at h
  · intro h
    cases h with
    | link split filled =>
      have hs := splitTarget_eq_some_iff.mpr split
      simp [readLink, hs, filled]

theorem readCall_eq_some_iff {details : Text} {d : Directive} :
    readCall details = some d ↔ Verb.call.Details details d := by
  have key (sources method target : Text) : CallSplit details sources method target ↔
      ∃ rest, splitTarget details = some (rest, target) ∧
        splitTarget rest = some (sources, method) := by
    simp only [callSplit_iff, splitTarget_eq_some_iff]
    constructor
    · rintro ⟨outer, inner⟩
      exact ⟨_, outer, inner⟩
    · rintro ⟨rest, outer, inner⟩
      rw [← inner.1]
      exact ⟨outer, inner⟩
  constructor
  · intro h
    rw [readCall] at h
    split at h
    · simp at h
    · next rest target hs =>
      split at h
      · simp at h
      · next sources method hs' =>
        have split := (key sources method target).mpr ⟨rest, hs, hs'⟩
        dsimp only at h
        split at h
        · simp at h
        · next hb =>
          have filled : ∀ piece ∈ splitOn ',' sources, isAllBlank piece = false := by
            simpa using hb
          obtain rfl := Option.some.inj h
          exact .call split filled
  · intro h
    cases h with
    | call split filled =>
      obtain ⟨rest, hs, hs'⟩ := (key _ _ _).mp split
      simpa [readCall, hs, hs'] using filled

theorem readIgnore_eq_some_iff {details : Text} {d : Directive} :
    readIgnore details = some d ↔ Verb.ignore.Details details d := by
  constructor
  · intro h
    simp only [readIgnore, isEmpty_trim] at h
    split at h
    · simp at h
    · next hb =>
      obtain rfl := Option.some.inj h
      exact .ignore (by simpa using hb)
  · intro h
    cases h with
    | ignore filled => simp [readIgnore, isEmpty_trim, filled]

theorem Verb.read_eq_some_iff (v : Verb) {details : Text} {d : Directive} :
    v.read details = some d ↔ v.Details details d := by
  cases v with
  | link => exact readLink_eq_some_iff
  | call => exact readCall_eq_some_iff
  | ignore => exact readIgnore_eq_some_iff

/-! ### Whole lines -/

/-- The verb ends at the first character that is no word character, which has to be a colon. -/
theorem splitVerb_eq_some_iff {t verb details : Text} :
    splitVerb t = some (verb, details) ↔
      t = verb ++ ':' :: details ∧ isWordText verb = true ∧ '\n' ∉ details := by
  constructor
  · intro h
    simp only [splitVerb, drop_takeWhile] at h
    split at h
    · next rest hr =>
      have ht : t = t.takeWhile isWord ++ ':' :: rest := by
        rw [← hr, List.takeWhile_append_dropWhile]
      split at h
      · simp at h
      · next hc =>
        obtain ⟨rfl, rfl⟩ : t.takeWhile isWord = verb ∧ rest = details := by simpa using h
        simp only [Bool.or_eq_true, List.isEmpty_iff, List.contains_iff_mem, not_or] at hc
        refine ⟨ht, isWordText_iff.mpr ⟨hc.1, fun c hm => ?_⟩, hc.2⟩
        exact List.mem_takeWhile_imp hm
    · simp at h
  · rintro ⟨rfl, hw, hn⟩
    obtain ⟨hne, hall⟩ := isWordText_iff.mp hw
    have hcolon : isWord ':' = false := by decide
    have htake : (verb ++ ':' :: details).takeWhile isWord = verb := by
      rw [List.takeWhile_append_of_pos hall, List.takeWhile_cons_of_neg (by simp [hcolon])]
      simp
    simp [splitVerb, htake, hne, hn]

/-- What a read line holds in front of its details. -/
theorem tag_and_verb_iff {line word details : Text} :
    (dropHead? Annotation.tag line).bind splitVerb = some (word, details) ↔
      line = Annotation.tag ++ word ++ ':' :: details ∧ isWordText word = true ∧
        '\n' ∉ details := by
  rw [Option.bind_eq_some_iff]
  constructor
  · rintro ⟨rest, hd, hs⟩
    obtain ⟨ht, hw, hn⟩ := splitVerb_eq_some_iff.mp hs
    rw [eq_append_of_dropHead? hd, ht, List.append_assoc]
    exact ⟨rfl, hw, hn⟩
  · rintro ⟨rfl, hw, hn⟩
    refine ⟨word ++ ':' :: details, ?_, splitVerb_eq_some_iff.mpr ⟨rfl, hw, hn⟩⟩
    rw [List.append_assoc, dropHead?_append]

theorem Directive.read_eq_ok_iff_written {comment : Text} {d : Directive} :
    Directive.read comment = .ok d ↔ Written (trim comment) d := by
  constructor
  · intro h
    simp only [Directive.read] at h
    split at h
    · simp at h
    · next word details hs =>
      obtain ⟨hline, -, hn⟩ := tag_and_verb_iff.mp hs
      split at h
      · simp at h
      · next verb hv =>
        rw [Verb.ofText?_eq_some_iff.mp hv] at hline
        split at h
        · next directive hr =>
          obtain rfl : directive = d := by simpa using h
          exact ⟨verb, details, hline, hn, (verb.read_eq_some_iff).mp hr⟩
        · simp at h
  · rintro ⟨verb, details, hline, hn, hd⟩
    have hs := tag_and_verb_iff.mpr ⟨hline, verb.isWordText_text, hn⟩
    have hr := (verb.read_eq_some_iff).mpr hd
    simp [Directive.read, hs, Verb.ofText?_text, hr]

/-! ### Faults -/

/-- The line that a fault holds. -/
def DirectiveFault.line : DirectiveFault → Text
  | malformed line | unknownVerb line | badDetails line _ => line

/-- Every report starts with the line in brackets. -/
theorem DirectiveFault.bracketed_prefix_message (f : DirectiveFault) :
    '[' :: f.line ++ [']'] <+: f.message := by
  cases f with
  | malformed line =>
    refine ⟨" is not a valid mapwright directive".toList, ?_⟩
    simp [message, DirectiveFault.line]
  | unknownVerb line =>
    refine ⟨" does not contain a recognized directive".toList, ?_⟩
    simp [message, DirectiveFault.line]
  | badDetails line verb =>
    exact ⟨" is not valid config for the ".toList ++ verb.text ++ " directive".toList,
      by simp [message, DirectiveFault.line]⟩

/-- The fault of a refused line holds that line. -/
theorem Directive.line_of_read_eq_error {comment : Text} {f : DirectiveFault}
    (h : Directive.read comment = .error f) : f.line = trim comment := by
  simp only [Directive.read] at h
  split at h
  · obtain rfl := Except.error.inj h
    rfl
  · split at h
    · obtain rfl := Except.error.inj h
      rfl
    · split at h
      · simp at h
      · obtain rfl := Except.error.inj h
        rfl

/-! ### The grammar -/

/-- Reading accepts exactly the lines of the grammar. The arrows that separate the parts of the
details are the last ones, so the parts are determined. A line of another form is a specification
failure whose report holds the line in brackets. -/
theorem Directive.read_exact (comment : Text) :
    (∀ d, Directive.read comment = .ok d ↔ Directive.Written (trim comment) d) ∧
    (∀ details s w, LinkSplit details s w → splitAtLastArrow details = some (s, w) ∧
      ∀ s' w', LinkSplit details s' w' → s' = s ∧ w' = w) ∧
    (∀ details s f w, CallSplit details s f w →
      splitAtLastArrow details = some (s ++ arrow ++ f, w) ∧
        splitAtLastArrow (s ++ arrow ++ f) = some (s, f) ∧
        ∀ s' f' w', CallSplit details s' f' w' → s' = s ∧ f' = f ∧ w' = w) ∧
    ((¬ ∃ d, Directive.Written (trim comment) d) → ∃ fault message,
      Directive.read comment = .error fault ∧
        (MethodFault.directive fault).toFailure = .misspecified message ∧
        '[' :: trim comment ++ [']'] <:+: message) := by
  refine ⟨fun d => Directive.read_eq_ok_iff_written, fun details s w h => ?_,
    fun details s f w h => ?_, fun h => ?_⟩
  · exact ⟨(linkSplit_iff.mp h).1, fun s' w' h' => h'.unique h⟩
  · obtain ⟨outer, inner⟩ := callSplit_iff.mp h
    exact ⟨(linkSplit_iff.mp outer).1, (linkSplit_iff.mp inner).1,
      fun s' f' w' h' => h'.unique h⟩
  · cases hr : Directive.read comment with
    | ok d => exact absurd ⟨d, Directive.read_eq_ok_iff_written.mp hr⟩ h
    | error fault =>
      have hm := fault.bracketed_prefix_message.isInfix
      rw [Directive.line_of_read_eq_error hr] at hm
      exact ⟨fault, fault.message, rfl, rfl, hm⟩

end MapperGen
