import MapperGen.Proofs.Command.GenerateRun
import MapperGen.Proofs.Output.Formatter

/-!
# Placeholders

Generated code starts with its header, whatever the names and types in it are, since tidying cannot
reach what stands in front of them. A placeholder starts with a mark that no code starts with. So
the text alone tells what was generated, and why there is no code if there is none.
-/

namespace MapperGen

open Text

/-! ### Kinds of generated texts -/

/-- What a generated text is: code, or the placeholder for what cannot be rendered or formatted. -/
inductive OutputKind where
  | code
  | template
  | format
  deriving DecidableEq, Repr

/-- How the texts of a kind start. -/
def OutputKind.start : OutputKind → Text
  | code => "// Code generated by mapwright from".toList
  | template => "<<<TEMPLATE ERROR: ".toList
  | format => "<<<FORMAT ERROR: ".toList

/-- The kind of the placeholder for a fault. -/
def OutputFault.kind : OutputFault → OutputKind
  | template _ => .template
  | format _ => .format

/-- The report in the placeholder for a fault. -/
def OutputFault.report : OutputFault → Text
  | template message | format message => message

/-- The kind of a generated text. -/
def Generated.kind : Generated → OutputKind
  | code _ => .code
  | failed fault => fault.kind

theorem OutputFault.placeholder_eq (f : OutputFault) :
    f.placeholder = f.kind.start ++ (f.report ++ ">>>\n".toList) := by
  cases f with
  | template message =>
    have hdisplay : (template message).display = "TEMPLATE ERROR: ".toList ++ message := rfl
    have hstart : OutputKind.template.start = "<<<".toList ++ "TEMPLATE ERROR: ".toList := by
      decide +kernel
    rw [placeholder, hdisplay, kind, hstart, report]
    simp only [List.append_assoc]
  | format message =>
    have hdisplay : (format message).display = "FORMAT ERROR: ".toList ++ message := rfl
    have hstart : OutputKind.format.start = "<<<".toList ++ "FORMAT ERROR: ".toList := by
      decide +kernel
    rw [placeholder, hdisplay, kind, hstart, report]
    simp only [List.append_assoc]

/-! ### The header -/

theorem Spec.render_start {s : Spec} {imports : List Text} {rendered : Text}
    (h : s.render imports = .ok rendered) : ∃ rest, rendered = OutputKind.code.start ++ rest := by
  obtain ⟨mappers, -, rfl⟩ := map_eq_ok_iff.mp h
  have hstart : "// Code generated by mapwright from ".toList = OutputKind.code.start ++ [' '] := by
    decide +kernel
  rw [header, line, hstart]
  simp only [List.append_assoc]
  exact ⟨_, rfl⟩

/-! ### Starts of generated texts -/

/-- Generated code starts with the header. -/
def Generated.Headed (g : Generated) : Prop := ∀ t, g = .code t → OutputKind.code.start <+: t

theorem Spec.write_headed (s : Spec) (imports : List Text) :
    (s.write imports builtinFormatter).Headed := by
  intro t ht
  rw [Spec.write] at ht
  split at ht
  · cases ht
  · next rendered hrender =>
    split at ht
    · next text hformat =>
      obtain rfl : text = t := Generated.code.inj ht
      obtain ⟨-, rfl⟩ := builtinFormatter_eq_ok_iff.mp hformat
      obtain ⟨rest, rfl⟩ := Spec.render_start hrender
      exact start_tidy (by decide +kernel) (by decide +kernel) (by decide +kernel) rest
    · cases ht

namespace Generated

variable {g : Generated}

theorem Headed.start_text (h : g.Headed) : g.kind.start <+: g.text := by
  cases g with
  | code t => exact h t rfl
  | failed fault =>
    rw [text, OutputFault.placeholder_eq]
    exact List.prefix_append _ _

/-- The start of a generated text decides which texts it starts with, but for those that go on
behind that start. -/
theorem Headed.startsWith_text (h : g.Headed) {head : Text}
    (hhead : g.kind.start <+: head → head <+: g.kind.start) :
    startsWith g.text head ↔ head <+: g.kind.start := by
  rw [Syntax.startsWith_iff]
  constructor
  · intro hpre
    rcases List.prefix_or_prefix_of_prefix hpre h.start_text with hle | hle
    · exact hle
    · exact hhead hle
  · exact fun hpre => hpre.trans h.start_text

/-- No kind of texts starts as another one does. -/
theorem Headed.startsWith_start (h : g.Headed) (k : OutputKind) :
    startsWith g.text k.start ↔ g.kind = k := by
  have happart : ∀ k k' : OutputKind, k.start <+: k'.start ↔ k' = k := by
    intro k k'
    cases k <;> cases k' <;> decide +kernel
  rw [h.startsWith_text fun hpre => (happart _ _).mpr ((happart _ _).mp hpre).symm, happart]

theorem fault?_eq_none_iff : g.fault? = none ↔ g.kind = .code := by
  cases g with
  | code t => exact iff_of_true rfl rfl
  | failed fault => cases fault <;> simp [fault?, kind, OutputFault.kind]

/-- Placeholders start differently from code. -/
theorem Headed.startsWith_mark (h : g.Headed) :
    startsWith g.text "<<<".toList ↔ g.fault? ≠ none := by
  have hmark : ∀ k : OutputKind, ("<<<".toList <+: k.start ↔ k ≠ .code) ∧
      ¬ k.start <+: "<<<".toList := by
    intro k
    cases k <;> decide +kernel
  rw [h.startsWith_text fun hpre => absurd hpre (hmark _).2, (hmark _).1, Ne, Ne,
    fault?_eq_none_iff]

end Generated

/-! ### Causes -/

theorem Spec.write_kind_template_iff {s : Spec} {imports : List Text} {formatter : Formatter} :
    (s.write imports formatter).kind = .template ↔ ∃ fault, s.render imports = .error fault := by
  rw [Spec.write]
  cases s.render imports with
  | error fault => exact iff_of_true rfl ⟨fault, rfl⟩
  | ok rendered =>
    cases hformat : formatter rendered <;> simp [hformat, Generated.kind, OutputFault.kind]

theorem Spec.write_kind_format_iff {s : Spec} {imports : List Text} {formatter : Formatter} :
    (s.write imports formatter).kind = .format ↔
      ∃ rendered message, s.render imports = .ok rendered ∧
        formatter rendered = .error message := by
  rw [Spec.write]
  cases s.render imports with
  | error fault => simp [Generated.kind, OutputFault.kind]
  | ok rendered =>
    cases hformat : formatter rendered <;>
      simp [hformat, Generated.kind, OutputFault.kind]

/-! ### Reading a generated text -/

/-- What a text stands for: a placeholder if it starts as one does, and else code. -/
def Generated.ofText (t : Text) : Generated :=
  match dropHead? OutputKind.template.start t, dropHead? OutputKind.format.start t with
  | some rest, _ => .failed (.template (rest.take (rest.length - 4)))
  | none, some rest => .failed (.format (rest.take (rest.length - 4)))
  | none, none => .code t

theorem Generated.Headed.ofText_text {g : Generated} (h : g.Headed) : ofText g.text = g := by
  have hnone {k : OutputKind} (hk : g.kind ≠ k) : dropHead? k.start g.text = none := by
    rw [← Option.not_isSome_iff_eq_none]
    exact fun hstart => hk ((h.startsWith_start k).mp hstart)
  have hreport (report : Text) : (report ++ ">>>\n".toList).take
      ((report ++ ">>>\n".toList).length - 4) = report := by
    have hlength : (report ++ ">>>\n".toList).length - 4 = report.length := by
      rw [List.length_append]
      exact Nat.add_sub_cancel _ _
    rw [hlength, List.take_left]
  cases g with
  | code t =>
    rw [ofText, hnone (by simp [kind]), hnone (by simp [kind])]
    rfl
  | failed fault =>
    cases fault with
    | template message =>
      rw [ofText, text, OutputFault.placeholder_eq]
      simp only [OutputFault.kind, OutputFault.report, dropHead?_append, hreport]
    | format message =>
      rw [ofText, hnone (by simp [kind, OutputFault.kind]), text, OutputFault.placeholder_eq]
      simp only [OutputFault.kind, OutputFault.report, dropHead?_append, hreport]

/-- The text that a spec becomes tells what it is: code and placeholders start differently, and so
do the placeholders for what cannot be rendered and for what cannot be formatted. -/
theorem Spec.generate_told (s : Spec) (imports : List Text) :
    (s.generate imports builtinFormatter = none ↔ s.mappers = []) ∧
      ∀ g, s.generate imports builtinFormatter = some g →
        (startsWith g.text "<<<".toList ↔ g.fault? ≠ none) ∧
        (startsWith g.text "// Code generated by mapwright from".toList ↔ g.fault? = none) ∧
        (startsWith g.text "<<<TEMPLATE ERROR: ".toList ↔
          ∃ fault, s.render imports = .error fault) ∧
        (startsWith g.text "<<<FORMAT ERROR: ".toList ↔
          ∃ rendered message, s.render imports = .ok rendered ∧
            builtinFormatter rendered = .error message) ∧
        (g.fault? ≠ none → ">>>\n".toList <:+ g.text) ∧
        Generated.ofText g.text = g := by
  refine ⟨Spec.generate_eq_none_iff, fun g hg => ?_⟩
  obtain rfl : s.write imports builtinFormatter = g := by
    rw [Spec.generate] at hg
    split at hg
    · cases hg
    · exact Option.some.inj hg
  have hheaded := s.write_headed imports
  refine ⟨hheaded.startsWith_mark, ?_, ?_, ?_, ?_, hheaded.ofText_text⟩
  · exact (hheaded.startsWith_start .code).trans Generated.fault?_eq_none_iff.symm
  · exact (hheaded.startsWith_start .template).trans Spec.write_kind_template_iff
  · exact (hheaded.startsWith_start .format).trans Spec.write_kind_format_iff
  · intro hfault
    cases hwrite : s.write imports builtinFormatter with
    | code t => exact absurd (by rw [hwrite]; rfl) hfault
    | failed fault => exact List.suffix_append _ _

/-- A spec whose module name ends its line in blanks, and the header goes on below. -/
def splitHeader : Spec := ⟨"a \n\n// b".toList, [⟨['M'], []⟩]⟩

/-- The code for it. -/
def splitHeaderCode : Generated :=
  .code ("// Code generated by mapwright from a\n\n// b. DO NOT EDIT.\n\n".toList ++
    "#[derive(Debug, Clone, Copy, Default)]\npub struct MImpl;\n\nimpl MImpl \x7b\x7d\n".toList)

theorem Spec.generate_told_splitHeader :
    splitHeader.generate [] builtinFormatter = some splitHeaderCode ∧
      startsWith splitHeaderCode.text "// Code generated by mapwright from".toList ∧
      Generated.ofText splitHeaderCode.text = splitHeaderCode :=
  have hgenerate : splitHeader.generate [] builtinFormatter = some splitHeaderCode := by
    decide +kernel
  have htold := (Spec.generate_told splitHeader []).2 splitHeaderCode hgenerate
  ⟨hgenerate, htold.2.1.mpr rfl, htold.2.2.2.2.2⟩

end MapperGen
