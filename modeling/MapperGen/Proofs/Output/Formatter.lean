import MapperGen.Proofs.Output.Tidy
import MapperGen.Proofs.Syntax.FileStart
import MapperGen.Proofs.Syntax.TraitNames

/-!
# The built-in formatter

The formatter that needs no other program gives a text of the same tokens, nested in the same way,
and formatting it again changes nothing. Two places need care. What stands at the start of a text
decides whether its first line names an interpreter, and tidying takes away blanks at the start. And
a literal or comment of several lines is tidied as other lines are.
-/

namespace MapperGen

open Syntax Text

/-! ### Gaps in front of a bracket -/

/-- Nothing but gaps and comments that do not document stands in front of an opening bracket. -/
inductive Bracketed : Text → Prop
  | here (t : Text) : Bracketed ('[' :: t)
  | gap {n : Nat} {t : Text} (h : scanOne t = some (n + 1, []))
      (hlater : Bracketed (t.drop (n + 1))) : Bracketed t

-- else the scanner is run on a variable wherever a match on its answer is looked at
attribute [local irreducible] scanOne

theorem skipGaps_zero (c : Char) (t : Text) : skipGaps 0 (c :: t) =
    match scanOne (c :: t) with
    | some (n + 1, []) => skipGaps n t
    | _ => c :: t := rfl

theorem skipGaps_passed (n : Nat) (t : Text) : skipGaps n t = skipGaps 0 (t.drop n) := by
  induction t generalizing n with
  | nil =>
    rw [List.drop_nil]
    rfl
  | cons c t ih =>
    cases n with
    | zero => rfl
    | succ n => exact ih n

theorem scanOne_nil {n : Nat} {tokens : List Token} : scanOne [] ≠ some (n + 1, tokens) :=
  fun h => absurd (scanOne_le h) (by simp)

theorem skipGaps_of_scanOne {n : Nat} {t : Text} (h : scanOne t = some (n + 1, [])) :
    skipGaps 0 t = skipGaps 0 (t.drop (n + 1)) := by
  cases t with
  | nil => exact absurd h scanOne_nil
  | cons c t =>
    rw [skipGaps_zero, h]
    exact skipGaps_passed n t

theorem startsWith_skipGaps_iff {t : Text} : startsWith (skipGaps 0 t) ['['] ↔ Bracketed t := by
  constructor
  · intro h
    induction hlength : t.length using Nat.strong_induction_on generalizing t with
    | _ length ih =>
      cases t with
      | nil => cases h
      | cons c t =>
        rw [skipGaps_zero] at h
        split at h
        · next n hgap =>
          have hle := scanOne_le hgap
          rw [skipGaps_passed] at h
          refine .gap hgap (ih _ ?_ h rfl)
          rw [List.drop_succ_cons, List.length_drop]
          rw [List.length_cons] at hle hlength
          omega
        · rw [startsWith_singleton, beq_iff_eq] at h
          rw [h]
          exact .here t
  · intro h
    induction h with
    | here t =>
      have hmark : ¬ startsWith ('[' :: t) errorMark := by
        rw [errorMark_eq]
        simp [startsWith, dropHead?]
      have hbracket : scanOne ('[' :: t) = some (1, [.opening .bracket]) :=
        scanOne_opening (d := .bracket) hmark
      rw [skipGaps_zero, hbracket]
      simp [startsWith, dropHead?]
    | gap h hlater ih => rwa [skipGaps_of_scanOne h]

theorem bracketed_reflow_iff {s t : Text} (h : Reflow s t) : Bracketed s ↔ Bracketed t := by
  constructor
  · intro hs
    induction hs generalizing t with
    | here s =>
      obtain ⟨t, rfl, -⟩ := h.of_cons (by decide)
      exact .here t
    | gap hgap hlater ih =>
      obtain ⟨m, tokens', ht, htokens, hrest⟩ := scanOne_reflow h hgap
      cases htokens
      exact .gap ht (ih hrest)
  · intro ht
    induction ht generalizing s with
    | here t =>
      obtain ⟨s, rfl, -⟩ := h.to_cons (by decide)
      exact .here s
    | gap hgap hlater ih =>
      rcases scanOne_nil_reflow h hgap with hend | ⟨n, hs, hrest⟩
      · rw [hend] at hlater
        cases hlater with
        | gap hnil => exact absurd hnil scanOne_nil
      · exact .gap hs (ih hrest)

/-! ### The start of a text -/

theorem markLength_reflow {s t : Text} (h : Reflow s t) :
    Reflow (s.drop (markLength s)) (t.drop (markLength t)) := by
  have hmark : [byteOrderMark].all (!isBlank ·) := by decide
  rw [markLength, markLength, ← startsWith_reflow h hmark]
  split
  · next hstart =>
    obtain ⟨r, rfl⟩ := startsWith_iff.mp hstart
    obtain ⟨r', rfl, hr⟩ := h.of_append (by simp [isBlank, byteOrderMark])
    exact hr
  · exact h

theorem sourceOf_eq (t : Text) : sourceOf t = dropInterpreter (t.drop (markLength t)) := by
  rw [sourceOf, markLength]
  split
  · next hstart =>
    obtain ⟨r, rfl⟩ := startsWith_iff.mp hstart
    rw [dropHead?_append]
    rfl
  · next hstart =>
    rw [startsWith, Bool.not_eq_true, Option.isSome_eq_false_iff, Option.isNone_iff_eq_none]
      at hstart
    rw [hstart]
    rfl

theorem dropInterpreter_of_bracketed {t : Text} (h : Bracketed t) :
    dropInterpreter ("#!".toList ++ t) = "#!".toList ++ t := by
  rw [dropInterpreter, dropHead?_append]
  exact if_pos (startsWith_skipGaps_iff.mpr h)

theorem dropInterpreter_of_not_bracketed {t : Text} (h : ¬ Bracketed t) :
    dropInterpreter ("#!".toList ++ t) = ("#!".toList ++ t).dropWhile (· != '\n') := by
  rw [dropInterpreter, dropHead?_append]
  exact if_neg fun hstart => h (startsWith_skipGaps_iff.mp hstart)

theorem dropInterpreter_of_not_startsWith {t : Text} (h : ¬ startsWith t "#!".toList) :
    dropInterpreter t = t := by
  rw [startsWith, Bool.not_eq_true, Option.isSome_eq_false_iff, Option.isNone_iff_eq_none] at h
  rw [dropInterpreter, h]

theorem dropInterpreter_reflow {s t : Text} (h : Reflow s t) :
    Reflow (dropInterpreter s) (dropInterpreter t) := by
  by_cases hstart : startsWith s "#!".toList
  · obtain ⟨r, rfl⟩ := startsWith_iff.mp hstart
    obtain ⟨r', rfl, hr⟩ := h.of_append (by simp [isBlank])
    by_cases hbracket : Bracketed r
    · rw [dropInterpreter_of_bracketed hbracket,
        dropInterpreter_of_bracketed ((bracketed_reflow_iff hr).mp hbracket)]
      exact h
    · rw [dropInterpreter_of_not_bracketed hbracket,
        dropInterpreter_of_not_bracketed fun h => hbracket ((bracketed_reflow_iff hr).mpr h),
        ← drop_takeWhile, ← drop_takeWhile]
      exact lineLength_reflow h
  · rw [dropInterpreter_of_not_startsWith hstart, dropInterpreter_of_not_startsWith]
    · exact h
    · rwa [← startsWith_reflow h]

theorem sourceOf_reflow {s t : Text} (h : Reflow s t) : Reflow (sourceOf s) (sourceOf t) := by
  rw [sourceOf_eq, sourceOf_eq]
  exact dropInterpreter_reflow (markLength_reflow h)

/-! ### Tokens of the tidied text -/

theorem bracketed_of_scans {offset : Nat} {t : Text} {placed : List Placed} {tokens : List Token}
    (h : Scans [] offset t placed) (hhead : placed.map Placed.token = .opening .bracket :: tokens) :
    Bracketed t := by
  induction h with
  | nil => cases hhead
  | @step offset n t read later h hn hlater ih =>
    rw [List.append_nil] at h
    cases read with
    | nil => exact .gap h (ih hhead)
    | cons token read =>
      obtain rfl : token = .opening .bracket := (List.cons.inj hhead).1
      rcases scanOne_cases h with (heq | ⟨inner, content, heq⟩) | htoken
      · cases heq
      · cases inner <;> cases heq
      · obtain ⟨token, heq, hleads⟩ := token?_eq_some htoken
        obtain ⟨rfl, -⟩ := List.cons.inj heq
        cases hleads with
        | opening d rest => exact .here rest

theorem scanOne_gap {t : Text} (h : headIs isGap t) :
    scanOne t = some ((t.takeWhile isGap).length, []) := by
  rw [scanOne, if_pos h]

theorem scans_of_dropWhile {t : Text} {P : List Token → Prop}
    (h : ∀ offset, ∃ placed, Scans [] offset (t.dropWhile isGap) placed ∧
      P (placed.map Placed.token)) :
    ∃ placed, Scans [] 0 t placed ∧ P (placed.map Placed.token) := by
  by_cases hgap : headIs isGap t
  · have hone := scanOne_gap hgap
    obtain ⟨n, hn⟩ : ∃ n, (t.takeWhile isGap).length = n + 1 := by
      cases t with
      | nil => cases hgap
      | cons c t => exact ⟨_, by rw [List.takeWhile_cons_of_pos (p := isGap) hgap, List.length_cons]⟩
    have hdrop := drop_takeWhile isGap t
    rw [hn] at hone hdrop
    obtain ⟨placed, hscans, hplaced⟩ := h (0 + (n + 1))
    rw [← hdrop] at hscans
    rw [← List.append_nil t] at hone
    have hstep := Scans.step hone (by simpa using scanOne_le hone) hscans
    exact ⟨placed, hstep, hplaced⟩
  · have ht : t.dropWhile isGap = t := by
      cases t with
      | nil => rfl
      | cons c t => exact List.dropWhile_cons_of_neg hgap
    rw [ht] at h
    exact h 0

theorem scans_dropWhile {offset : Nat} {t : Text} {placed : List Placed} (hgap : headIs isGap t)
    (h : Scans [] offset t placed) : ∃ offset', Scans [] offset' (t.dropWhile isGap) placed := by
  cases h with
  | nil => cases hgap
  | @step _ n _ tokens later h hn hlater =>
    rw [List.append_nil, scanOne_gap hgap] at h
    obtain ⟨hlength, rfl⟩ := Prod.mk.inj (Option.some.inj h)
    rw [← hlength, drop_takeWhile] at hlater
    exact ⟨_, hlater⟩

theorem scans_mark {offset : Nat} {c : Char} {t : Text} {placed : List Placed}
    (hc : c ∈ ['#', '!', '&', '*']) (h : Scans [] offset (c :: t) placed) : ∃ j later,
      placed.map Placed.token = .punct c j :: later.map Placed.token ∧
        Scans [] (offset + 1) t later := by
  cases h with
  | @step _ n _ tokens later h hn hlater =>
    obtain ⟨j, hone⟩ := scanOne_mark hc t
    rw [List.append_nil, hone] at h
    cases h
    exact ⟨j, later, rfl, hlater⟩

/-- Behind a gap a file goes on with neither a byte order mark nor the name of an interpreter. -/
theorem sourceOf_of_scans {offset : Nat} {r : Rules} {t : Text} {placed : List Placed}
    {trees : List Tree} {items : List Item} (h : Scans [] offset (t.dropWhile isGap) placed)
    (hnests : Nests 0 (placed.map Placed.token) trees)
    (hfile : (Grammar.file r).runAll trees = .ok items) : sourceOf t = t ∧ markLength t = 0 := by
  have hmark : ¬ startsWith t [byteOrderMark] := by
    intro hstart
    obtain ⟨u, rfl⟩ := startsWith_iff.mp hstart
    rw [List.singleton_append, List.dropWhile_cons_of_neg (by decide)] at h
    cases h with
    | step h hn hlater =>
      rw [List.append_nil, scanOne_byteOrderMark] at h
      cases h
  have hzero : markLength t = 0 := by rw [markLength, if_neg hmark]
  refine ⟨?_, hzero⟩
  rw [sourceOf_eq, hzero, List.drop_zero]
  by_cases hstart : startsWith t "#!".toList
  · obtain ⟨u, rfl⟩ := startsWith_iff.mp hstart
    have hcons : "#!".toList ++ u = '#' :: '!' :: u := rfl
    rw [hcons, List.dropWhile_cons_of_neg (by decide)] at h
    obtain ⟨j, later, heq, hlater⟩ := scans_mark (by simp) h
    obtain ⟨k, later', heq', hlater'⟩ := scans_mark (by simp) hlater
    rw [heq, heq'] at hnests
    obtain ⟨ts, rfl, hbehind⟩ := hnests.cons_punct
    obtain ⟨ts', rfl, hbehind'⟩ := hbehind.cons_punct
    obtain ⟨c', hrun⟩ := Parser.run_of_runAll hfile
    obtain ⟨content, opening, closing, rest, rfl⟩ := Grammar.bracket_of_file rfl hrun
    obtain ⟨tokens, htokens⟩ := hbehind'.cons_group
    exact dropInterpreter_of_bracketed (bracketed_of_scans hlater' htokens)
  · exact dropInterpreter_of_not_startsWith hstart

/-- The tokens of a file, with other blanks at the ends of their lines, are those of its tidied
text. -/
theorem exists_scans_tidy {s : Text} {file : SourceFile}
    (h : SourceFile.read (sourceOf s) = .ok file) : ∃ placed,
      Scans [] (markLength (sourceOf (tidy s)))
        ((sourceOf (tidy s)).drop (markLength (sourceOf (tidy s)))) placed ∧
      List.Forall₂ Token.Respaced (file.tokens.placed.toList.map Placed.token)
        (placed.map Placed.token) := by
  obtain ⟨front, rest, hsplit, hfront, hrest⟩ := reflow_tidy s
  obtain ⟨hread, hfile⟩ := SourceFile.read_eq_ok_iff.mp h
  obtain ⟨placed, hscans, hnests, hplaced, -⟩ := Tokens.read_eq_ok_iff.mp hread
  rw [hplaced]
  cases front with
  | nil =>
    rw [List.nil_append] at hsplit
    subst hsplit
    exact hscans.reflow (markLength_reflow (sourceOf_reflow hrest)) _
  | cons c front =>
    have hc : isBlank c := hfront c List.mem_cons_self
    have hstart {head : Char} (hhead : isBlank head = false) (tail : Text) :
        ¬ startsWith s (head :: tail) := by
      rw [hsplit]
      simp [startsWith, dropHead?, (ne_of_isBlank hc hhead).symm]
    have hzero : markLength s = 0 := by rw [markLength, if_neg (hstart (by decide) _)]
    have hsource : sourceOf s = s := by
      rw [sourceOf_eq, hzero, List.drop_zero, dropInterpreter_of_not_startsWith]
      exact hstart (by decide) _
    rw [hsource, hzero, List.drop_zero] at hscans
    obtain ⟨offset, hscans⟩ := scans_dropWhile (by rw [hsplit]; exact isGap_of_isBlank hc) hscans
    have hgone : s.dropWhile isGap = rest.dropWhile isGap := by
      rw [hsplit]
      exact List.dropWhile_append_of_pos fun d hd => isGap_of_isBlank (hfront d hd)
    rw [hgone] at hscans
    have hrest' := hrest.dropWhile (p := isGap) fun d => isGap_of_isBlank
    obtain ⟨placed', hscans', htokens⟩ := hscans.reflow hrest' 0
    obtain ⟨hsource', hzero'⟩ := sourceOf_of_scans hscans' (hnests.respaced htokens) hfile
    rw [hsource', hzero', List.drop_zero]
    exact scans_of_dropWhile fun o => hscans.reflow hrest' o

/-! ### Formatting -/

/-- The sources in two texts have tokens that correspond one to one and in order, and that nest to
the same trees. -/
def KeepsTokens (R : Token → Token → Prop) (s t : Text) : Prop :=
  ∃ before after : Tokens, Tokens.read (sourceOf s) = .ok before ∧
    Tokens.read (sourceOf t) = .ok after ∧ after.trees = before.trees ∧
      List.Forall₂ R before.sequence after.sequence

theorem builtinFormatter_eq_ok_iff {s t : Text} : builtinFormatter s = .ok t ↔
    (∃ file, SourceFile.read (sourceOf s) = .ok file) ∧ t = tidy s := by
  rw [builtinFormatter]
  split
  · next file hfile => simp [hfile, eq_comm]
  · next fault hfault => simp [hfault]

theorem read_tidy {s : Text} {file : SourceFile} (h : SourceFile.read (sourceOf s) = .ok file) :
    ∃ after : SourceFile, SourceFile.read (sourceOf (tidy s)) = .ok after ∧
      after.tokens.trees = file.tokens.trees ∧
        List.Forall₂ Token.Respaced file.tokens.sequence after.tokens.sequence := by
  obtain ⟨placed, hscans, htokens⟩ := exists_scans_tidy h
  obtain ⟨hread, hfile⟩ := SourceFile.read_eq_ok_iff.mp h
  obtain ⟨before, -, hnests, hplaced, -⟩ := Tokens.read_eq_ok_iff.mp hread
  rw [hplaced] at htokens hfile
  have hsize : placed.length = before.length := by simpa using htokens.length_eq.symm
  refine ⟨⟨⟨sourceOf (tidy s), placed.toArray, file.tokens.trees⟩, file.items⟩, ?_, rfl, ?_⟩
  · rw [SourceFile.read_eq_ok_iff, Tokens.read_eq_ok_iff]
    refine ⟨⟨placed, hscans, hnests.respaced htokens, rfl, rfl⟩, ?_⟩
    rw [List.size_toArray] at hfile ⊢
    rwa [hsize]
  · rw [Tokens.sequence, hplaced]
    exact htokens

/-- Formatting keeps all tokens and their nesting, but for the blanks at the ends of lines and the
empty lines in comments that document and in quoted literals of several lines. -/
theorem builtinFormatter_keepsTokens (s t : Text) (h : builtinFormatter s = .ok t) :
    KeepsTokens Token.Respaced s t := by
  obtain ⟨⟨file, hfile⟩, rfl⟩ := builtinFormatter_eq_ok_iff.mp h
  obtain ⟨after, hafter, htrees, htokens⟩ := read_tidy hfile
  exact ⟨file.tokens, after.tokens, (SourceFile.read_eq_ok_iff.mp hfile).1,
    (SourceFile.read_eq_ok_iff.mp hafter).1, htrees, htokens⟩

/-- A constant that is a text of two lines, with blanks at the end of the first one. -/
def twoLines : Text := "const A: &str = \"a  \nb\";\n".toList

theorem builtinFormatter_keepsTokens_twoLines : KeepsTokens Token.Respaced twoLines
    "const A: &str = \"a\nb\";\n".toList :=
  builtinFormatter_keepsTokens _ _ (eq_ok_of_toOption (by decide +kernel))

/-- The same token, but that comments may differ in blanks at the ends of lines and in empty
lines. -/
def Syntax.Token.SameButComments : Token → Token → Prop
  | .comment a, .comment b => inkLines a = inkLines b
  | a, b => a = b

/-- A literal of several lines does not keep what it says. -/
theorem builtinFormatter_changes_literal :
    ¬ ∀ s t : Text, builtinFormatter s = .ok t → KeepsTokens Token.SameButComments s t := by
  intro h
  obtain ⟨before, after, hbefore, hafter, -, htokens⟩ := h twoLines
    "const A: &str = \"a\nb\";\n".toList (eq_ok_of_toOption (by decide +kernel))
  have hsequence {t : Text} {s : Tokens} {lexeme : Text} (hread : Tokens.read (sourceOf t) = .ok s)
      (hlexeme : ((Tokens.read (sourceOf t)).toOption.map fun s => s.sequence[6]?) =
        some (some (.literal lexeme))) : s.sequence[6]? = some (.literal lexeme) := by
    rw [hread] at hlexeme
    exact Option.some.inj hlexeme
  have hbefore' : before.sequence[6]? = some (.literal "\"a  \nb\"".toList) :=
    hsequence hbefore (by decide +kernel)
  have hafter' : after.sequence[6]? = some (.literal "\"a\nb\"".toList) :=
    hsequence hafter (by decide +kernel)
  have hpair : (before.sequence.zip after.sequence)[6]? =
      some (.literal "\"a  \nb\"".toList, .literal "\"a\nb\"".toList) :=
    List.getElem?_zip_eq_some.mpr ⟨hbefore', hafter'⟩
  have hsame : Token.literal "\"a  \nb\"".toList = Token.literal "\"a\nb\"".toList :=
    List.forall₂_zip htokens (List.mem_of_getElem? hpair)
  revert hsame
  decide

/-- What is formatted is formatted already. -/
theorem builtinFormatter_idempotent (s t : Text) (h : builtinFormatter s = .ok t) :
    builtinFormatter t = .ok t := by
  obtain ⟨⟨file, hfile⟩, rfl⟩ := builtinFormatter_eq_ok_iff.mp h
  obtain ⟨after, hafter, -⟩ := read_tidy hfile
  exact builtinFormatter_eq_ok_iff.mpr ⟨⟨after, hafter⟩, (tidy_tidy s).symm⟩

/-- An inner attribute that tidying moves to the start, in front of a block comment. -/
def lateAttribute : Text := " \n\n#![a]  \n/* b \n\n\n c */ fn f() \x7b\x7d".toList

theorem builtinFormatter_idempotent_lateAttribute :
    builtinFormatter "#![a]\n/* b\n\n c */ fn f() \x7b\x7d\n".toList =
      .ok "#![a]\n/* b\n\n c */ fn f() \x7b\x7d\n".toList :=
  builtinFormatter_idempotent lateAttribute _ (eq_ok_of_toOption (by decide +kernel))

end MapperGen
