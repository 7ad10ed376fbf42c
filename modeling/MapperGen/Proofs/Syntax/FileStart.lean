import MapperGen.Proofs.Syntax.Advance
import MapperGen.Proofs.Syntax.Reading
import MapperGen.Proofs.Syntax.RespacedScan

/-!
# Starts of files

What the first characters of a file are read as. A file that starts with `#` and `!` has an inner
attribute there, so an opening bracket follows; and no file has a byte order mark behind its start.
-/

namespace MapperGen.Syntax

open MapperGen.Syntax.Parser Trees MapperGen.Text

/-! ### First characters -/

/-- A character that begins no literal, bracket or comment. -/
theorem scanOne_other {c : Char} (t : Text) (hgap : isGap c = false)
    (hmark : c ∉ ['/', '(', '[', '\x7b', ')', ']', '\x7d', '"', 'r', 'b', 'c', '\'', '_'])
    (hdigit : c.isDigit = false) (hhex : hexValue? c = none) :
    scanOne (c :: t) = (punct? (c :: t)).or (ident? (c :: t)) := by
  simp only [List.mem_cons, List.not_mem_nil, or_false, not_or] at hmark
  obtain ⟨hslash, hparen, hbracket, hbrace, hparen', hbracket', hbrace', hquote, hr, hb, hc, hchar,
    hlow⟩ := hmark
  have hcomment (d : Char) : startsWith (c :: t) ['/', d] = false := by
    simp [startsWith, dropHead?, Ne.symm hslash]
  have herror : startsWith (c :: t) errorMark = false := by
    rw [errorMark_eq]
    simp [startsWith, dropHead?, Ne.symm hparen]
  have hbrackets : bracket? (c :: t) = none := by
    simp [bracket?, Delimiter.ofOpening?, Delimiter.ofClosing?, *]
  have hform : quotedForm? (c :: t) = none := by
    simp [quotedForm?, quotedForms, startsWith, dropHead?, Ne.symm, *]
  have hliteral : literal? (c :: t) = none := by
    have hfloat : floatDigitsLength (c :: t) = none := by simp [floatDigitsLength, headIs, hdigit]
    have hzero : c ≠ '0' := by
      rintro rfl
      cases hdigit
    have hwhole : wholeDigitsLength (c :: t) = none := by
      rw [wholeDigitsLength_eq fun d r h => absurd (List.cons.inj h).1 hzero]
      simp [baseDigitsLength, hlow, hhex]
    rw [literal?, literalLength_eq, hform]
    simp [numberLength, hfloat, hwhole]
  rw [scanOne, headIs, if_neg (by simp [hgap]), hcomment, hcomment, hbrackets, hliteral]
  rfl

theorem scanOne_byteOrderMark (t : Text) : scanOne (byteOrderMark :: t) = none := by
  rw [scanOne_other t (by decide) (by decide) (by decide) (by decide),
    punct?_of_not_isPunct (by decide +kernel), ident?_of_not_isIdentStart (by decide +kernel)
      (by decide)]
  rfl

theorem scanOne_mark {c : Char} (hc : c ∈ ['#', '!', '&', '*']) (t : Text) :
    ∃ j, scanOne (c :: t) = some (1, [.punct c j]) := by
  simp only [List.mem_cons, List.not_mem_nil, or_false] at hc
  have hpunct : startsPunct (c :: t) ∧ c ≠ '\'' := by
    obtain rfl | rfl | rfl | rfl := hc
    all_goals exact ⟨by simp [startsPunct, headIs, startsComment, startsWith, dropHead?, isPunct],
      by decide⟩
  have hone : punct? (c :: t) = some (1, [.punct c (startsPunct t)]) := by
    simp [punct?, hpunct]
  obtain rfl | rfl | rfl | rfl := hc
  all_goals
    refine ⟨startsPunct t, ?_⟩
    rw [scanOne_other t (by decide) (by decide) (by decide) (by decide), hone, Option.some_or]

/-! ### First trees -/

theorem Nests.cons_punct {index : Nat} {c : Char} {j : Bool} {tokens : List Token}
    {trees : List Tree} (h : Nests index (.punct c j :: tokens) trees) :
    ∃ ts, trees = .punct c j index :: ts ∧ Nests (index + 1) tokens ts := by
  cases h with
  | leaf htree hrest =>
    obtain rfl := Option.some.inj htree
    exact ⟨_, rfl, hrest⟩

theorem Nests.cons_group {index opening closing : Nat} {d : Delimiter} {tokens : List Token}
    {content ts : List Tree} (h : Nests index tokens (.group d content opening closing :: ts)) :
    ∃ rest, tokens = .opening d :: rest := by
  cases h with
  | @leaf _ token _ _ _ htree hrest => cases token <;> cases htree
  | group hcontent hrest => exact ⟨_, rfl⟩

theorem Parser.discard_run_eq_ok_iff {α : Type} {p : Parser α} {c c' : Cursor} {u : Unit} :
    discard p c = .ok (u, c') ↔ ∃ a, p c = .ok (a, c') := by
  have hrun : discard p c = (p c).map fun r => ((), r.2) := rfl
  rw [hrun, map_eq_ok_iff]
  simp

theorem Parser.rest_of_op {symbol : String} {c c' : Cursor} {u : Unit}
    (h : op symbol c = .ok (u, c')) : ∃ trees, operator? symbol.toList c.rest =
      some (trees, c'.rest) := by
  rw [op, ahead_bind_run] at h
  cases hop : operator? symbol.toList c.rest with
  | none =>
    rw [hop] at h
    cases h
  | some r =>
    rw [hop] at h
    cases h
    exact ⟨r.1, rfl⟩

/-- Behind `#` and `!` at the start of a file stands a group in brackets. -/
theorem Grammar.bracket_of_file {r : Rules} {c c' : Cursor} {items : List Item} {j k : Bool}
    {l m : Nat} {ts : Trees} (hrest : c.rest = .punct '#' j l :: .punct '!' k m :: ts)
    (h : Grammar.file r c = .ok (items, c')) : ∃ content opening closing rest,
      ts = .group .bracket content opening closing :: rest := by
  obtain ⟨u, c₁, hinner, -⟩ := bind_run_eq_ok_iff.mp h
  obtain ⟨attributes, hinner⟩ := discard_run_eq_ok_iff.mp hinner
  rw [innerAttributes, whileSees, collect, ahead_bind_run] at hinner
  obtain ⟨o, c₂, hstep, -⟩ := bind_run_eq_ok_iff.mp hinner
  have hsees : (c.rest.atOp "#" && c.rest.behind.atOp "!") = true := by
    rw [hrest]
    simp [atOp, operator?, behind]
  rw [ahead_bind_run, if_pos hsees] at hstep
  obtain ⟨a, c₃, hattribute, -⟩ := bind_run_eq_ok_iff.mp hstep
  obtain ⟨_, c₄, hhash, hattribute⟩ := bind_run_eq_ok_iff.mp hattribute
  obtain ⟨_, c₅, hmark, hgroup⟩ := bind_run_eq_ok_iff.mp hattribute
  obtain ⟨_, hhash⟩ := rest_of_op hhash
  obtain ⟨_, hmark⟩ := rest_of_op hmark
  have hts : c₅.rest = ts := by
    simp [hrest, operator?] at hhash
    simp [← hhash.2, operator?] at hmark
    exact hmark.2.symm
  rw [brackets, inGroup.eq_def, hts] at hgroup
  split at hgroup
  · split at hgroup
    · next hd =>
      subst hd
      exact ⟨_, _, _, _, rfl⟩
    · cases hgroup
  · cases hgroup

end MapperGen.Syntax
