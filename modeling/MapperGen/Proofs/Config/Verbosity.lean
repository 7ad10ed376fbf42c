import Mathlib.Data.List.Induction
import Mathlib.Tactic.IntervalCases
import MapperGen.Config.Basic

/-!
# Verbosity

The texts that a configuration accepts as levels are the empty text, names in any case and numerals.
A name is raised by as many steps as are asked for, up to `trace`. A numeral and the empty text are
accepted as well but not raised: whatever the steps, they denote the level that they denote.
-/

namespace MapperGen

namespace LogLevel

/-! ### The order of levels -/

theorem rank_le (l : LogLevel) : l.rank ≤ 5 := by cases l <;> decide

theorem rank_injective {l l' : LogLevel} (h : l.rank = l'.rank) : l = l' := by
  rw [← ofRank_rank l, h, ofRank_rank]

theorem all_getElem?_eq_some_iff {n : Nat} {l : LogLevel} : all[n]? = some l ↔ l.rank = n := by
  constructor
  · intro h
    have hn : n < 6 := (List.getElem?_eq_some_iff.mp h).choose
    interval_cases n <;> cases h <;> rfl
  · rintro rfl
    cases l <;> rfl

theorem rank_ofRank (n : Nat) : (ofRank n).rank = min n 5 := by
  by_cases hn : n < 6
  · interval_cases n <;> rfl
  · have hlast : all.getD n trace = trace := by
      rw [List.getD_eq_getElem?_getD, List.getElem?_eq_none (by simp [all]; omega)]
      rfl
    rw [ofRank, hlast, rank]
    omega

/-- A level is raised by as many steps as are asked for, but not beyond the last one. -/
theorem rank_raise (l : LogLevel) (steps : Nat) : (l.raise steps).rank = min (l.rank + steps) 5 :=
  rank_ofRank _

theorem raise_raise (l : LogLevel) (m n : Nat) : (l.raise m).raise n = l.raise (m + n) := by
  apply rank_injective
  rw [rank_raise, rank_raise, rank_raise]
  omega

theorem raise_eq_self_iff {l : LogLevel} {n : Nat} : l.raise n = l ↔ n = 0 ∨ l = trace := by
  have hrank : l.raise n = l ↔ (l.raise n).rank = l.rank := ⟨congrArg rank, rank_injective⟩
  have htrace : l = trace ↔ l.rank = 5 := ⟨fun h => by rw [h]; rfl, fun h => rank_injective h⟩
  have hle := l.rank_le
  rw [hrank, htrace, rank_raise]
  omega

/-! ### Names -/

theorem named?_eq_some_iff {t : Text} {l : LogLevel} : named? t = some l ↔ t = l.name := by
  constructor
  · intro h
    have hname := List.find?_some h
    exact (eq_of_beq hname).symm
  · rintro rfl
    cases l <;> decide

theorem lowercase_name (l : LogLevel) : lowercase l.name = l.name := by cases l <;> decide

/-- Is the text a name, in any case? -/
def isName (t : Text) : Bool := (named? (lowercase t)).isSome

theorem isName_iff {t : Text} : isName t = true ↔ ∃ l : LogLevel, lowercase t = l.name := by
  simp only [isName, Option.isSome_iff_exists, named?_eq_some_iff]

/-! ### Numerals -/

/-- A plus sign, or nothing. -/
def sign (plus : Bool) : Text := if plus then ['+'] else []

/-- The number that digits write. -/
def digitsValue (digits : Text) : Nat :=
  digits.foldl (fun n c => 10 * n + (c.toNat - '0'.toNat)) 0

theorem digitsValue_append_digit (digits : Text) (c : Char) :
    digitsValue (digits ++ [c]) = 10 * digitsValue digits + (c.toNat - '0'.toNat) := by
  rw [digitsValue, List.foldl_append]
  rfl

theorem digitsValue_zeros (zeros : Nat) : digitsValue (List.replicate zeros '0') = 0 := by
  induction zeros with
  | zero => rfl
  | succ zeros ih =>
    rw [List.replicate_succ', digitsValue_append_digit, ih]
    rfl

theorem isDigit_iff {c : Char} : c.isDigit = true ↔ 48 ≤ c.toNat ∧ c.toNat ≤ 57 := by
  rw [Char.isDigit, Bool.and_eq_true, decide_eq_true_eq, decide_eq_true_eq]
  rfl

theorem eq_zero_of_digitsValue {digits : Text} (h : ∀ c ∈ digits, c.isDigit)
    (hvalue : digitsValue digits = 0) : digits = List.replicate digits.length '0' := by
  rw [List.eq_replicate_iff]
  refine ⟨rfl, ?_⟩
  induction digits using List.reverseRecOn with
  | nil => simp
  | append_singleton digits c ih =>
    rw [List.forall_mem_append, List.forall_mem_singleton] at h
    rw [digitsValue_append_digit] at hvalue
    have hzero : c.toNat = '0'.toNat := by
      have hrange := isDigit_iff.mp h.2
      have : '0'.toNat = 48 := rfl
      omega
    rw [List.forall_mem_append, List.forall_mem_singleton]
    exact ⟨ih h.1 (by omega), Char.toNat_inj.mp hzero⟩

/-- A numeral has digits behind what may be a plus sign. -/
theorem numeral?_eq_some_iff {t : Text} {n : Nat} : numeral? t = some n ↔
    ∃ plus digits, t = sign plus ++ digits ∧ digits ≠ [] ∧
      (∀ c ∈ digits, c.isDigit) ∧ digitsValue digits = n := by
  have hvalue (digits : Text) : (if digits.isEmpty || !digits.all Char.isDigit then none
      else some (digitsValue digits)) = some n ↔
      digits ≠ [] ∧ (∀ c ∈ digits, c.isDigit) ∧ digitsValue digits = n := by
    simp [and_assoc]
  constructor
  · intro h
    cases hplus : Text.dropHead? ['+'] t with
    | some digits =>
      rw [numeral?, hplus] at h
      exact ⟨true, digits, Text.eq_append_of_dropHead? hplus, (hvalue digits).mp h⟩
    | none =>
      rw [numeral?, hplus] at h
      exact ⟨false, t, rfl, (hvalue t).mp h⟩
  · rintro ⟨plus, digits, rfl, hdigits⟩
    have hdrop : (Text.dropHead? ['+'] (sign plus ++ digits)).getD
        (sign plus ++ digits) = digits := by
      cases plus with
      | true => exact congrArg (Option.getD · _) (Text.dropHead?_append ['+'] digits)
      | false =>
        obtain ⟨c, rest, rfl⟩ := List.exists_cons_of_ne_nil hdigits.1
        have hc : '+' ≠ c := by
          rintro rfl
          exact absurd (hdigits.2.1 '+' List.mem_cons_self) (by decide)
        simp [sign, Text.dropHead?, hc]
    rw [numeral?, hdrop]
    exact (hvalue digits).mpr hdigits

theorem lowercase_of_numeral {t : Text} {n : Nat} (h : numeral? t = some n) : lowercase t = t := by
  obtain ⟨plus, digits, rfl, -, hdigits, -⟩ := numeral?_eq_some_iff.mp h
  have hlower : ∀ c ∈ digits, c.toLower = c := by
    intro c hc
    have hrange := isDigit_iff.mp (hdigits c hc)
    apply dif_neg
    rintro ⟨hcapital, -⟩
    have hcapital : 65 ≤ c.toNat := hcapital
    omega
  have hmap : digits.map Char.toLower = digits := by
    rw [List.map_congr_left hlower, List.map_id']
  rw [lowercase, List.map_append, hmap]
  cases plus <;> rfl

theorem numeral?_of_isName {t : Text} (h : isName t = true) : numeral? t = none := by
  obtain ⟨l, hl⟩ := isName_iff.mp h
  cases hn : numeral? t with
  | none => rfl
  | some n =>
    rw [lowercase_of_numeral hn] at hl
    rw [hl] at hn
    cases l <;> cases hn

/-! ### Texts that denote levels -/

/-- The digit that stands for a level. -/
def digit (l : LogLevel) : Char := Nat.digitChar l.rank

theorem digit_eq {l : LogLevel} {c : Char} (h : c.toNat = 48 + l.rank) : c = l.digit := by
  have hle := l.rank_le
  apply Char.toNat_inj.mp
  rw [h, digit, Nat.toNat_digitChar_of_lt_ten (by omega)]

/-- The texts that denote a level: its name in any case, its digit behind zeros and what may be a
plus sign, and nothing at all for `error`. -/
inductive Spelling : Text → LogLevel → Prop
  | blank : Spelling [] .error
  | named {t : Text} {l : LogLevel} (h : lowercase t = l.name) : Spelling t l
  | numeral (plus : Bool) (zeros : Nat) (l : LogLevel) :
      Spelling (sign plus ++ (List.replicate zeros '0' ++ [l.digit])) l

theorem numeral?_eq_rank_iff {t : Text} {l : LogLevel} : numeral? t = some l.rank ↔
    ∃ plus zeros, t = sign plus ++ (List.replicate zeros '0' ++ [l.digit]) := by
  have hle := l.rank_le
  rw [numeral?_eq_some_iff]
  constructor
  · rintro ⟨plus, digits, rfl, hne, hdigits, hvalue⟩
    obtain ⟨front, c, rfl⟩ := (List.eq_nil_or_concat digits).resolve_left hne
    rw [List.concat_eq_append] at hdigits hvalue ⊢
    rw [List.forall_mem_append, List.forall_mem_singleton] at hdigits
    rw [digitsValue_append_digit] at hvalue
    have hfront := eq_zero_of_digitsValue hdigits.1 (by omega)
    have hc : c = l.digit := by
      have hrange := isDigit_iff.mp hdigits.2
      have hzero : '0'.toNat = 48 := rfl
      exact digit_eq (by omega)
    exact ⟨plus, front.length, by rw [← hfront, ← hc]⟩
  · rintro ⟨plus, zeros, rfl⟩
    refine ⟨plus, _, rfl, by simp, ?_, ?_⟩
    · rw [List.forall_mem_append, List.forall_mem_singleton]
      refine ⟨fun c hc => ?_, ?_⟩
      · rw [List.eq_of_mem_replicate hc]
        rfl
      · cases l <;> rfl
    · rw [digitsValue_append_digit, digitsValue_zeros]
      cases l <;> rfl

theorem ofText?_eq_some_iff {t : Text} {l : LogLevel} : ofText? t = some l ↔ Spelling t l := by
  constructor
  · intro h
    rw [ofText?] at h
    split at h
    · next hempty =>
      obtain rfl := List.isEmpty_iff.mp hempty
      obtain rfl := Option.some.inj h
      exact .blank
    · split at h
      · next n hn =>
        obtain rfl := all_getElem?_eq_some_iff.mp h
        obtain ⟨plus, zeros, rfl⟩ := numeral?_eq_rank_iff.mp hn
        exact .numeral plus zeros l
      · exact .named (named?_eq_some_iff.mp h)
  · intro h
    cases h with
    | blank => rfl
    | named h =>
      have hne : ¬ t.isEmpty = true := by
        intro hempty
        rw [List.isEmpty_iff.mp hempty] at h
        cases l <;> cases h
      rw [ofText?, if_neg hne, numeral?_of_isName (isName_iff.mpr ⟨l, h⟩)]
      exact named?_eq_some_iff.mpr h
    | numeral plus zeros =>
      have hn : numeral? (sign plus ++ (List.replicate zeros '0' ++ [l.digit])) = some l.rank :=
        numeral?_eq_rank_iff.mpr ⟨plus, zeros, rfl⟩
      rw [ofText?, if_neg (by simp), hn]
      exact all_getElem?_eq_some_iff.mpr rfl

/-! ### Raised texts -/

theorem ofText?_name (l : LogLevel) : ofText? l.name = some l :=
  ofText?_eq_some_iff.mpr (.named (lowercase_name l))

theorem effective_of_name {t : Text} {l : LogLevel} (h : lowercase t = l.name) {steps : Nat}
    (hsteps : steps ≠ 0) : effective t steps = (l.raise steps).name := by
  rw [effective, if_neg hsteps, named?_eq_some_iff.mpr h]

/-- An accepted text that is no name has no capitals, so it stays as it is. -/
theorem effective_of_other {t : Text} {l : LogLevel} (h : Spelling t l) (hname : isName t = false)
    (steps : Nat) : effective t steps = t := by
  have hnone : named? (lowercase t) = none := by simpa [isName] using hname
  have hlower : lowercase t = t := by
    cases h with
    | blank => rfl
    | named h =>
      rw [isName_iff.mpr ⟨l, h⟩] at hname
      cases hname
    | numeral plus zeros =>
      exact lowercase_of_numeral (numeral?_eq_rank_iff.mpr ⟨plus, zeros, rfl⟩)
  rw [effective, hnone]
  dsimp only
  rw [hlower, ite_self]

/-- Steps may be taken one after the other. -/
theorem effective_effective {t : Text} {l : LogLevel} (h : Spelling t l) (m n : Nat) :
    effective (effective t m) n = effective t (m + n) := by
  by_cases hm : m = 0
  · rw [hm, Nat.zero_add]
    rfl
  by_cases hn : n = 0
  · rw [hn, Nat.add_zero]
    rfl
  cases hname : isName t with
  | true =>
    obtain ⟨l', hl'⟩ := isName_iff.mp hname
    rw [effective_of_name hl' hm, effective_of_name (lowercase_name _) hn,
      effective_of_name hl' (by omega), raise_raise]
  | false =>
    rw [effective_of_other h hname, effective_of_other h hname, effective_of_other h hname]

/-- What an accepted text denotes once it is raised: a name denotes the raised level, and any other
text the level that it denotes anyway. -/
theorem ofText?_effective {t : Text} {l : LogLevel} (h : ofText? t = some l) (steps : Nat) :
    ofText? (effective t steps) = some (if isName t then l.raise steps else l) := by
  by_cases hsteps : steps = 0
  · rw [hsteps, raise_zero, ite_self]
    exact h
  have hspelling := ofText?_eq_some_iff.mp h
  cases hname : isName t with
  | false =>
    rw [effective_of_other hspelling hname]
    exact h
  | true =>
    obtain ⟨l', hl'⟩ := isName_iff.mp hname
    obtain rfl : l' = l := by
      rw [ofText?_eq_some_iff.mpr (.named hl')] at h
      exact Option.some.inj h
    rw [effective_of_name hl' hsteps]
    exact ofText?_name _

/-- How an accepted text is raised: by any number of steps it denotes a level again, which is never
lower after more steps, and which is the level so many steps higher unless the text is no name. -/
structure RaisedFrom (t : Text) (l : LogLevel) : Prop where
  spelling : Spelling t l
  denotes : ∀ steps,
    ofText? (effective t steps) = some (if isName t then l.raise steps else l)
  stepwise : ∀ m n, effective (effective t m) n = effective t (m + n)
  monotone : ∀ m n, m ≤ n → ∃ a b, ofText? (effective t m) = some a ∧
    ofText? (effective t n) = some b ∧ a.rank ≤ b.rank
  raised_iff : ∀ steps, ofText? (effective t steps) = some (l.raise steps) ↔
    isName t = true ∨ steps = 0 ∨ l = trace

theorem raisedFrom {t : Text} {l : LogLevel} (h : ofText? t = some l) : RaisedFrom t l := by
  constructor
  case spelling => exact ofText?_eq_some_iff.mp h
  case denotes => exact ofText?_effective h
  case stepwise => exact effective_effective (ofText?_eq_some_iff.mp h)
  case monotone =>
    intro m n hmn
    refine ⟨_, _, ofText?_effective h m, ofText?_effective h n, ?_⟩
    cases isName t with
    | false => exact le_rfl
    | true =>
      show (l.raise m).rank ≤ (l.raise n).rank
      rw [rank_raise, rank_raise]
      omega
  case raised_iff =>
    intro steps
    rw [ofText?_effective h, Option.some.injEq]
    cases isName t with
    | false => simpa [eq_comm] using raise_eq_self_iff
    | true => simp

/-- A numeral is accepted, and no step raises it. -/
example : ofText? ['3'] = some info ∧ effective ['3'] 1 = ['3'] := by decide

end LogLevel

/-- The level of a configuration that passes its checks is raised in this way. -/
theorem Config.exists_raisedFrom {c : Config} (h : c.fault? = none) :
    ∃ l, LogLevel.RaisedFrom c.log.level l := by
  cases hlevel : LogLevel.ofText? c.log.level with
  | some l => exact ⟨l, LogLevel.raisedFrom hlevel⟩
  | none =>
    rw [fault?, hlevel] at h
    split_ifs at h
    next hsome => exact absurd rfl hsome

end MapperGen
