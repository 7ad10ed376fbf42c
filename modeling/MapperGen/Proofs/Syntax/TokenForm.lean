import MapperGen.Proofs.Syntax.TokenEdge

/-!
# Forms of tokens

One step of the scanner leaves no token, the tokens of a documentation comment, or one token that
stands at the start of the text in the form of its kind.
-/

namespace MapperGen.Syntax

open MapperGen.Text

variable {t : Text} {n : Nat} {tokens : List Token}

/-! ### Comments -/

/-- What a comment may leave: no token, or those of a documentation comment. -/
def LeftByComment (tokens : List Token) : Prop :=
  tokens = [] ∨ ∃ inner content, tokens = docTokens inner content

theorem docTokens_length (inner : Bool) (content : Text) : 1 < (docTokens inner content).length := by
  cases inner <;> simp [docTokens]

theorem LeftByComment.length_ne_one (h : LeftByComment tokens) : tokens.length ≠ 1 := by
  rcases h with rfl | ⟨inner, content, rfl⟩
  · exact Nat.zero_ne_one
  · exact (docTokens_length inner content).ne'

theorem docComment_eq_some {inner : Bool} {length : Nat} {content : Text}
    (h : docComment inner length content = some (n, tokens)) :
    n = length ∧ tokens = docTokens inner content := by
  rw [docComment] at h
  split at h
  · cases h
  · obtain ⟨rfl, rfl⟩ := Prod.mk.inj (Option.some.inj h)
    exact ⟨rfl, rfl⟩

theorem lineComment_eq_some (h : lineComment t = some (n, tokens)) :
    n = lineLength t ∧ LeftByComment tokens := by
  rw [lineComment] at h
  split at h
  · obtain ⟨hn, htokens⟩ := docComment_eq_some h
    exact ⟨hn, .inr ⟨_, _, htokens⟩⟩
  · split at h
    · obtain ⟨hn, htokens⟩ := docComment_eq_some h
      exact ⟨hn, .inr ⟨_, _, htokens⟩⟩
    · obtain ⟨rfl, rfl⟩ := Prod.mk.inj (Option.some.inj h)
      exact ⟨rfl, .inl rfl⟩

theorem blockComment_eq_some (h : blockComment t = some (n, tokens)) :
    blockLength 0 t = some n ∧ LeftByComment tokens := by
  obtain ⟨length, hlength, h⟩ := Option.bind_eq_some_iff.mp h
  rw [hlength]
  dsimp only at h
  split at h
  · obtain ⟨rfl, rfl⟩ := Prod.mk.inj (Option.some.inj h)
    exact ⟨rfl, .inl rfl⟩
  · split at h
    · obtain ⟨rfl, htokens⟩ := docComment_eq_some h
      exact ⟨rfl, .inr ⟨_, _, htokens⟩⟩
    · split at h
      · obtain ⟨rfl, htokens⟩ := docComment_eq_some h
        exact ⟨rfl, .inr ⟨_, _, htokens⟩⟩
      · obtain ⟨rfl, rfl⟩ := Prod.mk.inj (Option.some.inj h)
        exact ⟨rfl, .inl rfl⟩

/-! ### Tokens -/

theorem Delimiter.eq_opening {c : Char} {d : Delimiter} (h : ofOpening? c = some d) :
    c = d.opening := by
  rw [ofOpening?] at h
  split_ifs at h
  all_goals
    obtain rfl := Option.some.inj h
    assumption

theorem Delimiter.eq_closing {c : Char} {d : Delimiter} (h : ofClosing? c = some d) :
    c = d.closing := by
  rw [ofClosing?] at h
  split_ifs at h
  all_goals
    obtain rfl := Option.some.inj h
    assumption

/-- A token stands at the start of a text and takes `n` characters of it. -/
inductive Token.Leads : Token → Text → (n : Nat) → Prop
  | opening (d : Delimiter) (t : Text) : Leads (.opening d) (d.opening :: t) 1
  | closing (d : Delimiter) (t : Text) : Leads (.closing d) (d.closing :: t) 1
  | errorMark {t : Text} (h : startsWith t errorMark) :
      Leads (.literal errorMark) t errorMark.length
  | literal {t : Text} {n : Nat} (h : literalLength t = some n) : Leads (.literal (t.take n)) t n
  | punct {c : Char} (h : isPunct c = true) (t : Text) (joint : Bool) :
      Leads (.punct c joint) (c :: t) 1
  | ident {t : Text} {n : Nat} (h : anyIdentLength t = some n) : Leads (.ident (t.take n)) t n

theorem Token.Leads.le {token : Token} (h : token.Leads t n) : n ≤ t.length := by
  cases h with
  | opening | closing | punct => simp
  | errorMark h => exact (startsWith_iff.mp h).length_le
  | literal h => exact literalLength_le h
  | ident h => exact anyIdentLength_le h

theorem bracket?_eq_some (h : bracket? t = some (n, tokens)) :
    ∃ token, tokens = [token] ∧ token.Leads t n := by
  cases t with
  | nil => cases h
  | cons c t =>
    rw [bracket?] at h
    split at h
    · next hmark =>
      obtain ⟨rfl, rfl⟩ := Prod.mk.inj (Option.some.inj h)
      exact ⟨_, rfl, .errorMark hmark⟩
    · split at h
      · next d hopening =>
        obtain ⟨rfl, rfl⟩ := Prod.mk.inj (Option.some.inj h)
        rw [Delimiter.eq_opening hopening]
        exact ⟨_, rfl, .opening d t⟩
      · next d hclosing _ =>
        obtain ⟨rfl, rfl⟩ := Prod.mk.inj (Option.some.inj h)
        rw [Delimiter.eq_closing hclosing]
        exact ⟨_, rfl, .closing d t⟩
      · cases h

theorem literal?_eq_some (h : literal? t = some (n, tokens)) :
    literalLength t = some n ∧ tokens = [.literal (t.take n)] := by
  obtain ⟨length, hlength, heq⟩ := Option.map_eq_some_iff.mp h
  obtain ⟨rfl, rfl⟩ := Prod.mk.inj heq
  exact ⟨hlength, rfl⟩

theorem punct?_eq_some (h : punct? t = some (n, tokens)) : ∃ c rest joint,
    t = c :: rest ∧ isPunct c = true ∧ n = 1 ∧ tokens = [.punct c joint] := by
  cases t with
  | nil => cases h
  | cons c t =>
    rw [punct?] at h
    split at h
    · cases h
    · next hstart =>
      have hpunct : isPunct c = true := by
        rw [Bool.not_eq_true', Bool.not_eq_false, startsPunct, Bool.and_eq_true] at hstart
        exact hstart.1
      refine ⟨c, t, ?_⟩
      split at h
      · split at h
        · obtain ⟨rfl, rfl⟩ := Prod.mk.inj (Option.some.inj h)
          exact ⟨true, rfl, hpunct, rfl, rfl⟩
        · cases h
      · obtain ⟨rfl, rfl⟩ := Prod.mk.inj (Option.some.inj h)
        exact ⟨_, rfl, hpunct, rfl, rfl⟩

theorem ident?_eq_some (h : ident? t = some (n, tokens)) :
    anyIdentLength t = some n ∧ tokens = [.ident (t.take n)] := by
  rw [ident?] at h
  split at h
  · cases h
  · obtain ⟨length, hlength, heq⟩ := Option.map_eq_some_iff.mp h
    obtain ⟨rfl, rfl⟩ := Prod.mk.inj heq
    exact ⟨hlength, rfl⟩

/-- A token that is no comment. -/
def token? (t : Text) : Option (Nat × List Token) :=
  (((bracket? t).or (literal? t)).or (punct? t)).or (ident? t)

theorem token?_eq_some (h : token? t = some (n, tokens)) :
    ∃ token, tokens = [token] ∧ token.Leads t n := by
  rw [token?] at h
  simp only [Option.or_eq_some_iff] at h
  obtain ((h | ⟨-, h⟩) | ⟨-, h⟩) | ⟨-, h⟩ := h
  · exact bracket?_eq_some h
  · obtain ⟨hlength, rfl⟩ := literal?_eq_some h
    exact ⟨_, rfl, .literal hlength⟩
  · obtain ⟨c, rest, joint, rfl, hpunct, rfl, rfl⟩ := punct?_eq_some h
    exact ⟨_, rfl, .punct hpunct rest joint⟩
  · obtain ⟨hlength, rfl⟩ := ident?_eq_some h
    exact ⟨_, rfl, .ident hlength⟩

/-! ### Steps -/

theorem scanOne_cases (h : scanOne t = some (n, tokens)) :
    LeftByComment tokens ∨ token? t = some (n, tokens) := by
  rw [scanOne] at h
  split at h
  · obtain ⟨-, rfl⟩ := Prod.mk.inj (Option.some.inj h)
    exact .inl (.inl rfl)
  · split at h
    · exact .inl (lineComment_eq_some h).2
    · split at h
      · exact .inl (blockComment_eq_some h).2
      · exact .inr h

theorem token?_of_scanOne {token : Token} (h : scanOne t = some (n, [token])) :
    token? t = some (n, [token]) := by
  rcases scanOne_cases h with hcomment | htoken
  · exact absurd rfl hcomment.length_ne_one
  · exact htoken

theorem scanOne_le (h : scanOne t = some (n, tokens)) : n ≤ t.length := by
  rw [scanOne] at h
  split at h
  · obtain ⟨rfl, -⟩ := Prod.mk.inj (Option.some.inj h)
    exact length_takeWhile_le t isGap
  · split at h
    · obtain ⟨rfl, -⟩ := lineComment_eq_some h
      exact length_takeWhile_le t _
    · split at h
      · exact (blockLength_selfDelimiting 0 (blockComment_eq_some h).1).1
      · obtain ⟨token, rfl, hleads⟩ := token?_eq_some h
        exact hleads.le

end MapperGen.Syntax
