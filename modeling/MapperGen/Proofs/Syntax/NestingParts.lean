import MapperGen.Proofs.Syntax.FileStart

/-!
# Parts of nested tokens

Where trees are cut, so are the tokens that nest to them. Conversely tokens at the end of nested
ones make the last trees if they nest by themselves: a group cannot be cut in two, as the depth of
brackets shows.
-/

namespace MapperGen.Syntax

variable {index : Nat} {tokens a b : List Token} {trees xs ys : List Tree}

/-! ### Cuts -/

theorem Nests.split (h : Nests index tokens (xs ++ ys)) : ∃ left right,
    tokens = left ++ right ∧ Nests index left xs ∧ Nests (index + left.length) right ys := by
  induction xs generalizing index tokens with
  | nil => exact ⟨[], tokens, rfl, .nil index, h⟩
  | cons x xs ih =>
    rw [List.cons_append] at h
    cases h with
    | @leaf _ token _ tokens _ htree hrest =>
      obtain ⟨left, right, rfl, hleft, hright⟩ := ih hrest
      refine ⟨token :: left, right, rfl, .leaf htree hleft, ?_⟩
      rwa [List.length_cons, Nat.add_comm left.length, ← Nat.add_assoc]
    | @group _ d inner tokens content _ hcontent hrest =>
      obtain ⟨left, right, rfl, hleft, hright⟩ := ih hrest
      refine ⟨.opening d :: inner ++ .closing d :: left, right, by simp, .group hcontent hleft, ?_⟩
      have hlength : index + (Token.opening d :: inner ++ Token.closing d :: left).length =
          index + inner.length + 2 + left.length := by
        simp only [List.length_append, List.length_cons]
        omega
      rwa [hlength]

theorem Nests.tokens_eq_nil_iff (h : Nests index tokens trees) : tokens = [] ↔ trees = [] := by
  cases h <;> simp

theorem Nests.first (h : Nests index tokens trees) : ∀ x ∈ trees.head?, x.first = index := by
  cases h with
  | nil => simp
  | @leaf _ token tree _ _ htree hrest =>
    cases token with
    | opening | closing => cases htree
    | ident | punct | literal | comment =>
      obtain rfl := Option.some.inj htree
      simp [Tree.first]
  | group hcontent hrest => simp [Tree.first]

theorem Nests.last (h : Nests index tokens trees) :
    ∀ x ∈ trees.getLast?, x.last + 1 = index + tokens.length := by
  induction h with
  | nil => simp
  | @leaf index token tree tokens trees htree hrest ih =>
    cases trees with
    | nil =>
      obtain rfl := hrest.tokens_eq_nil_iff.mpr rfl
      cases token with
      | opening | closing => cases htree
      | ident | punct | literal | comment =>
        obtain rfl := Option.some.inj htree
        simp [Tree.last]
    | cons y ys =>
      rw [List.getLast?_cons_cons]
      intro x hx
      rw [ih x hx, List.length_cons]
      omega
  | @group index d inner tokens content trees hcontent hrest _ ih =>
    have hlength : index + (Token.opening d :: inner ++ Token.closing d :: tokens).length =
        index + inner.length + 2 + tokens.length := by
      simp only [List.length_append, List.length_cons]
      omega
    rw [hlength]
    cases trees with
    | nil =>
      obtain rfl := hrest.tokens_eq_nil_iff.mpr rfl
      simp [Tree.last]
    | cons y ys =>
      rw [List.getLast?_cons_cons]
      exact ih

theorem Nests.unique (hxs : Nests index tokens xs) (hys : Nests index tokens ys) : xs = ys := by
  let placed : List Placed := tokens.map fun token => ⟨token, 0, 0⟩
  have hplaced : placed.map Placed.token = tokens := by
    rw [List.map_map]
    exact List.map_id tokens
  have hnest {ts : List Tree} (h : Nests index tokens ts) :
      nest none [] [] index placed = .ok ts := by
    rw [← hplaced] at h
    rw [← List.append_nil placed, nest_of_nests h, nest.eq_def]
    simp
  exact Except.ok.inj ((hnest hxs).symm.trans (hnest hys))

/-! ### Depth -/

/-- How much deeper behind a token the nesting is than before it. -/
def Token.rise : Token → Int
  | .opening _ => 1
  | .closing _ => -1
  | _ => 0

/-- How much deeper behind tokens the nesting is than before them. -/
def rise : List Token → Int
  | [] => 0
  | token :: tokens => token.rise + rise tokens

@[simp] theorem rise_nil : rise [] = 0 := rfl

@[simp] theorem rise_cons (token : Token) (tokens : List Token) :
    rise (token :: tokens) = token.rise + rise tokens := rfl

@[simp] theorem rise_append (a b : List Token) : rise (a ++ b) = rise a + rise b := by
  induction a with
  | nil => simp
  | cons token a ih => rw [List.cons_append, rise_cons, rise_cons, ih, Int.add_assoc]

theorem rise_leaf? {token : Token} {tree : Tree} (h : leaf? index token = some tree) :
    token.rise = 0 := by
  cases token with
  | opening | closing => cases h
  | ident | punct | literal | comment => rfl

theorem Nests.rise_eq_zero (h : Nests index tokens trees) : rise tokens = 0 := by
  induction h with
  | nil => rfl
  | leaf htree hrest ih => rw [rise_cons, rise_leaf? htree, ih, Int.add_zero]
  | group hcontent hrest ihcontent ih => simp [ihcontent, ih, Token.rise]

theorem Nests.rise_prefix (h : Nests index tokens trees) (ha : a <+: tokens) : 0 ≤ rise a := by
  induction h generalizing a with
  | nil =>
    obtain rfl := List.prefix_nil.mp ha
    exact Int.le_refl 0
  | leaf htree hrest ih =>
    rcases List.prefix_cons_iff.mp ha with rfl | ⟨a, rfl, hrest⟩
    · exact Int.le_refl 0
    · have hle := ih hrest
      rwa [rise_cons, rise_leaf? htree, Int.zero_add]
  | @group index d inner tokens content trees hcontent hrest ihcontent ih =>
    rcases List.prefix_cons_iff.mp ha with rfl | ⟨a, rfl, w, hw⟩
    · exact Int.le_refl 0
    · rw [rise_cons, Token.rise]
      rcases List.append_eq_append_iff.mp hw with ⟨u, rfl, -⟩ | ⟨u, rfl, hu⟩
      · have hle := ihcontent (List.prefix_append a u)
        omega
      · rw [rise_append, hcontent.rise_eq_zero]
        cases u with
        | nil => simp
        | cons y u =>
          obtain ⟨rfl, rfl⟩ := List.cons.inj hu
          have hle := ih (List.prefix_append u w)
          rw [rise_cons, Token.rise]
          omega

theorem Nests.rise_suffix (h : Nests index tokens trees) (hb : b <:+ tokens) : rise b ≤ 0 := by
  obtain ⟨a, rfl⟩ := hb
  have hsum := h.rise_eq_zero
  have hle := h.rise_prefix (List.prefix_append a b)
  rw [rise_append] at hsum
  omega

/-! ### Ends -/

/-- Tokens at the end that nest make the last trees. -/
theorem Nests.of_append (h : Nests index (a ++ b) trees) (hb : Nests (index + a.length) b ys) :
    ∃ xs, trees = xs ++ ys ∧ Nests index a xs := by
  generalize htokens : a ++ b = tokens at h
  induction h generalizing a with
  | nil index =>
    obtain ⟨rfl, rfl⟩ := List.append_eq_nil_iff.mp htokens
    obtain rfl := hb.tokens_eq_nil_iff.mp rfl
    exact ⟨[], rfl, .nil index⟩
  | @leaf index token tree tokens trees htree hrest ih =>
    cases a with
    | nil =>
      obtain rfl : b = token :: tokens := htokens
      exact ⟨[], Nests.unique (.leaf htree hrest) hb, .nil index⟩
    | cons x a =>
      obtain ⟨rfl, hrest'⟩ := List.cons.inj htokens
      rw [List.length_cons, ← Nat.add_assoc, Nat.add_right_comm] at hb
      obtain ⟨xs, rfl, hxs⟩ := ih hb hrest'
      exact ⟨tree :: xs, rfl, .leaf htree hxs⟩
  | @group index d inner tokens content trees hcontent hrest ihcontent ih =>
    cases a with
    | nil =>
      obtain rfl : b = _ := htokens
      exact ⟨[], Nests.unique (.group hcontent hrest) hb, .nil index⟩
    | cons x a =>
      rw [List.cons_append, List.cons_append] at htokens
      obtain ⟨rfl, hinner⟩ := List.cons.inj htokens
      rcases List.append_eq_append_iff.mp hinner with ⟨w, rfl, rfl⟩ | ⟨w, rfl, hw⟩
      · -- the group would be cut: deeper in front of the cut, less deep behind it
        have hfront := hcontent.rise_suffix (List.suffix_append a w)
        have hback := hb.rise_prefix (a := w ++ [.closing d]) ⟨tokens, by simp⟩
        simp [Token.rise] at hback
        omega
      · cases w with
        | nil =>
          have hback := hb.rise_prefix (a := [.closing d]) ⟨tokens, hw⟩
          simp [Token.rise] at hback
        | cons y w =>
          obtain ⟨rfl, rfl⟩ := List.cons.inj hw
          have hindex : index + (Token.opening d :: (inner ++ Token.closing d :: w)).length =
              index + inner.length + 2 + w.length := by
            simp only [List.length_append, List.length_cons]
            omega
          rw [hindex] at hb
          obtain ⟨xs, rfl, hxs⟩ := ih hb rfl
          exact ⟨_, rfl, .group hcontent hxs⟩

end MapperGen.Syntax
