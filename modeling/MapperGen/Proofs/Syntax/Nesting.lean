import MapperGen.Syntax.Tree

/-!
# Nesting

`Nests` says which trees some tokens make, from the first one to the last. Unlike `nest` it has no
state, so tokens that nest do so as a part of other tokens as well.
-/

namespace MapperGen.Syntax

/-- The tokens, the first of which has the given index, nest to the trees. -/
inductive Nests : (index : Nat) → List Token → List Tree → Prop
  | nil (index : Nat) : Nests index [] []
  | leaf {index : Nat} {token : Token} {tree : Tree} {tokens : List Token} {trees : List Tree}
      (htree : leaf? index token = some tree) (hrest : Nests (index + 1) tokens trees) :
      Nests index (token :: tokens) (tree :: trees)
  | group {index : Nat} {d : Delimiter} {inner tokens : List Token} {content trees : List Tree}
      (hcontent : Nests (index + 1) inner content)
      (hrest : Nests (index + inner.length + 2) tokens trees) :
      Nests index (.opening d :: inner ++ .closing d :: tokens)
        (.group d content index (index + inner.length + 1) :: trees)

theorem Nests.append {index : Nat} {left right : List Token} {ls rs : List Tree}
    (hleft : Nests index left ls) (hright : Nests (index + left.length) right rs) :
    Nests index (left ++ right) (ls ++ rs) := by
  induction hleft with
  | nil => simpa using hright
  | leaf htree hrest ih =>
    refine .leaf htree (ih ?_)
    rw [List.length_cons] at hright
    rwa [Nat.add_assoc, Nat.add_comm 1]
  | @group index d inner tokens content trees hcontent hrest ihcontent ih =>
    rw [List.append_assoc, List.cons_append]
    refine .group hcontent (ih ?_)
    simp only [List.length_append, List.length_cons] at hright
    have hindex : index + inner.length + 2 + tokens.length =
        index + (inner.length + 1 + (tokens.length + 1)) := by omega
    rwa [hindex]

/-! ### Running the nesting -/

theorem nest_leaf {stuck : Option Nat} {groups : List OpenGroup} {done : List Tree} {index : Nat}
    {p : Placed} {rest : List Placed} {tree : Tree} (h : leaf? index p.token = some tree) :
    nest stuck groups done index (p :: rest) = nest stuck groups (tree :: done) (index + 1) rest := by
  obtain ⟨token, start, stop⟩ := p
  cases token with
  | opening | closing => cases h
  | ident | punct | literal | comment =>
    obtain rfl := Option.some.inj h
    rw [nest.eq_def]
    rfl

/-- Tokens that nest leave their trees with the innermost open group. -/
theorem nest_of_nests {stuck : Option Nat} {groups : List OpenGroup} {done trees : List Tree}
    {index : Nat} {placed later : List Placed}
    (h : Nests index (placed.map Placed.token) trees) :
    nest stuck groups done index (placed ++ later) =
      nest stuck groups (trees.reverse ++ done) (index + placed.length) later := by
  generalize htokens : placed.map Placed.token = tokens at h
  induction h generalizing placed groups done later with
  | nil =>
    obtain rfl := List.map_eq_nil_iff.mp htokens
    simp
  | @leaf index token tree tokens trees htree hrest ih =>
    obtain ⟨p, rest, rfl, rfl, hrest'⟩ := List.map_eq_cons_iff.mp htokens
    rw [List.cons_append, nest_leaf htree, ih hrest', List.length_cons, List.reverse_cons,
      List.append_assoc, Nat.add_right_comm, Nat.add_assoc]
    rfl
  | @group index d inner tokens content trees hcontent hrest ihcontent ih =>
    obtain ⟨left, right, rfl, hleft, hright⟩ := List.map_eq_append_iff.mp htokens
    obtain ⟨⟨_, start, _⟩, inner, rfl, rfl, hinner⟩ := List.map_eq_cons_iff.mp hleft
    obtain ⟨⟨_, start', _⟩, rest, rfl, rfl, hrest'⟩ := List.map_eq_cons_iff.mp hright
    subst hinner
    rw [List.length_map] at ih
    have hclosing : index + 1 + inner.length = index + inner.length + 1 := by omega
    rw [List.cons_append, List.cons_append, List.append_assoc, List.cons_append, nest.eq_def]
    dsimp only
    rw [ihcontent rfl, nest.eq_def]
    dsimp only
    rw [if_pos rfl, List.append_nil, List.reverse_reverse, hclosing, ih hrest', List.length_map,
      List.reverse_cons, List.append_assoc, List.singleton_append]
    congr 1
    simp only [List.length_append, List.length_cons]
    omega

/-- What the tokens make of the open groups: those in front of each closing bracket are the rest of
a group. -/
def Closes : List OpenGroup → (done : List Tree) → (index : Nat) → List Token → List Tree → Prop
  | [], done, index, tokens, trees => ∃ ts, Nests index tokens ts ∧ trees = done.reverse ++ ts
  | group :: groups, done, index, tokens, trees => ∃ inner ts later,
      tokens = inner ++ .closing group.delimiter :: later ∧ Nests index inner ts ∧
        Closes groups
          (.group group.delimiter (done.reverse ++ ts) group.index (index + inner.length) ::
            group.before) (index + inner.length + 1) later trees

theorem Closes.prepend {groups : List OpenGroup} {done trees : List Tree} {index : Nat}
    {tokens : List Token} (front : List Token) (tree : Tree)
    (hfront : ∀ {tokens ts}, Nests (index + front.length) tokens ts →
      Nests index (front ++ tokens) (tree :: ts))
    (h : Closes groups (tree :: done) (index + front.length) tokens trees) :
    Closes groups done index (front ++ tokens) trees := by
  cases groups with
  | nil =>
    obtain ⟨ts, hts, rfl⟩ := h
    exact ⟨tree :: ts, hfront hts, by simp⟩
  | cons group groups =>
    obtain ⟨inner, ts, later, rfl, hts, hlater⟩ := h
    refine ⟨front ++ inner, tree :: ts, later, by simp, hfront hts, ?_⟩
    have hindex : index + (front ++ inner).length = index + front.length + inner.length := by
      rw [List.length_append, Nat.add_assoc]
    rw [hindex]
    simpa using hlater

theorem closes_of_nest {groups : List OpenGroup} {done trees : List Tree} {index : Nat}
    {placed : List Placed} (h : nest none groups done index placed = .ok trees) :
    Closes groups done index (placed.map Placed.token) trees := by
  induction placed generalizing groups done index with
  | nil =>
    rw [nest.eq_def] at h
    dsimp only at h
    cases groups with
    | nil =>
      obtain rfl := Except.ok.inj h
      exact ⟨[], .nil index, by simp⟩
    | cons => cases h
  | cons p rest ih =>
    obtain ⟨token, start, stop⟩ := p
    cases htree : leaf? index token with
    | some tree =>
      rw [nest_leaf htree] at h
      exact (ih h).prepend [token] tree fun hts => .leaf htree hts
    | none =>
      rw [nest.eq_def] at h
      cases token with
      | opening d =>
        obtain ⟨inner, ts, later, hrest, hts, hlater⟩ := ih h
        have hclosing : index + 1 + inner.length = index + inner.length + 1 := by omega
        have hlength : (Token.opening d :: inner ++ [Token.closing d]).length =
            inner.length + 2 := by simp
        have hgroup : Closes groups done index
            ((Token.opening d :: inner ++ [Token.closing d]) ++ later) trees := by
          refine Closes.prepend _ (.group d ts index (index + inner.length + 1)) (fun hts' => ?_) ?_
          · rw [List.append_assoc, List.singleton_append]
            rw [hlength] at hts'
            exact .group hts hts'
          · rw [hlength]
            rw [hclosing] at hlater
            exact hlater
        rw [List.map_cons, hrest]
        simpa using hgroup
      | closing d =>
        dsimp only at h
        cases groups with
        | nil => cases h
        | cons group groups =>
          dsimp only at h
          split at h
          · next hd =>
            subst hd
            refine ⟨[], [], _, rfl, .nil index, ?_⟩
            simpa using ih h
          · cases h
      | ident | punct | literal | comment => cases htree

/-- A whole text nests iff its tokens do. -/
theorem nest_eq_ok_iff {placed : List Placed} {trees : List Tree} :
    nest none [] [] 0 placed = .ok trees ↔ Nests 0 (placed.map Placed.token) trees := by
  constructor
  · intro h
    obtain ⟨ts, hts, rfl⟩ := closes_of_nest h
    exact hts
  · intro h
    rw [← List.append_nil placed, nest_of_nests h, nest.eq_def]
    simp

end MapperGen.Syntax
