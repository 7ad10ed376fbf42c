import MapperGen.Proofs.Syntax.NestingParts
import MapperGen.Proofs.Syntax.RespacedScan
import Mathlib.Tactic.IntervalCases

/-!
# Edges of nodes

A documentation comment is read at once but leaves several tokens, so the part of a text where a
node stands is read as the tokens of the node only if no such comment lies on one of its edges. It
suffices that no attribute begins right before the node or at its end, as long as the node does not
stand in brackets.
-/

namespace MapperGen.Syntax

/-! ### Comments on an edge -/

/-- Tokens of one documentation comment stand on both sides of an edge. -/
def Straddled (left right : List Token) : Prop :=
  ∃ inner content front back, front ≠ [] ∧ back ≠ [] ∧ docTokens inner content = front ++ back ∧
    front <:+ left ∧ back <+: right

/-- Several tokens that are read at once are those of a documentation comment. -/
theorem scanOne_several {t : Text} {n : Nat} {tokens : List Token}
    (h : scanOne t = some (n, tokens)) (hlength : 1 < tokens.length) :
    ∃ inner content, tokens = docTokens inner content := by
  rcases scanOne_cases h with (rfl | hdoc) | htoken
  · cases hlength
  · exact hdoc
  · obtain ⟨token, rfl, -⟩ := token?_eq_some htoken
    exact absurd hlength (Nat.lt_irrefl 1)

theorem Scans.offset_le {p v : Text} {offset : Nat} {placed : List Placed}
    (h : Scans p offset v placed) : ∀ x ∈ placed, offset ≤ x.start := by
  induction h with
  | nil => simp
  | step h hn hlater ih =>
    intro x hx
    rcases List.mem_append.mp hx with hx | hx
    · obtain ⟨token, -, rfl⟩ := List.mem_map.mp hx
      exact Nat.le_refl _
    · have hle := ih x hx
      omega

theorem Scans.straddled {p v : Text} {offset i : Nat} {placed : List Placed} {x y : Placed}
    (h : Scans p offset v placed) (hx : placed[i]? = some x) (hy : placed[i + 1]? = some y)
    (hstart : x.start = y.start) :
    Straddled ((placed.take (i + 1)).map Placed.token) ((placed.drop (i + 1)).map Placed.token) := by
  induction h generalizing i with
  | nil => simp at hx
  | @step offset n v tokens later h hn hlater ih =>
    by_cases hi : i + 1 < tokens.length
    · obtain ⟨inner, content, rfl⟩ := scanOne_several h (by omega)
      refine ⟨inner, content, (docTokens inner content).take (i + 1),
        (docTokens inner content).drop (i + 1), ?_, ?_, by rw [List.take_append_drop], ?_, ?_⟩
      · exact List.ne_nil_of_length_pos (by rw [List.length_take]; omega)
      · exact List.ne_nil_of_length_pos (by rw [List.length_drop]; omega)
      · rw [List.take_append_of_le_length (by rw [List.length_map]; omega), List.map_take,
          List.map_map]
        exact (List.map_id _).symm ▸ List.suffix_refl _
      · rw [List.drop_append_of_le_length (by rw [List.length_map]; omega), List.map_append,
          List.map_drop, List.map_map]
        exact (List.map_id _).symm ▸ List.prefix_append _ _
    · rw [List.getElem?_append_right (by rw [List.length_map]; omega), List.length_map] at hy
      have hlate := hlater.offset_le y (List.mem_of_getElem? hy)
      by_cases hi' : i < tokens.length
      · -- the first of the two is read before the second
        rw [List.getElem?_append_left (by rwa [List.length_map]), List.getElem?_map] at hx
        obtain ⟨token, -, rfl⟩ := Option.map_eq_some_iff.mp hx
        dsimp only at hstart
        omega
      · rw [List.getElem?_append_right (by rw [List.length_map]; omega), List.length_map] at hx
        have hsub : i + 1 - tokens.length = i - tokens.length + 1 := by omega
        rw [hsub] at hy
        obtain ⟨inner, content, front, back, hfront, hback, heq, hleft, hright⟩ := ih hx hy
        refine ⟨inner, content, front, back, hfront, hback, heq, ?_, ?_⟩
        · rw [List.take_append, List.length_map, hsub, List.map_append]
          exact hleft.trans (List.suffix_append _ _)
        · rw [List.drop_append, List.length_map, hsub, List.drop_of_length_le, List.nil_append]
          · exact hright
          · rw [List.length_map]
            omega

/-! ### Levels of nesting -/

/-- Trees that stand among the tokens of a text as the content of a group that is not in brackets,
or as all of them. -/
def Level (tokens : List Token) (trees : List Tree) : Prop :=
  ∃ left own right, tokens = left ++ own ++ right ∧ Nests left.length own trees ∧
    (∀ token ∈ left.getLast?, token = .opening .parenthesis ∨ token = .opening .brace) ∧
    ∀ token ∈ right.head?, ∃ d, token = .closing d

variable {tokens : List Token}

theorem Level.of_nests {trees : List Tree} (h : Nests 0 tokens trees) : Level tokens trees :=
  ⟨[], tokens, [], by simp, h, by simp, by simp⟩

theorem Level.content {before content after : List Tree} {d : Delimiter} {opening closing : Nat}
    (h : Level tokens (before ++ .group d content opening closing :: after))
    (hd : d ≠ .bracket) : Level tokens content := by
  obtain ⟨left, own, right, rfl, hown, -, -⟩ := h
  obtain ⟨front, back, rfl, -, hback⟩ := hown.split
  cases hback with
  | @leaf _ token _ _ _ htree _ => cases token <;> cases htree
  | @group _ _ inner tokens _ _ hcontent _ =>
    refine ⟨left ++ front ++ [.opening d], inner, .closing d :: tokens ++ right, by simp, ?_, ?_, ?_⟩
    · have hlength : (left ++ front ++ [Token.opening d]).length =
          left.length + front.length + 1 := by simp only [List.length_append, List.length_singleton]
      rwa [hlength]
    · cases d <;> simp_all
    · simp

/-! ### Ends of trees -/

/-- The character of a tree that is a mark. -/
def Tree.mark? : Tree → Option Char
  | .punct c _ _ => some c
  | _ => none

/-- The tree is a group in brackets. -/
def Tree.isBracket : Tree → Bool
  | .group .bracket _ _ _ => true
  | _ => false

/-- An attribute has begun, and its brackets come next. The trees are given last one first. -/
def opensAttribute : List Tree → Bool
  | [] => false
  | [x] => x.mark? == some '#'
  | x :: y :: _ => x.mark? == some '#' || (x.mark? == some '!' && y.mark? == some '#')

/-- A node may end with the tree. -/
def Tree.mayEnd : Tree → Bool
  | .ident _ _ | .group .. => true
  | .punct c _ _ => !("#.'".toList.contains c)
  | .literal _ _ => false

/-- A node may end here: neither behind the brackets of an attribute nor where one has begun. The
trees are given last one first. -/
def Ended : List Tree → Prop
  | [] => False
  | x :: before => x.mayEnd = true ∧ opensAttribute (x :: before) = false ∧
      (x.isBracket = true → opensAttribute before = false)

@[simp] theorem opensAttribute_hash {joint : Bool} {index : Nat} {before : List Tree} :
    opensAttribute (.punct '#' joint index :: before) = true := by
  cases before <;> rfl

@[simp] theorem opensAttribute_marks {joint joint' : Bool} {index index' : Nat}
    {before : List Tree} :
    opensAttribute (.punct '!' joint index :: .punct '#' joint' index' :: before) = true := rfl

theorem opensAttribute_cons {x : Tree} (hx : x.mark? ≠ some '#') {before : List Tree}
    (hbefore : opensAttribute before = false) : opensAttribute (x :: before) = false := by
  rcases before with _ | ⟨y, _ | ⟨z, before⟩⟩
  · simpa [opensAttribute] using hx
  · rw [opensAttribute] at hbefore
    simp [opensAttribute, hx, hbefore]
  · rw [opensAttribute, Bool.or_eq_false_iff] at hbefore
    simp [opensAttribute, hx, hbefore.1]

theorem Tree.mark?_of_mayEnd {x : Tree} (h : x.mayEnd = true) : x.mark? ≠ some '#' := by
  cases x with
  | punct c joint index =>
    intro hmark
    obtain rfl := Option.some.inj hmark
    simp [mayEnd] at h
  | ident | literal | group => simp [mark?]

theorem Ended.cons {x : Tree} (hx : x.mayEnd = true) {before : List Tree}
    (hbefore : opensAttribute before = false) : Ended (x :: before) :=
  ⟨hx, opensAttribute_cons (Tree.mark?_of_mayEnd hx) hbefore, fun _ => hbefore⟩

theorem Ended.of_plain {x : Tree} (hx : x.mayEnd = true) (hmark : x.mark? ≠ some '!')
    (hbracket : x.isBracket = false) (before : List Tree) : Ended (x :: before) := by
  refine ⟨hx, ?_, by simp [hbracket]⟩
  cases before <;> simp [opensAttribute, Tree.mark?_of_mayEnd hx, hmark]

theorem Ended.opensAttribute {trees : List Tree} (h : Ended trees) :
    opensAttribute trees = false := by
  cases trees with
  | nil => rfl
  | cons x before => exact h.2.1

/-! ### Whole nodes -/

/-- A node may end with the token. -/
def Token.MayEnd : Token → Prop
  | .closing _ | .ident _ => True
  | .punct c _ => c ∉ "#.'".toList
  | .opening _ | .literal _ | .comment _ => False

/-- The token ends what stands before it: it is a bracket, a comma, a semicolon or the word
`where`. -/
def Token.MayFollow : Token → Prop
  | .opening _ | .closing _ => True
  | .punct c _ => c = ',' ∨ c = ';'
  | .ident name => name = "where".toList
  | .literal _ | .comment _ => False

/-- As `Token.MayFollow`, for the first token of a tree. -/
def Tree.MayFollow : Tree → Prop
  | .group .. => True
  | .punct c _ _ => c = ',' ∨ c = ';'
  | .ident name _ => name = "where".toList
  | .literal _ _ => False

/-- A node extends over `own` tokens of a text, `left` ones before and `right` ones behind it, and no
documentation comment lies on its edges. -/
structure Node.Cuts (node : Node) (left own right : List Token) : Prop where
  first : node.first = left.length
  last : node.last + 1 = left.length + own.length
  ne_nil : own ≠ []
  nests : ∃ trees, Nests left.length own trees
  front : ¬ Straddled left (own ++ right)
  back : ¬ Straddled (left ++ own) right
  no_comment : ∀ inner content, ¬ docTokens inner content <:+ left ++ own
  ends : ∀ token ∈ own.getLast?, token.MayEnd
  follows : ∀ token ∈ right.head?, token.MayFollow

/-- A node stands among the tokens of a text with no documentation comment on its edges. -/
def Node.IsWhole (tokens : List Token) (node : Node) : Prop :=
  ∃ left own right, tokens = left ++ own ++ right ∧ node.Cuts left own right

/-- The trees over which a node extends. -/
def Node.Spans (node : Node) (trees : List Tree) : Prop :=
  trees.head?.map Tree.first = some node.first ∧ trees.getLast?.map Tree.last = some node.last

/-! ### Levels and whole nodes -/

/-- In front of a cut a documentation comment leaves its marks, or more. -/
theorem front_of_docTokens {inner : Bool} {content : Text} {front back : List Token}
    (h : docTokens inner content = front ++ back) (hfront : front ≠ []) (hback : back ≠ []) :
    front = [.punct '#' false] ∨ front = [.punct '#' false, .punct '!' false] ∨ 0 < rise front := by
  have htake : front = (docTokens inner content).take front.length := by simp [h]
  have hpos := List.length_pos_iff.mpr hfront
  have hlt : front.length < (docTokens inner content).length := by
    have hback := List.length_pos_iff.mpr hback
    rw [h, List.length_append]
    omega
  generalize front.length = k at htake hpos hlt
  subst htake
  cases inner
  all_goals
    simp only [docTokens, List.length_append, List.length_cons, List.length_nil] at hlt
    simp at hlt
    interval_cases k
    all_goals simp [docTokens, Token.rise]

/-- What has no bracket of its own to open a group but square ones lies within a level. -/
theorem suffix_of_level {left own part : List Token}
    (hleft : ∀ token ∈ left.getLast?, token = .opening .parenthesis ∨ token = .opening .brace)
    (hpart : ∀ token ∈ part, token ≠ .opening .parenthesis ∧ token ≠ .opening .brace)
    (h : part <:+ left ++ own) : part <:+ own := by
  obtain ⟨w, hw⟩ := h
  rcases List.append_eq_append_iff.mp hw with ⟨u, rfl, rfl⟩ | ⟨u, -, rfl⟩
  · rcases List.eq_nil_or_concat u with rfl | ⟨u, token, rfl⟩
    · exact List.suffix_refl _
    · have htoken := hpart token (by simp)
      rcases hleft token (by simp) with rfl | rfl
      · exact absurd rfl htoken.1
      · exact absurd rfl htoken.2
  · exact List.suffix_append u part

theorem docTokens_opening {inner : Bool} {content : Text} : ∀ token ∈ docTokens inner content,
    token ≠ .opening .parenthesis ∧ token ≠ .opening .brace := by
  cases inner <;> simp [docTokens]

theorem nests_hash (index : Nat) : Nests index [.punct '#' false] [.punct '#' false index] :=
  .leaf rfl (.nil _)

theorem nests_marks (index : Nat) : Nests index [.punct '#' false, .punct '!' false]
    [.punct '#' false index, .punct '!' false (index + 1)] :=
  .leaf rfl (.leaf rfl (.nil _))

/-- A documentation comment leaves the brackets of an attribute, behind its marks. -/
theorem nests_docTokens (index : Nat) (inner : Bool) (content : Text) : ∃ marks group,
    Nests index (docTokens inner content) (marks ++ [group]) ∧ group.isBracket = true ∧
      ∀ before, opensAttribute (marks.reverse ++ before) = true := by
  have hcontent (index : Nat) : Nests index [.ident "doc".toList, .punct '=' false, .comment content]
      [.ident "doc".toList index, .punct '=' false (index + 1),
        .literal .text (index + 2)] := .leaf rfl (.leaf rfl (.leaf rfl (.nil _)))
  cases inner with
  | false =>
    exact ⟨_, _, (nests_hash index).append (.group (hcontent _) (.nil _)), rfl, fun before => by simp⟩
  | true =>
    exact ⟨_, _, (nests_marks index).append (.group (hcontent _) (.nil _)), rfl, fun before => rfl⟩

variable {left own right : List Token} {trees : List Tree}

theorem not_straddled
    (hleft : ∀ token ∈ left.getLast?, token = .opening .parenthesis ∨ token = .opening .brace)
    (hown : Nests left.length own trees) (htrees : opensAttribute trees.reverse = false) :
    ¬ Straddled (left ++ own) right := by
  rintro ⟨inner, content, front, back, hfront, hback, hdoc, hsuffix, -⟩
  have hopening : ∀ token ∈ front, token ≠ .opening .parenthesis ∧ token ≠ .opening .brace :=
    fun token hmem => docTokens_opening token (by rw [hdoc]; exact List.mem_append_left back hmem)
  have hfront' := suffix_of_level hleft hopening hsuffix
  have hrise := hown.rise_suffix hfront'
  obtain ⟨w, rfl⟩ := hfront'
  rcases front_of_docTokens hdoc hfront hback with rfl | rfl | hpos
  · obtain ⟨xs, rfl, -⟩ := hown.of_append (nests_hash _)
    simp at htrees
  · obtain ⟨xs, rfl, -⟩ := hown.of_append (nests_marks _)
    simp at htrees
  · omega

theorem not_docTokens_suffix
    (hleft : ∀ token ∈ left.getLast?, token = .opening .parenthesis ∨ token = .opening .brace)
    (hown : Nests left.length own trees) (htrees : Ended trees.reverse) (inner : Bool)
    (content : Text) : ¬ docTokens inner content <:+ left ++ own := by
  intro hsuffix
  obtain ⟨w, rfl⟩ := suffix_of_level hleft docTokens_opening hsuffix
  obtain ⟨marks, group, hdoc, hgroup, hmarks⟩ := nests_docTokens (left.length + w.length) inner content
  obtain ⟨xs, rfl, -⟩ := hown.of_append hdoc
  rw [List.reverse_append, List.reverse_append, List.reverse_singleton, List.append_assoc] at htrees
  have hopens : opensAttribute (marks.reverse ++ xs.reverse) = false := htrees.2.2 hgroup
  rw [hmarks] at hopens
  cases hopens

theorem Tree.mayEnd_leaf {index : Nat} {token : Token} {tree : Tree}
    (h : leaf? index token = some tree) (htree : tree.mayEnd = true) : token.MayEnd := by
  cases token with
  | opening | closing => cases h
  | ident => trivial
  | punct c joint =>
    obtain rfl := Option.some.inj h
    simpa [mayEnd, Token.MayEnd] using htree
  | literal | comment =>
    obtain rfl := Option.some.inj h
    cases htree

theorem Nests.mayEnd {index : Nat} (h : Nests index own trees)
    (htrees : ∀ x ∈ trees.getLast?, x.mayEnd = true) : ∀ token ∈ own.getLast?, token.MayEnd := by
  induction h with
  | nil => simp
  | @leaf index token tree tokens trees htree hrest ih =>
    cases trees with
    | nil =>
      obtain rfl := hrest.tokens_eq_nil_iff.mpr rfl
      simpa using Tree.mayEnd_leaf htree (htrees tree rfl)
    | cons y ys =>
      cases tokens with
      | nil => cases hrest
      | cons u tokens => exact ih htrees
  | @group index d inner tokens content trees hcontent hrest _ ih =>
    cases trees with
    | nil =>
      obtain rfl := hrest.tokens_eq_nil_iff.mpr rfl
      rw [List.getLast?_append_of_ne_nil _ (List.cons_ne_nil _ _)]
      rintro _ ⟨⟩
      trivial
    | cons y ys =>
      cases tokens with
      | nil => cases hrest
      | cons u tokens =>
        rw [List.getLast?_append_of_ne_nil _ (List.cons_ne_nil _ _), List.getLast?_cons_cons]
        exact ih htrees

theorem Nests.mayFollow {index : Nat} (h : Nests index own trees)
    (htrees : ∀ x ∈ trees.head?, x.MayFollow) : ∀ token ∈ own.head?, token.MayFollow := by
  cases h with
  | nil => simp
  | @leaf _ token tree _ _ htree hrest =>
    have hfollow := htrees tree rfl
    cases token with
    | opening | closing => cases htree
    | ident | punct =>
      obtain rfl := Option.some.inj htree
      rintro _ ⟨⟩
      exact hfollow
    | literal | comment =>
      obtain rfl := Option.some.inj htree
      cases hfollow
  | group =>
    rintro _ ⟨⟩
    trivial

/-- A node is whole where no attribute begins before it or at its end. -/
theorem Level.whole {before passed rest : List Tree} {node : Node}
    (h : Level tokens (before.reverse ++ passed ++ rest)) (hspans : node.Spans passed)
    (hbefore : opensAttribute before = false) (hended : Ended (passed.reverse ++ before))
    (hrest : ∀ x ∈ rest.head?, x.MayFollow) : node.IsWhole tokens := by
  obtain ⟨left, own, right, rfl, hown, hleft, hright⟩ := h
  rw [List.append_assoc] at hown
  obtain ⟨front, own, rfl, hfront, hown'⟩ := hown.split
  obtain ⟨inner, back, rfl, hinner, hback⟩ := hown'.split
  have hne : passed ≠ [] := by
    rintro rfl
    cases hspans.1
  have hboth : Nests left.length (front ++ inner) (before.reverse ++ passed) :=
    hfront.append hinner
  have hreverse : (before.reverse ++ passed).reverse = passed.reverse ++ before := by simp
  obtain ⟨first, hfirst, hfirst'⟩ := Option.map_eq_some_iff.mp hspans.1
  obtain ⟨last, hlast, hlast'⟩ := Option.map_eq_some_iff.mp hspans.2
  refine ⟨left ++ front, inner, back ++ right, by simp, ?_⟩
  have hlength : (left ++ front).length = left.length + front.length := List.length_append
  constructor
  · rw [hlength, ← hfirst', hinner.first first hfirst]
  · rw [hlength, ← hlast', hinner.last last hlast]
  · exact fun hnil => hne (hinner.tokens_eq_nil_iff.mp hnil)
  · exact ⟨passed, by rwa [hlength]⟩
  · exact not_straddled hleft hfront (by rwa [List.reverse_reverse])
  · rw [List.append_assoc]
    exact not_straddled hleft hboth (by rw [hreverse]; exact hended.opensAttribute)
  · rw [List.append_assoc]
    exact not_docTokens_suffix hleft hboth (by rwa [hreverse])
  · refine hinner.mayEnd fun x hx => ?_
    rw [← List.head?_reverse] at hx
    cases hpassed : passed.reverse with
    | nil => simp [hpassed] at hx
    | cons y ys =>
      obtain rfl : y = x := by simpa [hpassed] using hx
      rw [hpassed] at hended
      exact hended.1
  · intro token htoken
    cases back with
    | nil =>
      obtain ⟨d, rfl⟩ := hright token (by simpa using htoken)
      trivial
    | cons u back => exact hback.mayFollow hrest token htoken

end MapperGen.Syntax
