import MapperGen.Proofs.Syntax.StandAlone
import MapperGen.Proofs.Text.Trim

/-!
# Texts of nodes

The part of a text from the first character of the first token of a whole node to the last character
of its last token neither begins nor ends with a blank, and read by itself it has the tokens of the
node.
-/

namespace MapperGen.Syntax

open MapperGen.Text

/-! ### Places of nodes -/

theorem Straddled.prepend {left right : List Token} (h : Straddled left right)
    (before : List Token) : Straddled (before ++ left) right := by
  obtain ⟨inner, content, front, back, hfront, hback, hdoc, hleft, hright⟩ := h
  exact ⟨inner, content, front, back, hfront, hback, hdoc,
    hleft.trans (List.suffix_append before left), hright⟩

/-- A comment that goes over an edge ends with the next token or goes over the next edge as well. -/
theorem Straddled.next {left right : List Token} {token : Token}
    (h : Straddled left (token :: right)) :
    (∃ inner content, docTokens inner content <:+ left ++ [token]) ∨
      Straddled (left ++ [token]) right := by
  obtain ⟨inner, content, front, back, hfront, hback, hdoc, ⟨w, rfl⟩, hright⟩ := h
  obtain ⟨first, back, rfl⟩ := List.exists_cons_of_ne_nil hback
  obtain ⟨rfl, hbehind⟩ := List.cons_prefix_cons.mp hright
  cases back with
  | nil => exact .inl ⟨inner, content, w, by rw [hdoc, List.append_assoc]⟩
  | cons second back =>
    refine .inr ⟨inner, content, front ++ [first], second :: back, by simp, by simp, by simp [hdoc],
      ⟨w, by simp⟩, hbehind⟩

variable {t : Text} {node : Node} {offset : Nat} {placed left own right : List Placed}

/-- Behind an edge that no comment goes over, the text is read from where the next token starts. -/
theorem Scans.from_edge (h : Scans [] offset t (left ++ right)) (hright : right ≠ [])
    (hedge : ¬ Straddled (left.map Placed.token) (right.map Placed.token)) :
    ∃ front rest, t = front ++ rest ∧ (∀ x ∈ right.head?, x.start = offset + front.length) ∧
      Scans [] (offset + front.length) rest right := by
  obtain ⟨x, right, rfl⟩ := List.exists_cons_of_ne_nil hright
  have hx : (left ++ x :: right)[left.length]? = some x := by simp
  obtain ⟨k, hk, hstart, hscans⟩ := h.drop hx fun z hpos hz heq => by
    have hnext : left.length - 1 + 1 = left.length := by omega
    have hstraddled := h.straddled hz (by rwa [hnext]) heq
    rw [hnext, List.take_left, List.drop_left] at hstraddled
    exact hedge hstraddled
  rw [List.drop_left] at hscans
  refine ⟨t.take k, t.drop k, (List.take_append_drop k t).symm, ?_⟩
  rw [List.length_take_of_le hk]
  exact ⟨by simpa using hstart, hscans⟩

/-- In front of an edge that no comment ends at or goes over, the text is read up to where the last
token stops. -/
theorem Scans.to_edge (h : Scans [] offset t (own ++ right)) (hown : own ≠ [])
    (hedge : ¬ Straddled (own.map Placed.token) (right.map Placed.token))
    (hcomment : ∀ inner content, ¬ docTokens inner content <:+ own.map Placed.token) :
    ∃ part rest, t = part ++ rest ∧ (∀ y ∈ own.getLast?, y.stop = offset + part.length) ∧
      Stretch rest offset part own ∧ Scans [] (offset + part.length) rest right := by
  obtain ⟨own, y, rfl⟩ := (List.eq_nil_or_concat own).resolve_left hown
  rw [List.concat_eq_append] at *
  have hy : (own ++ [y] ++ right)[own.length]? = some y := by simp
  obtain ⟨k, hk, hstop, hstretch⟩ := h.take hy
    (fun z hpos hz heq => by
      have hnext : own.length - 1 + 1 = own.length := by omega
      have hstraddled := h.straddled hz (by rwa [hnext]) heq
      rw [hnext, List.append_assoc, List.take_left, List.drop_left] at hstraddled
      -- a comment before the last token ends with it or goes on behind it
      rcases hstraddled.next with ⟨inner, content, hdoc⟩ | hback
      · exact hcomment inner content (by rwa [List.map_append])
      · exact hedge (by rwa [List.map_append]))
    fun z hz heq => by
      have hstraddled := h.straddled hy hz heq.symm
      have hlength : own.length + 1 = (own ++ [y]).length := by simp
      rw [hlength, List.take_left, List.drop_left] at hstraddled
      exact hedge hstraddled
  have hlength : own.length + 1 = (own ++ [y]).length := by simp
  rw [hlength, List.take_left, List.append_nil] at hstretch
  refine ⟨t.take k, t.drop k, (List.take_append_drop k t).symm, ?_, hstretch, ?_⟩
  · rw [List.length_take_of_le hk]
    simpa using hstop
  · rw [← List.take_append_drop k t] at h
    obtain ⟨later, hlater, hrest⟩ := hstretch.scans.behind h
    rwa [List.append_cancel_left hlater]

/-- Where a whole node stands in a text. -/
structure Node.Stands (node : Node) (t : Text) (left own right : List Placed)
    (front part rest : Text) : Prop where
  text : t = front ++ part ++ rest
  stretch : Stretch rest front.length part own
  behind : Scans [] (front ++ part).length rest right
  start : ∀ x ∈ own.head?, x.start = front.length
  stop : ∀ y ∈ own.getLast?, y.stop = (front ++ part).length
  cuts : node.Cuts (left.map Placed.token) (own.map Placed.token) (right.map Placed.token)

theorem Node.IsWhole.stands (hnode : node.IsWhole (placed.map Placed.token))
    (hscan : Scans [] offset (t.drop offset) placed) (hoffset : offset ≤ t.length) :
    ∃ left own right front part rest, placed = left ++ own ++ right ∧
      node.Stands t left own right front part rest := by
  obtain ⟨_, _, _, htokens, hcuts⟩ := hnode
  obtain ⟨both, right, rfl, hboth, rfl⟩ := List.map_eq_append_iff.mp htokens
  obtain ⟨left, own, rfl, rfl, rfl⟩ := List.map_eq_append_iff.mp hboth
  have hne : own ≠ [] := fun hnil => hcuts.ne_nil (by rw [hnil]; rfl)
  rw [List.append_assoc] at hscan
  obtain ⟨front, behind, hfront, hstart, hbehind⟩ := hscan.from_edge
    (List.append_ne_nil_of_left_ne_nil hne right) (by rw [List.map_append]; exact hcuts.front)
  obtain ⟨part, rest, rfl, hstop, hstretch, hrest⟩ := hbehind.to_edge hne
    (fun hback => hcuts.back (hback.prepend _))
    fun inner content hdoc => hcuts.no_comment inner content (hdoc.trans (List.suffix_append _ _))
  have hlength : (t.take offset ++ front).length = offset + front.length := by
    rw [List.length_append, List.length_take_of_le hoffset]
  refine ⟨left, own, right, t.take offset ++ front, part, rest, rfl, ?_⟩
  constructor
  · rw [List.append_assoc, List.append_assoc, ← hfront, List.take_append_drop]
  · rwa [hlength]
  · rwa [List.length_append, hlength]
  · rw [hlength]
    intro x hx
    exact hstart x (by rw [List.head?_append, hx]; rfl)
  · rw [List.length_append, hlength]
    exact hstop
  · exact hcuts

/-! ### Ends of parts -/

theorem isBlank_of_isIdent {c : Char} (h : isIdentStart c = true ∨ isIdentContinue c = true) :
    isBlank c = false := by
  by_contra hblank
  rw [Bool.not_eq_false] at hblank
  have hstop := isStop_of_isEdge (isEdge_of_isBlank hblank)
  rcases h with h | h
  · rw [isIdentStart_of_isStop hstop] at h
    cases h
  · rw [isIdentContinue_of_isStop hstop] at h
    cases h

theorem isIdent_of_mem_take {c : Char} {t : Text} (h : c ∈ t.take (identLength t)) :
    isIdentStart c = true ∨ isIdentContinue c = true := by
  cases t with
  | nil => simp at h
  | cons a t =>
    rw [identLength] at h
    split at h
    · next hstart =>
      rw [List.take_succ_cons, ← List.prefix_iff_eq_take.mp (List.takeWhile_prefix _)] at h
      rcases List.mem_cons.mp h with rfl | hmem
      · exact .inl hstart
      · exact .inr (List.mem_takeWhile_imp hmem)
    · simp at h

theorem isIdent_of_getLast {c : Char} {t : Text} {n : Nat} (h : anyIdentLength t = some n)
    (hc : c ∈ (t.take n).getLast?) : isIdentStart c = true ∨ isIdentContinue c = true := by
  rw [anyIdentLength] at h
  dsimp only at h
  split at h
  · split at h
    · cases h
    · next hraw =>
      obtain rfl := Option.some.inj h
      simp only [Bool.or_eq_true, decide_eq_true_eq, not_or] at hraw
      have hle := identLength_le (t.drop 2)
      rw [Nat.add_comm, List.take_add, List.getLast?_append_of_ne_nil] at hc
      · exact isIdent_of_mem_take (List.mem_of_getLast? hc)
      · exact List.ne_nil_of_length_pos (by rw [List.length_take]; omega)
  · split at h
    · cases h
    · obtain rfl := Option.some.inj h
      exact isIdent_of_mem_take (List.mem_of_getLast? hc)

theorem isBlank_of_isPunct {c : Char} (hc : isPunct c = true) : isBlank c = false := by
  by_contra hblank
  rw [Bool.not_eq_false] at hblank
  rw [isPunct_of_isBlank hblank] at hc
  cases hc

/-! ### Texts of nodes -/

variable {front part rest : Text}

theorem Node.Stands.first_char (h : node.Stands t left own right front part rest) :
    ∀ c ∈ part.head?, isBlank c = false ∧ c ≠ byteOrderMark := by
  obtain ⟨n, tokens, later, hone, -, hlater, hown⟩ :=
    h.stretch.scans.step_of_ne_nil h.stretch.ne_nil
  have htokens : tokens ≠ [] := by
    rintro rfl
    obtain rfl : own = later := hown
    have hne : own ≠ [] := fun hnil => h.cuts.ne_nil (by rw [hnil]; rfl)
    obtain ⟨x, own, rfl⟩ := List.exists_cons_of_ne_nil hne
    have hle := hlater.offset_le x List.mem_cons_self
    have hstart := h.start x rfl
    omega
  intro c hc
  obtain ⟨part, rfl⟩ : ∃ tail, part = c :: tail := List.head?_eq_some_iff.mp hc
  rw [List.cons_append] at hone
  constructor
  · by_contra hblank
    rw [Bool.not_eq_false] at hblank
    have hgap : headIs isGap (c :: (part ++ rest)) = true := isGap_of_isBlank hblank
    rw [scanOne, if_pos hgap] at hone
    exact htokens (Prod.mk.inj (Option.some.inj hone)).2.symm
  · rintro rfl
    rw [scanOne_byteOrderMark] at hone
    cases hone

theorem Node.Stands.last_char (h : node.Stands t left own right front part rest) :
    ∀ c ∈ part.getLast?, isBlank c = false := by
  obtain ⟨u, w, token, rfl, hw, hleads, hlast⟩ := h.stretch.last_token
  have hend : token.MayEnd := h.cuts.ends token hlast
  intro c hc
  rw [List.getLast?_append_of_ne_nil _ hw] at hc
  generalize ht : w ++ rest = t at hleads
  generalize hn : w.length = n at hleads
  cases hleads with
  | opening | errorMark | literal => cases hend
  | closing d t =>
    obtain ⟨x, rfl⟩ := List.length_eq_one_iff.mp hn
    obtain ⟨rfl, -⟩ := List.cons.inj ht
    obtain rfl : d.closing = c := Option.some.inj hc
    cases d <;> decide
  | punct hpunct t joint =>
    obtain ⟨x, rfl⟩ := List.length_eq_one_iff.mp hn
    obtain ⟨rfl, -⟩ := List.cons.inj ht
    obtain rfl : x = c := Option.some.inj hc
    exact isBlank_of_isPunct hpunct
  | ident hident =>
    subst ht hn
    have htake : (w ++ rest).take w.length = w := List.take_left
    exact isBlank_of_isIdent (isIdent_of_getLast hident (htake.symm ▸ hc))

theorem Node.Stands.alone (h : node.Stands t left own right front part rest) :
    ∃ placed, Stretch [] 0 part placed ∧
      SameTokens (own.map Placed.token) (placed.map Placed.token) := by
  rcases h.behind.follows h.cuts.follows with hedge | ⟨rest, rfl⟩
  · exact h.stretch.swap hedge atEdge_nil (by simp [startsWith, dropHead?]) 0
  · exact h.stretch.alone h.cuts.ends 0

/-! ### Reading the text of a node -/

theorem leaf?_unjoined {a b : Token} {index : Nat} {tree : Tree} (index' : Nat)
    (h : a.unjoined = b.unjoined) (ha : leaf? index a = some tree) :
    ∃ tree', leaf? index' b = some tree' := by
  cases a with
  | opening | closing => cases ha
  | ident | punct | literal | comment => cases b <;> first | exact ⟨_, rfl⟩ | cases h

/-- Tokens nest in whatever place, and whether they are joint does not matter. -/
theorem Nests.moved {index : Nat} {tokens tokens' : List Token} {trees : List Tree}
    (h : Nests index tokens trees) (index' : Nat)
    (htokens : tokens'.map Token.unjoined = tokens.map Token.unjoined) :
    ∃ trees', Nests index' tokens' trees' := by
  induction h generalizing tokens' index' with
  | nil =>
    obtain rfl := List.map_eq_nil_iff.mp htokens
    exact ⟨[], .nil index'⟩
  | leaf htree hrest ih =>
    obtain ⟨token', tokens', rfl, htoken, htokens⟩ := List.map_eq_cons_iff.mp htokens
    obtain ⟨tree', htree'⟩ := leaf?_unjoined index' htoken.symm htree
    obtain ⟨trees', htrees'⟩ := ih (index' + 1) htokens
    exact ⟨_, .leaf htree' htrees'⟩
  | @group index d inner tokens content trees hcontent hrest ihcontent ih =>
    rw [List.cons_append, List.map_cons, List.map_append, List.map_cons] at htokens
    obtain ⟨opening, behind, rfl, hopening, hbehind⟩ := List.map_eq_cons_iff.mp htokens
    obtain ⟨inner', behind, rfl, hinner, hbehind⟩ := List.map_eq_append_iff.mp hbehind
    obtain ⟨closing, tokens', rfl, hclosing, hlater⟩ := List.map_eq_cons_iff.mp hbehind
    obtain rfl : opening = .opening d := by cases opening <;> first | exact hopening | cases hopening
    obtain rfl : closing = .closing d := by cases closing <;> first | exact hclosing | cases hclosing
    obtain ⟨content', hcontent'⟩ := ihcontent (index' + 1) hinner
    obtain ⟨trees', htrees'⟩ := ih (index' + inner'.length + 2) hlater
    exact ⟨_, .group hcontent' htrees'⟩

theorem SameTokens.map_unjoined {a b : List Token} (h : SameTokens a b) :
    b.map Token.unjoined = a.map Token.unjoined := by
  obtain ⟨before, last, last', rfl, rfl, hlast⟩ := h
  simp [hlast]

/-- The text of a node can be read, and has the tokens of the node. -/
theorem Node.Stands.read (h : node.Stands t left own right front part rest) :
    ∃ alone, Tokens.read part = .ok alone ∧
      SameTokens (own.map Placed.token) alone.sequence := by
  obtain ⟨placed, hstretch, hsame⟩ := h.alone
  obtain ⟨trees, hown⟩ := h.cuts.nests
  obtain ⟨trees', htrees'⟩ := hown.moved 0 hsame.map_unjoined
  have hmark : markLength part = 0 :=
    markLength_eq_zero_iff.mpr fun hhead => (h.first_char byteOrderMark hhead).2 rfl
  refine ⟨⟨part, placed.toArray, trees'⟩, ?_, by simpa [Tokens.sequence] using hsame⟩
  rw [Tokens.read_eq_ok_iff, hmark]
  exact ⟨placed, hstretch.scans, htrees', rfl, rfl⟩

end MapperGen.Syntax
