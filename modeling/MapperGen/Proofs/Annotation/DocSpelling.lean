import MapperGen.Proofs.Annotation.Redistribution
import MapperGen.Proofs.Syntax.Lexes

/-!
# Spellings of documentation

Documentation is written as a comment line, as a comment block or as an attribute. The scanner gives
all three the same form of tokens, so the grammar reads each as one documentation attribute. What
this documents is the text that was written.
-/

namespace MapperGen.Syntax

open MapperGen.Text

/-- The ways to write a documentation attribute: a comment line, maybe with a carriage return in
front of its line feed; a comment block; an attribute that is given a text literal. -/
inductive DocSpelling where
  | line (content : Text) (returned : Bool)
  | block (content : Text)
  | written (lexeme : Text)

namespace DocSpelling

/-- What is written on a comment line, behind its slashes. -/
def lineText (content : Text) (returned : Bool) : Text :=
  content ++ if returned then ['\r'] else []

/-- The text that is written. -/
def text : DocSpelling → Text
  | line content returned => '/' :: '/' :: '/' :: (lineText content returned ++ ['\n'])
  | block content => '/' :: '*' :: '*' :: (content ++ ['*', '/'])
  | written lexeme => ['#', '[', 'd', 'o', 'c', ' ', '=', ' '] ++ lexeme ++ [']']

/-- The text that is documented. -/
def content : DocSpelling → Text
  | line content _ | block content => content
  | written lexeme => (textValue? lexeme).getD []

/-- The token that holds what is documented. -/
def token : DocSpelling → Token
  | line content _ | block content => .comment content
  | written lexeme => .literal lexeme

/-- All tokens. -/
def tokens (d : DocSpelling) : List Token :=
  [.punct '#' false, .opening .bracket, .ident "doc".toList, .punct '=' false, d.token,
    .closing .bracket]

/-- A line is one line and starts with no fourth slash; a block is closed by its end and by nothing
before, and starts with no further star; no carriage return stands alone in a comment; an attribute
has a text literal. -/
def IsReadable : DocSpelling → Prop
  | line content _ => '\n' ∉ content ∧ '\r' ∉ content ∧ content.head? ≠ some '/'
  | block content => (∃ c ∈ content.head?, c ≠ '*') ∧ hasBareReturn content = false ∧
      blockLength 0 (block content).text = some (block content).text.length
  | written lexeme => isTextLiteral lexeme ∧ literalLength lexeme = some lexeme.length

/-! ### Comment lines -/

theorem lineContent_lineText {content : Text} (hfeed : '\n' ∉ content) (hreturn : '\r' ∉ content)
    (returned : Bool) (t : Text) :
    lineContent (lineText content returned ++ '\n' :: t) = content := by
  have hlast : content.getLast? ≠ some '\r' := fun h => hreturn (List.mem_of_getLast? h)
  have hline : '\n' ∉ lineText content returned := by cases returned <;> simp [lineText, hfeed]
  have htake : (lineText content returned ++ '\n' :: t).takeWhile (· != '\n') =
      lineText content returned := by
    rw [List.takeWhile_append_of_pos fun c hc => by
      simpa using fun heq : c = '\n' => hline (heq ▸ hc)]
    simp
  rw [lineContent, htake]
  cases returned with
  | false => simp [lineText, hlast]
  | true => simp [lineText]

theorem scanOne_line {content : Text} {returned : Bool} (h : (line content returned).IsReadable)
    (t : Text) : scanOne ((line content returned).text ++ t) =
      some ((lineText content returned).length + 3, (line content returned).tokens) := by
  obtain ⟨hfeed, hreturn, hslash⟩ := h
  have hcontent := lineContent_lineText hfeed hreturn returned t
  have hhead : (lineText content returned).head? ≠ some '/' := by
    cases content with
    | nil => cases returned <;> simp [lineText]
    | cons c rest => exact hslash
  have hline : '\n' ∉ '/' :: '/' :: '/' :: lineText content returned := by
    cases returned <;> simp [lineText, hfeed]
  have hlength := lineLength_append_newline hline t
  have hbare : hasBareReturn content = false := (hasBareReturn_line hfeed).mpr hreturn
  have htext : (line content returned).text ++ t =
      '/' :: '/' :: '/' :: (lineText content returned ++ '\n' :: t) := by simp [text]
  have hslashes : startsWith ('/' :: '/' :: '/' :: (lineText content returned ++ '\n' :: t))
      ['/', '/'] := by simp [startsWith, dropHead?]
  have hinner : startsWith ('/' :: '/' :: '/' :: (lineText content returned ++ '\n' :: t))
      "//!".toList = false := by simp [startsWith, dropHead?]
  have hthree : startsWith ('/' :: '/' :: '/' :: (lineText content returned ++ '\n' :: t))
      "///".toList = true := by simp [startsWith, dropHead?]
  have hfour : startsWith ('/' :: '/' :: '/' :: (lineText content returned ++ '\n' :: t))
      "////".toList = false := by
    cases hrest : lineText content returned with
    | nil => simp [startsWith, dropHead?]
    | cons c rest =>
      have hc : '/' ≠ c := by
        rintro rfl
        exact hhead (by rw [hrest]; rfl)
      simp [startsWith, dropHead?, hc]
  rw [htext, Syntax.scanOne_line hslashes, lineComment, hinner, hthree, hfour]
  simp only [List.cons_append] at hlength
  simp [docComment, hbare, tokens, docTokens, token, hlength, hcontent]

/-! ### Comment blocks -/

theorem scanOne_block {content : Text} (h : (block content).IsReadable) (t : Text) :
    scanOne ((block content).text ++ t) =
      some ((block content).text.length, (block content).tokens) := by
  obtain ⟨⟨c, hhead, hstar⟩, hbare, hblock⟩ := h
  have hlength := (blockLength_selfDelimiting 0).append (q := t) hblock
  obtain ⟨rest, rfl⟩ := List.head?_eq_some_iff.mp hhead
  have hslash : c ≠ '/' := by
    rintro rfl
    simp [text, blockLength] at hblock
  have htext : (block (c :: rest)).text ++ t =
      '/' :: '*' :: '*' :: c :: (rest ++ '*' :: '/' :: t) := by simp [text]
  rw [htext] at hlength ⊢
  rw [Syntax.scanOne_block (by simp [startsWith, dropHead?]), blockComment, hlength]
  have hcontent : (('/' :: '*' :: '*' :: c :: (rest ++ '*' :: '/' :: t)).take
      ((block (c :: rest)).text.length - 2)).drop 3 = c :: rest := by
    simp [text]
  simp [startsWith, dropHead?, Ne.symm hslash, Ne.symm hstar, docComment, hbare, tokens, docTokens,
    token, hcontent]

/-! ### Attributes -/

theorem scanOne_hash (t : Text) : scanOne ('#' :: '[' :: t) = some (1, [.punct '#' false]) := by
  rw [scanOne_other _ (by decide) (by decide) (by decide) (by decide)]
  have hpunct : punct? ('#' :: '[' :: t) = some (1, [.punct '#' false]) := by
    simp [punct?, startsPunct, headIs, startsComment, startsWith, dropHead?, isPunct]
  rw [hpunct, Option.some_or]

theorem scanOne_literal {lexeme : Text} (h : (written lexeme).IsReadable) (t : Text) :
    scanOne (lexeme ++ ']' :: t) = some (lexeme.length, [.literal lexeme]) := by
  obtain ⟨htext, hlength⟩ := h
  have hhalts : Halts (']' :: t) := (atEdge_cons.mpr (isEdge_closing .bracket)).halts
  have hswap : literalLength (lexeme ++ ']' :: t) = some lexeme.length :=
    literalLength_swap atEdge_nil.halts hhalts (by rwa [List.append_nil]) le_rfl
  have hliteral : literal? (lexeme ++ ']' :: t) = some (lexeme.length, [.literal lexeme]) := by
    rw [literal?, hswap, Option.map_some, List.take_left]
  obtain ⟨c, rest, rfl⟩ : ∃ c rest, lexeme = c :: rest := by
    cases lexeme with
    | nil => cases htext
    | cons c rest => exact ⟨c, rest, rfl⟩
  have hc : c = '"' ∨ c = 'r' := by simpa [isTextLiteral, headIs] using htext
  have hgap : isGap c = false := by obtain rfl | rfl := hc <;> decide
  have hslash : '/' ≠ c := by obtain rfl | rfl := hc <;> decide
  have hparen : '(' ≠ c := by obtain rfl | rfl := hc <;> decide
  have hopening : Delimiter.ofOpening? c = none := by obtain rfl | rfl := hc <;> decide
  have hclosing : Delimiter.ofClosing? c = none := by obtain rfl | rfl := hc <;> decide
  have hbracket : bracket? (c :: (rest ++ ']' :: t)) = none := by
    rw [bracket?, errorMark_eq]
    simp [startsWith, dropHead?, hparen, hopening, hclosing]
  rw [List.cons_append] at hliteral ⊢
  simp [scanOne, headIs, hgap, startsWith, dropHead?, hslash, hbracket, hliteral]

theorem lexes_written {lexeme : Text} (h : (written lexeme).IsReadable) (t : Text)
    {us : List Token} : Lexes [] ((written lexeme).text ++ t) us ↔
      ∃ later, Lexes [] t later ∧ us = (written lexeme).tokens ++ later := by
  have hspace (t : Text) (us : List Token) : Lexes [] (' ' :: t) us ↔ Lexes [] t us :=
    Lexes.gaps_iff (g := [' ']) (List.all_eq_true.mp (by decide)) t
  have hdoc (t : Text) : scanOne ('d' :: 'o' :: 'c' :: ' ' :: t) =
      some (2 + 1, [.ident "doc".toList]) :=
    scanOne_before_blank (v := ['d', 'o', 'c']) (p := []) (by decide) (by decide +kernel) le_rfl t
  have hequals (t : Text) : scanOne ('=' :: ' ' :: t) = some (0 + 1, [.punct '=' false]) :=
    scanOne_before_blank (v := ['=']) (p := []) (by decide) (by decide +kernel) le_rfl t
  have hopening (t : Text) : scanOne ('[' :: t) = some (0 + 1, [.opening .bracket]) := by
    refine scanOne_opening (d := .bracket) ?_
    rw [errorMark_eq]
    simp [startsWith, dropHead?, Delimiter.opening]
  have hclosing (t : Text) : scanOne (']' :: t) = some (0 + 1, [.closing .bracket]) :=
    scanOne_closing (d := .bracket)
  obtain ⟨n, hn⟩ : ∃ n, lexeme.length = n + 1 := by
    cases lexeme with
    | nil => cases h.1
    | cons c rest => exact ⟨_, rfl⟩
  have hliteral := scanOne_literal h t
  rw [hn] at hliteral
  have hdrop : (lexeme ++ ']' :: t).drop (n + 1) = ']' :: t := by rw [← hn, List.drop_left]
  have htext : (written lexeme).text ++ t =
      '#' :: '[' :: 'd' :: 'o' :: 'c' :: ' ' :: '=' :: ' ' :: (lexeme ++ ']' :: t) := by simp [text]
  rw [htext]
  simp only [Lexes.whole_iff (scanOne_hash _), Lexes.whole_iff (hopening _),
    Lexes.whole_iff (hdoc _), hspace, Lexes.whole_iff (hequals _), Lexes.whole_iff hliteral,
    Lexes.whole_iff (hclosing _), List.drop_succ_cons, List.drop_zero, hdrop]
  constructor
  · intro hus
    obtain ⟨_, ⟨_, ⟨_, ⟨_, ⟨_, ⟨later, hlater, rfl⟩, rfl⟩, rfl⟩, rfl⟩, rfl⟩, rfl⟩ := hus
    exact ⟨later, hlater, rfl⟩
  · rintro ⟨later, hlater, rfl⟩
    exact ⟨_, ⟨_, ⟨_, ⟨_, ⟨_, ⟨later, hlater, rfl⟩, rfl⟩, rfl⟩, rfl⟩, rfl⟩, rfl⟩

theorem lexes_text {d : DocSpelling} (h : d.IsReadable) (t : Text) {us : List Token} :
    Lexes [] (d.text ++ t) us ↔ ∃ later, Lexes [] t later ∧ us = d.tokens ++ later := by
  cases d with
  | line content returned =>
    have hdrop : ((line content returned).text ++ t).drop
        ((lineText content returned).length + 3) = ['\n'] ++ t := by
      simp [text]
    have hgap : ∀ c ∈ ['\n'], isGap c := List.all_eq_true.mp (by decide)
    have hfeed (us : List Token) : Lexes [] (['\n'] ++ t) us ↔ Lexes [] t us :=
      Lexes.gaps_iff hgap t
    rw [Lexes.whole_iff (scanOne_line h t), hdrop]
    simp only [hfeed]
  | block content =>
    have hlength : (block content).text.length = content.length + 4 + 1 := by simp [text]
    have hone := scanOne_block h t
    rw [hlength] at hone
    rw [Lexes.whole_iff hone, ← hlength, List.drop_left]
  | written lexeme => exact lexes_written h t

/-! ### Reading attributes -/

/-- The trees of a documentation attribute whose first token has the given index. -/
def trees (index : Nat) : List Tree :=
  [.punct '#' false index,
    .group .bracket [.ident "doc".toList (index + 2), .punct '=' false (index + 3),
      .literal .text (index + 4)] (index + 1) (index + 5)]

theorem leaf?_token {d : DocSpelling} (h : d.IsReadable) (index : Nat) :
    leaf? index d.token = some (.literal .text index) := by
  cases d with
  | line | block => rfl
  | written lexeme =>
    have htext : isTextLiteral lexeme := h.1
    simp [token, leaf?, Literal.ofLexeme, htext]

theorem nests_tokens {d : DocSpelling} (h : d.IsReadable) (index : Nat) :
    Nests index d.tokens (trees index) := by
  have hcontent : Nests (index + 2) [.ident "doc".toList, .punct '=' false, d.token]
      [.ident "doc".toList (index + 2), .punct '=' false (index + 3), .literal .text (index + 4)] :=
    .leaf rfl (.leaf rfl (.leaf (leaf?_token h _) (.nil _)))
  exact .leaf rfl (.group hcontent (.nil _))

open MapperGen.Syntax.Parser Grammar Trees

theorem outerAttribute_run (r : Rules) {c : Cursor} {index : Nat} {ts : Trees}
    (hrest : c.rest = trees index ++ ts) :
    ∃ c', outerAttribute r c = .ok (.doc (index + 4), c') ∧ c'.rest = ts := by
  obtain ⟨rest, ending, last, afterBrace, leftover, read⟩ := c
  obtain rfl : rest = trees index ++ ts := hrest
  exact ⟨_, rfl, rfl⟩

/-- The trees of documentation attributes in a row. -/
def allTrees (index : Nat) : List DocSpelling → List Tree
  | [] => []
  | _ :: ds => trees index ++ allTrees (index + 6) ds

/-- What the attributes in a row are read as. -/
def attributes (index : Nat) : List DocSpelling → List Attribute
  | [] => []
  | _ :: ds => .doc (index + 4) :: attributes (index + 6) ds

theorem length_le_allTrees (index : Nat) (ds : List DocSpelling) :
    ds.length ≤ (allTrees index ds).length := by
  induction ds generalizing index with
  | nil => simp
  | cons d ds ih =>
    have := ih (index + 6)
    simp [allTrees, trees]
    omega

theorem nests_allTokens {ds : List DocSpelling} (h : ∀ d ∈ ds, d.IsReadable) (index : Nat) :
    Nests index (ds.flatMap tokens) (allTrees index ds) := by
  induction ds generalizing index with
  | nil => exact .nil index
  | cons d ds ih =>
    rw [List.forall_mem_cons] at h
    exact (nests_tokens h.1 index).append (ih h.2 (index + 6))

theorem collectUpTo_run (r : Rules) {ds : List DocSpelling} {c : Cursor} {index n : Nat}
    {ts : Trees} (hn : ds.length < n) (hrest : c.rest = allTrees index ds ++ ts)
    (hts : ts.atOp "#" = false) :
    ∃ c', collectUpTo (do
      if (← ahead).atOp "#" then return some (← outerAttribute r) else return none) n c =
        .ok (attributes index ds, c') ∧ c'.rest = ts := by
  induction ds generalizing c index n with
  | nil =>
    obtain ⟨m, rfl⟩ := Nat.exists_eq_succ_of_ne_zero (Nat.ne_zero_of_lt hn)
    have hsees : ¬ c.rest.atOp "#" = true := by simpa [hrest, allTrees] using hts
    refine ⟨c, bind_run_eq_ok_iff.mpr ⟨none, c, ?_, rfl⟩, hrest⟩
    rw [ahead_bind_run, if_neg hsees]
    rfl
  | cons d ds ih =>
    obtain ⟨m, rfl⟩ := Nat.exists_eq_succ_of_ne_zero (Nat.ne_zero_of_lt hn)
    rw [allTrees, List.append_assoc] at hrest
    have hsees : c.rest.atOp "#" = true := by rw [hrest]; rfl
    obtain ⟨c₁, hrun, hrest₁⟩ := outerAttribute_run r hrest
    obtain ⟨c', hlater, hrest'⟩ := ih (Nat.lt_of_succ_lt_succ hn) hrest₁
    refine ⟨c', bind_run_eq_ok_iff.mpr ⟨some (.doc (index + 4)), c₁, ?_, ?_⟩, hrest'⟩
    · rw [ahead_bind_run, if_pos hsees]
      exact bind_run_eq_ok_iff.mpr ⟨_, c₁, hrun, rfl⟩
    · exact bind_run_eq_ok_iff.mpr ⟨_, c', hlater, rfl⟩

theorem outerAttributes_run (r : Rules) {ds : List DocSpelling} {c : Cursor} {index : Nat}
    {ts : Trees} (hrest : c.rest = allTrees index ds ++ ts) (hts : ts.atOp "#" = false) :
    ∃ c', outerAttributes r c = .ok (attributes index ds, c') ∧ c'.rest = ts := by
  have hlength : ds.length < c.rest.length + 1 := by
    have hle := length_le_allTrees index ds
    rw [hrest, List.length_append]
    omega
  exact collectUpTo_run r hlength hrest hts

/-! ### What is documented -/

theorem textAt_token {s : Tokens} {d : DocSpelling} {before behind : List Token}
    (hs : s.sequence = before ++ (d.tokens ++ behind)) :
    (s.textAt (before.length + 4)).getD [] = d.content := by
  have htoken : s.placed[before.length + 4]?.map Placed.token = some d.token := by
    have hget : s.sequence[before.length + 4]? = some d.token := by
      rw [hs, List.getElem?_append_right (by omega), Nat.add_sub_cancel_left]
      rfl
    rwa [Tokens.sequence, List.getElem?_map, Array.getElem?_toList] at hget
  rw [Tokens.textAt, htoken]
  cases d <;> rfl

theorem docs_attributes {s : Tokens} {ds : List DocSpelling} {before behind : List Token}
    (hs : s.sequence = before ++ (ds.flatMap tokens ++ behind)) :
    docs s (attributes before.length ds) = ds.map fun d => some d.content := by
  induction ds generalizing before with
  | nil => rfl
  | cons d ds ih =>
    rw [List.flatMap_cons, List.append_assoc] at hs
    have hrest : docs s (attributes (before ++ d.tokens).length ds) =
        ds.map fun d => some d.content := ih (by rw [hs, List.append_assoc])
    have hfirst := textAt_token hs
    rw [List.length_append] at hrest
    rw [attributes, docs, List.map_cons, List.map_cons, Attribute.doc?, hfirst]
    exact congrArg _ hrest

/-! ### From texts to attributes -/

/-- Documentation attributes in a row are scanned as tokens that do not depend on what stands behind
them; these nest; the grammar takes each as one attribute and leaves what is no attribute; and the
attributes document the texts that were written, in order. -/
structure ReadAsAttributes (ds : List DocSpelling) : Prop where
  scanned : ∀ t us, Lexes [] (ds.flatMap text ++ t) us ↔
    ∃ later, Lexes [] t later ∧ us = ds.flatMap tokens ++ later
  nested : ∀ index, Nests index (ds.flatMap tokens) (allTrees index ds)
  parsed : ∀ (r : Rules) (c : Cursor) (index : Nat) (ts : Trees),
    c.rest = allTrees index ds ++ ts → ts.atOp "#" = false →
    ∃ c', outerAttributes r c = .ok (attributes index ds, c') ∧ c'.rest = ts
  documented : ∀ (s : Tokens) (before behind : List Token),
    s.sequence = before ++ (ds.flatMap tokens ++ behind) →
    docs s (attributes before.length ds) = ds.map fun d => some d.content

theorem lexes_allTexts {ds : List DocSpelling} (h : ∀ d ∈ ds, d.IsReadable) (t : Text)
    {us : List Token} : Lexes [] (ds.flatMap text ++ t) us ↔
      ∃ later, Lexes [] t later ∧ us = ds.flatMap tokens ++ later := by
  induction ds generalizing us with
  | nil => simp
  | cons d ds ih =>
    rw [List.forall_mem_cons] at h
    rw [List.flatMap_cons, List.append_assoc, lexes_text h.1]
    simp only [ih h.2, List.flatMap_cons, List.append_assoc]
    constructor
    · rintro ⟨_, ⟨later, hlater, rfl⟩, rfl⟩
      exact ⟨later, hlater, rfl⟩
    · rintro ⟨later, hlater, rfl⟩
      exact ⟨_, ⟨later, hlater, rfl⟩, rfl⟩

theorem readAsAttributes {ds : List DocSpelling} (h : ∀ d ∈ ds, d.IsReadable) :
    ReadAsAttributes ds where
  scanned t _ := lexes_allTexts h t
  nested := nests_allTokens h
  parsed r _ _ _ := outerAttributes_run r
  documented _ _ _ := docs_attributes

end DocSpelling

end MapperGen.Syntax
