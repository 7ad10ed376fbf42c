import Mathlib.Data.List.Forall2
import Mathlib.Data.List.TakeWhile
import MapperGen.Json.Print
import MapperGen.Json.Read

/-!
# JSON values printed and read again

A printed value is read as the value it was printed from, whatever texts it holds and whatever
follows it. `Reads` says what a reader does with a printed part in any place; it passes from the
parts of a list or object to the whole.
-/

namespace MapperGen.Json

open Text

/-! ### Texts -/

theorem hexValue?_digitChar {d : Nat} (h : d < 16) : hexValue? (Nat.digitChar d) = some d := by
  decide +revert

/-- A character that is written by its number is a control character, so four digits are enough. -/
theorem unitEscape_digits {c : Char} (h : c.toNat < 0x20) (t : Text) :
    unitEscape ('0' :: '0' :: Nat.digitChar (c.toNat / 16) :: Nat.digitChar (c.toNat % 16) :: t) =
      some (c, t) := by
  have hhigh := hexValue?_digitChar (show c.toNat / 16 < 16 by omega)
  have hlow := hexValue?_digitChar (show c.toNat % 16 < 16 by omega)
  have hzero : hexValue? '0' = some 0 := by decide
  have hunit : codeUnit? ('0' :: '0' :: Nat.digitChar (c.toNat / 16) ::
      Nat.digitChar (c.toNat % 16) :: t) = some (c.toNat, t) := by
    simp only [codeUnit?, List.take_succ_cons, List.take_zero, List.length_cons, List.length_nil,
      List.all_cons, List.all_nil, isHexDigit, hhigh, hlow, hzero, hexNumber, List.foldl_cons,
      List.foldl_nil, List.drop_succ_cons, List.drop_zero]
    simp only [Option.isSome_some, Bool.and_self, and_self, if_true, Option.some.injEq,
      Prod.mk.injEq, and_true]
    omega
  rw [unitEscape, hunit]
  have hlow : ¬ (0xD800 ≤ c.toNat ∧ c.toNat ≤ 0xDBFF) := by omega
  have hhigh : ¬ (0xDC00 ≤ c.toNat ∧ c.toNat ≤ 0xDFFF) := by omega
  simp only [hlow, hhigh, if_false, Char.ofNat_toNat]

theorem readQuoted_escape {c : Char} {t rest : Text} (h : escape t = some (c, rest)) :
    readQuoted ('\\' :: t) = (readQuoted rest).map fun (behind, rest) => (c :: behind, rest) := by
  rw [readQuoted]
  split
  · next c' rest' h' =>
    rw [h] at h'
    obtain ⟨rfl, rfl⟩ := Prod.mk.inj (Option.some.inj h')
    rfl
  · next h' =>
    rw [h] at h'
    cases h'

/-- A character is read from what it is written as. -/
theorem readQuoted_quoteChar (c : Char) (t : Text) :
    readQuoted (quoteChar c ++ t) =
      (readQuoted t).map fun (behind, rest) => (c :: behind, rest) := by
  rw [quoteChar]
  -- the letters behind a backslash one by one, then the numbered characters, then the others
  iterate 7
    split
    · next h =>
      subst h
      exact readQuoted_escape rfl
  split
  · next h => exact readQuoted_escape (unitEscape_digits h t)
  · next hquote hbackslash _ _ _ _ _ hcontrol =>
    rw [List.singleton_append, readQuoted.eq_def]
    split
    · next heq => cases heq
    · next heq => exact absurd (List.cons.inj heq).1 hquote
    · next heq => exact absurd (List.cons.inj heq).1 hbackslash
    · next heq =>
      obtain ⟨rfl, rfl⟩ := List.cons.inj heq
      rw [if_neg hcontrol]

/-- A text is read from between its quotes. -/
theorem readQuoted_flatMap (content rest : Text) :
    readQuoted (content.flatMap quoteChar ++ '"' :: rest) = some (content, rest) := by
  induction content with
  | nil => simp [readQuoted]
  | cons c content ih =>
    rw [List.flatMap_cons, List.append_assoc, readQuoted_quoteChar, ih]
    rfl

theorem readQuoted_quote (content rest : Text) :
    ∃ t, quote content ++ rest = '"' :: t ∧ readQuoted t = some (content, rest) := by
  refine ⟨content.flatMap quoteChar ++ '"' :: rest, ?_, readQuoted_flatMap content rest⟩
  simp [quote]

/-! ### Blanks -/

theorem skipGap_of_not_isGap {c : Char} (h : isGap c = false) (t : Text) :
    skipGap (c :: t) = c :: t :=
  List.dropWhile_cons_of_neg (by simp [h])

theorem skipGap_newLine (level : Nat) (t : Text) : skipGap (newLine level ++ t) = skipGap t := by
  have hgaps : ∀ c ∈ newLine level, isGap c = true := by
    intro c hc
    rcases List.mem_cons.mp hc with rfl | hc
    · rfl
    · rw [(List.mem_replicate.mp hc).2]
      rfl
  exact List.dropWhile_append_of_pos hgaps

/-- What a printed part of a list or object starts with: no blank, and not the bracket that would
end the list or object. -/
def Starts (closing : Char) (part : Text) : Prop :=
  ∃ c t, part = c :: t ∧ isGap c = false ∧ c ≠ closing

theorem Starts.skipGap {closing : Char} {part : Text} (h : Starts closing part) (t : Text) :
    skipGap (part ++ t) = part ++ t := by
  obtain ⟨c, part, rfl, hgap, -⟩ := h
  exact skipGap_of_not_isGap hgap (part ++ t)

/-! ### Lists and objects -/

/-- A reader reads a value from a printed part, behind any blanks and before any other text. -/
def Reads {α : Type} (reader : Text → Option (α × Text)) (part : Text) (a : α) : Prop :=
  ∀ t rest, skipGap t = part ++ rest → reader t = some (a, rest)

/-- A part that is not the first one of a list or object. -/
def nextPart (level : Nat) (part : Text) : Text := ',' :: (newLine level ++ part)

theorem joinWith_parts (level : Nat) (part : Text) (parts : List Text) :
    joinWith (',' :: newLine level) (part :: parts) = part ++ parts.flatMap (nextPart level) := by
  induction parts generalizing part with
  | nil => simp [joinWith]
  | cons next parts ih =>
    rw [joinWith, ih, List.flatMap_cons, nextPart]
    · simp
    · simp

variable {α : Type} {item : Text → Option (α × Text)} {closing : Char} {part : Text} {a : α}

/-- A bracket that ends a list or object is no blank and no comma. -/
structure Closes (closing : Char) : Prop where
  notGap : isGap closing = false
  notComma : closing ≠ ','

theorem readMore_closing (hclosing : Closes closing) (outer more : Nat) (rest : Text) :
    readMore item closing (more + 1) (newLine outer ++ closing :: rest) = some ([], rest) := by
  rw [readMore, skipGap_newLine, skipGap_of_not_isGap hclosing.notGap]
  simp

theorem readMore_nextPart (hclosing : Closes closing) (hread : Reads item part a)
    (hstarts : Starts closing part) (level more : Nat) (behind : Text) :
    readMore item closing (more + 1) (nextPart level part ++ behind) =
      (readMore item closing more behind).map fun (as, rest) => (a :: as, rest) := by
  have hitem : item (newLine level ++ part ++ behind) = some (a, behind) := by
    refine hread _ behind ?_
    rw [List.append_assoc, skipGap_newLine, hstarts.skipGap]
  rw [nextPart, List.cons_append, readMore, skipGap_of_not_isGap (by decide)]
  simp only [Ne.symm hclosing.notComma, if_false, if_true, hitem]

/-- What follows an item is read: the other parts, and the bracket. -/
theorem readMore_parts {parts : List Text} {as : List α} (hclosing : Closes closing)
    (hreads : List.Forall₂ (Reads item) parts as) (hstarts : ∀ part ∈ parts, Starts closing part)
    (level outer more : Nat) (hmore : parts.length < more) (rest : Text) :
    readMore item closing more (parts.flatMap (nextPart level) ++
      (newLine outer ++ closing :: rest)) = some (as, rest) := by
  induction hreads generalizing more with
  | nil =>
    obtain ⟨more, rfl⟩ := Nat.exists_eq_add_of_lt hmore
    exact readMore_closing hclosing outer _ rest
  | @cons part a parts as hread hrest ih =>
    rw [List.forall_mem_cons] at hstarts
    obtain ⟨more, rfl⟩ : ∃ n, more = n + 1 := Nat.exists_eq_succ_of_ne_zero (by omega)
    rw [List.flatMap_cons, List.append_assoc, readMore_nextPart hclosing hread hstarts.1,
      ih hstarts.2 more (by simpa using hmore)]
    rfl

theorem length_le_flatMap_nextPart (level : Nat) (parts : List Text) :
    parts.length ≤ (parts.flatMap (nextPart level)).length := by
  induction parts with
  | nil => simp
  | cons part parts ih =>
    rw [List.flatMap_cons, List.length_append, List.length_cons, nextPart, List.length_cons]
    omega

/-- A printed list or object is read behind its opening bracket. -/
theorem readItems_enclose {parts : List Text} {as : List α} (hclosing : Closes closing)
    (hreads : List.Forall₂ (Reads item) parts as) (hstarts : ∀ part ∈ parts, Starts closing part)
    (opening : Char) (level : Nat) (rest : Text) :
    ∃ t, enclose opening closing level parts ++ rest = opening :: t ∧
      readItems item closing t = some (as, rest) := by
  cases hreads with
  | nil =>
    refine ⟨closing :: rest, rfl, ?_⟩
    rw [readItems, skipGap_of_not_isGap hclosing.notGap]
    simp
  | @cons part a parts as hread hrest =>
    rw [List.forall_mem_cons] at hstarts
    let behind := parts.flatMap (nextPart (level + 1)) ++ (newLine level ++ closing :: rest)
    refine ⟨newLine (level + 1) ++ (part ++ behind), ?_, ?_⟩
    · simp [enclose, joinWith_parts, behind]
    · have hlength : parts.length ≤ behind.length := by
        have hle := length_le_flatMap_nextPart (level + 1) parts
        rw [List.length_append]
        omega
      have hmore := readMore_parts hclosing hrest hstarts.2 (level + 1) level (behind.length + 1)
        (by omega) rest
      have hitem : item (part ++ behind) = some (a, behind) :=
        hread _ behind (hstarts.1.skipGap behind)
      obtain ⟨c, part, rfl, hgap, hne⟩ := hstarts.1
      rw [readItems, skipGap_newLine, List.cons_append, skipGap_of_not_isGap hgap]
      rw [List.cons_append] at hitem
      simp only [hne, if_false, hitem]
      rw [hmore]
      rfl

theorem length_lt_enclose {parts : List Text} {part : Text} (h : part ∈ parts)
    (opening closing : Char) (level : Nat) :
    part.length < (enclose opening closing level parts).length := by
  have hle : part.length ≤ (joinWith (',' :: newLine (level + 1)) parts).length := by
    induction parts with
    | nil => cases h
    | cons first parts ih =>
      rw [joinWith_parts, List.length_append]
      rcases List.mem_cons.mp h with rfl | h
      · omega
      · have hnext :=
          List.sublist_flatten_of_mem (List.mem_map_of_mem (f := nextPart (level + 1)) h)
        have hle := hnext.length_le
        rw [← List.flatMap_def, nextPart, List.length_cons, List.length_append] at hle
        omega
  have hne : parts.isEmpty = false := List.isEmpty_eq_false_iff.mpr (List.ne_nil_of_mem h)
  rw [enclose, hne, if_neg (by decide)]
  simp only [List.length_append, List.length_cons]
  omega

theorem length_enclose_pos (opening closing : Char) (level : Nat) (parts : List Text) :
    0 < (enclose opening closing level parts).length := by
  rw [enclose]
  split <;> simp

/-! ### Values -/

theorem starts_quote (t rest : Text) (h : closing ≠ '"') : Starts closing (quote t ++ rest) :=
  ⟨'"', t.flatMap quoteChar ++ ['"'] ++ rest, by simp [quote], by decide, h.symm⟩

theorem starts_enclose {opening : Char} (closing' : Char) (level : Nat) (parts : List Text)
    (hgap : isGap opening = false) (hne : opening ≠ closing) :
    Starts closing (enclose opening closing' level parts) := by
  rw [enclose]
  split
  · exact ⟨opening, _, rfl, hgap, hne⟩
  · exact ⟨opening, _, rfl, hgap, hne⟩

theorem starts_printAt (level : Nat) (v : Json) : Starts ']' (printAt level v) := by
  cases v with
  | null => exact ⟨'n', "ull".toList, rfl, by decide, by decide⟩
  | text t =>
    have h : Starts ']' (quote t ++ []) := starts_quote t [] (by decide)
    rwa [List.append_nil] at h
  | list items => exact starts_enclose ']' level _ (by decide) (by decide)
  | object fields => exact starts_enclose '\x7d' level _ (by decide) (by decide)

theorem starts_printItems {level : Nat} {items : List Json} :
    ∀ part ∈ printItems level items, Starts ']' part := by
  induction items with
  | nil => simp [printItems]
  | cons item items ih =>
    rw [printItems, List.forall_mem_cons]
    exact ⟨starts_printAt level item, ih⟩

theorem starts_printFields {level : Nat} {fields : List (Text × Json)} :
    ∀ part ∈ printFields level fields, Starts '\x7d' part := by
  induction fields with
  | nil => simp [printFields]
  | cons field fields ih =>
    rw [printFields, List.forall_mem_cons]
    refine ⟨?_, ih⟩
    rw [List.append_assoc]
    exact starts_quote _ _ (by decide)

theorem closes_list : Closes ']' := ⟨by decide, by decide⟩

theorem closes_object : Closes '\x7d' := ⟨by decide, by decide⟩

theorem reads_text {levels : Nat} (h : 0 < levels) (t : Text) :
    Reads (readValue levels) (quote t) (text t) := by
  intro front rest hfront
  obtain ⟨levels, rfl⟩ := Nat.exists_eq_succ_of_ne_zero (Nat.ne_of_gt h)
  obtain ⟨behind, hquote, hread⟩ := readQuoted_quote t rest
  rw [hquote] at hfront
  simp only [readValue, hfront, hread]
  rfl

theorem reads_list {levels level : Nat} {items : List Json} {parts : List Text}
    (hreads : List.Forall₂ (Reads (readValue levels)) parts items)
    (hstarts : ∀ part ∈ parts, Starts ']' part) :
    Reads (readValue (levels + 1)) (enclose '[' ']' level parts) (list items) := by
  intro front rest hfront
  obtain ⟨behind, hparts, hread⟩ := readItems_enclose closes_list hreads hstarts '[' level rest
  rw [hparts] at hfront
  simp only [readValue, hfront, hread]
  rfl

theorem reads_object {levels level : Nat} {fields : List (Text × Json)} {parts : List Text}
    (hreads : List.Forall₂ (Reads (readField (readValue levels))) parts fields)
    (hstarts : ∀ part ∈ parts, Starts '\x7d' part) :
    Reads (readValue (levels + 1)) (enclose '\x7b' '\x7d' level parts) (object fields) := by
  intro front rest hfront
  obtain ⟨behind, hparts, hread⟩ :=
    readItems_enclose closes_object hreads hstarts '\x7b' level rest
  rw [hparts] at hfront
  simp only [readValue, hfront, hread]
  rfl

theorem reads_null {levels : Nat} (h : 0 < levels) :
    Reads (readValue levels) "null".toList null := by
  intro front rest hfront
  obtain ⟨levels, rfl⟩ := Nat.exists_eq_succ_of_ne_zero (Nat.ne_of_gt h)
  have hfront' : skipGap front = 'n' :: ("ull".toList ++ rest) := hfront
  simp only [readValue, hfront']
  rfl

theorem reads_field {levels level : Nat} {v : Json}
    (h : Reads (readValue levels) (printAt level v) v) (name : Text) :
    Reads (readField (readValue levels)) (quote name ++ ": ".toList ++ printAt level v)
      (name, v) := by
  intro front rest hfront
  let behind := ':' :: ' ' :: (printAt level v ++ rest)
  obtain ⟨t, hquote, hread⟩ := readQuoted_quote name behind
  have hfront' : skipGap front = '"' :: t := by
    rw [hfront, ← hquote]
    simp [behind]
  have hcolon : skipGap behind = behind := skipGap_of_not_isGap (by decide) _
  have hvalue : readValue levels (' ' :: (printAt level v ++ rest)) = some (v, rest) :=
    h _ rest ((starts_printAt level v).skipGap rest)
  simp only [readField, hfront', hread, hcolon, behind, hvalue]
  rfl

/-! By induction on the value: what stands in a list or object has one level of brackets less, and a
shorter text. -/

mutual

theorem reads_printAt : (v : Json) → (level levels : Nat) →
    (printAt level v).length ≤ levels → Reads (readValue levels) (printAt level v) v
  | null, _, levels, h => reads_null (Nat.lt_of_lt_of_le (by decide : 0 < 4) h)
  | text t, _, levels, h =>
    reads_text (Nat.lt_of_lt_of_le (by simp [printAt, quote] : 0 < (printAt 0 (text t)).length) h) t
  | list items, level, levels, h => by
    rw [printAt] at h ⊢
    have hpos := length_enclose_pos '[' ']' level (printItems (level + 1) items)
    obtain ⟨levels, rfl⟩ := Nat.exists_eq_succ_of_ne_zero (show levels ≠ 0 by omega)
    refine reads_list (reads_printItems items (level + 1) levels fun part hpart => ?_)
      starts_printItems
    have hlt := length_lt_enclose hpart '[' ']' level
    omega
  | object fields, level, levels, h => by
    rw [printAt] at h ⊢
    have hpos := length_enclose_pos '\x7b' '\x7d' level (printFields (level + 1) fields)
    obtain ⟨levels, rfl⟩ := Nat.exists_eq_succ_of_ne_zero (show levels ≠ 0 by omega)
    refine reads_object (reads_printFields fields (level + 1) levels fun part hpart => ?_)
      starts_printFields
    have hlt := length_lt_enclose hpart '\x7b' '\x7d' level
    omega

theorem reads_printItems : (items : List Json) → (level levels : Nat) →
    (∀ part ∈ printItems level items, part.length ≤ levels) →
    List.Forall₂ (Reads (readValue levels)) (printItems level items) items
  | [], _, _, _ => .nil
  | item :: items, level, levels, h => by
    rw [printItems, List.forall_mem_cons] at h
    exact .cons (reads_printAt item level levels h.1) (reads_printItems items level levels h.2)

theorem reads_printFields : (fields : List (Text × Json)) → (level levels : Nat) →
    (∀ part ∈ printFields level fields, part.length ≤ levels) →
    List.Forall₂ (Reads (readField (readValue levels))) (printFields level fields) fields
  | [], _, _, _ => .nil
  | (name, v) :: fields, level, levels, h => by
    rw [printFields, List.forall_mem_cons] at h
    have hlength : (printAt level v).length ≤ levels := by
      have hfield := h.1
      rw [List.length_append] at hfield
      omega
    exact .cons (reads_field (reads_printAt v level levels hlength) name)
      (reads_printFields fields level levels h.2)

end

/-- A printed value is read again, whatever blanks follow it. -/
theorem read_printed (v : Json) {blanks : Text} (h : ∀ c ∈ blanks, isGap c = true) :
    Json.read (v.print ++ blanks) = some v := by
  have hread := reads_printAt v 0 ((v.print ++ blanks).length + 1)
    (by rw [print, List.length_append]; omega) (v.print ++ blanks) blanks
    ((starts_printAt 0 v).skipGap blanks)
  have hblanks : skipGap blanks = [] := List.dropWhile_eq_nil_iff.mpr h
  rw [Json.read, hread]
  simp [hblanks]

end MapperGen.Json
