import MapperGen.Proofs.Syntax.NodeText

/-!
# Ends of tokens

What is read at the start of a text ends with a character that is no blank, unless it is a gap or a
comment that goes to the end of its line.
-/

namespace MapperGen.Syntax

open MapperGen.Text

/-! ### Last characters -/

/-- The last character of the text is no blank. -/
def EndsInked (t : Text) : Prop := ∃ c, t.getLast? = some c ∧ isBlank c = false

theorem endsInked_concat {c : Char} (hc : isBlank c = false) (t : Text) :
    EndsInked (t ++ [c]) :=
  ⟨c, List.getLast?_concat, hc⟩

theorem EndsInked.append {t : Text} (h : EndsInked t) (front : Text) : EndsInked (front ++ t) := by
  obtain ⟨c, hlast, hc⟩ := h
  refine ⟨c, ?_, hc⟩
  rw [List.getLast?_append, hlast]
  rfl

theorem EndsInked.cons {t : Text} (h : EndsInked t) (c : Char) : EndsInked (c :: t) :=
  h.append [c]

/-- What `f` reads does not end with a blank. -/
def ReadsInked (f : Text → Option Nat) : Prop := ∀ ⦃t n⦄, f t = some n → EndsInked (t.take n)

/-! ### Quoted literals -/

theorem Quoting.bodyLength_inked (q : Quoting) (mode : Mode) : ReadsInked (q.bodyLength mode) := by
  intro t n h
  induction t generalizing mode n with
  | nil => cases h
  | cons c t ih =>
    rw [bodyLength] at h
    split at h
    · next hstep =>
      obtain rfl := Option.some.inj h
      obtain rfl := quote_of_step hstep
      exact endsInked_concat (by decide) []
    · cases h
    · next mode' hstep =>
      obtain ⟨m, hm, rfl⟩ := Option.map_eq_some_iff.mp h
      rw [List.take_succ_cons]
      exact (ih mode' hm).cons c

theorem Quoting.charLength_inked (q : Quoting) : ReadsInked q.charLength := by
  intro t n h
  rw [charLength] at h
  split at h
  · next m hunit =>
    split at h
    · next hquote =>
      obtain rfl := Option.some.inj h
      obtain ⟨rest, hrest⟩ := startsWith_iff.mp hquote
      have htake : t.take (m + 1) = t.take m ++ ['\''] := by
        rw [List.take_add, ← hrest]
        rfl
      rw [htake]
      exact endsInked_concat (by decide) _
    · cases h
  · cases h

theorem endsInked_hashes (hashes : Nat) : EndsInked ('"' :: List.replicate hashes '#') := by
  cases hashes with
  | zero => exact endsInked_concat (by decide) []
  | succ hashes =>
    rw [List.replicate_succ', ← List.cons_append]
    exact endsInked_concat (by decide) _

theorem rawBodyLength_inked (plain : Char → Bool) (hashes : Nat) :
    ReadsInked (rawBodyLength plain hashes) := by
  intro t n h
  fun_induction rawBodyLength plain hashes t generalizing n with
  | case1 => cases h
  | case2 t hclose =>
    obtain rfl := Option.some.inj h
    obtain ⟨rest, rfl⟩ := startsWith_iff.mp hclose
    have htake : (List.replicate hashes '#' ++ rest).take hashes = List.replicate hashes '#' := by
      simp
    rw [List.take_succ_cons, htake]
    exact endsInked_hashes hashes
  | case3 t hopen ih =>
    obtain ⟨m, hm, rfl⟩ := Option.map_eq_some_iff.mp h
    exact (ih hm).cons '"'
  | case4 t ih =>
    obtain ⟨m, hm, rfl⟩ := Option.map_eq_some_iff.mp h
    exact ((ih hm).cons '\n').cons '\r'
  | case5 t hreturn => cases h
  | case6 c t hquote hline hreturn hplain ih =>
    obtain ⟨m, hm, rfl⟩ := Option.map_eq_some_iff.mp h
    exact (ih hm).cons c
  | case7 => cases h

theorem rawLength_inked (plain : Char → Bool) : ReadsInked (rawLength plain) := by
  intro t n h
  rw [rawLength] at h
  split at h
  · next body hbody =>
    split at h
    · obtain ⟨m, hm, rfl⟩ := Option.map_eq_some_iff.mp h
      have hinked := rawBodyLength_inked _ _ hm
      have htake : t.take (m + ((t.takeWhile (· == '#')).length + 1)) =
          t.take (t.takeWhile (· == '#')).length ++ '"' :: body.take m := by
        rw [Nat.add_comm m, Nat.add_assoc, List.take_add, hbody, Nat.add_comm 1]
        rfl
      rw [htake]
      exact (hinked.cons '"').append _
    · cases h
  · cases h

theorem quotedForm?_inked {t head : Text} {body : Text → Option Nat}
    (h : quotedForm? t = some (head, body)) : ReadsInked body := by
  have hmem := List.mem_of_find?_eq_some h
  simp only [quotedForms, List.mem_cons, Prod.mk.injEq, List.not_mem_nil, or_false] at hmem
  obtain ⟨-, rfl⟩ | ⟨-, rfl⟩ | ⟨-, rfl⟩ | ⟨-, rfl⟩ | ⟨-, rfl⟩ | ⟨-, rfl⟩ | ⟨-, rfl⟩ |
    ⟨-, rfl⟩ := hmem
  · exact Quoting.bodyLength_inked _ _
  · exact rawLength_inked _
  · exact Quoting.bodyLength_inked _ _
  · exact rawLength_inked _
  · exact Quoting.charLength_inked _
  · exact Quoting.bodyLength_inked _ _
  · exact rawLength_inked _
  · exact Quoting.charLength_inked _

/-! ### Tokens -/

theorem halts_of_isBlank {c : Char} (hc : isBlank c) (t : Text) : Halts (c :: t) :=
  (atEdge_cons.mpr (isEdge_of_isGap (isGap_of_isBlank hc))).halts

/-- A literal that takes a blank in takes more: a number ends before a blank, as a suffix does, and
the body of a quoted literal ends with its closing mark. -/
theorem endsInked_of_literalLength {t : Text} {n : Nat} (h : literalLength t = some (n + 1)) :
    EndsInked (t.take (n + 1)) := by
  have hle := literalLength_le h
  obtain ⟨a, c, hsplit⟩ : ∃ a c, t.take (n + 1) = a ++ [c] := by
    refine (List.eq_nil_or_concat' (t.take (n + 1))).resolve_left fun hnil => ?_
    have hlength := congrArg List.length hnil
    rw [List.length_take_of_le hle] at hlength
    cases hlength
  rw [hsplit]
  refine endsInked_concat ?_ a
  by_contra hblank
  rw [Bool.not_eq_false] at hblank
  have hn : n + 1 = a.length + 1 := by
    have hlength := congrArg List.length hsplit
    rw [List.length_take_of_le hle, List.length_append, List.length_singleton] at hlength
    exact hlength
  obtain ⟨r, rfl⟩ : ∃ r, t = a ++ c :: r := by
    refine ⟨t.drop (n + 1), ?_⟩
    rw [← List.singleton_append, ← List.append_assoc, ← hsplit, List.take_append_drop]
  have hhalts := halts_of_isBlank hblank r
  rw [literalLength_eq, quotedForm?_append hhalts] at h
  cases hform : quotedForm? a with
  | none =>
    rw [hform] at h
    dsimp only at h
    rw [numberLength_append hhalts] at h
    have hshort := numberLength_le h
    omega
  | some form =>
    obtain ⟨head, body⟩ := form
    rw [hform] at h
    dsimp only at h
    have hhead := (startsWith_of_quotedForm? hform).length_le
    rw [List.drop_append_of_le_length hhead] at h
    obtain ⟨m, hm, hsuffix⟩ := Option.map_eq_some_iff.mp h
    by_cases hbody : m + head.length ≤ a.length
    · rw [withSuffix_append hhalts hbody] at hsuffix
      have hshort := withSuffix_le hbody
      omega
    · -- the body ends with the blank
      have hend : m = a.length - head.length + 1 := by
        rw [withSuffix] at hsuffix
        omega
      have hlast := quotedForm?_inked hform hm
      have htake : (a.drop head.length ++ c :: r).take m = a.drop head.length ++ [c] := by
        have hlength : m = (a.drop head.length).length + 1 := by
          rw [List.length_drop]
          exact hend
        rw [hlength, List.take_length_add_append]
        rfl
      rw [htake] at hlast
      obtain ⟨d, hd, hink⟩ := hlast
      rw [List.getLast?_concat] at hd
      obtain rfl := Option.some.inj hd
      rw [hblank] at hink
      cases hink

theorem endsInked_of_blockLength {depth n : Nat} {t : Text} (h : blockLength depth t = some n) :
    EndsInked (t.take n) := by
  fun_induction blockLength depth t generalizing n with
  | case1 => cases h
  | case2 depth t ih =>
    obtain ⟨m, hm, rfl⟩ := Option.map_eq_some_iff.mp h
    exact ((ih hm).cons '*').cons '/'
  | case3 depth t hdepth =>
    obtain rfl := Option.some.inj h
    exact endsInked_concat (by decide) ['*']
  | case4 depth t hdepth ih =>
    obtain ⟨m, hm, rfl⟩ := Option.map_eq_some_iff.mp h
    exact ((ih hm).cons '/').cons '*'
  | case5 depth c t hopen hclose ih =>
    obtain ⟨m, hm, rfl⟩ := Option.map_eq_some_iff.mp h
    exact (ih hm).cons c

theorem Token.Leads.endsInked {token : Token} {t : Text} {n : Nat}
    (h : token.Leads t (n + 1)) : EndsInked (t.take (n + 1)) := by
  generalize hlength : n + 1 = length at h
  cases h with
  | opening d t => cases d <;> exact endsInked_concat (by decide) []
  | closing d t => cases d <;> exact endsInked_concat (by decide) []
  | errorMark hmark =>
    obtain ⟨rest, rfl⟩ := startsWith_iff.mp hmark
    rw [List.take_left]
    exact endsInked_concat (c := ')') (by decide) "(/*ERROR*/".toList
  | literal hliteral =>
    subst hlength
    exact endsInked_of_literalLength hliteral
  | punct hpunct t joint => exact endsInked_concat (isBlank_of_isPunct hpunct) []
  | ident hident =>
    subst hlength
    have hle := anyIdentLength_le hident
    obtain ⟨c, hc⟩ : ∃ c, (t.take (n + 1)).getLast? = some c := by
      refine Option.ne_none_iff_exists'.mp fun hnone => ?_
      have hlength := congrArg List.length (List.getLast?_eq_none_iff.mp hnone)
      rw [List.length_take_of_le hle] at hlength
      cases hlength
    exact ⟨c, hc, isBlank_of_isIdent (isIdent_of_getLast hident hc)⟩

/-- What `scanOne` reads is a gap, a comment up to the end of its line, or it ends with a character
that is no blank. -/
theorem endsInked_of_scanOne {t : Text} {n : Nat} {tokens : List Token}
    (h : scanOne t = some (n + 1, tokens)) : headIs isGap t = true ∨ n + 1 = lineLength t ∨
      EndsInked (t.take (n + 1)) := by
  by_cases hgap : headIs isGap t = true
  · exact .inl hgap
  · right
    rw [scanOne, if_neg hgap] at h
    split at h
    · exact .inl (lineComment_eq_some h).1
    · right
      split at h
      · exact endsInked_of_blockLength (blockComment_eq_some h).1
      · obtain ⟨token, -, hleads⟩ := token?_eq_some h
        exact hleads.endsInked

end MapperGen.Syntax
