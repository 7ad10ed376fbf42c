import MapperGen.Proofs.Syntax.NodeEdge

/-!
# Parts that stand alone

A part of a text that ends as a node does has the same tokens when it is read by itself. What follows
it in the text is an edge, unless it is the word `where` right behind a bracket or a punctuation
character.
-/

namespace MapperGen.Syntax

open MapperGen.Text

variable {p v : Text} {offset : Nat} {placed : List Placed}

/-! ### Last tokens -/

theorem Stretch.last_token (h : Stretch p offset v placed) : ∃ u w token, v = u ++ w ∧ w ≠ [] ∧
    token.Leads (w ++ p) w.length ∧ (placed.map Placed.token).getLast? = some token := by
  induction h with
  | @last offset v token hv h =>
    obtain ⟨_, heq, hleads⟩ := token?_eq_some (token?_of_scanOne h)
    obtain ⟨rfl, -⟩ := List.cons.inj heq
    exact ⟨[], v, token, rfl, hv, hleads, rfl⟩
  | @step offset n v tokens later h hn hlater ih =>
    obtain ⟨u, w, token, hv, hw, hleads, hlast⟩ := ih
    refine ⟨v.take (n + 1) ++ u, w, token, ?_, hw, hleads, ?_⟩
    · rw [List.append_assoc, ← hv, List.take_append_drop]
    · rw [List.map_append, List.getLast?_append, hlast]
      rfl

/-! ### The word `where` right behind -/

theorem halts_of_isStop {x : Char} {t : Text} (hx : isStop x)
    (ht : exponentLength true false t = none) : Halts (x :: t) where
  head := by simpa using hx
  exponent sign digit := by
    have hlow : x ≠ '_' := ne_of_isStop hx
    by_cases hsign : x = '+' ∨ x = '-'
    · cases digit <;> cases sign <;> simp [exponentLength, hsign, ht]
    · simp [exponentLength, hsign, hlow, isDigit_of_isStop hx]

theorem holds_of_isPunct {t : Char → Bool} (htest : ("~!@#$%^&*-=+|;:,<.>/?'".toList.all fun c =>
    "#.'".toList.contains c || t c) = true) {c : Char} (hc : isPunct c = true)
    (hmark : c ∉ "#.'".toList) : t c = true := by
  have htested := List.all_eq_true.mp htest c (List.contains_iff_mem.mp hc)
  rw [Bool.or_eq_true, List.contains_iff_mem] at htested
  exact htested.resolve_left hmark

theorem isStop_of_isPunct {c : Char} (hc : isPunct c = true) (hmark : c ∉ "#.'".toList) :
    isStop c = true :=
  holds_of_isPunct (by decide +kernel) hc hmark

theorem isStop_closing (d : Delimiter) : isStop d.closing = true := by
  cases d <;> decide +kernel

theorem scanOne_punct_alone {c : Char} (hc : isPunct c = true) (hmark : c ∉ "#.'".toList) :
    scanOne [c] = some (1, [.punct c false]) := by
  have halone : (scanOne [c] == some (1, [.punct c false])) = true :=
    holds_of_isPunct (t := fun c => scanOne [c] == some (1, [.punct c false]))
      (by decide +kernel) hc hmark
  exact beq_iff_eq.mp halone

theorem identLength_ne {w : Text} {c : Char} (hc : isIdentContinue c = true) (hw : w ≠ []) :
    identLength (w ++ c :: p) ≠ w.length := by
  obtain ⟨a, w, rfl⟩ := List.exists_cons_of_ne_nil hw
  rw [List.cons_append, identLength, List.takeWhile_append, List.length_cons]
  split
  · split
    · simp [hc]
    · omega
  · omega

theorem anyIdentLength_ne {w : Text} {c : Char} (hc : isIdentContinue c = true) (hw : w ≠ []) :
    anyIdentLength (w ++ c :: p) ≠ some w.length := by
  intro h
  rw [anyIdentLength] at h
  dsimp only at h
  split at h
  · split at h
    · cases h
    · next hname =>
      have hlength := Option.some.inj h
      simp only [Bool.or_eq_true, decide_eq_true_eq, not_or] at hname
      rw [List.drop_append_of_le_length (by omega)] at hlength hname
      have hdrop : (w.drop 2).length = w.length - 2 := List.length_drop
      refine identLength_ne hc (w := w.drop 2) (p := p) ?_ (by omega)
      exact List.ne_nil_of_length_pos (by omega)
  · split at h
    · cases h
    · exact identLength_ne hc hw (Option.some.inj h)

/-- In front of the word `where` a node ends with one character, which is a token by itself. -/
theorem Token.Leads.stop {w : Text} {token : Token} (h : token.Leads (w ++ 'w' :: p) w.length)
    (hw : w ≠ []) (htoken : token.MayEnd) : ∃ x token', w = [x] ∧ isStop x = true ∧
      scanOne [x] = some (1, [token']) ∧ token'.unjoined = token.unjoined := by
  generalize ht : w ++ 'w' :: p = t at h
  generalize hn : w.length = n at h
  cases h with
  | opening | errorMark | literal => cases htoken
  | closing d rest =>
    obtain ⟨x, rfl⟩ := List.length_eq_one_iff.mp hn
    obtain ⟨rfl, -⟩ := List.cons.inj ht
    exact ⟨_, _, rfl, isStop_closing d, scanOne_closing, rfl⟩
  | punct hpunct rest joint =>
    obtain ⟨x, rfl⟩ := List.length_eq_one_iff.mp hn
    obtain ⟨rfl, -⟩ := List.cons.inj ht
    exact ⟨_, _, rfl, isStop_of_isPunct hpunct htoken, scanOne_punct_alone hpunct htoken, rfl⟩
  | ident hident =>
    subst ht hn
    exact absurd hident (anyIdentLength_ne (by decide +kernel) hw)

theorem scanOne_alone {u : Text} {x : Char} {n : Nat} {tokens : List Token} (hx : isStop x = true)
    (h : scanOne (u ++ [x] ++ 'w' :: p) = some (n, tokens)) (hpos : 0 < n) (hn : n ≤ u.length) :
    scanOne (u ++ [x]) = some (n, tokens) := by
  have hp : Halts ([x] ++ 'w' :: p) := halts_of_isStop hx (by simp [exponentLength])
  have hq : Halts ([x] ++ []) := halts_of_isStop hx (by simp [exponentLength])
  have hu : u ≠ [] := List.ne_nil_of_length_pos (by omega)
  have hstart (t head : Text) (hhead : 'w' ∉ head) :
      startsWith (t ++ ([x] ++ [])) head = startsWith (t ++ ([x] ++ 'w' :: p)) head := by
    rw [← List.append_assoc, ← List.append_assoc, List.append_nil]
    exact (startsWith_append_of_head fun c hc => by
      obtain rfl : 'w' = c := by simpa using hc
      exact hhead).symm
  rw [List.append_assoc] at h
  obtain ⟨tokens', hone, -, htokens⟩ := scanOne_congr hp hq hu (hstart u _ (by decide))
    (hstart u _ (by decide)) (hstart u _ (by decide)) h hn (by simp; omega)
  have hjoint : startsPunct (u.tail ++ ([x] ++ [])) = startsPunct (u.tail ++ ([x] ++ 'w' :: p)) := by
    have hcomment : startsComment (u.tail ++ ([x] ++ [])) =
        startsComment (u.tail ++ ([x] ++ 'w' :: p)) := by
      rw [startsComment, startsComment, hstart _ _ (by decide), hstart _ _ (by decide)]
    rw [← List.append_assoc, ← List.append_assoc] at hcomment ⊢
    exact startsPunct_congr (by simp) hcomment
  rw [htokens fun _ => hjoint] at hone
  exact hone

/-- A part that ends as a node does in front of the word `where` has the same tokens by itself. -/
theorem Stretch.alone (h : Stretch ('w' :: p) offset v placed)
    (hend : ∀ token ∈ (placed.map Placed.token).getLast?, token.MayEnd) (offset' : Nat) :
    ∃ placed', Stretch [] offset' v placed' ∧
      SameTokens (placed.map Placed.token) (placed'.map Placed.token) := by
  induction h generalizing offset' with
  | @last offset v token hv h =>
    obtain ⟨_, heq, hleads⟩ := token?_eq_some (token?_of_scanOne h)
    obtain ⟨rfl, -⟩ := List.cons.inj heq
    obtain ⟨x, token', rfl, -, hone, htoken⟩ := hleads.stop hv (hend token rfl)
    exact ⟨_, .last hv hone, [], token, token', rfl, rfl, htoken.symm⟩
  | @step offset n v tokens later h hn hlater ih =>
    obtain ⟨u, w, token, rfl, hw, hleads, hlast⟩ := (Stretch.step h hn hlater).last_token
    obtain ⟨x, token', rfl, hx, -, -⟩ := hleads.stop hw (hend token hlast)
    rw [List.length_append, List.length_singleton] at hn
    have hone := scanOne_alone hx h (Nat.succ_pos n) (by omega)
    rw [← List.append_nil (u ++ [x])] at hone
    have hend' : ∀ token ∈ (later.map Placed.token).getLast?, token.MayEnd := by
      intro token' htoken'
      refine hend token' ?_
      rw [List.map_append, List.getLast?_append, Option.mem_def.mp htoken']
      rfl
    obtain ⟨placed', hplaced, htokens⟩ := ih hend' (offset' + (n + 1))
    refine ⟨_, .step hone (by simpa using hn) hplaced, ?_⟩
    rw [List.map_append, List.map_append, List.map_map, List.map_map]
    exact htokens.append _

/-! ### What follows -/

theorem Scans.step_of_ne_nil (h : Scans p offset v placed) (hv : v ≠ []) :
    ∃ n tokens later, scanOne (v ++ p) = some (n + 1, tokens) ∧ n + 1 ≤ v.length ∧
      Scans p (offset + (n + 1)) (v.drop (n + 1)) later ∧
        placed = tokens.map (fun token => ⟨token, offset, offset + (n + 1)⟩) ++ later := by
  cases h with
  | nil => exact absurd rfl hv
  | step h hn hlater => exact ⟨_, _, _, h, hn, hlater, rfl⟩

theorem Scans.behind {all : List Placed} (h : Scans p offset v placed)
    (hall : Scans [] offset (v ++ p) all) :
    ∃ later, all = placed ++ later ∧ Scans [] (offset + v.length) p later := by
  induction h generalizing all with
  | nil => exact ⟨all, rfl, hall⟩
  | @step offset n v tokens later h hn hlater ih =>
    have hne : v ++ p ≠ [] := by
      rintro hnil
      simp [(List.append_eq_nil_iff.mp hnil).1] at hn
    obtain ⟨n', tokens', later', h', -, hlater', rfl⟩ := hall.step_of_ne_nil hne
    rw [List.append_nil, h] at h'
    obtain ⟨hn', rfl⟩ := Prod.mk.inj (Option.some.inj h')
    obtain rfl := Nat.succ.inj hn'
    rw [List.drop_append_of_le_length hn] at hlater'
    obtain ⟨rest, rfl, hrest⟩ := ih hlater'
    refine ⟨rest, (List.append_assoc _ _ _).symm, ?_⟩
    have hlength : offset + (n + 1) + (v.drop (n + 1)).length = offset + v.length := by
      rw [List.length_drop]
      omega
    rwa [hlength] at hrest

theorem isEdge_opening (d : Delimiter) : isEdge d.opening = true := by
  cases d <;> decide

theorem isEdge_closing (d : Delimiter) : isEdge d.closing = true := by
  cases d <;> decide

theorem Token.Leads.follows {t : Text} {n : Nat} {token : Token} (h : token.Leads t n)
    (htoken : token.MayFollow) : AtEdge t ∨ ∃ rest, t = 'w' :: rest := by
  cases h with
  | opening d t => exact .inl (atEdge_cons.mpr (isEdge_opening d))
  | closing d t => exact .inl (atEdge_cons.mpr (isEdge_closing d))
  | errorMark | literal => cases htoken
  | punct hpunct t joint =>
    refine .inl (atEdge_cons.mpr ?_)
    rcases htoken with rfl | rfl <;> decide
  | ident h =>
    have hname : t.take n = "where".toList := htoken
    obtain ⟨rest, rfl⟩ := hname ▸ List.take_prefix n t
    exact .inr ⟨_, rfl⟩

theorem Scans.follows (h : Scans [] offset p placed)
    (hfollows : ∀ token ∈ (placed.map Placed.token).head?, token.MayFollow) :
    AtEdge p ∨ ∃ rest, p = 'w' :: rest := by
  by_cases hne : p = []
  · subst hne
    exact .inl atEdge_nil
  · obtain ⟨n, tokens, later, hone, -, -, rfl⟩ := h.step_of_ne_nil hne
    obtain ⟨c, p, rfl⟩ := List.exists_cons_of_ne_nil hne
    rw [List.append_nil] at hone
    have hslash (d : Char) (hstart : startsWith (c :: p) ['/', d] = true) : AtEdge (c :: p) := by
      obtain ⟨rest, hrest⟩ := startsWith_iff.mp hstart
      obtain ⟨rfl, -⟩ := List.cons.inj hrest
      exact atEdge_cons.mpr (by decide)
    have htoken := hone
    rw [scanOne] at htoken
    split at htoken
    · next hgap => exact .inl (atEdge_cons.mpr (isEdge_of_isGap hgap))
    · split at htoken
      · next hline => exact .inl (hslash _ hline)
      · split at htoken
        · next hblock => exact .inl (hslash _ hblock)
        · obtain ⟨token, rfl, hleads⟩ := token?_eq_some htoken
          exact hleads.follows (hfollows token rfl)

end MapperGen.Syntax
