import MapperGen.Proofs.Output.Formatter
import MapperGen.Proofs.Output.Pieces
import MapperGen.Proofs.Syntax.Lexes

/-!
# Exchanging parts of a text

Two texts may be exchanged if whatever follows them leaves the same tokens, before and after
tidying. So the comment of an ignored field may be left out, and the braces of a struct literal
without fields may stand on one line, where the scanner comes to them between two tokens. Texts that
may be exchanged and start with a comment are formatted alike.
-/

namespace MapperGen

open Syntax Text

/-! ### Texts that may be exchanged -/

/-- Whatever follows both texts, the same tokens are left, tidied or not. -/
structure Alike (v v' : Text) : Prop where
  plain : ∀ q ts, Lexes [] (v ++ q) ts ↔ Lexes [] (v' ++ q) ts
  tidied : ∀ q ts, Lexes [] (tidy (v ++ q)) ts ↔ Lexes [] (tidy (v' ++ q)) ts

namespace Alike

variable {u v v' v'' : Text}

theorem refl (v : Text) : Alike v v := ⟨fun _ _ => Iff.rfl, fun _ _ => Iff.rfl⟩

theorem symm (h : Alike v v') : Alike v' v :=
  ⟨fun q ts => (h.plain q ts).symm, fun q ts => (h.tidied q ts).symm⟩

theorem trans (h : Alike v v') (h' : Alike v' v'') : Alike v v'' :=
  ⟨fun q ts => (h.plain q ts).trans (h'.plain q ts),
    fun q ts => (h.tidied q ts).trans (h'.tidied q ts)⟩

theorem append (h : Alike v v') (u : Text) : Alike (v ++ u) (v' ++ u) := by
  constructor
  · intro q ts
    rw [List.append_assoc, List.append_assoc]
    exact h.plain (u ++ q) ts
  · intro q ts
    rw [List.append_assoc, List.append_assoc]
    exact h.tidied (u ++ q) ts

end Alike

/-- The text starts with a character that is no blank. -/
def StartsLine (t : Text) : Prop := ∃ c u, t = c :: u ∧ isBlank c = false

theorem StartsLine.append {t : Text} (h : StartsLine t) (u : Text) : StartsLine (t ++ u) := by
  obtain ⟨c, v, rfl, hc⟩ := h
  exact ⟨c, v ++ u, rfl, hc⟩

theorem StartsLine.tidy_eq {t : Text} (h : StartsLine t) : tidy t = flow t := by
  obtain ⟨c, u, rfl, hc⟩ := h
  exact (tidy_cons c u).resolve_right fun h => by simp [hc] at h

/-- A place in front of a character that is no blank is one in the tidied text too. -/
theorem Syntax.StandsAt.tidy {u w p : Text} {c : Char} (hstart : StartsLine u)
    (hc : isBlank c = false) (htidy : tidy (u ++ c :: p) = w ++ flow (c :: p))
    (h : StandsAt u (c :: p)) : StandsAt w (flow (c :: p)) := by
  obtain ⟨ts, hlexes⟩ := h
  have hflow : Reflow (u ++ c :: p) (w ++ flow (c :: p)) := by
    rw [← htidy, (hstart.append _).tidy_eq]
    exact reflow_flow _
  obtain ⟨v', p', ts', hsplit, hlexes', hrest⟩ := hlexes.reflow hflow
  have hink := (reflow_flow (c :: p)).ink_eq.symm.trans hrest.ink_eq
  obtain ⟨p', rfl, -⟩ := hrest.of_cons hc
  rw [flow_ink hc] at hsplit hink ⊢
  obtain ⟨rfl, hp⟩ := eq_of_ink_eq hc hc hsplit hink
  exact ⟨ts', hp ▸ hlexes'⟩

/-! ### Comments and braces -/

/-- The blanks at the start of an indented line. -/
def margin (steps : Nat) : Text := List.replicate (4 * steps) ' '

theorem indented_eq (steps : Nat) (t : Text) : indented steps t = margin steps ++ (t ++ ['\n']) :=
  List.append_assoc ..

theorem mem_margin {steps : Nat} {c : Char} (h : c ∈ margin steps) : isBlank c ∧ c ≠ '\n' := by
  obtain rfl : c = ' ' := List.eq_of_mem_replicate h
  decide

theorem newline_notMem_margin (steps : Nat) : '\n' ∉ margin steps := fun h => (mem_margin h).2 rfl

/-- Where the scanner comes to the comment of an ignored field, the comment may be left out. -/
theorem Alike.ignored {v p target : Text} (hstart : StartsLine v) (hend : EndsLine v)
    (hline : '\n' ∉ (Directive.ignore target).entry)
    (h : StandsAt (v ++ margin 3) ('/' :: p)) :
    Alike (v ++ indented 3 (Directive.ignore target).entry) v := by
  obtain ⟨content, hcontent⟩ : ∃ content,
      (Directive.ignore target).entry = '/' :: '/' :: ' ' :: (content ++ [')']) :=
    ⟨target ++ ": (ignored".toList, by simp [Directive.entry]⟩
  generalize (Directive.ignore target).entry = entry at hline hcontent ⊢
  have hcomment (q : Text) (us : List Token) :
      Lexes [] (indented 3 entry ++ q) us ↔ Lexes [] q us := by
    have hcontent' : '\n' ∉ content ++ [')'] := fun hmem => hline (by simp [hcontent, hmem])
    have htext : indented 3 entry ++ q =
        margin 3 ++ '/' :: '/' :: ' ' :: ((content ++ [')']) ++ '\n' :: q) := by
      simp [indented_eq, hcontent]
    rw [htext, Lexes.gaps_iff fun c hc => isGap_of_isBlank (mem_margin hc).1,
      Lexes.comment_iff hcontent']
  constructor
  · intro q us
    rw [List.append_assoc]
    obtain ⟨u, c, rfl, -⟩ := hend
    exact h.congr rfl (c := '\n') (by simp) isBlank_newline (fun c => mem_margin) (hcomment q)
  · intro q us
    obtain ⟨w, hw, htidy⟩ := tidy_endsLine hend
    have hplace : StandsAt (w ++ margin 3) (flow ('/' :: p)) := by
      refine h.tidy (hstart.append _) (by decide) ?_
      rw [List.append_assoc, htidy, settle_ink (newline_notMem_margin 3) (by decide),
        if_neg Bool.false_ne_true, List.nil_append, List.append_assoc]
    rw [flow_ink (by decide)] at hplace
    have hkept : settle true false (lineEnds (indented 3 entry ++ q)) =
        indented 3 entry ++ settle true false (lineEnds q) := by
      have hlast : entry.getLast? = some ')' := by
        rw [hcontent]
        exact List.getLast?_concat (l := '/' :: '/' :: ' ' :: content)
      have hentry : InkLine entry := ⟨hline, ')', hlast, by decide⟩
      have hwritten := (hentry.behind (newline_notMem_margin 3)).settle true false q
      simpa [indented_eq] using hwritten
    rw [List.append_assoc, htidy, htidy, hkept]
    exact hplace.congr rfl hw isBlank_newline (fun c => mem_margin) (hcomment _)

/-- Where the scanner comes to the opening brace of a struct literal without fields, both braces may
stand on one line. -/
theorem Alike.hollow {u p : Text} (hstart : StartsLine u)
    (h : StandsAt (u ++ [' ']) ('\x7b' :: p)) :
    Alike (u ++ " \x7b\n".toList ++ indented 2 ['\x7d']) (u ++ " \x7b\x7d\n".toList) := by
  have hgap : ∀ c ∈ '\n' :: margin 2, isGap c := List.all_eq_true.mp (by decide)
  have hbraces (q : Text) (us : List Token) :
      Lexes [] ("\x7b\n".toList ++ indented 2 ['\x7d'] ++ q) us ↔
        Lexes [] ("\x7b\x7d\n".toList ++ q) us := Lexes.braces_iff hgap
  have hsame {w p : Text} (h : StandsAt (w ++ [' ']) ('\x7b' :: p)) (q : Text) (us : List Token) :
      Lexes [] (w ++ [' '] ++ ("\x7b\n".toList ++ indented 2 ['\x7d'] ++ q)) us ↔
        Lexes [] (w ++ [' '] ++ ("\x7b\x7d\n".toList ++ q)) us := by
    rw [← List.append_nil (w ++ [' '])] at h
    exact h.congr rfl List.getLast?_concat (by decide) (by simp) (hbraces q)
  constructor
  · intro q us
    simpa using hsame h q us
  · intro q us
    have hspace : '\n' ∉ [' '] := by decide
    obtain ⟨w, htidy⟩ := tidy_cut hspace (c := '\x7b') (by decide) u
    have hplace : StandsAt (w ++ [' ']) (flow ('\x7b' :: p)) := by
      refine h.tidy (hstart.append _) (by decide) ?_
      simpa using htidy p
    rw [flow_ink (by decide)] at hplace
    have hopen : tidy (u ++ " \x7b\n".toList ++ indented 2 ['\x7d'] ++ q) =
        w ++ [' '] ++
          ("\x7b\n".toList ++ indented 2 ['\x7d'] ++ settle true false (lineEnds q)) := by
      have hopening := htidy ('\n' :: (margin 2 ++ ['\x7d'] ++ '\n' :: q))
      have hbrace : InkLine (margin 2 ++ ['\x7d']) := by decide
      rw [flow_ink (by decide), flow_newline, hbrace.settle] at hopening
      simpa [indented_eq] using hopening
    have hclosed : tidy (u ++ " \x7b\x7d\n".toList ++ q) =
        w ++ [' '] ++ ("\x7b\x7d\n".toList ++ settle true false (lineEnds q)) := by
      have hclosing := htidy ('\x7d' :: '\n' :: q)
      rw [flow_ink (by decide), flow_ink (by decide), flow_newline] at hclosing
      simpa using hclosing
    rw [hopen, hclosed]
    exact hsame hplace _ us

/-! ### Formatting -/

/-- The start of a comment is neither a byte order mark nor the name of an interpreter. -/
theorem sourceOf_comment (t : Text) :
    sourceOf ('/' :: t) = '/' :: t ∧ markLength ('/' :: t) = 0 := by
  have hstart {head : Char} (hhead : head ≠ '/') (tail : Text) :
      ¬ startsWith ('/' :: t) (head :: tail) := by
    simp [startsWith, dropHead?, hhead]
  have hzero : markLength ('/' :: t) = 0 := by rw [markLength, if_neg (hstart (by decide) _)]
  refine ⟨?_, hzero⟩
  rw [sourceOf_eq, hzero, List.drop_zero, dropInterpreter_of_not_startsWith]
  exact hstart (by decide) _

theorem tidy_comment (t : Text) : tidy ('/' :: t) = '/' :: flow t := by
  rw [StartsLine.tidy_eq ⟨'/', t, rfl, by decide⟩, flow_ink (by decide)]

/-- Texts that start with a comment and may be exchanged are formatted alike. -/
theorem builtinFormatter_of_alike {s s' t : Text} (h : Alike ('/' :: s) ('/' :: s'))
    (hformat : builtinFormatter ('/' :: s) = .ok t) :
    ∃ t', builtinFormatter ('/' :: s') = .ok t' ∧ KeepsTokens Eq t t' := by
  have hread {s s' : Text} {file : SourceFile}
      (hlexes : ∀ ts, Lexes [] ('/' :: s) ts → Lexes [] ('/' :: s') ts)
      (hfile : SourceFile.read (sourceOf ('/' :: s)) = .ok file) :
      ∃ file', SourceFile.read (sourceOf ('/' :: s')) = .ok file' ∧
        file'.tokens.trees = file.tokens.trees ∧ file'.tokens.sequence = file.tokens.sequence := by
    rw [(sourceOf_comment s).1] at hfile
    rw [(sourceOf_comment s').1]
    exact SourceFile.read_of_lexes (sourceOf_comment s).2 (sourceOf_comment s').2 hlexes hfile
  obtain ⟨⟨file, hfile⟩, rfl⟩ := builtinFormatter_eq_ok_iff.mp hformat
  obtain ⟨file', hfile', -⟩ := hread (fun ts => by simpa using (h.plain [] ts).mp) hfile
  obtain ⟨after, hafter, -⟩ := read_tidy hfile
  have htidied (ts : List Token) :
      Lexes [] (tidy ('/' :: s)) ts → Lexes [] (tidy ('/' :: s')) ts := by
    simpa using (h.tidied [] ts).mp
  refine ⟨_, builtinFormatter_eq_ok_iff.mpr ⟨⟨file', hfile'⟩, rfl⟩, ?_⟩
  rw [tidy_comment] at hafter htidied ⊢
  rw [tidy_comment] at htidied ⊢
  obtain ⟨after', hafter', htrees, hsequence⟩ := hread htidied hafter
  refine ⟨after.tokens, after'.tokens, (SourceFile.read_eq_ok_iff.mp hafter).1,
    (SourceFile.read_eq_ok_iff.mp hafter').1, htrees, ?_⟩
  rw [hsequence, List.forall₂_eq_eq_eq]

end MapperGen
