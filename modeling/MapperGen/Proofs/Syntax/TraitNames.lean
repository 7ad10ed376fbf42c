import MapperGen.Proofs.Syntax.Reading
import MapperGen.Proofs.Syntax.TraitItems

/-!
# Names of traits

A trait has a name that is not empty: it is an identifier among the trees of the file, and the
scanner makes no identifier out of nothing.
-/

namespace MapperGen.Syntax

open MapperGen.Syntax.Parser Trees MapperGen.Text

/-! ### Named tokens -/

/-- The token is no identifier, or one with a name. -/
def Token.IsNamed : Token → Prop
  | .ident name => name ≠ []
  | _ => True

theorem take_ne_nil_of_anyIdentLength {t : Text} {n : Nat} (h : anyIdentLength t = some n) :
    t.take n ≠ [] := by
  cases t with
  | nil => simp [anyIdentLength, identLength, startsWith, dropHead?] at h
  | cons c t =>
    have hn : n ≠ 0 := by
      rw [anyIdentLength] at h
      dsimp only at h
      split at h
      · split at h
        · cases h
        · simp at h
          omega
      · split at h
        · cases h
        · next hpos => simp at h; omega
    cases n with
    | zero => exact absurd rfl hn
    | succ n => simp

theorem Token.Leads.isNamed {token : Token} {t : Text} {n : Nat} (h : token.Leads t n) :
    token.IsNamed := by
  cases h with
  | ident hident => exact take_ne_nil_of_anyIdentLength hident
  | opening | closing | errorMark | literal | punct => trivial

theorem scanOne_named {t : Text} {n : Nat} {tokens : List Token}
    (h : scanOne t = some (n, tokens)) : ∀ token ∈ tokens, token.IsNamed := by
  rcases scanOne_cases h with (rfl | ⟨inner, content, rfl⟩) | htoken
  · simp
  · cases inner <;> simp [docTokens, Token.IsNamed]
  · obtain ⟨token, rfl, hleads⟩ := token?_eq_some htoken
    simpa using hleads.isNamed

theorem Scans.named {p v : Text} {offset : Nat} {placed : List Placed}
    (h : Scans p offset v placed) : ∀ x ∈ placed, x.token.IsNamed := by
  induction h with
  | nil => simp
  | step h hn hlater ih =>
    intro x hx
    rcases List.mem_append.mp hx with hx | hx
    · obtain ⟨token, htoken, rfl⟩ := List.mem_map.mp hx
      exact scanOne_named h token htoken
    · exact ih x hx

/-! ### Named trees -/

/-- The tree is no identifier, or one with a name. -/
def Tree.IsNamed : Tree → Prop
  | .ident name _ => name ≠ []
  | _ => True

theorem leaf?_named {index : Nat} {token : Token} {tree : Tree} (h : leaf? index token = some tree)
    (htoken : token.IsNamed) : tree.IsNamed := by
  cases token with
  | opening | closing => cases h
  | ident =>
    obtain rfl := Option.some.inj h
    exact htoken
  | punct | literal | comment =>
    obtain rfl := Option.some.inj h
    trivial

theorem Nests.named {index : Nat} {tokens : List Token} {trees : List Tree}
    (h : Nests index tokens trees) (htokens : ∀ token ∈ tokens, token.IsNamed) :
    ∀ tree ∈ trees, tree.IsNamed := by
  induction h with
  | nil => simp
  | leaf htree hrest ih =>
    rw [List.forall_mem_cons] at htokens ⊢
    exact ⟨leaf?_named htree htokens.1, ih htokens.2⟩
  | group hcontent hrest _ ih =>
    rw [List.forall_mem_cons]
    exact ⟨trivial, ih fun token htoken => htokens token (by simp [htoken])⟩

theorem Tokens.read_named {t : Text} {s : Tokens} (h : Tokens.read t = .ok s) :
    ∀ tree ∈ s.trees, tree.IsNamed := by
  obtain ⟨placed, hscan, hnests, -, -⟩ := Tokens.read_eq_ok_iff.mp h
  refine hnests.named fun token htoken => ?_
  obtain ⟨x, hx, rfl⟩ := List.mem_map.mp htoken
  exact hscan.named x hx

/-! ### Words that are read -/

namespace Parser

theorem rest_of_ident {c c' : Cursor} {name : Text} (h : ident c = .ok (name, c')) :
    ∃ i, c.rest = .ident name i :: c'.rest := by
  rw [ident, ahead_bind_run] at h
  split at h
  · obtain ⟨i, hrest, -⟩ := rest_of_anyWord h
    exact ⟨i, hrest⟩
  · cases h

end Parser

namespace Grammar

/-! ### The word behind `trait` -/

/-- The name of a trait is a word ahead. -/
def Names (ts : Trees) (t : TraitDecl) : Prop := ∃ i, .ident t.name i ∈ ts

instance : Inherited Names where
  of_suffix hsuffix h := by
    obtain ⟨i, hi⟩ := h
    exact ⟨i, hsuffix.subset hi⟩

variable (r : Rules) [r.Advance]

omit [r.Advance] in
theorem name_of_traitTail {keywordAt nameAt : Nat} {name : Text} {parameters : Option Clause}
    {c c' : Cursor} {parts : ItemParts} {t : TraitDecl}
    (h : traitTail r keywordAt name nameAt parameters c = .ok (parts, c'))
    (ht : parts.1 = .traitDecl t) : t.name = name := by
  obtain ⟨-, c₁, -, h⟩ := bind_run_eq_ok_iff.mp h
  obtain ⟨clause, c₂, -, h⟩ := bind_run_eq_ok_iff.mp h
  obtain ⟨⟨attributes, found⟩, c₃, -, h⟩ := bind_run_eq_ok_iff.mp h
  obtain ⟨rfl, -⟩ := Prod.mk.inj (Except.ok.inj h)
  obtain rfl := ItemKind.traitDecl.inj ht
  rfl

/-- The name of a trait is the word behind `trait`, and what follows does not change it. -/
theorem traitItem_names (mayAlias : Bool) : Traits Names (traitItem r mayAlias) := by
  refine traitItem_traits r mayAlias fun keywordAt nameAt => ?_
  intro c parts c' h t ht
  obtain ⟨name, c₁, hname, h⟩ := bind_run_eq_ok_iff.mp h
  obtain ⟨parameters, c₂, -, h⟩ := bind_run_eq_ok_iff.mp h
  obtain rfl := name_of_traitTail r h ht
  obtain ⟨i, hrest⟩ := rest_of_ident hname
  exact ⟨i, hrest ▸ List.mem_cons_self⟩

end Grammar

/-! ### Files -/

/-- The traits of a file have names that are not empty. -/
theorem SourceFile.name_ne_nil {text : Text} {file : SourceFile}
    (h : SourceFile.read text = .ok file) {item : Item} (hitem : item ∈ file.items)
    {t : TraitDecl} (ht : item.kind = .traitDecl t) : t.name ≠ [] := by
  obtain ⟨hread, hitems⟩ := SourceFile.read_eq_ok_iff.mp h
  obtain ⟨c', hrun⟩ := run_of_runAll hitems
  obtain ⟨i, hi⟩ := Grammar.traits_of_file (fun n => Grammar.traitItem_names (.level n)) hrun item
    hitem t ht
  exact Tokens.read_named hread _ hi

end MapperGen.Syntax
