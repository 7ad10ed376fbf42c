import MapperGen.Proofs.Spec.Correspondence
import MapperGen.Proofs.Syntax.NodeText
import MapperGen.Proofs.Syntax.TraitNode

/-!
# Texts of declarations

Types, generic parameter lists and where clauses are taken out of a source verbatim. Each text is cut
out by bytes, from the first character of a node to its last one, and read by itself it has the
tokens of the node; printing the tokens of a node is never needed.
-/

namespace MapperGen

open Syntax

/-! ### Cuts by bytes -/

namespace Text

theorem charsInBytes?_byteLength {t : Text} {n : Nat} (hn : n ≤ t.length) :
    charsInBytes? (byteLength (t.take n)) t = some n := by
  induction t generalizing n with
  | nil =>
    obtain rfl : n = 0 := Nat.le_zero.mp hn
    rfl
  | cons c t ih =>
    cases n with
    | zero => rfl
    | succ n =>
      have hpos := c.utf8Size_pos
      obtain ⟨size, hsize⟩ : ∃ size, c.utf8Size = size + 1 := ⟨c.utf8Size - 1, by omega⟩
      have hbytes : byteLength ((c :: t).take (n + 1)) = size + byteLength (t.take n) + 1 := by
        rw [List.take_succ_cons, byteLength, hsize]
        omega
      have hrest : size + byteLength (t.take n) + 1 - c.utf8Size = byteLength (t.take n) := by omega
      rw [hbytes, charsInBytes?, if_pos (by omega), hrest, ih (Nat.le_of_succ_le_succ hn)]
      rfl

theorem byteSlice?_byteLength {t : Text} {a b : Nat} (hab : a ≤ b) (hb : b ≤ t.length) :
    byteSlice? t (byteLength (t.take a)) (byteLength (t.take b)) = some (slice t a b) := by
  rw [byteSlice?, charsInBytes?_byteLength (hab.trans hb), charsInBytes?_byteLength hb]
  dsimp only
  rw [if_pos hab]
  rfl

end Text

/-! ### Verbatim texts -/

/-- The tokens over which a node extends. -/
def Syntax.Tokens.within (s : Tokens) (node : Node) : List Token :=
  (s.sequence.take (node.last + 1)).drop node.first

variable (s : Tokens) (source : Text)

/-- The text of a node is what stands in the source from the first character of the first token of
the node to the last character of its last token. It is found by its bytes and is not blank, so the
tokens need not be printed; it has no blanks around it; and by itself it has the tokens of the
node. -/
structure Verbatim (node : Node) (part : Text) : Prop where
  tokens_exist : node.first ≤ node.last ∧ node.last < s.placed.size
  slice : part = Text.slice source (s.startOf node.first) (s.stopOf node.last)
  cut : Text.byteSlice? source (Text.byteLength (source.take (s.startOf node.first)))
    (Text.byteLength (source.take (s.stopOf node.last))) = some part
  not_blank : Text.isAllBlank part = false
  trimmed : Text.trim part = part
  tokens : ∃ alone, Tokens.read part = .ok alone ∧ SameTokens (s.within node) alone.sequence

/-- The nodes that are the results of a method: the elements of a tuple, or the one type. -/
def resultNodes : Option TypeExpr → List Node
  | none => []
  | some (.tuple _ elements) => elements.map TypeExpr.node
  | some type => [type.node]

/-- A typed parameter binds the name of a parameter, whose type is the text of its own type. -/
def Parameter.IsVerbatim (a : Argument) (p : Parameter) : Prop :=
  ∃ patternAt type, a = .typed (.binding p.name false) patternAt type ∧
    Verbatim s source type.node p.type

/-- The text of a clause is there if the clause declares something, which it does unless it has only
the tokens that mark it. -/
structure ClauseIsVerbatim (marks : Nat) (clause : Option Clause) (part : Option Text) : Prop where
  text : Option.Rel (fun clause part => Verbatim s source clause.node part)
    (clause.filter (!·.isEmpty)) part
  isEmpty_iff : ∀ c ∈ clause, c.isEmpty = true ↔ (s.within c.node).length = marks

/-- The types and clauses of a declared method are the texts of those of its signature. -/
structure MethodDecl.IsVerbatim (sig : Signature) (d : MethodDecl) : Prop where
  parameters :
    (sig.arguments.filter Argument.isTyped).Forall₂ (Parameter.IsVerbatim s source) d.parameters
  results : (resultNodes sig.result).Forall₂ (Verbatim s source) d.results
  generics : ClauseIsVerbatim s source 2 sig.generics d.generics
  whereClause : ClauseIsVerbatim s source 1 sig.whereClause d.whereClause

/-- An item is a trait, whose methods are the declared ones. -/
def MapperDecl.IsVerbatim (item : Item) (d : MapperDecl) : Prop :=
  ∃ t : TraitDecl, item.kind = .traitDecl t ∧
    t.members.Forall₂ (fun member method => ∃ first m, member = .method first m ∧
      method.IsVerbatim s source m.signature) d.methods

/-! ### Texts of whole nodes -/

variable {s source}

theorem Syntax.Node.Stands.place {t : Text} {node : Node} {left own right : List Placed}
    {front part rest : Text} (h : node.Stands t left own right front part rest)
    (hplaced : s.placed = (left ++ own ++ right).toArray) :
    s.startOf node.first = front.length ∧ s.stopOf node.last = (front ++ part).length := by
  have hne : own ≠ [] := fun hnil => h.cuts.ne_nil (by rw [hnil]; rfl)
  have hfirst := h.cuts.first
  have hlast := h.cuts.last
  rw [List.length_map] at hfirst hlast
  rw [List.length_map] at hlast
  constructor
  · obtain ⟨x, own, rfl⟩ := List.exists_cons_of_ne_nil hne
    rw [Tokens.startOf, hplaced, hfirst, List.getElem?_toArray, List.append_assoc,
      List.getElem?_append_right le_rfl, Nat.sub_self]
    exact h.start x rfl
  · obtain ⟨own', y, hy⟩ := (List.eq_nil_or_concat own).resolve_left hne
    rw [List.concat_eq_append] at hy
    subst hy
    have hindex : node.last = (left ++ own').length := by
      simp only [List.length_append, List.length_singleton] at hlast ⊢
      omega
    have hsplit : left ++ (own' ++ [y]) ++ right = (left ++ own') ++ (y :: right) := by simp
    rw [Tokens.stopOf, hplaced, hindex, List.getElem?_toArray, hsplit,
      List.getElem?_append_right le_rfl, Nat.sub_self]
    exact h.stop y (by simp)

theorem verbatim_nodeText {node : Node} (hread : Tokens.read source = .ok s)
    (hnode : node.IsWhole s.sequence) : Verbatim s source node (nodeText s source node) := by
  obtain ⟨placed, hscan, -, hplaced, rfl⟩ := Tokens.read_eq_ok_iff.mp hread
  have hmark : markLength s.text ≤ s.text.length := by
    rw [markLength]
    split
    · next hstart => exact (startsWith_iff.mp hstart).length_le
    · exact Nat.zero_le _
  rw [Tokens.sequence, hplaced] at hnode
  obtain ⟨left, own, right, front, part, rest, rfl, hstands⟩ := hnode.stands hscan hmark
  obtain ⟨hstart, hstop⟩ := hstands.place hplaced
  have hfirst := hstands.cuts.first
  have hlast := hstands.cuts.last
  have hne := List.length_pos_iff.mpr hstands.cuts.ne_nil
  simp only [List.length_map] at hfirst hlast hne
  have hslice : Text.slice s.text front.length (front ++ part).length = part := by
    rw [Text.slice, hstands.text, List.take_left, List.drop_left]
  have hcut : Text.byteSlice? s.text (Text.byteLength (s.text.take (s.startOf node.first)))
      (Text.byteLength (s.text.take (s.stopOf node.last))) = some part := by
    rw [hstart, hstop, Text.byteSlice?_byteLength, hslice]
    · rw [List.length_append]
      omega
    · rw [hstands.text]
      exact (List.prefix_append (front ++ part) rest).length_le
  have hblank : Text.isAllBlank part = false := by
    obtain ⟨c, tail, hpart⟩ := List.exists_cons_of_ne_nil hstands.stretch.ne_nil
    have hc := (hstands.first_char c (by rw [hpart]; rfl)).1
    simp [Text.isAllBlank, hpart, hc]
  have htrim : Text.trim part = part :=
    Text.trim_eq_self (fun c hc => (hstands.first_char c hc).1) hstands.last_char
  have htext : nodeText s s.text node = part := by
    rw [nodeText, hcut]
    dsimp only
    rw [hblank, if_neg Bool.false_ne_true, htrim]
  rw [htext]
  constructor
  · refine ⟨by omega, ?_⟩
    rw [hplaced, List.size_toArray, List.length_append, List.length_append]
    omega
  · rw [hstart, hstop, hslice]
  · exact hcut
  · exact hblank
  · exact htrim
  · obtain ⟨alone, hread, hsame⟩ := hstands.read
    refine ⟨alone, hread, ?_⟩
    have hwithin : s.within node = own.map Placed.token := by
      rw [Tokens.within, Tokens.sequence, hplaced, hfirst, hlast]
      simp [List.take_append]
    rwa [hwithin]

/-! ### Declarations -/

theorem clauseText_verbatim {clause : Option Clause} {marks : Nat}
    (hread : Tokens.read source = .ok s)
    (hclause : ∀ c ∈ clause, c.IsWhole s.sequence marks) :
    ClauseIsVerbatim s source marks clause (clauseText s source clause) := by
  constructor
  · match clause with
    | none => exact .none
    | some ⟨true, node⟩ => exact .none
    | some ⟨false, node⟩ => exact .some (verbatim_nodeText hread (hclause _ rfl).node)
  · intro c hc
    have hwhole := hclause c hc
    obtain ⟨left, own, right, htokens, hcuts⟩ := hwhole.node
    have hfirst := hcuts.first
    have hlast := hcuts.last
    have hlength : (s.within c.node).length = own.length := by
      rw [Tokens.within, htokens, List.length_drop, List.length_take, List.length_append,
        List.length_append]
      omega
    rw [hwhole.isEmpty_iff, hlength]
    omega

theorem resultTexts_eq (result : Option TypeExpr) :
    resultTexts s source result = (resultNodes result).map (nodeText s source) := by
  match result with
  | some (.tuple _ elements) =>
    rw [resultTexts, resultNodes, List.map_map]
    rfl
  | none | some (.path ..) | some (.reference ..) | some (.pointer ..) | some (.bareBounds ..)
  | some (.other _) => rfl

theorem resultNodes_whole {tokens : List Token} {result : Option TypeExpr}
    (h : ∀ type ∈ result, type.IsWhole tokens) :
    ∀ node ∈ resultNodes result, node.IsWhole tokens := by
  match result with
  | none => simp [resultNodes]
  | some (.tuple node elements) =>
    have helements : ∀ type ∈ elements, type.node.IsWhole tokens := (h _ rfl).elements
    simpa [resultNodes] using helements
  | some (.path ..) | some (.reference ..) | some (.pointer ..) | some (.bareBounds ..)
  | some (.other _) =>
    rintro _ (_ | ⟨_, ⟨⟩⟩)
    exact (h _ rfl).node

theorem readParameters_verbatim {method : Text} {index : Nat} {arguments : List Argument}
    {parameters : List Parameter} (hread : Tokens.read source = .ok s)
    (harguments : ∀ a ∈ arguments, a.IsWhole s.sequence)
    (h : readParameters s source method index arguments = .ok parameters) :
    (arguments.filter Argument.isTyped).Forall₂ (Parameter.IsVerbatim s source) parameters := by
  have hwhole : ∀ a ∈ arguments.filter Argument.isTyped, a.IsWhole s.sequence :=
    fun a ha => harguments a (List.mem_of_mem_filter ha)
  have hboth := (List.forall₂_and_left _ _).mpr ⟨hwhole, readParameters_matches h⟩
  refine hboth.imp ?_
  rintro _ p ⟨ha, patternAt, type, rfl, htype⟩
  refine ⟨patternAt, type, rfl, ?_⟩
  rw [htype]
  exact verbatim_nodeText hread (ha _ _ _ _ rfl).node

theorem readMethod_verbatim {m : Method} {d : MethodDecl} (hread : Tokens.read source = .ok s)
    (hm : m.signature.IsWhole s.sequence) (h : readMethod s source m = .ok d) :
    d.IsVerbatim s source m.signature := by
  rw [readMethod] at h
  split at h
  · cases h
  · obtain ⟨parameters, hparameters, rfl⟩ := map_eq_ok_iff.mp h
    constructor
    · exact readParameters_verbatim hread hm.arguments hparameters
    · dsimp only
      rw [resultTexts_eq, List.forall₂_map_right_iff, List.forall₂_same]
      exact fun node hnode => verbatim_nodeText hread (resultNodes_whole hm.result node hnode)
    · exact clauseText_verbatim hread hm.generics
    · exact clauseText_verbatim hread hm.whereClause

theorem readMarked_verbatim {item : Item} {d : MapperDecl} (hread : Tokens.read source = .ok s)
    (hitem : ∀ t, item.kind = .traitDecl t → t.IsWhole s.sequence)
    (h : readMarked s source item = .ok d) : d.IsVerbatim s source item := by
  rw [readMarked] at h
  split at h
  · next t hkind =>
    dsimp only at h
    split at h
    · cases h
    · split at h
      · cases h
      · next methods hmethods =>
        obtain rfl := Except.ok.inj h
        refine ⟨t, hkind, ?_⟩
        have hboth := (List.forall₂_and_left _ _).mpr
          ⟨fun _ hmember => hmember, mapM_eq_ok_iff.mp hmethods⟩
        refine hboth.imp ?_
        rintro member method ⟨hmember, hmethod⟩
        cases member with
        | method first m =>
          have hwhole := hitem t hkind first m hmember
          exact ⟨first, m, rfl, readMethod_verbatim hread hwhole hmethod⟩
        | other first => cases hmethod
  · cases h

/-- The marked items of a source are traits, whose methods are those of the mappers; the types and
clauses of these are verbatim. -/
def MapperDecl.AllVerbatim (source : Text) (ds : List MapperDecl) : Prop :=
  ∃ file : SourceFile, SourceFile.read (withoutMark source) = .ok file ∧
    (file.items.filter (isMarked file.tokens)).Forall₂
      (MapperDecl.IsVerbatim file.tokens (withoutMark source)) ds

/-- Every parameter type, result, generic parameter list and where clause of the declared methods is
taken verbatim out of the source. -/
theorem MapperDecl.readAll_verbatim (source : Text) (ds : List MapperDecl)
    (h : MapperDecl.readAll source = .ok ds) : MapperDecl.AllVerbatim source ds := by
  rw [MapperDecl.readAll] at h
  split at h
  · cases h
  · next file hfile =>
    rw [mapError_eq_ok_iff] at h
    refine ⟨file, hfile, ?_⟩
    have hread := (SourceFile.read_eq_ok_iff.mp hfile).1
    have hboth := (List.forall₂_and_left _ _).mpr
      ⟨fun _ hitem => List.mem_of_mem_filter hitem, mapM_eq_ok_iff.mp h⟩
    refine hboth.imp ?_
    rintro item d ⟨hitem, hd⟩
    exact readMarked_verbatim hread (fun t ht => SourceFile.traits_whole hfile hitem ht) hd

/-- A trait behind a byte order mark and a character of more than one byte. Its types and clauses have
comments and line breaks in them, or declare nothing, and the results of its first method are a
tuple. -/
def scatteredTrait : Text :=
  byteOrderMark :: "// ä\n/// +mapwright:mapper\ntrait A \x7b\nfn f<T, 'a>".toList ++
    "(x: &'a  [T /* é */], y: ())->(B, C)where T: D\n, ;\nfn g<>() -> E<F> where;\n\x7d".toList

theorem MapperDecl.readAll_verbatim_scatteredTrait :
    MapperDecl.AllVerbatim scatteredTrait [⟨['A'], ["+mapwright:mapper".toList], ⟨3, 0⟩,
      [⟨['f'], some "<T, 'a>".toList,
          [⟨['x'], "&'a  [T /* é */]".toList⟩, ⟨['y'], "()".toList⟩], [['B'], ['C']],
          some "where T: D\n,".toList, [], ⟨4, 0⟩⟩,
        ⟨['g'], none, [], ["E<F>".toList], none, [], ⟨6, 0⟩⟩]⟩] :=
  MapperDecl.readAll_verbatim _ _ (eq_ok_of_toOption (by decide +kernel))

end MapperGen
