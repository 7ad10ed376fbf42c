import MapperGen.Proofs.Output.Composition
import MapperGen.Proofs.Output.EntryLines
import MapperGen.Proofs.Output.Formatter
import MapperGen.Proofs.Output.OwnedType
import MapperGen.Proofs.Spec.Assembled

/-!
# Rendered texts are tidy

Each line that rendering writes ends with a character of its own that is no blank, and an empty line
stands only between two others. So the built-in formatter leaves a rendered text as it is, as long
as no name and no type brings a line feed with it. The directives bring none.
-/

namespace MapperGen

open Syntax Text

/-! ### Laid out texts -/

/-- Lines that hold more than blanks and have none at their ends, with at most one empty line
between any two. -/
inductive LaidOut : Text → Prop
  | single {t : Text} (h : InkLine t) : LaidOut (line t)
  | append {t u : Text} (ht : LaidOut t) (hu : LaidOut u) : LaidOut (t ++ u)
  | apart {t u : Text} (ht : LaidOut t) (hu : LaidOut u) : LaidOut (t ++ (line [] ++ u))

/-- Lines that are laid out are written as they are. -/
theorem LaidOut.settle {t : Text} (h : LaidOut t) (started waiting : Bool) (q : Text) :
    settle started waiting (lineEnds (t ++ q)) =
      (if waiting then ['\n'] else []) ++ t ++ settle true false (lineEnds q) := by
  induction h generalizing started waiting q with
  | @single t h =>
    have hcut : line t ++ q = t ++ '\n' :: q := by simp [line]
    rw [hcut, h.settle]
    simp [line]
  | append ht hu iht ihu =>
    rw [List.append_assoc, iht, ihu]
    simp
  | @apart t u ht hu iht ihu =>
    -- the empty line waits, and `u` comes behind it
    have hgap : lineEnds (line [] ++ u ++ q) = [] :: lineEnds (u ++ q) := lineEnds_newline _
    rw [List.append_assoc, iht, hgap, settle_empty, ihu]
    simp [line]

theorem LaidOut.tidy_eq {t : Text} (h : LaidOut t) : tidy t = t := by
  have hsettle := h.settle false false []
  rw [List.append_nil] at hsettle
  rw [MapperGen.tidy_eq, hsettle]
  show [] ++ t ++ [] = t
  simp

theorem LaidOut.flatMap {α : Type} {f : α → Text} {xs : List α} (hne : xs ≠ [])
    (h : ∀ x ∈ xs, LaidOut (f x)) : LaidOut (xs.flatMap f) := by
  induction xs with
  | nil => exact absurd rfl hne
  | cons x xs ih =>
    rw [List.forall_mem_cons] at h
    rw [List.flatMap_cons]
    by_cases hxs : xs = []
    · subst hxs
      simpa using h.1
    · exact .append h.1 (ih hxs h.2)

theorem LaidOut.append_flatMap {t : Text} {ts : List Text} (ht : LaidOut t)
    (h : ∀ u ∈ ts, LaidOut u) : LaidOut (t ++ ts.flatMap (line [] ++ ·)) := by
  induction ts generalizing t with
  | nil => simpa using ht
  | cons u ts ih =>
    rw [List.forall_mem_cons] at h
    have hnext := ih (.apart ht h.1) h.2
    simpa using hnext

theorem LaidOut.joinWith {ts : List Text} (hne : ts ≠ []) (h : ∀ t ∈ ts, LaidOut t) :
    LaidOut (joinWith (line []) ts) := by
  fun_induction Text.joinWith (line []) ts with
  | case1 => exact absurd rfl hne
  | case2 t => exact h t List.mem_cons_self
  | case3 t ts hts ih =>
    rw [List.forall_mem_cons] at h
    rw [List.append_assoc]
    exact .apart h.1 (ih hts h.2)

theorem LaidOut.indented (steps : Nat) {t : Text} (h : InkLine t) : LaidOut (indented steps t) := by
  have hmargin : '\n' ∉ List.replicate (4 * steps) ' ' := by simp
  exact .single (.behind hmargin h)

/-! ### Declarations without line feeds -/

/-- No name and no type of the method holds a line feed, and neither do its generic parameters and
its where clause. -/
structure MethodDecl.IsOneLine (m : MethodDecl) : Prop where
  name : '\n' ∉ m.name
  generics : ∀ t ∈ m.generics, '\n' ∉ t
  parameters : ∀ p ∈ m.parameters, '\n' ∉ p.name ∧ '\n' ∉ p.type
  results : ∀ t ∈ m.results, '\n' ∉ t
  whereClause : ∀ t ∈ m.whereClause, '\n' ∉ t

/-- The name of the mapper holds no line feed, and neither does anything in its methods that is
written. -/
structure MapperDecl.IsOneLine (d : MapperDecl) : Prop where
  name : '\n' ∉ d.name
  methods : ∀ m ∈ d.methods, m.IsOneLine

instance (m : MethodDecl) : Decidable m.IsOneLine :=
  decidable_of_iff ('\n' ∉ m.name ∧ (∀ t ∈ m.generics, '\n' ∉ t) ∧
      (∀ p ∈ m.parameters, '\n' ∉ p.name ∧ '\n' ∉ p.type) ∧ (∀ t ∈ m.results, '\n' ∉ t) ∧
      ∀ t ∈ m.whereClause, '\n' ∉ t)
    ⟨fun ⟨hname, hgenerics, hparameters, hresults, hclause⟩ =>
      ⟨hname, hgenerics, hparameters, hresults, hclause⟩,
      fun h => ⟨h.name, h.generics, h.parameters, h.results, h.whereClause⟩⟩

instance (d : MapperDecl) : Decidable d.IsOneLine :=
  decidable_of_iff ('\n' ∉ d.name ∧ ∀ m ∈ d.methods, m.IsOneLine)
    ⟨fun ⟨hname, hmethods⟩ => ⟨hname, hmethods⟩, fun h => ⟨h.name, h.methods⟩⟩

/-- Nothing in the conversion holds a line feed. -/
structure Conversion.IsOneLine (c : Conversion) : Prop where
  name : '\n' ∉ c.name
  generics : ∀ t ∈ c.generics, '\n' ∉ t
  parameters : ∀ p ∈ c.parameters, '\n' ∉ p.name ∧ '\n' ∉ p.type
  result : '\n' ∉ c.result
  whereClause : ∀ t ∈ c.whereClause, '\n' ∉ t
  directives : ∀ d ∈ c.directives, '\n' ∉ d.entry

/-- Nothing in the mapper holds a line feed. -/
structure Mapper.IsOneLine (m : Mapper) : Prop where
  name : '\n' ∉ m.name
  conversions : ∀ c ∈ m.conversions, c.IsOneLine

/-- An annotation that is read as a directive is one line only, so a line feed in its comment does
not come in. -/
theorem MethodDecl.IsOneLine.assembled {m : MethodDecl} {c : Conversion} (h : m.IsOneLine)
    (hc : Conversion.AssembledFrom m c) : c.IsOneLine := by
  constructor
  case name => exact hc.name ▸ h.name
  case generics => exact hc.generics ▸ h.generics
  case parameters => exact hc.parameters ▸ h.parameters
  case result => exact h.results c.result (by simp [hc.result])
  case whereClause => exact hc.whereClause ▸ h.whereClause
  case directives =>
    intro d hd
    obtain ⟨comment, -, hread⟩ := exists_mem_of_forall₂ hc.directives hd
    exact (Directive.entryOf_of_read hread).2

theorem MapperDecl.IsOneLine.assembled {d : MapperDecl} {m : Mapper} (h : d.IsOneLine)
    (hm : Mapper.AssembledFrom d m) : m.IsOneLine := by
  refine ⟨hm.name ▸ h.name, fun c hc => ?_⟩
  obtain ⟨method, hmethod, hassembled⟩ := exists_mem_of_forall₂ hm.conversions hc
  exact (h.methods method hmethod).assembled hassembled

/-! ### Types in the output -/

theorem newline_not_mem_ownedType {type : Text} (h : '\n' ∉ type) : '\n' ∉ ownedType type :=
  fun hmem => h (mem_of_mem_ownedType hmem)

theorem newline_not_mem_withTurbofish {type : Text} (h : '\n' ∉ type) :
    '\n' ∉ withTurbofish type := by
  have hfront := trimEnd_prefix (type.takeWhile (· != '<'))
  have hbefore : '\n' ∉ trimEnd (type.takeWhile (· != '<')) := fun hmem =>
    h ((List.takeWhile_prefix _).subset (hfront.subset hmem))
  have hbehind : '\n' ∉ type.dropWhile (· != '<') := fun hmem =>
    h ((List.dropWhile_suffix _).subset hmem)
  unfold withTurbofish
  dsimp only
  split
  · exact h
  · simp [hbefore, hbehind]

theorem newline_not_mem_literalHead {type head : Text} (h : '\n' ∉ type)
    (hhead : literalHead type = .ok head) : '\n' ∉ head := by
  obtain ⟨-, rfl⟩ := literalHead_eq_ok_iff.mp hhead
  exact newline_not_mem_withTurbofish h

/-! ### Conversions -/

section Conversions

variable {c : Conversion}

theorem Conversion.IsOneLine.inkLine_head (h : c.IsOneLine) : InkLine c.head := by
  have hgenerics : '\n' ∉ c.generics.getD [] := by
    cases hg : c.generics with
    | none => exact List.not_mem_nil
    | some t => exact h.generics t hg
  have hparameters : '\n' ∉
      joinWith ", ".toList ("&self".toList :: c.parameters.map Parameter.render) := by
    intro hmem
    rcases mem_of_mem_joinWith hmem with hmem | ⟨part, hpart, hmem⟩
    · simp at hmem
    · rcases List.mem_cons.mp hpart with rfl | hpart
      · simp at hmem
      · obtain ⟨p, hp, rfl⟩ := List.mem_map.mp hpart
        obtain ⟨hname, htype⟩ := h.parameters p hp
        simp [Parameter.render, hname, newline_not_mem_ownedType htype] at hmem
  have hresult := newline_not_mem_ownedType h.result
  unfold head
  generalize joinWith ", ".toList _ = parameters at hparameters ⊢
  refine .behind ?_ (by decide)
  cases hclause : c.whereClause with
  | none => simp [h.name, hgenerics, hparameters, hresult]
  | some t =>
    have ht : '\n' ∉ t := h.whereClause t hclause
    simp [h.name, hgenerics, hparameters, hresult, ht]

theorem Conversion.IsOneLine.laidOut_body (h : c.IsOneLine) {head : Text} (hhead : '\n' ∉ head) :
    LaidOut (c.body head) := by
  unfold body
  split
  · exact .indented 2 (.behind hhead (by decide))
  · next hdirectives =>
    refine .append (.append (.indented 2 (.behind hhead (by decide))) ?_) (.indented 2 (by decide))
    refine .flatMap (by simpa using hdirectives) fun d hd => .indented 3 ?_
    exact ⟨h.directives d hd, d.getLast?_entry⟩

theorem Conversion.IsOneLine.laidOut (h : c.IsOneLine) {method : Text}
    (hmethod : c.render = .ok method) : LaidOut method := by
  obtain ⟨head, hhead, rfl⟩ := map_eq_ok_iff.mp hmethod
  have hline := newline_not_mem_literalHead (newline_not_mem_ownedType h.result) hhead
  exact .append (.append (.indented 1 h.inkLine_head) (h.laidOut_body hline))
    (.indented 1 (by decide))

end Conversions

/-! ### Mappers -/

theorem Mapper.IsOneLine.laidOut {m : Mapper} (h : m.IsOneLine) {mapper : Text}
    (hmapper : m.render = .ok mapper) : LaidOut mapper := by
  obtain ⟨methods, hmethods, rfl⟩ := (m.rendersInOrder.text mapper).mp hmapper
  have hname : '\n' ∉ m.structName := by simp [structName, h.name]
  have himpl : '\n' ∉ "impl ".toList ++ m.structName := by simp [hname]
  have hstruct : InkLine ("pub struct ".toList ++ m.structName ++ [';']) :=
    .behind (by simp [hname]) (by decide)
  have hderive : InkLine "#[derive(Debug, Clone, Copy, Default)]".toList := by decide
  have hlines : LaidOut (m.implLines methods) := by
    unfold implLines
    split
    · exact .single (.behind himpl (by decide))
    · next hne =>
      have hallow : InkLine "#[allow(unused_variables)]".toList := by decide
      have hopen : InkLine ("impl ".toList ++ m.structName ++ " \x7b".toList) :=
        .behind himpl (by decide)
      have hjoined : LaidOut (joinWith (line []) methods) := by
        refine .joinWith hne fun method hmethod => ?_
        obtain ⟨c, hc, hrender⟩ := exists_mem_of_forall₂ hmethods hmethod
        exact (h.conversions c hc).laidOut hrender
      exact .append (.append (.append (.single hallow) (.single hopen)) hjoined)
        (.single (by decide))
  have hapart := LaidOut.apart (.append (.single hderive) (.single hstruct)) hlines
  rwa [← List.append_assoc] at hapart

/-! ### Specs -/

theorem laidOut_front {moduleName : Text} {imports : List Text} (hmodule : '\n' ∉ moduleName)
    (himports : ∀ path ∈ imports, '\n' ∉ path) :
    LaidOut (header moduleName ++ importLines imports) := by
  have hheader : LaidOut (header moduleName) :=
    .single (.behind (by simp [hmodule]) (by decide))
  unfold importLines
  split
  · rwa [List.append_nil]
  · next hne =>
    refine .apart hheader (.flatMap (by simpa using hne) fun path hpath => .single ?_)
    exact .behind (by simp [himports path hpath]) (by decide)

/-- A rendered text has its normal form: if no name, type, path or clause in it holds a line feed,
tidying changes nothing. So the built-in formatter gives the rendered text or refuses it. -/
theorem Spec.render_tidy (moduleName : Text) (declarations : List MapperDecl) (imports : List Text)
    (s : Spec) (rendered : Text) (hmodule : '\n' ∉ moduleName)
    (himports : ∀ path ∈ imports, '\n' ∉ path) (hdeclarations : ∀ d ∈ declarations, d.IsOneLine)
    (hassemble : Spec.assemble moduleName declarations = .ok s)
    (hrender : s.render imports = .ok rendered) :
    tidy rendered = rendered ∧
      (s.mappers ≠ [] → s.generate imports builtinFormatter = some (.code rendered) ∨
        ∃ message, s.generate imports builtinFormatter = some (.failed (.format message))) := by
  obtain ⟨rfl, hmappers⟩ := Spec.assemble_eq_ok_iff.mp hassemble
  have htidy : tidy rendered = rendered := by
    obtain ⟨mappers, hrendered, rfl⟩ := ((s.rendersInOrder imports).text rendered).mp hrender
    have hfront := laidOut_front hmodule himports
    refine LaidOut.tidy_eq (.append_flatMap hfront fun mapper hmapper => ?_)
    obtain ⟨m, hm, hrender⟩ := exists_mem_of_forall₂ hrendered hmapper
    obtain ⟨d, hd, hassembled⟩ := exists_mem_of_forall₂ hmappers hm
    exact ((hdeclarations d hd).assembled hassembled).laidOut hrender
  refine ⟨htidy, fun hne => ?_⟩
  rw [generate, isEmpty, if_neg (by simpa using hne), write, hrender]
  dsimp only
  cases hformat : builtinFormatter rendered with
  | error message => exact .inr ⟨message, rfl⟩
  | ok text =>
    rw [(builtinFormatter_eq_ok_iff.mp hformat).2, htidy]
    exact .inl rfl

/-- Two declared mappers, of which the first has no method. -/
def oneLineMappers : List MapperDecl :=
  [⟨['A'], [], .start, []⟩,
    ⟨['B'], [], .start,
      [⟨['f'], some "<'a>".toList, [⟨['p'], "&'a P".toList⟩], ["R<'a>".toList], none,
        ["+mapwright:link:p.x->y".toList, " +mapwright:ignore: z\n".toList], .start⟩,
        ⟨['g'], none, [], ["&R".toList], some "where Self: Sized".toList, [], .start⟩]⟩]

/-- The code for them. -/
def oneLineCode : Text :=
  ["// Code generated by mapwright from m. DO NOT EDIT.".toList, [], "use a::P;".toList, [],
    "#[derive(Debug, Clone, Copy, Default)]".toList, "pub struct AImpl;".toList, [],
    "impl AImpl \x7b\x7d".toList, [],
    "#[derive(Debug, Clone, Copy, Default)]".toList, "pub struct BImpl;".toList, [],
    "#[allow(unused_variables)]".toList, "impl BImpl \x7b".toList,
    "    pub fn f<'a>(&self, p: P) -> R<'a> \x7b".toList, "        R::<'a> \x7b".toList,
    "            y: p.x,".toList, "            // z: (ignored)".toList, "        \x7d".toList,
    "    \x7d".toList, [],
    "    pub fn g(&self) -> R where Self: Sized \x7b".toList, "        R \x7b\x7d".toList,
    "    \x7d".toList, "\x7d".toList].flatMap line

/-- The spec of them. -/
def oneLineSpec : Spec :=
  ⟨['m'], [⟨['A'], []⟩,
    ⟨['B'], [⟨['f'], some "<'a>".toList, [⟨['p'], "&'a P".toList⟩], "R<'a>".toList, none,
      [.link (.field ['p'] ['x']) ['y'], .ignore ['z']]⟩,
      ⟨['g'], none, [], "&R".toList, some "where Self: Sized".toList, []⟩]⟩]⟩

theorem Spec.render_tidy_oneLineCode : tidy oneLineCode = oneLineCode ∧
    (oneLineSpec.generate ["a::P".toList] builtinFormatter = some (.code oneLineCode) ∨
      ∃ message, oneLineSpec.generate ["a::P".toList] builtinFormatter =
        some (.failed (.format message))) := by
  have hassemble : Spec.assemble ['m'] oneLineMappers = .ok oneLineSpec :=
    eq_ok_of_toOption (by decide +kernel)
  have hrender : oneLineSpec.render ["a::P".toList] = .ok oneLineCode :=
    eq_ok_of_toOption (by decide +kernel)
  obtain ⟨htidy, hgenerate⟩ := Spec.render_tidy ['m'] oneLineMappers ["a::P".toList] oneLineSpec
    oneLineCode (by decide) (by decide) (by decide +kernel) hassemble hrender
  exact ⟨htidy, hgenerate (by decide)⟩

end MapperGen
