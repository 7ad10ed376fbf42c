import MapperGen.Proofs.Declaration.Shape
import MapperGen.Proofs.Syntax.NodeText
import MapperGen.Proofs.Syntax.TraitPlace

/-!
# The first violation

All that keeps the marked items of a file from being mappers, listed in the order in which a reader
of the file comes across it. The reader stops at the first entry of this list, so the list says
whether there is a failure, which one, and where. A marker on an item that is not interpreted is not
seen; `declarations_check_markers_iff` says that nothing else is missed.
-/

namespace MapperGen

open Syntax

/-! ### Violations -/

/-- A node of the wrong shape, with the trait and the method it stands in. A member that is no
method and a parameter pattern are given by their first tokens; `index` counts typed parameters. -/
inductive Violation where
  | notTrait (item : Item)
  | genericTrait (t : TraitDecl)
  | notMethod (t : TraitDecl) (memberAt : Nat)
  | hasBody (t : TraitDecl) (m : Method)
  | notOneName (t : TraitDecl) (m : Method) (index patternAt : Nat)

namespace Violation

/-- The first token of the node. -/
def firstToken : Violation → Nat
  | notTrait item => item.first
  | genericTrait t => t.nameAt
  | notMethod _ memberAt => memberAt
  | hasBody _ m => m.signature.first
  | notOneName _ _ _ patternAt => patternAt

/-- The mapper in a member of which the node stands. -/
def mapper : Violation → Option Text
  | notTrait _ | genericTrait _ => none
  | notMethod t _ | hasBody t _ | notOneName t _ _ _ => some t.name

/-- What is wrong with the node. -/
def problem : Violation → ShapeProblem
  | notTrait item => .notTrait item.kind.describe
  | genericTrait t => .genericTrait t.name
  | notMethod _ _ => .notMethod
  | hasBody _ m => .hasBody m.signature.name
  | notOneName _ m index _ => .notOneName index m.signature.name

/-- How a report says in which mapper it is. -/
def label (name : Text) : Text := "mapper ".toList ++ name ++ ": ".toList

/-- The report of a violation. -/
def message (v : Violation) : Text := (v.mapper.map label).getD [] ++ v.problem.message

/-- The fault that a violation is reported as. -/
def fault (s : Tokens) (v : Violation) : ShapeFault :=
  ⟨v.mapper, s.location v.firstToken, v.problem⟩

theorem toFailure_fault (s : Tokens) (v : Violation) :
    (v.fault s).toFailure = .misshapen (s.location v.firstToken) v.message := by
  cases v <;> rfl

end Violation

/-! ### The order of violations -/

/-- The parameters of a method that do not bind one name each; `index` counts the typed ones. -/
def parameterViolations (t : TraitDecl) (m : Method) (index : Nat) : List Argument → List Violation
  | [] => []
  | .receiver :: rest => parameterViolations t m index rest
  | .typed pattern patternAt _ :: rest =>
    let later := parameterViolations t m (index + 1) rest
    if pattern.singleName?.isSome then later else .notOneName t m index patternAt :: later

/-- The violations in a method: its body comes before its parameters. -/
def Syntax.Method.violations (t : TraitDecl) (m : Method) : List Violation :=
  let parameters := parameterViolations t m 0 m.signature.arguments
  if m.hasBody then .hasBody t m :: parameters else parameters

/-- The violations in a member. -/
def Syntax.Member.violations (t : TraitDecl) : Member → List Violation
  | .method _ m => m.violations t
  | .other first => [.notMethod t first]

/-- The violations in a trait: its head comes before its members. -/
def Syntax.TraitDecl.violations (t : TraitDecl) : List Violation :=
  let members := t.members.flatMap (Member.violations t)
  if t.isGeneric then .genericTrait t :: members else members

/-- The violations in a marked item. -/
def Syntax.Item.violations (item : Item) : List Violation :=
  match item.kind with
  | .traitDecl t => t.violations
  | _ => [.notTrait item]

/-- The violations in the marked items of a file. -/
def Syntax.SourceFile.violations (file : SourceFile) : List Violation :=
  (file.items.filter (isMarked file.tokens)).flatMap Item.violations

theorem mem_parameterViolations {t : TraitDecl} {m : Method} {index : Nat}
    {arguments : List Argument} {v : Violation} (h : v ∈ parameterViolations t m index arguments) :
    ∃ i pattern patternAt type, .typed pattern patternAt type ∈ arguments ∧
      v = .notOneName t m i patternAt := by
  induction arguments generalizing index with
  | nil => cases h
  | cons a rest ih =>
    have hlater {index : Nat} (h : v ∈ parameterViolations t m index rest) :
        ∃ i pattern patternAt type, .typed pattern patternAt type ∈ a :: rest ∧
          v = .notOneName t m i patternAt := by
      obtain ⟨i, pattern, patternAt, type, ha, rfl⟩ := ih h
      exact ⟨i, pattern, patternAt, type, List.mem_cons_of_mem a ha, rfl⟩
    cases a with
    | receiver => exact hlater h
    | typed pattern patternAt type =>
      rw [parameterViolations] at h
      split at h
      · exact hlater h
      · rcases List.mem_cons.mp h with rfl | h
        · exact ⟨index, pattern, patternAt, type, List.mem_cons_self, rfl⟩
        · exact hlater h

/-! ### What reading a file stops at -/

variable (s : Tokens) (text : Text)

theorem readParameters_stopsAtFirst (t : TraitDecl) (m : Method) (index : Nat)
    (arguments : List Argument) :
    StopsAtFirst (readParameters s text m.signature.name index arguments)
      ((parameterViolations t m index arguments).map fun v =>
        (s.location v.firstToken, v.problem)) := by
  induction arguments generalizing index with
  | nil => exact .ok []
  | cons a rest ih =>
    cases a with
    | receiver => exact ih index
    | typed pattern patternAt type =>
      rw [readParameters, parameterViolations]
      cases hname : pattern.singleName? with
      | none => exact .error _ _
      | some name => exact (ih (index + 1)).map _

theorem readMethod_stopsAtFirst (t : TraitDecl) (m : Method) :
    StopsAtFirst (readMethod s text m)
      ((m.violations t).map fun v => (s.location v.firstToken, v.problem)) := by
  have hparameters := readParameters_stopsAtFirst s text t m 0 m.signature.arguments
  rw [readMethod, Method.violations]
  cases hbody : m.hasBody with
  | true => exact .error _ _
  | false => exact hparameters.map _

theorem readMember_stopsAtFirst (t : TraitDecl) (member : Member) :
    StopsAtFirst (readMember s text member)
      ((member.violations t).map fun v => (s.location v.firstToken, v.problem)) := by
  cases member with
  | method first m => exact readMethod_stopsAtFirst s text t m
  | other first => exact .error _ _

/-- The violations in a member are the member, the signature of a method with a body, and the
patterns of its parameters. -/
theorem mem_violations_member {t : TraitDecl} {member : Member} {v : Violation}
    (h : v ∈ member.violations t) :
    (∃ first, member = .other first ∧ v = .notMethod t first) ∨
      ∃ first m, member = .method first m ∧ (v = .hasBody t m ∨ ∃ index pattern patternAt type,
        .typed pattern patternAt type ∈ m.signature.arguments ∧
          v = .notOneName t m index patternAt) := by
  cases member with
  | other first =>
    obtain rfl := List.mem_singleton.mp h
    exact .inl ⟨first, rfl, rfl⟩
  | method first m =>
    refine .inr ⟨first, m, rfl, ?_⟩
    rw [Member.violations, Method.violations] at h
    split at h
    · rcases List.mem_cons.mp h with rfl | h
      · exact .inl rfl
      · exact .inr (mem_parameterViolations h)
    · exact .inr (mem_parameterViolations h)

theorem mapper_of_mem_member {t : TraitDecl} {member : Member} {v : Violation}
    (h : v ∈ member.violations t) : v.mapper = some t.name := by
  rcases mem_violations_member h with ⟨first, -, rfl⟩ | ⟨first, m, -, rfl | ⟨_, _, _, _, -, rfl⟩⟩
  · rfl
  · rfl
  · rfl

/-- The members of a trait are read until the first violation in one of them, which is reported with
the name of the trait. -/
theorem members_stopsAtFirst (t : TraitDecl) :
    StopsAtFirst ((t.members.mapM (readMember s text)).mapError fun (location, problem) =>
        (⟨some t.name, location, problem⟩ : ShapeFault))
      ((t.members.flatMap (Member.violations t)).map (Violation.fault s)) := by
  have hmembers : StopsAtFirst (t.members.mapM (readMember s text))
      (t.members.flatMap fun member =>
        (member.violations t).map fun v => (s.location v.firstToken, v.problem)) :=
    .mapM fun member _ => readMember_stopsAtFirst s text t member
  have hfaults : (t.members.flatMap (Member.violations t)).map (Violation.fault s) =
      (t.members.flatMap fun member => (member.violations t).map fun v =>
        (s.location v.firstToken, v.problem)).map fun (location, problem) =>
          ⟨some t.name, location, problem⟩ := by
    rw [List.map_flatMap, List.map_flatMap]
    refine List.flatMap_congr fun member _ => ?_
    rw [List.map_map]
    refine List.map_congr_left fun v hv => ?_
    simp [Violation.fault, mapper_of_mem_member hv]
  rw [hfaults]
  exact hmembers.mapError _

theorem readMarked_stopsAtFirst (item : Item) :
    StopsAtFirst (readMarked s text item) (item.violations.map (Violation.fault s)) := by
  cases hkind : item.kind with
  | traitDecl t =>
    have hmembers := members_stopsAtFirst s text t
    rw [readMarked, Item.violations, hkind]
    dsimp only
    rw [TraitDecl.violations, TraitDecl.isGeneric]
    split
    · exact .error _ _
    · intro e
      rw [← hmembers e]
      cases t.members.mapM (readMember s text) with
      | error fault => simp [Except.mapError]
      | ok methods => simp [Except.mapError]
  | _ =>
    have hread : readMarked s text item = .error ((Violation.notTrait item).fault s) := by
      simp only [readMarked, Violation.fault, Violation.problem, hkind]
      rfl
    rw [hread, Item.violations, hkind]
    exact .error _ _

/-- Reading the declarations of a file stops at its first violation. -/
theorem declarations_stopsAtFirst (file : SourceFile) :
    StopsAtFirst (file.declarations text) (file.violations.map (Violation.fault file.tokens)) := by
  rw [SourceFile.violations, List.map_flatMap]
  exact .mapM fun item _ => readMarked_stopsAtFirst file.tokens text item

/-! ### Where violations are -/

/-- The node of the violation begins, among the tokens, at the one that is reported. -/
def Violation.IsPlaced (tokens : List Token) : Violation → Prop
  | .notTrait item => BeginsAt tokens Grammar.nestedItem item.first item
  | .genericTrait t => tokens[t.nameAt]? = some (.ident t.name)
  | .notMethod _ memberAt => BeginsAt tokens Grammar.traitMember memberAt (.other memberAt)
  | .hasBody _ m =>
    BeginsAt tokens (fun r => Grammar.signature r false) m.signature.first m.signature
  | .notOneName _ m _ patternAt => ∃ pattern type,
    .typed pattern patternAt type ∈ m.signature.arguments ∧
      BeginsAt tokens Grammar.parameterPattern patternAt pattern

variable {source : Text} {file : SourceFile}

/-- The violations in a file are among its items, or in a trait among them: the trait itself, or one
of its members. -/
theorem mem_violations_file {v : Violation} (h : v ∈ file.violations) :
    ∃ item ∈ file.items, v = .notTrait item ∨ ∃ t, item.kind = .traitDecl t ∧
      (v = .genericTrait t ∨ ∃ member ∈ t.members, v ∈ member.violations t) := by
  obtain ⟨item, hitem, hv⟩ := List.mem_flatMap.mp h
  refine ⟨item, (List.mem_filter.mp hitem).1, ?_⟩
  rw [Item.violations.eq_def] at hv
  split at hv
  · next t hkind =>
    refine .inr ⟨t, hkind, ?_⟩
    rw [TraitDecl.violations] at hv
    split at hv
    · rcases List.mem_cons.mp hv with rfl | hv
      · exact .inl rfl
      · exact .inr (List.mem_flatMap.mp hv)
    · exact .inr (List.mem_flatMap.mp hv)
  · exact .inl (List.mem_singleton.mp hv)

theorem placed_of_mem_violations (h : SourceFile.read source = .ok file) {v : Violation}
    (hv : v ∈ file.violations) : v.IsPlaced file.tokens.sequence := by
  obtain ⟨item, hitem, rfl | ⟨t, ht, hv⟩⟩ := mem_violations_file hv
  · exact SourceFile.items_placed h hitem
  · have hplaced := SourceFile.traits_placed h hitem ht
    rcases hv with rfl | ⟨member, hmember, hv⟩
    · exact hplaced.name
    · rcases mem_violations_member hv with ⟨first, rfl, rfl⟩ | ⟨first, m, rfl, hmethod⟩
      · exact hplaced.member _ hmember
      · rcases hmethod with rfl | ⟨index, pattern, patternAt, type, ha, rfl⟩
        · exact (hplaced.method first m hmember).2
        · exact ⟨pattern, type, ha, hplaced.parameter first m hmember pattern patternAt type ha⟩

/-! ### Labels in messages -/

theorem colon_notMem_of_anyIdentLength {t : Text} {n : Nat} (h : anyIdentLength t = some n) :
    ':' ∉ t.take n := by
  have hident (u : Text) : ':' ∉ u.take (identLength u) := fun hcolon => by
    have hor := isIdent_of_mem_take hcolon
    revert hor
    decide
  rw [anyIdentLength] at h
  dsimp only at h
  split at h
  · next hraw =>
    split at h
    · cases h
    · obtain rfl := Option.some.inj h
      obtain ⟨u, rfl⟩ := startsWith_iff.mp hraw
      have htail := hident u
      simpa using htail
  · split at h
    · cases h
    · obtain rfl := Option.some.inj h
      exact hident t

theorem Syntax.Scans.colon_notMem {p v : Text} {offset : Nat} {placed : List Placed}
    (h : Scans p offset v placed) {x : Placed} (hx : x ∈ placed) {name : Text}
    (hname : x.token = .ident name) : ':' ∉ name := by
  induction h with
  | nil => cases hx
  | step hone hn hlater ih =>
    rcases List.mem_append.mp hx with hx | hx
    · obtain ⟨token, htoken, rfl⟩ := List.mem_map.mp hx
      subst hname
      rcases scanOne_cases hone with (rfl | ⟨inner, content, rfl⟩) | hlexeme
      · cases htoken
      · have hdoc : name = "doc".toList := by
          cases inner <;> simpa [docTokens] using htoken
        rw [hdoc]
        decide
      · obtain ⟨token, rfl, hleads⟩ := token?_eq_some hlexeme
        obtain rfl := List.mem_singleton.mp htoken
        cases hleads with
        | ident hident => exact colon_notMem_of_anyIdentLength hident
    · exact ih hx

theorem colon_notMem_of_ident (h : SourceFile.read source = .ok file) {name : Text}
    (hname : .ident name ∈ file.tokens.sequence) : ':' ∉ name := by
  obtain ⟨hread, -⟩ := SourceFile.read_eq_ok_iff.mp h
  obtain ⟨placed, hscan, -, hplaced, -⟩ := Tokens.read_eq_ok_iff.mp hread
  rw [Tokens.sequence, hplaced] at hname
  obtain ⟨x, hx, hxname⟩ := List.mem_map.mp hname
  exact hscan.colon_notMem hx hxname

theorem colon_notMem_ofNat (n : Nat) : ':' ∉ Text.ofNat n := by
  intro hcolon
  have hdigit := Nat.isDigit_of_mem_toDigits (by decide) (by decide) hcolon
  revert hdigit
  decide

/-- What is wrong with a node is told without a colon. -/
theorem colon_notMem_problem (h : SourceFile.read source = .ok file) {v : Violation}
    (hv : v ∈ file.violations) : ':' ∉ v.problem.message := by
  obtain ⟨item, hitem, rfl | ⟨t, ht, hv⟩⟩ := mem_violations_file hv
  · have hfront : ':' ∉ "mapper marker is on ".toList := by decide
    have hkind : ':' ∉ item.kind.describe := by
      generalize item.kind = kind
      cases kind <;> exact of_decide_eq_false rfl
    have hback : ':' ∉ ", but mappers must be traits".toList := by decide
    exact List.not_mem_append (List.not_mem_append hfront hkind) hback
  · have hplaced := SourceFile.traits_placed h hitem ht
    rcases hv with rfl | ⟨member, hmember, hv⟩
    · have hfront : ':' ∉ "mapper trait ".toList := by decide
      have hname : ':' ∉ t.name := colon_notMem_of_ident h (List.mem_of_getElem? hplaced.name)
      have hback : ':' ∉ " is generic; only its methods may declare generics".toList := by decide
      exact List.not_mem_append (List.not_mem_append hfront hname) hback
    · rcases mem_violations_member hv with ⟨first, -, rfl⟩ | ⟨first, m, rfl, hmethod⟩
      · have hfixed : ':' ∉ "mapper traits may only contain method signatures".toList := by decide
        exact hfixed
      · have hname : ':' ∉ m.signature.name :=
          colon_notMem_of_ident h (hplaced.method first m hmember).1
        rcases hmethod with rfl | ⟨index, pattern, patternAt, type, -, rfl⟩
        · have hfront : ':' ∉ "method ".toList := by decide
          have hback : ':' ∉ " has a default body".toList := by decide
          exact List.not_mem_append (List.not_mem_append hfront hname) hback
        · have hfront : ':' ∉ "parameter ".toList ++ Text.ofNat index ++ " of ".toList :=
            List.not_mem_append (List.not_mem_append (by decide) (colon_notMem_ofNat index))
              (by decide)
          have hback : ':' ∉ " does not bind exactly one name".toList := by decide
          exact List.not_mem_append (List.not_mem_append hfront hname) hback

/-- A label names its mapper in front of a colon, so no report of a problem starts with one. -/
theorem not_label_prefix {problem : Text} (h : ':' ∉ problem) (name : Text) :
    ¬ Violation.label name <+: problem := by
  intro hlabel
  have hcolon : ':' ∈ ": ".toList := by decide
  exact h (hlabel.subset (List.mem_append_right _ hcolon))

/-! ### Files -/

/-- An item without the marker does not matter, whatever it is. -/
theorem declarations_insert {text : Text} {before behind : List Item} {item : Item}
    (hitems : file.items = before ++ behind) (hitem : isMarked file.tokens item = false) :
    (⟨file.tokens, before ++ item :: behind⟩ : SourceFile).declarations text =
      file.declarations text := by
  simp [SourceFile.declarations, hitems, hitem]

/-- How the declarations of a file are read: all of them, or up to the first violation in a marked
item. This one is reported with the place of its first token, and labelled once with the name of the
mapper if it is in a member. -/
structure Syntax.SourceFile.StopsAtViolation (file : SourceFile) (text : Text) : Prop where
  succeeds : (∃ ds, file.declarations text = .ok ds) ↔ file.IsWellShaped
  fails : ∀ failure, (file.declarations text).mapError ShapeFault.toFailure = .error failure ↔
    ∃ v, file.violations.head? = some v ∧
      failure = .misshapen (file.tokens.location v.firstToken) v.message
  unmarked : ∀ before behind item, file.items = before ++ behind →
    isMarked file.tokens item = false →
      (⟨file.tokens, before ++ item :: behind⟩ : SourceFile).declarations text =
        file.declarations text
  placed : ∀ v ∈ file.violations, v.IsPlaced file.tokens.sequence
  labelledOnce : ∀ v ∈ file.violations, ∀ name, ¬ Violation.label name <+: v.problem.message

/-- Reading the declarations of a file that was read from a source stops at the first violation. -/
theorem declarations_stopAtViolation (h : SourceFile.read source = .ok file) (text : Text) :
    file.StopsAtViolation text := by
  constructor
  case succeeds => exact declarations_ok_iff
  case fails =>
    intro failure
    have hstops := (declarations_stopsAtFirst text file).mapError ShapeFault.toFailure
    rw [hstops failure, List.map_map, List.head?_map, Option.map_eq_some_iff]
    constructor
    · rintro ⟨v, hv, rfl⟩
      exact ⟨v, hv, Violation.toFailure_fault file.tokens v⟩
    · rintro ⟨v, hv, rfl⟩
      exact ⟨v, hv, Violation.toFailure_fault file.tokens v⟩
  case unmarked =>
    intro before behind item hitems hitem
    exact declarations_insert hitems hitem
  case placed =>
    intro v hv
    exact placed_of_mem_violations h hv
  case labelledOnce =>
    intro v hv name
    exact not_label_prefix (colon_notMem_problem h hv) name

/-- An enumeration without the marker, and a marked trait whose method has a body and a parameter
that binds two names. A type stands behind the method. -/
def mixedTrait : Text :=
  "enum B \x7b\x7d\n/// +mapwright:mapper\ntrait A \x7b\n".toList ++
    "  fn f((a, b): C) \x7b\x7d\n  type D;\n\x7d\n".toList

theorem declarations_stopAtViolation_mixedTrait :
    ∃ file, SourceFile.read mixedTrait = .ok file ∧ file.StopsAtViolation mixedTrait ∧
      file.violations.map (fun v => (file.tokens.location v.firstToken, v.message)) =
        [(⟨4, 2⟩, "mapper A: method f has a default body".toList),
          (⟨4, 7⟩, "mapper A: parameter 0 of f does not bind exactly one name".toList),
          (⟨5, 2⟩, "mapper A: mapper traits may only contain method signatures".toList)] := by
  have hread : (SourceFile.read mixedTrait).toOption.map (fun file =>
      file.violations.map fun v => (file.tokens.location v.firstToken, v.message)) =
        some [(⟨4, 2⟩, "mapper A: method f has a default body".toList),
          (⟨4, 7⟩, "mapper A: parameter 0 of f does not bind exactly one name".toList),
          (⟨5, 2⟩, "mapper A: mapper traits may only contain method signatures".toList)] := by
    decide +kernel
  obtain ⟨file, hfile, hviolations⟩ := Option.map_eq_some_iff.mp hread
  have hok := eq_ok_of_toOption hfile
  exact ⟨file, hok, declarations_stopAtViolation hok mixedTrait, hviolations⟩

/-! ### Markers that go unnoticed -/

/-- The marker stands in the documentation of the item, whether or not it is looked for there. -/
def Syntax.Item.HasMarker (s : Tokens) (item : Item) : Prop :=
  (docLines s item.attributes).any Annotation.isMapperMarker = true

theorem isMarked_iff_hasMarker {s : Tokens} {item : Item} :
    isMarked s item = true ↔ item.kind ≠ .uninterpreted ∧ item.HasMarker s := by
  obtain ⟨first, attributes, kind⟩ := item
  cases kind <;> simp [isMarked, Item.markable, Item.HasMarker, docLines]

theorem Syntax.Item.IsWellShaped.ne_uninterpreted {item : Item} (h : item.IsWellShaped) :
    item.kind ≠ .uninterpreted := by
  obtain ⟨t, ht, -⟩ := h
  simp [ht]

/-- What carries the marker has to be a trait that can be a mapper. Reading the declarations of a
file checks this, with one gap: it also succeeds where the marker stands on an item that is not
interpreted. -/
theorem declarations_check_markers_iff (file : SourceFile) (text : Text) :
    ((∃ ds, file.declarations text = .ok ds) ↔
        ∀ item ∈ file.items, item.HasMarker file.tokens → item.IsWellShaped) ↔
      ((∃ ds, file.declarations text = .ok ds) →
        ∀ item ∈ file.items, item.kind = .uninterpreted → ¬ item.HasMarker file.tokens) := by
  constructor
  · intro hholds hok item hitem hkind hmarker
    exact (hholds.mp hok item hitem hmarker).ne_uninterpreted hkind
  · intro hseen
    constructor
    · intro hok item hitem hmarker
      have hkind : item.kind ≠ .uninterpreted := fun hkind => hseen hok item hitem hkind hmarker
      exact declarations_ok_iff.mp hok item hitem (isMarked_iff_hasMarker.mpr ⟨hkind, hmarker⟩)
    · intro hshaped
      refine declarations_ok_iff.mpr fun item hitem hmarked => ?_
      exact hshaped item hitem (isMarked_iff_hasMarker.mp hmarked).2

/-- The marker on a function without a body is missed: such a function is no trait, yet the file is
read as if it held no marker. -/
theorem declarations_miss_marker :
    ¬ ∀ (source : Text) (file : SourceFile), SourceFile.read source = .ok file →
      ((∃ ds, file.declarations source = .ok ds) ↔
        ∀ item ∈ file.items, item.HasMarker file.tokens → item.IsWellShaped) := by
  intro hclaim
  let source : Text := "/// +mapwright:mapper\nfn f();\n".toList
  have hread : (SourceFile.read source).toOption.map (fun file => file.items.map fun item =>
      (isMarked file.tokens item,
        (docLines file.tokens item.attributes).any Annotation.isMapperMarker)) =
          some [(false, true)] := by
    decide +kernel
  obtain ⟨file, hfile, hitems⟩ := Option.map_eq_some_iff.mp hread
  obtain ⟨item, rest, hfirst, hitem, hnone⟩ := List.map_eq_cons_iff.mp hitems
  obtain rfl := List.map_eq_nil_iff.mp hnone
  obtain ⟨hunmarked, hmarker⟩ := Prod.mk.inj hitem
  have hok : ∃ ds, file.declarations source = .ok ds := by
    refine declarations_ok_iff.mpr fun other hother hmarked => ?_
    rw [hfirst, List.mem_singleton] at hother
    rw [hother, hunmarked] at hmarked
    cases hmarked
  have hmem : item ∈ file.items := by
    rw [hfirst]
    exact List.mem_singleton_self item
  have hshaped := (hclaim source file (eq_ok_of_toOption hfile)).mp hok item hmem hmarker
  have hmarked := isMarked_iff_hasMarker.mpr ⟨hshaped.ne_uninterpreted, hmarker⟩
  rw [hunmarked] at hmarked
  cases hmarked

end MapperGen
