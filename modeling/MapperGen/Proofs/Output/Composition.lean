import MapperGen.Output.Generated
import MapperGen.Proofs.Output.LiteralHead
import MapperGen.Proofs.Traversal

/-!
# Rendering in order

Mappers and conversions are rendered one after the other, each by itself. So the text of two lists
of mappers is the text of the first and, behind it, that of the second without header and imports.
And the first conversion whose result no struct literal can build ends rendering: it is reported,
and nothing else is written.
-/

namespace MapperGen

open Syntax

/-! ### Results of conversions -/

/-- A struct literal can build the type: what it refers to is a plain path. -/
def HeadsLiteral (type : Text) : Prop :=
  ∃ node path, TypeExpr.read (ownedType type) = .ok (.path node false path)

theorem literalHead_ok_iff {type : Text} :
    (∃ head, literalHead (ownedType type) = .ok head) ↔ HeadsLiteral type := by
  simp only [HeadsLiteral, literalHead_eq_ok_iff, exists_and_left, exists_eq, and_true]

theorem Conversion.render_ok_iff {c : Conversion} :
    (∃ method, c.render = .ok method) ↔ HeadsLiteral c.result := by
  rw [← literalHead_ok_iff]
  simp only [render, map_eq_ok_iff]
  constructor
  · rintro ⟨method, head, hhead, -⟩
    exact ⟨head, hhead⟩
  · rintro ⟨head, hhead⟩
    exact ⟨_, head, hhead, rfl⟩

/-- A method starts and ends with a line that is not empty. -/
theorem Conversion.render_lines {c : Conversion} {method : Text} (h : c.render = .ok method) :
    "    pub fn ".toList <+: method ∧ "    \x7d\n".toList <:+ method := by
  obtain ⟨head, -, rfl⟩ := map_eq_ok_iff.mp h
  constructor
  · have hmargin : "    pub fn ".toList = List.replicate (4 * 1) ' ' ++ "pub fn ".toList := by
      decide +kernel
    rw [hmargin]
    unfold indented line Conversion.head
    simp only [List.append_assoc]
    exact ⟨_, rfl⟩
  · have hclose : indented 1 ['\x7d'] = "    \x7d\n".toList := by decide +kernel
    rw [hclose]
    exact List.suffix_append _ _

/-! ### Mappers -/

/-- The implementation of a mapper with the given methods, an empty line between any two. -/
def Mapper.implLines (m : Mapper) (methods : List Text) : Text :=
  if methods = [] then line ("impl ".toList ++ m.structName ++ " \x7b\x7d".toList)
  else
    line "#[allow(unused_variables)]".toList ++
      line ("impl ".toList ++ m.structName ++ " \x7b".toList) ++
      Text.joinWith (line []) methods ++ line ['\x7d']

/-- How a mapper is rendered: each method depends on its conversion alone, and the methods stand in
the order of the conversions with one empty line between any two. The first conversion whose result
no struct literal can build is reported with the names of the mapper and the conversion. -/
structure Mapper.RendersInOrder (m : Mapper) : Prop where
  text : ∀ t, m.render = .ok t ↔ ∃ methods,
    m.conversions.Forall₂ (fun c method => c.render = .ok method) methods ∧
      t = m.structLines ++ m.implLines methods
  apart : ∀ c ∈ m.conversions, ∀ method, c.render = .ok method →
    "    pub fn ".toList <+: method ∧ "    \x7d\n".toList <:+ method
  fails : ∀ fault, m.render = .error fault ↔ ∃ before c behind cause,
    m.conversions = before ++ c :: behind ∧ (∀ c' ∈ before, HeadsLiteral c'.result) ∧
      ¬ HeadsLiteral c.result ∧ literalHead (ownedType c.result) = .error cause ∧
      fault = ⟨m.name, c.name, cause⟩

theorem Mapper.renderConversion_eq_ok_iff {m : Mapper} {c : Conversion} {method : Text} :
    m.renderConversion c = .ok method ↔ c.render = .ok method :=
  mapError_eq_ok_iff

theorem Mapper.renderConversion_eq_error_iff {m : Mapper} {c : Conversion}
    {fault : TemplateFault} :
    m.renderConversion c = .error fault ↔ ∃ cause, ¬ HeadsLiteral c.result ∧
      literalHead (ownedType c.result) = .error cause ∧ fault = ⟨m.name, c.name, cause⟩ := by
  rw [renderConversion, mapError_eq_error_iff, ← literalHead_ok_iff]
  simp only [Conversion.render, map_eq_error_iff]
  constructor
  · rintro ⟨cause, hcause, rfl⟩
    exact ⟨cause, by simp [hcause], hcause, rfl⟩
  · rintro ⟨cause, -, hcause, rfl⟩
    exact ⟨cause, hcause, rfl⟩

theorem Mapper.render_eq_mapM (m : Mapper) :
    m.render = (m.conversions.mapM m.renderConversion).map fun methods =>
      m.structLines ++ m.implLines methods := by
  rw [render]
  cases hconversions : m.conversions with
  | nil => rfl
  | cons c rest =>
    rw [if_neg (by simp)]
    cases hmethods : (c :: rest).mapM m.renderConversion with
    | error fault => rfl
    | ok methods =>
      obtain ⟨method, later, -, -, rfl⟩ := mapM_cons_eq_ok_iff.mp hmethods
      simp [Except.map, implLines]

theorem Mapper.rendersInOrder (m : Mapper) : m.RendersInOrder := by
  constructor
  case text =>
    intro t
    simp only [render_eq_mapM, map_eq_ok_iff, mapM_eq_ok_iff, renderConversion_eq_ok_iff]
    exact exists_congr fun methods => and_congr_right fun _ => eq_comm
  case apart =>
    intro c _ method hmethod
    exact Conversion.render_lines hmethod
  case fails =>
    intro fault
    simp only [render_eq_mapM, map_eq_error_iff, mapM_eq_error_iff, renderConversion_eq_ok_iff,
      Conversion.render_ok_iff, renderConversion_eq_error_iff, exists_and_left]

/-! ### Specs -/

/-- How a spec is rendered: the mappers stand in order behind the header and the imports, an empty
line in front of each. The fault of the first mapper that has one ends rendering, and a report of it
is all that is written. -/
structure Spec.RendersInOrder (s : Spec) (imports : List Text) : Prop where
  text : ∀ t, s.render imports = .ok t ↔ ∃ mappers,
    s.mappers.Forall₂ (fun m mapper => m.render = .ok mapper) mappers ∧
      t = header s.moduleName ++ importLines imports ++ mappers.flatMap ('\n' :: ·)
  fails : ∀ fault, s.render imports = .error fault ↔ ∃ before m behind,
    s.mappers = before ++ m :: behind ∧ (∀ m' ∈ before, ∃ mapper, m'.render = .ok mapper) ∧
      m.render = .error fault
  reported : ∀ fault formatter, s.render imports = .error fault →
    (s.write imports formatter).text = "<<<TEMPLATE ERROR: ".toList ++
      (fault.mapper ++ "::".toList ++ fault.conversion ++ ": ".toList ++ fault.fault.message) ++
      ">>>\n".toList

theorem Spec.rendersInOrder (s : Spec) (imports : List Text) : s.RendersInOrder imports := by
  constructor
  case text =>
    intro t
    simp only [render, map_eq_ok_iff, mapM_eq_ok_iff]
    exact exists_congr fun mappers => and_congr_right fun _ => eq_comm
  case fails =>
    intro fault
    simp only [render, map_eq_error_iff, mapM_eq_error_iff]
  case reported =>
    intro fault formatter hfault
    rw [write, hfault]
    rfl

/-! ### Specs in a row -/

/-- How mappers behind other mappers are rendered: as without them, but for the header and the
imports, which stand in front of the first ones. A fault in the first ones comes before any in the
others. -/
structure RendersAppended (moduleName : Text) (imports : List Text) (first second : List Mapper) :
    Prop where
  succeeds : (∃ t, (Spec.mk moduleName (first ++ second)).render imports = .ok t) ↔
    (∃ t, (Spec.mk moduleName first).render imports = .ok t) ∧
      ∃ t, (Spec.mk moduleName second).render imports = .ok t
  text : ∀ t u, (Spec.mk moduleName first).render imports = .ok t →
    (Spec.mk moduleName second).render imports = .ok u →
      ∃ mappers, u = header moduleName ++ importLines imports ++ mappers ∧
        (Spec.mk moduleName (first ++ second)).render imports = .ok (t ++ mappers)
  fails : ∀ fault, (Spec.mk moduleName (first ++ second)).render imports = .error fault ↔
    (Spec.mk moduleName first).render imports = .error fault ∨
      (∃ t, (Spec.mk moduleName first).render imports = .ok t) ∧
        (Spec.mk moduleName second).render imports = .error fault

theorem Spec.rendersAppended (moduleName : Text) (imports : List Text)
    (first second : List Mapper) : RendersAppended moduleName imports first second := by
  have hok (mappers : List Mapper) : (∃ t, (Spec.mk moduleName mappers).render imports = .ok t) ↔
      ∃ texts, mappers.mapM Mapper.render = .ok texts := by
    simp only [render, map_eq_ok_iff]
    constructor
    · rintro ⟨t, texts, htexts, -⟩
      exact ⟨texts, htexts⟩
    · rintro ⟨texts, htexts⟩
      exact ⟨_, texts, htexts, rfl⟩
  constructor
  case succeeds =>
    simp only [hok, exists_mapM_eq_ok_iff, List.forall_mem_append]
  case text =>
    intro t u ht hu
    obtain ⟨ts, hts, rfl⟩ := map_eq_ok_iff.mp ht
    obtain ⟨us, hus, rfl⟩ := map_eq_ok_iff.mp hu
    refine ⟨us.flatMap (line [] ++ ·), rfl, ?_⟩
    have hboth := mapM_append_eq_ok_iff.mpr ⟨ts, us, hts, hus, rfl⟩
    rw [render, hboth]
    simp [Except.map]
  case fails =>
    intro fault
    rw [hok]
    simp only [render, map_eq_error_iff, mapM_append_eq_error_iff]

/-- Rendering is compositional: mappers in a row are rendered as by themselves, and so are the
conversions of a mapper. The first fault ends it. -/
theorem Spec.render_compositional (moduleName : Text) (imports : List Text)
    (first second : List Mapper) :
    RendersAppended moduleName imports first second ∧
      (∀ s : Spec, s.RendersInOrder imports) ∧ ∀ m : Mapper, m.RendersInOrder :=
  ⟨Spec.rendersAppended moduleName imports first second, fun s => s.rendersInOrder imports,
    fun m => m.rendersInOrder⟩

end MapperGen
