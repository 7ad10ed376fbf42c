import MapperGen.Output.Render
import MapperGen.Proofs.Json.RoundTrip
import MapperGen.Spec.Json

/-!
# Specs encoded as JSON

The JSON text of a spec loses nothing: it is read as the value it was printed from, and each part of
the value is decoded to the part of the spec that it encodes. So different specs have different
texts.
-/

namespace MapperGen

/-! ### Lists of parts -/

theorem mapM_map_some {α β : Type} {encode : α → β} {decode : β → Option α}
    (h : ∀ x, decode (encode x) = some x) (xs : List α) :
    (xs.map encode).mapM decode = some xs := by
  have hpure : decode ∘ encode = (pure <| id ·) := funext h
  rw [List.mapM_map, hpure, List.mapM_pure, List.map_id]
  rfl

/-! ### Parts of specs -/

/-- The field `kind` tells which directive is meant. -/
theorem Directive.ofJson?_toJson (d : Directive) : ofJson? d.toJson = some d := by
  cases d with
  | link source target =>
    cases source <;> rfl
  | call sources method target =>
    have hsources : (sources.map Source.toJson).mapM Source.ofJson? = some sources :=
      mapM_map_some Source.ofJson?_toJson sources
    show (do
      let sources ← (sources.map Source.toJson).mapM Source.ofJson?
      return Directive.call sources method target) = some (.call sources method target)
    rw [hsources]
    rfl
  | ignore target => rfl

theorem Parameter.ofJson?_toJson (p : Parameter) : ofJson? p.toJson = some p := rfl

theorem Conversion.ofJson?_toJson (c : Conversion) : ofJson? c.toJson = some c := by
  have hparameters : (c.parameters.map Parameter.toJson).mapM Parameter.ofJson? =
      some c.parameters := mapM_map_some Parameter.ofJson?_toJson c.parameters
  have hdirectives : (c.directives.map Directive.toJson).mapM Directive.ofJson? =
      some c.directives := mapM_map_some Directive.ofJson?_toJson c.directives
  obtain ⟨name, generics, parameters, result, whereClause, directives⟩ := c
  show (do
    let generics ← Json.optional? (Json.optional generics)
    let parameters ← (parameters.map Parameter.toJson).mapM Parameter.ofJson?
    let whereClause ← Json.optional? (Json.optional whereClause)
    let directives ← (directives.map Directive.toJson).mapM Directive.ofJson?
    return (⟨name, generics, parameters, result, whereClause, directives⟩ : Conversion)) = some _
  rw [Json.optional?_optional, Json.optional?_optional, hparameters, hdirectives]
  rfl

theorem Mapper.ofJson?_toJson (m : Mapper) : ofJson? m.toJson = some m := by
  have hconversions : (m.conversions.map Conversion.toJson).mapM Conversion.ofJson? =
      some m.conversions := mapM_map_some Conversion.ofJson?_toJson m.conversions
  show (do
    let conversions ← (m.conversions.map Conversion.toJson).mapM Conversion.ofJson?
    return (⟨m.name, conversions⟩ : Mapper)) = some m
  rw [hconversions]
  rfl

theorem Spec.ofJson?_toJson (s : Spec) : ofJson? s.toJson = some s := by
  have hmappers : (s.mappers.map Mapper.toJson).mapM Mapper.ofJson? = some s.mappers :=
    mapM_map_some Mapper.ofJson?_toJson s.mappers
  show (do
    let mappers ← (s.mappers.map Mapper.toJson).mapM Mapper.ofJson?
    return (⟨s.moduleName, mappers⟩ : Spec)) = some s
  rw [hmappers]
  rfl

/-! ### Texts of specs -/

/-- The text of a spec, printed with or without the line end that a command adds, is read as JSON
that decodes to that spec; so no other spec has this text. -/
theorem Spec.printJson_lossless (s : Spec) :
    (Json.read s.printJson).bind Spec.ofJson? = some s ∧
      (Json.read (line s.printJson)).bind Spec.ofJson? = some s ∧
      ∀ s' : Spec, s.printJson = s'.printJson → s = s' := by
  have hread (s : Spec) (blanks : Text) (h : ∀ c ∈ blanks, Json.isGap c = true) :
      (Json.read (s.printJson ++ blanks)).bind Spec.ofJson? = some s := by
    rw [printJson, Json.read_printed s.toJson h, Option.bind_some, Spec.ofJson?_toJson]
  have hplain (s : Spec) : (Json.read s.printJson).bind Spec.ofJson? = some s := by
    have h := hread s [] (by simp)
    rwa [List.append_nil] at h
  refine ⟨hplain s, hread s ['\n'] (List.forall_mem_singleton.mpr rfl), fun s' htext => ?_⟩
  have h := hplain s
  rw [htext, hplain s'] at h
  exact (Option.some.inj h).symm

end MapperGen
