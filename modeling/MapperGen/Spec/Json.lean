import MapperGen.Json.Print
import MapperGen.Json.Read
import MapperGen.Spec.Basic

/-!
# Specs as JSON

A spec is an object, and so is each of its parts; what is missing is `null`. The field `kind` tells
directives apart. Each kind of part is written and read back, field by field.
-/

namespace MapperGen

/-! ### Sources and targets -/

def Source.toJson : Source → Json
  | .whole name => .object [("parameter".toList, .text name), ("field".toList, .null)]
  | .field owner name => .object [("parameter".toList, .text owner), ("field".toList, .text name)]

def Source.ofJson? (v : Json) : Option Source := do
  let parameter ← (← v.field? "parameter".toList).text?
  match ← (← v.field? "field".toList).optional? with
  | none => return .whole parameter
  | some name => return .field parameter name

theorem Source.ofJson?_toJson (s : Source) : ofJson? s.toJson = some s := by
  cases s <;> rfl

def targetToJson (target : Text) : Json := .object [("field".toList, .text target)]

def targetOfJson? (v : Json) : Option Text := do (← v.field? "field".toList).text?

/-! ### Directives -/

/-- The values of the field `kind`. -/
def Directive.kind : Directive → Text
  | .link .. => "link".toList
  | .call .. => "link_func".toList
  | .ignore _ => "ignore".toList

def Directive.toJson (d : Directive) : Json :=
  let kind := ("kind".toList, Json.text d.kind)
  let target := ("target".toList, targetToJson d.target)
  match d with
  | .link source _ => .object [kind, ("source".toList, source.toJson), target]
  | .call sources method _ =>
    .object [kind, ("sources".toList, .list (sources.map Source.toJson)),
      ("function".toList, .text method), target]
  | .ignore _ => .object [kind, target]

def Directive.ofJson? (v : Json) : Option Directive := do
  let kind ← (← v.field? "kind".toList).text?
  let target ← targetOfJson? (← v.field? "target".toList)
  if kind = "link".toList then
    return .link (← Source.ofJson? (← v.field? "source".toList)) target
  else if kind = "link_func".toList then
    let sources ← (← (← v.field? "sources".toList).items?).mapM Source.ofJson?
    return .call sources (← (← v.field? "function".toList).text?) target
  else if kind = "ignore".toList then
    return .ignore target
  else none

/-! ### Conversions, mappers and specs -/

def Parameter.toJson (p : Parameter) : Json :=
  .object [("name".toList, .text p.name), ("ty".toList, .text p.type)]

def Parameter.ofJson? (v : Json) : Option Parameter := do
  return ⟨← (← v.field? "name".toList).text?, ← (← v.field? "ty".toList).text?⟩

def Conversion.toJson (c : Conversion) : Json :=
  .object [
    ("name".toList, .text c.name),
    ("generics".toList, .optional c.generics),
    ("parameters".toList, .list (c.parameters.map Parameter.toJson)),
    ("result".toList, .text c.result),
    ("where_clause".toList, .optional c.whereClause),
    ("directives".toList, .list (c.directives.map Directive.toJson))]

def Conversion.ofJson? (v : Json) : Option Conversion := do
  let name ← (← v.field? "name".toList).text?
  let generics ← (← v.field? "generics".toList).optional?
  let parameters ← (← (← v.field? "parameters".toList).items?).mapM Parameter.ofJson?
  let result ← (← v.field? "result".toList).text?
  let whereClause ← (← v.field? "where_clause".toList).optional?
  let directives ← (← (← v.field? "directives".toList).items?).mapM Directive.ofJson?
  return { name, generics, parameters, result, whereClause, directives }

def Mapper.toJson (m : Mapper) : Json :=
  .object [("name".toList, .text m.name),
    ("functions".toList, .list (m.conversions.map Conversion.toJson))]

def Mapper.ofJson? (v : Json) : Option Mapper := do
  let name ← (← v.field? "name".toList).text?
  let conversions ← (← (← v.field? "functions".toList).items?).mapM Conversion.ofJson?
  return { name, conversions }

def Spec.toJson (s : Spec) : Json :=
  .object [("module".toList, .text s.moduleName),
    ("mappers".toList, .list (s.mappers.map Mapper.toJson))]

def Spec.ofJson? (v : Json) : Option Spec := do
  let moduleName ← (← v.field? "module".toList).text?
  let mappers ← (← (← v.field? "mappers".toList).items?).mapM Mapper.ofJson?
  return { moduleName, mappers }

/-- A spec as JSON text. -/
def Spec.printJson (s : Spec) : Text := s.toJson.print

end MapperGen
