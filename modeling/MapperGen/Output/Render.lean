import MapperGen.Output.LiteralHead
import MapperGen.Output.OwnedType
import MapperGen.Spec.Basic

/-!
# Rendering

Writes a spec as source text: a header, the imports, and for each mapper a unit struct with one
method per conversion, whose body is a struct literal with one line per directive. The first
conversion whose result cannot be built so ends rendering.
-/

namespace MapperGen

/-! ### Lines -/

def line (t : Text) : Text := t ++ ['\n']

/-- A line indented by so many steps of four spaces. -/
def indented (steps : Nat) (t : Text) : Text := line (List.replicate (4 * steps) ' ' ++ t)

/-! ### Directives -/

def fieldInit (target value : Text) : Text := target ++ ": ".toList ++ value ++ [',']

/-- The line of a directive in a struct literal; an ignored field becomes a comment. -/
def Directive.entry : Directive → Text
  | .link source target => fieldInit target source.expression
  | .call sources method target =>
    fieldInit target ("self.".toList ++ method ++ '(' ::
      Text.joinWith ", ".toList (sources.map Source.expression) ++ [')'])
  | .ignore target => "// ".toList ++ target ++ ": (ignored)".toList

/-! ### Conversions -/

/-- A parameter, which takes an owned value. -/
def Parameter.render (p : Parameter) : Text := p.name ++ ": ".toList ++ ownedType p.type

def Conversion.head (c : Conversion) : Text :=
  "pub fn ".toList ++ c.name ++ c.generics.getD [] ++ '(' ::
    Text.joinWith ", ".toList ("&self".toList :: c.parameters.map Parameter.render) ++
    ") -> ".toList ++ ownedType c.result ++
    (match c.whereClause with
      | some clause => ' ' :: clause
      | none => []) ++
    " \x7b".toList

/-- The body of a conversion's method: a struct literal with the given head. -/
def Conversion.body (c : Conversion) (head : Text) : Text :=
  if c.directives.isEmpty then indented 2 (head ++ " \x7b\x7d".toList)
  else
    indented 2 (head ++ " \x7b".toList) ++ c.directives.flatMap (fun d => indented 3 d.entry) ++
      indented 2 ['\x7d']

/-- The method of a conversion. -/
def Conversion.render (c : Conversion) : Except HeadFault Text :=
  (literalHead (ownedType c.result)).map fun head =>
    indented 1 c.head ++ c.body head ++ indented 1 ['\x7d']

/-! ### Mappers -/

/-- A fault, and the mapper and conversion it is in. -/
structure TemplateFault where
  mapper : Text
  conversion : Text
  fault : HeadFault
  deriving DecidableEq, Repr

def TemplateFault.message (f : TemplateFault) : Text :=
  f.mapper ++ "::".toList ++ f.conversion ++ ": ".toList ++ f.fault.message

def Mapper.structName (m : Mapper) : Text := m.name ++ "Impl".toList

def Mapper.structLines (m : Mapper) : Text :=
  line "#[derive(Debug, Clone, Copy, Default)]".toList ++
    line ("pub struct ".toList ++ m.structName ++ [';']) ++ line []

def Mapper.renderConversion (m : Mapper) (c : Conversion) : Except TemplateFault Text :=
  c.render.mapError fun fault => ⟨m.name, c.name, fault⟩

/-- The struct of a mapper and its methods, with an empty line between any two. -/
def Mapper.render (m : Mapper) : Except TemplateFault Text :=
  if m.conversions.isEmpty then
    .ok (m.structLines ++ line ("impl ".toList ++ m.structName ++ " \x7b\x7d".toList))
  else
    (m.conversions.mapM m.renderConversion).map fun methods =>
      m.structLines ++ line "#[allow(unused_variables)]".toList ++
        line ("impl ".toList ++ m.structName ++ " \x7b".toList) ++
        Text.joinWith (line []) methods ++ line ['\x7d']

/-! ### Files -/

/-- The first line of a generated file. -/
def header (moduleName : Text) : Text :=
  line ("// Code generated by mapwright from ".toList ++ moduleName ++ ". DO NOT EDIT.".toList)

/-- The lines of the imports, behind an empty one. -/
def importLines (imports : List Text) : Text :=
  if imports.isEmpty then []
  else line [] ++ imports.flatMap fun path => line ("use ".toList ++ path ++ [';'])

/-- Writes a spec as source text. -/
def Spec.render (s : Spec) (imports : List Text) : Except TemplateFault Text :=
  (s.mappers.mapM Mapper.render).map fun mappers =>
    header s.moduleName ++ importLines imports ++ mappers.flatMap (line [] ++ ·)

end MapperGen
