import MapperGen.Annotation.Directive

/-!
# Specs

What is known of the mappers of one file before any code is written. Order matters throughout:
mappers, conversions, parameters and directives stand as they did in the source. Types, generic
parameters and where clauses are the very text that was written.
-/

namespace MapperGen

/-- A parameter and the text of its type. -/
structure Parameter where
  name : Text
  type : Text
  deriving DecidableEq, Repr

/-- A method of a mapper, with the directives that fill the fields of its result. -/
structure Conversion where
  name : Text
  generics : Option Text
  parameters : List Parameter
  result : Text
  whereClause : Option Text
  directives : List Directive
  deriving DecidableEq, Repr

/-- A mapper: a named set of conversions. -/
structure Mapper where
  name : Text
  conversions : List Conversion
  deriving DecidableEq, Repr

/-- The mappers of a file, whose module name goes into the output. -/
structure Spec where
  moduleName : Text
  mappers : List Mapper
  deriving DecidableEq, Repr

/-- A file without mappers. -/
def Spec.isEmpty (s : Spec) : Bool := s.mappers.isEmpty

end MapperGen
