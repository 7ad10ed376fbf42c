import MapperGen.Spec.Basic
import MapperGen.Syntax.Location

/-!
# Declarations

Mappers as they are declared in a source: names, texts of types, and annotation lines that nobody
has read yet.
-/

namespace MapperGen

/-- A declared method. A tuple as its result counts as several results. -/
structure MethodDecl where
  name : Text
  generics : Option Text
  parameters : List Parameter
  results : List Text
  whereClause : Option Text
  comments : List Text
  location : Location
  deriving DecidableEq, Repr

structure MapperDecl where
  name : Text
  topComments : List Text
  location : Location
  methods : List MethodDecl
  deriving DecidableEq, Repr

end MapperGen
