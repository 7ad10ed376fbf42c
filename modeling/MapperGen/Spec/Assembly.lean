import MapperGen.Declaration.Extract

/-!
# From declarations to specs

Reads the annotations of every declared method. Assembly is all or nothing: it ends at the first
declaration without a name, method without exactly one result, or annotation that is no directive.
-/

namespace MapperGen

/-- What is wrong with a declared method. -/
inductive MethodFault where
  | resultCount (method : Text) (count : Nat) (location : Location)
  | directive (fault : DirectiveFault)
  deriving DecidableEq, Repr

def MethodFault.toFailure : MethodFault → Failure
  | resultCount method count location =>
    .misspecified ("mapper function must have exactly one result, but ".toList ++ method ++
      " has ".toList ++ Text.ofNat count ++ ' ' :: location.display)
  | directive fault => .misspecified fault.message

/-- What is wrong with a declared mapper. -/
inductive SpecFault where
  | emptyName (location : Location)
  | inMethod (mapper : Text) (fault : MethodFault)
  deriving DecidableEq, Repr

def SpecFault.toFailure : SpecFault → Failure
  | emptyName location =>
    .misspecified ("mapper name cannot be empty ".toList ++ location.display)
  | inMethod mapper fault => fault.toFailure.inMapper mapper

/-- Reads the annotations of a method. -/
def MethodDecl.assemble (m : MethodDecl) : Except MethodFault Conversion :=
  match m.results with
  | [result] =>
    match m.comments.mapM Directive.read with
    | .error fault => .error (.directive fault)
    | .ok directives =>
      .ok ⟨m.name, m.generics, m.parameters, result, m.whereClause, directives⟩
  | results => .error (.resultCount m.name results.length m.location)

/-- Reads the annotations of a mapper's methods. -/
def MapperDecl.assemble (d : MapperDecl) : Except SpecFault Mapper :=
  if d.name.isEmpty then .error (.emptyName d.location)
  else
    match d.methods.mapM MethodDecl.assemble with
    | .error fault => .error (.inMethod d.name fault)
    | .ok conversions => .ok ⟨d.name, conversions⟩

/-- The spec of a module's declarations. -/
def Spec.assemble (moduleName : Text) (declarations : List MapperDecl) : Except SpecFault Spec :=
  (declarations.mapM MapperDecl.assemble).map fun mappers => ⟨moduleName, mappers⟩

def Spec.read (source moduleName : Text) : Except Failure Spec :=
  match MapperDecl.readAll source with
  | .error failure => .error failure
  | .ok declarations => (Spec.assemble moduleName declarations).mapError SpecFault.toFailure

end MapperGen
