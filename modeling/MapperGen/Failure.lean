import MapperGen.Syntax.Location

/-!
# Failures

What ends the processing of an input: it is no source file, a declaration has the wrong shape, or
an annotation is not well formed. Each kind has its own exit status.
-/

namespace MapperGen

/-- Why an input yields no mappers. -/
inductive Failure where
  | unparsable (message : Text)
  | misshapen (location : Location) (message : Text)
  | misspecified (message : Text)
  deriving DecidableEq, Repr

namespace Failure

/-- Names the mapper in which the failure arose. -/
def inMapper (mapper : Text) : Failure → Failure
  | unparsable message => unparsable message
  | misshapen location message =>
    misshapen location ("mapper ".toList ++ mapper ++ ": ".toList ++ message)
  | misspecified message =>
    misspecified ("cannot create mapper for ".toList ++ mapper ++ ": ".toList ++ message)

/-- The report of a failure. -/
def display : Failure → Text
  | unparsable message => "could not parse source: ".toList ++ message
  | misshapen location message =>
    "unexpected declaration shape ".toList ++ location.display ++ ": ".toList ++ message
  | misspecified message => "specification error: ".toList ++ message

/-- The exit status of a command that fails this way. -/
def exitCode : Failure → Nat
  | unparsable _ => 2
  | misshapen _ _ => 3
  | misspecified _ => 4

end Failure
end MapperGen
