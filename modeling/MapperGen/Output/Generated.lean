import MapperGen.Output.Layout
import MapperGen.Output.Render
import MapperGen.Spec.Assembly

/-!
# Generated text

Renders and formats a spec. There is always a text to write: if something fails, a placeholder that
is no source code stands for it and tells why.
-/

namespace MapperGen

/-- Why there is no generated code. -/
inductive OutputFault where
  | template (message : Text)
  | format (message : Text)
  deriving DecidableEq, Repr

def OutputFault.display : OutputFault → Text
  | template message => "TEMPLATE ERROR: ".toList ++ message
  | format message => "FORMAT ERROR: ".toList ++ message

/-- The text that stands for code that could not be generated. -/
def OutputFault.placeholder (f : OutputFault) : Text :=
  "<<<".toList ++ f.display ++ ">>>\n".toList

/-- What was generated: code, or a placeholder for it. -/
inductive Generated where
  | code (text : Text)
  | failed (fault : OutputFault)
  deriving DecidableEq, Repr

def Generated.text : Generated → Text
  | code text => text
  | failed fault => fault.placeholder

/-- The fault that a placeholder stands for. -/
def Generated.fault? : Generated → Option OutputFault
  | code _ => none
  | failed fault => some fault

/-- Renders and formats a spec that has mappers. -/
def Spec.write (s : Spec) (imports : List Text) (formatter : Formatter) : Generated :=
  match s.render imports with
  | .error fault => .failed (.template fault.message)
  | .ok rendered =>
    match formatter rendered with
    | .ok text => .code text
    | .error message => .failed (.format message)

/-- Renders and formats a spec; without mappers there is nothing to write. -/
def Spec.generate (s : Spec) (imports : List Text) (formatter : Formatter) : Option Generated :=
  if s.isEmpty then none else some (s.write imports formatter)

def generateSource (source moduleName : Text) (imports : List Text) (formatter : Formatter) :
    Except Failure (Option Generated) :=
  (Spec.read source moduleName).map fun s => s.generate imports formatter

end MapperGen
