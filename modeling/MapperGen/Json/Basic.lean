import MapperGen.Text.Basic

/-!
# JSON values

The JSON values that hold specs: texts, lists, objects and `null`. The fields of an object keep
their order.
-/

namespace MapperGen

inductive Json where
  | null
  | text (t : Text)
  | list (items : List Json)
  | object (fields : List (Text × Json))
  deriving Repr

namespace Json

/-- A text that may be missing. -/
def optional : Option Text → Json
  | none => null
  | some t => text t

def text? : Json → Option Text
  | text t => some t
  | _ => none

/-- The text in a value, or none for `null`. -/
def optional? : Json → Option (Option Text)
  | null => some none
  | text t => some (some t)
  | _ => none

def items? : Json → Option (List Json)
  | list items => some items
  | _ => none

def field? (name : Text) : Json → Option Json
  | object fields => fields.lookup name
  | _ => none

theorem optional?_optional (t : Option Text) : optional? (optional t) = some t := by
  cases t <;> rfl

end Json
end MapperGen
