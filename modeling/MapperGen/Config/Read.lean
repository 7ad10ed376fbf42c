import MapperGen.Config.Basic
import MapperGen.Toml.Document

/-!
# Reading configurations

Takes the settings out of a TOML document. Keys without a meaning are passed over; a key with a
meaning has to have a value of its type.
-/

namespace MapperGen

open Toml (Value)

/-! ### Values -/

/-- The text of a string. -/
def Toml.Value.text? : Value → Option Text
  | .string text => some text
  | _ => none

/-- The texts of an array of strings. -/
def Toml.Value.texts? : Value → Option (List Text)
  | .array items => items.mapM Value.text?
  | _ => none

/-- Has a value neither items nor keys? -/
def Toml.Value.isVacant : Value → Bool
  | .array [] | .table _ [] => true
  | _ => false

/-- The fields of a value that stands for a record: a table has them under their names, an array in
their order, and a moment has none of them. -/
def Toml.Value.fields? (names : List Text) : Value → Option (Text → Option Value)
  | .table _ entries => some fun name => entries.lookup name
  | .array items | .tables items => some fun name => (names.zip items).lookup name
  | .moment _ => some fun _ => none
  | _ => none

/-- Reads a field, or takes its default if it is missing. -/
def fieldOr {α : Type} (default : α) (read : Value → Option α) : Option Value → Option α
  | some value => read value
  | none => some default

/-! ### Settings -/

/-- A formatter is named by a string, or by the only key of a table, without a value. -/
def FormatterKind.read : Value → Option FormatterKind
  | .string name => ofName? name
  | .table _ [(name, value)] => if value.isVacant then ofName? name else none
  | _ => none

def GenerateSettings.read (v : Value) : Option GenerateSettings := do
  let names := ["input", "imports", "formatter", "edition"].map String.toList
  let field ← v.fields? names
  let defaults : GenerateSettings := {}
  let input ← fieldOr defaults.input (fun v => v.text?.map some) (field "input".toList)
  let imports ← fieldOr defaults.imports Value.texts? (field "imports".toList)
  let formatter ← fieldOr defaults.formatter FormatterKind.read (field "formatter".toList)
  let edition ← fieldOr defaults.edition Value.text? (field "edition".toList)
  return { input, imports, formatter, edition }

def LogSettings.read (v : Value) : Option LogSettings := do
  let field ← v.fields? ["level".toList]
  let defaults : LogSettings := {}
  let level ← fieldOr defaults.level Value.text? (field "level".toList)
  return { level }

/-- Reads a configuration. Its values are not checked. -/
def Config.read (t : Text) : Option Config := do
  let entries ← Toml.read t
  let generate ← fieldOr {} GenerateSettings.read (entries.lookup "gen".toList)
  let log ← fieldOr {} LogSettings.read (entries.lookup "log".toList)
  return { generate, log }

end MapperGen
