import MapperGen.Text.Basic

/-!
# Values and tables of a TOML document

A document is a table. Tables come to be in four ways, and the way decides what may still be added:
a table is defined by a header once, a dotted key adds only to tables of dotted keys, and an inline
table is complete. Every operation gives no result where the document would contradict itself.
-/

namespace MapperGen.Toml

/-- How a table came to be: by a header, as the parent of another header's table, by a dotted key,
or between braces. -/
inductive Origin where
  | header
  | implied
  | dotted
  | inline
  deriving DecidableEq, Repr

/-- A value. Floats and moments are kept as they are written. -/
inductive Value where
  | string (text : Text)
  | integer (n : Int)
  | float (literal : Text)
  | boolean (b : Bool)
  | moment (literal : Text)
  | array (items : List Value)
  | tables (items : List Value)
  | table (origin : Origin) (entries : List (Text × Value))
  deriving Repr

/-- The keys of a table with their values, in the order in which they came. -/
abbrev Entries := List (Text × Value)

namespace Entries

/-- Gives a key that is there another value. -/
def replace (entries : Entries) (key : Text) (value : Value) : Entries :=
  entries.map fun e => if e.1 = key then (key, value) else e

def add (entries : Entries) (key : Text) (value : Value) : Entries := entries ++ [(key, value)]

/-! ### Descending -/

/-- Changes the table at the end of a path. Missing tables are made. The last of several tables of
one name is meant. A dotted key passes through no table that has a header. -/
def descend (made : Origin) (change : Origin → Entries → Option Entries) :
    (path : List Text) → Origin → Entries → Option Entries
  | [], origin, entries => change origin entries
  | key :: path, _, entries =>
    match entries.lookup key with
    | none => (descend made change path made []).map fun new => entries.add key (.table made new)
    | some (.table .inline _) => none
    | some (.table origin inner) =>
      if made = .dotted && origin = .header then none
      else
        (descend made change path origin inner).map fun new =>
          entries.replace key (.table origin new)
    | some (.tables items) =>
      -- the table that was opened last is at the end
      match items.reverse with
      | .table origin inner :: before =>
        (descend made change path origin inner).map fun new =>
          entries.replace key (.tables (.table origin new :: before).reverse)
      | _ => none
    | some _ => none

/-! ### Keys and headers -/

/-- Puts a value under a dotted key. The table that gets it is one of dotted keys if and only if
the key has a dot. -/
def define (path : List Text) (key : Text) (value : Value) (origin : Origin) (entries : Entries) :
    Option Entries :=
  let change : Origin → Entries → Option Entries := fun origin entries =>
    if (origin == .dotted) == path.isEmpty || (entries.lookup key).isSome then none
    else some (entries.add key value)
  descend .dotted change path origin entries

def openTable (path : List Text) (key : Text) (entries : Entries) : Option Entries :=
  let change : Origin → Entries → Option Entries := fun _ entries =>
    match entries.lookup key with
    | none => some (entries.add key (.table .header []))
    | some (.table .implied inner) => some (entries.replace key (.table .header inner))
    | some _ => none
  descend .implied change path .header entries

/-- Opens one more table of a header in double brackets. -/
def openNext (path : List Text) (key : Text) (entries : Entries) : Option Entries :=
  let change : Origin → Entries → Option Entries := fun _ entries =>
    match entries.lookup key with
    | none => some (entries.add key (.tables [.table .header []]))
    | some (.tables items) =>
      some (entries.replace key (.tables (items ++ [.table .header []])))
    | some _ => none
  descend .implied change path .header entries

/-- Puts a value under a dotted key in the table that a header opened. -/
def defineUnder (header path : List Text) (key : Text) (value : Value) (entries : Entries) :
    Option Entries :=
  descend .implied (define path key value) header .header entries

end Entries

/-- The table between braces with some keys. -/
def inlineTable (keys : List ((List Text × Text) × Value)) : Option Value :=
  (keys.foldlM (fun entries ((path, key), value) => Entries.define path key value .header entries)
    []).map (.table .inline)

end MapperGen.Toml
