import MapperGen.Annotation.Tag
import MapperGen.Text.CharClass

/-!
# Directives

A directive tells where a field of a result comes from. Its line is the tag, a verb, a colon and the
details; arrows are looked for from the end of the details, so a source may hold arrows itself.
`Directive.print` writes a directive as such a line.
-/

namespace MapperGen

open Text

/-! ### Sources and directives -/

/-- Where a value comes from: a whole parameter, or one of its fields. -/
inductive Source where
  | whole (name : Text)
  | field (owner name : Text)
  deriving DecidableEq, Repr

/-- How a field of the result is filled: by a value, by a call of a method of the mapper, or not at
all. -/
inductive Directive where
  | link (source : Source) (target : Text)
  | call (sources : List Source) (method : Text) (target : Text)
  | ignore (target : Text)
  deriving DecidableEq, Repr

/-- The expression that reads a source. -/
def Source.expression : Source → Text
  | .whole name => name
  | .field owner name => owner ++ '.' :: name

/-- Two words around a point name a field; anything else names a parameter. -/
def Source.ofText (t : Text) : Source :=
  let t := trim t
  match splitOn '.' t with
  | [owner, name] => if isWordText owner && isWordText name then .field owner name else .whole t
  | _ => .whole t

/-- The field that a directive is about. -/
def Directive.target : Directive → Text
  | .link _ target | .call _ _ target | .ignore target => target

/-! ### Faults -/

inductive Verb where
  | link
  | call
  | ignore
  deriving DecidableEq, Repr

def Verb.text : Verb → Text
  | link => "link".toList
  | call => "linkfunc".toList
  | ignore => "ignore".toList

/-- The verb that a word writes. -/
def Verb.ofText? (t : Text) : Option Verb :=
  [Verb.link, .call, .ignore].find? (·.text == t)

theorem Verb.ofText?_text (v : Verb) : Verb.ofText? v.text = some v := by
  cases v <;> decide

/-- Why a line is no directive. Each fault holds the line. -/
inductive DirectiveFault where
  | malformed (line : Text)
  | unknownVerb (line : Text)
  | badDetails (line : Text) (verb : Verb)
  deriving DecidableEq, Repr

/-- The report of a fault, the line in brackets. -/
def DirectiveFault.message : DirectiveFault → Text
  | malformed line => '[' :: line ++ "] is not a valid mapwright directive".toList
  | unknownVerb line => '[' :: line ++ "] does not contain a recognized directive".toList
  | badDetails line verb =>
    '[' :: line ++ "] is not valid config for the ".toList ++ verb.text ++ " directive".toList

/-! ### Reading -/

/-- Separates the parts of a directive's details. -/
def arrow : Text := ['-', '>']

/-- Cuts a text at its last arrow. -/
def splitAtLastArrow : Text → Option (Text × Text)
  | [] => none
  | c :: t =>
    -- an arrow further on is taken rather than one here
    match splitAtLastArrow t with
    | some (before, behind) => some (c :: before, behind)
    | none => (dropHead? arrow (c :: t)).map fun behind => ([], behind)

/-- The verb and details behind the tag: a word, a colon and the rest of one line. -/
def splitVerb (t : Text) : Option (Text × Text) :=
  let verb := t.takeWhile isWord
  match t.drop verb.length with
  | ':' :: details => if verb.isEmpty || details.contains '\n' then none else some (verb, details)
  | _ => none

/-- Cuts a text at its last arrow if a word follows the arrow. -/
def splitTarget (t : Text) : Option (Text × Text) :=
  match splitAtLastArrow t with
  | some (before, word) => if isWordText word then some (before, word) else none
  | none => none

/-- The details of a link: a source and a field. -/
def readLink (details : Text) : Option Directive :=
  match splitTarget details with
  | some (source, target) =>
    if isAllBlank source then none else some (.link (.ofText source) target)
  | none => none

/-- The details of a call: sources with commas between them, a method and a field. -/
def readCall (details : Text) : Option Directive :=
  match splitTarget details with
  | none => none
  | some (rest, target) =>
    match splitTarget rest with
    | none => none
    | some (sources, method) =>
      let pieces := splitOn ',' sources
      if pieces.any isAllBlank then none
      else some (.call (pieces.map .ofText) method target)

/-- The details of an ignored field: its name. -/
def readIgnore (details : Text) : Option Directive :=
  let target := trim details
  if target.isEmpty then none else some (.ignore target)

/-- The details that belong to a verb. -/
def Verb.read : Verb → Text → Option Directive
  | link => readLink
  | call => readCall
  | ignore => readIgnore

/-- Reads an annotation line as a directive. -/
def Directive.read (line : Text) : Except DirectiveFault Directive :=
  let line := trim line
  match (dropHead? Annotation.tag line).bind splitVerb with
  | none => .error (.malformed line)
  | some (word, details) =>
    match Verb.ofText? word with
    | none => .error (.unknownVerb line)
    | some verb =>
      match verb.read details with
      | some directive => .ok directive
      | none => .error (.badDetails line verb)

/-! ### Writing -/

def Directive.details : Directive → Text
  | .link source target => source.expression ++ arrow ++ target
  | .call sources method target =>
    joinWith [','] (sources.map Source.expression) ++ arrow ++ method ++ arrow ++ target
  | .ignore target => target

def Directive.verb : Directive → Verb
  | .link .. => .link
  | .call .. => .call
  | .ignore _ => .ignore

/-- A directive as an annotation line. -/
def Directive.print (d : Directive) : Text := Annotation.tag ++ d.verb.text ++ ':' :: d.details

end MapperGen
