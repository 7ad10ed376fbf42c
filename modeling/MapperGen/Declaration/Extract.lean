import MapperGen.Annotation.Tag
import MapperGen.Declaration.Basic
import MapperGen.Failure
import MapperGen.Syntax.Grammar.File
import MapperGen.Syntax.Print

/-!
# Declarations of a source file

Finds the traits that carry the marker and takes their methods out. A marked item has to be a trait
without generic parameters, all of whose members are method signatures whose parameters bind one
name each. The first item, member or parameter that is not so ends the search.
-/

namespace MapperGen

open Syntax

/-! ### Shapes -/

/-- What is wrong with the shape of a marked item. -/
inductive ShapeProblem where
  | notTrait (kind : Text)
  | genericTrait (name : Text)
  | notMethod
  | hasBody (method : Text)
  | notOneName (index : Nat) (method : Text)
  deriving DecidableEq, Repr

def ShapeProblem.message : ShapeProblem → Text
  | notTrait kind =>
    "mapper marker is on ".toList ++ kind ++ ", but mappers must be traits".toList
  | genericTrait name =>
    "mapper trait ".toList ++ name ++ " is generic; only its methods may declare generics".toList
  | notMethod => "mapper traits may only contain method signatures".toList
  | hasBody method => "method ".toList ++ method ++ " has a default body".toList
  | notOneName index method =>
    "parameter ".toList ++ Text.ofNat index ++ " of ".toList ++ method ++
      " does not bind exactly one name".toList

/-- A problem, where it is, and in which mapper if it is one of its members. -/
structure ShapeFault where
  mapper : Option Text
  location : Location
  problem : ShapeProblem
  deriving DecidableEq, Repr

def ShapeFault.toFailure (f : ShapeFault) : Failure :=
  let failure := Failure.misshapen f.location f.problem.message
  match f.mapper with
  | some name => failure.inMapper name
  | none => failure

/-! ### Annotations -/

/-- The lines of documentation in attributes, without the blanks around them. -/
def docLines (s : Tokens) (attributes : List Attribute) : List Text :=
  attributes.flatMap fun
    | .doc index => (Text.lines ((s.textAt index).getD [])).map Text.trim
    | .other => []

/-- The annotations in attributes. -/
def taggedComments (s : Tokens) (attributes : List Attribute) : List Text :=
  (docLines s attributes).filter Annotation.isTagged

/-- The attributes that are searched for the marker. Those of an item that is not interpreted are
left out, so that a marker on it goes unnoticed. -/
def Syntax.Item.markable (item : Item) : List Attribute :=
  match item.kind with
  | .uninterpreted => []
  | _ => item.attributes

/-- Does an item carry the marker? -/
def isMarked (s : Tokens) (item : Item) : Bool :=
  (docLines s item.markable).any Annotation.isMapperMarker

/-- How reports name a kind of item. -/
def Syntax.ItemKind.describe : ItemKind → Text
  | .constant => "a const".toList
  | .enumeration => "an enum".toList
  | .externCrate => "an extern crate".toList
  | .function => "a function".toList
  | .externBlock => "an extern block".toList
  | .implementation => "an impl block".toList
  | .macroCall => "a macro invocation".toList
  | .moduleDecl => "a module".toList
  | .staticDecl => "a static".toList
  | .structDecl => "a struct".toList
  | .traitAlias => "a trait alias".toList
  | .typeAlias => "a type alias".toList
  | .unionDecl => "a union".toList
  | .useDeclaration => "a use declaration".toList
  | .traitDecl _ | .uninterpreted => "an unsupported item".toList

/-! ### Texts of nodes -/

/-- The text of a node: what stands in `text` where the node stands in the text it was read from,
or its printed tokens if that is no text or blank. -/
def nodeText (s : Tokens) (text : Text) (node : Node) : Text :=
  -- the range is one of bytes, since `text` need not be the text that was read
  let start := Text.byteLength (s.text.take (s.startOf node.first))
  let stop := Text.byteLength (s.text.take (s.stopOf node.last))
  match Text.byteSlice? text start stop with
  | some part => if Text.isAllBlank part then s.print node.trees else Text.trim part
  | none => s.print node.trees

/-- The text of a clause that declares something. -/
def clauseText (s : Tokens) (text : Text) (clause : Option Clause) : Option Text :=
  match clause with
  | some ⟨false, node⟩ => some (nodeText s text node)
  | _ => none

/-- The results of a method: each element of a tuple, or the one type. -/
def resultTexts (s : Tokens) (text : Text) : Option TypeExpr → List Text
  | none => []
  | some (.tuple _ elements) => elements.map fun e => nodeText s text e.node
  | some type => [nodeText s text type.node]

/-! ### Methods and traits -/

/-- The one name that a pattern binds. -/
def Syntax.Pattern.singleName? : Pattern → Option Text
  | .binding name false => some name
  | _ => none

/-- The typed parameters of a method; `index` counts them. -/
def readParameters (s : Tokens) (text method : Text) (index : Nat) :
    List Argument → Except (Location × ShapeProblem) (List Parameter)
  | [] => .ok []
  | .receiver :: rest => readParameters s text method index rest
  | .typed pattern patternAt type :: rest =>
    match pattern.singleName? with
    | none => .error (s.location patternAt, .notOneName index method)
    | some name =>
      (readParameters s text method (index + 1) rest).map fun parameters =>
        ⟨name, nodeText s text type.node⟩ :: parameters

/-- A method of a marked trait. -/
def readMethod (s : Tokens) (text : Text) (m : Method) :
    Except (Location × ShapeProblem) MethodDecl :=
  let sig := m.signature
  let location := s.location sig.first
  if m.hasBody then .error (location, .hasBody sig.name)
  else
    (readParameters s text sig.name 0 sig.arguments).map fun parameters =>
      { name := sig.name
        generics := clauseText s text sig.generics
        parameters
        results := resultTexts s text sig.result
        whereClause := clauseText s text sig.whereClause
        comments := taggedComments s m.attributes
        location }

/-- A member of a marked trait, which has to be a method. -/
def readMember (s : Tokens) (text : Text) : Member → Except (Location × ShapeProblem) MethodDecl
  | .method _ m => readMethod s text m
  | .other first => .error (s.location first, .notMethod)

/-- A marked item, which has to be a trait. -/
def readMarked (s : Tokens) (text : Text) (item : Item) : Except ShapeFault MapperDecl :=
  match item.kind with
  | .traitDecl t =>
    -- an empty parameter list declares nothing, but any where clause counts
    let generic := (t.generics.any (!·.isEmpty)) || t.whereClause.isSome
    if generic then .error ⟨none, s.location t.nameAt, .genericTrait t.name⟩
    else
      match t.members.mapM (readMember s text) with
      | .error (location, problem) => .error ⟨some t.name, location, problem⟩
      | .ok methods =>
        .ok ⟨t.name, taggedComments s item.attributes, s.location t.keywordAt, methods⟩
  | kind => .error ⟨none, s.location item.first, .notTrait kind.describe⟩

/-! ### Files -/

/-- The mappers declared in a file. Texts of types are cut out of `text`, which is the text that the
file was read from unless a caller knows better. -/
def Syntax.SourceFile.declarations (file : SourceFile) (text : Text) :
    Except ShapeFault (List MapperDecl) :=
  (file.items.filter (isMarked file.tokens)).mapM (readMarked file.tokens text)

/-- The failure that a fault in a source amounts to. -/
def Syntax.Fault.toFailure (f : Fault) : Failure :=
  .unparsable (f.cause.message ++ ' ' :: f.location.display)

/-- Reads a source and the mappers declared in it. A byte order mark at its start does not count. -/
def MapperDecl.readAll (source : Text) : Except Failure (List MapperDecl) :=
  let source := (Text.dropHead? [byteOrderMark] source).getD source
  match SourceFile.read source with
  | .error fault => .error fault.toFailure
  | .ok file => (file.declarations source).mapError ShapeFault.toFailure

end MapperGen
