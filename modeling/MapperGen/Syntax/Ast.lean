import MapperGen.Syntax.Parser

/-!
# Syntax nodes

What the grammar tells about a file. Declarations are kept in the detail that mappers need: names,
attributes, signatures, the extent of types. Of expressions only what decides how a surrounding
construct goes on is kept.
-/

namespace MapperGen.Syntax

/-! ### Paths and types -/

/-- What stands behind the name of a path segment. Each angle-bracketed argument is kept as its
trees. -/
inductive SegmentArguments where
  | none
  | angle (arguments : List (List Tree))

/-- A name in a path, with its arguments. -/
structure Segment where
  name : Text
  arguments : SegmentArguments

/-- A path; a global one starts with `::`. -/
structure Path where
  isGlobal : Bool
  segments : List Segment

/-- No segment has arguments. -/
def Path.isPlain (p : Path) : Bool :=
  p.segments.all fun s => match s.arguments with
    | .none => true
    | _ => false

/-- The path is the one word `name`. -/
def Path.isWord (p : Path) (name : String) : Bool :=
  match p.isGlobal, p.segments with
  | false, [⟨n, .none⟩] => n == name.toList
  | _, _ => false

/-- A single segment, with or without angle-bracketed arguments, and not global. -/
def Path.isSimple (p : Path) : Bool :=
  match p.isGlobal, p.segments with
  | false, [⟨_, .none⟩] | false, [⟨_, .angle _⟩] => true
  | _, _ => false

/-- A type. A qualified path is one with a self type, `<T as Trait>::Name`. Bare bounds are an object
type written without `dyn`; `single` tells that there is one bound and no `+`. -/
inductive TypeExpr where
  | path (node : Node) (qualified : Bool) (path : Path)
  | tuple (node : Node) (elements : List TypeExpr)
  | reference (node : Node) (referent : TypeExpr)
  | pointer (node : Node) (referent : TypeExpr)
  | bareBounds (node : Node) (single : Bool)
  | other (node : Node)

/-- The extent of a type. -/
def TypeExpr.node : TypeExpr → Node
  | .path n _ _ | .tuple n _ | .reference n _ | .pointer n _ | .bareBounds n _ | .other n => n

inductive Bound where
  | lifetime
  | trait
  | captures
  deriving DecidableEq, Repr

/-! ### Expressions and patterns -/

/-- What the surroundings of an expression have to know of it. A block-like expression needs no
semicolon or comma behind it; `dots` is the first token of a range operator. -/
inductive ExprShape where
  | blockLike
  | macroCall (braced : Bool)
  | range (dots : Nat)
  | comparison
  | other
  deriving DecidableEq, Repr

/-- Must a comma follow the expression in a match arm that is not the last? -/
def ExprShape.needsComma : ExprShape → Bool
  | .blockLike => false
  | _ => true

/-- Must a semicolon follow the expression in a statement that is not the last? -/
def ExprShape.needsSemicolon : ExprShape → Bool
  | .blockLike => false
  | .macroCall braced => !braced
  | _ => true

/-- A pattern: a name to bind, maybe with a pattern of its own behind `@`; the rest pattern `..`; a
range with an end missing; anything else. -/
inductive Pattern where
  | binding (name : Text) (refined : Bool)
  | rest
  | openRange (dots : Nat)
  | other
  deriving DecidableEq, Repr

/-! ### Declarations -/

/-- An attribute: a documentation text, by the index of its literal, or anything else. -/
inductive Attribute where
  | doc (literal : Nat)
  | other
  deriving DecidableEq, Repr

/-- A generic parameter list or a where clause: whether it declares anything, and its extent. -/
structure Clause where
  isEmpty : Bool
  node : Node

/-- A parameter of a signature. `patternAt` is the first token of the pattern. -/
inductive Argument where
  | receiver
  | typed (pattern : Pattern) (patternAt : Nat) (type : TypeExpr)

structure Signature where
  first : Nat
  name : Text
  generics : Option Clause
  arguments : List Argument
  result : Option TypeExpr
  whereClause : Option Clause

structure Method where
  attributes : List Attribute
  signature : Signature
  hasBody : Bool

/-- A member of a trait. -/
inductive Member where
  | method (first : Nat) (method : Method)
  | other (first : Nat)

structure TraitDecl where
  keywordAt : Nat
  name : Text
  nameAt : Nat
  generics : Option Clause
  whereClause : Option Clause
  members : List Member

/-- What an item declares. Unusual forms that are read but not understood are `uninterpreted`. -/
inductive ItemKind where
  | constant
  | enumeration
  | externCrate
  | function
  | externBlock
  | implementation
  | macroCall
  | moduleDecl
  | staticDecl
  | structDecl
  | traitAlias
  | typeAlias
  | unionDecl
  | useDeclaration
  | traitDecl (declaration : TraitDecl)
  | uninterpreted

/-- An item, with its first token and attributes. -/
structure Item where
  first : Nat
  attributes : List Attribute
  kind : ItemKind

end MapperGen.Syntax
