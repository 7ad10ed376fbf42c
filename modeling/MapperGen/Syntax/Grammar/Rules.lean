import MapperGen.Syntax.Ast

/-!
# The rules of the grammar

The grammar is recursive through a few nonterminals. `Rules` holds a parser for each of them, and
the parsers of the grammar take such a record for everything that may nest. `Rules.level` ties the
knot as deep as a text of a given size can nest.
-/

namespace MapperGen.Syntax

/-- How tightly operators bind, loosest first. -/
inductive Precedence where
  | lowest
  | assign
  | range
  | or
  | and
  | letBinding
  | compare
  | bitOr
  | bitXor
  | bitAnd
  | shift
  | sum
  | product
  | cast
  deriving DecidableEq, Repr

/-- The position of a precedence, loosest first. -/
def Precedence.rank : Precedence → Nat
  | lowest => 0
  | assign => 1
  | range => 2
  | or => 3
  | and => 4
  | letBinding => 5
  | compare => 6
  | bitOr => 7
  | bitXor => 8
  | bitAnd => 9
  | shift => 10
  | sum => 11
  | product => 12
  | cast => 13

/-- Parsers for what may nest.
- `type plus`: a type, with bounds joined by `+` if `plus`;
- `bound captures const`: a bound, with `use<..>` and with `const` if allowed;
- `expr structs`: an expression, with struct literals if `structs`;
- `unary structs`: an expression without binary operators;
- `climb lhs structs base`: what follows `lhs`, as far as it binds at least as tightly as `base`;
- `pattern`: a pattern without alternatives;
- `arms`: the arms of a `match`, up to the end of its group;
- `statements`: statements up to the end of a block;
- `fields`: named fields in braces;
- `item first attributes`: an item behind its attributes;
- `useTree rooted`: a use tree, whose branches may start with `::` if `rooted`; it answers whether
  none of them did. -/
structure Rules where
  type : Bool → Parser TypeExpr
  bound : Bool → Bool → Parser Bound
  expr : Bool → Parser ExprShape
  unary : Bool → Parser ExprShape
  climb : ExprShape → Bool → Precedence → Parser ExprShape
  pattern : Parser Pattern
  arms : Parser Unit
  statements : Parser Unit
  fields : Parser Unit
  item : Nat → List Attribute → Parser Item
  useTree : Bool → Parser Bool

/-- No nesting at all: every parser fails where it stands. -/
def Rules.none : Rules where
  type _ := Parser.fail
  bound _ _ := Parser.fail
  expr _ := Parser.fail
  unary _ := Parser.fail
  climb _ _ _ := Parser.fail
  pattern := Parser.fail
  arms := Parser.fail
  statements := Parser.fail
  fields := Parser.fail
  item _ _ := Parser.fail
  useTree _ := Parser.fail

end MapperGen.Syntax
