import MapperGen.Syntax.Grammar.Item

/-!
# Files

Ties the rules of the grammar together and reads whole texts: a file, or a single type. Reading is
total: the rules nest only as deeply as the number of tokens allows.
-/

namespace MapperGen.Syntax

open MapperGen.Syntax.Parser

/-! ### Levels -/

/-- The rules with one more level of nesting. -/
def Rules.next (r : Rules) : Rules where
  type := Grammar.typeExpr r
  bound := Grammar.bound r
  expr := Grammar.expr r
  unary := Grammar.unary r
  climb := Grammar.climb r
  pattern := Grammar.pattern r
  arms := Grammar.arms r
  statements := Grammar.statements r
  fields := Grammar.fieldsInBraces r
  item := Grammar.item r
  useTree := Grammar.useTree r

/-- The rules with `n` levels of nesting. -/
def Rules.level : Nat → Rules
  | 0 => Rules.none
  | n + 1 => (Rules.level n).next

/-- Levels enough for a number of tokens: a nonterminal reaches itself again only behind a token,
and fewer than four others lie between. -/
def Rules.ofSize (tokens : Nat) : Rules := Rules.level (4 * tokens + 16)

/-! ### Faults -/

/-- What is wrong with a text. -/
inductive FaultCause where
  | unreadable
  | unmatched
  | unclosed
  | unexpectedToken
  | unexpectedEnd
  deriving DecidableEq, Repr

/-- What is wrong with a text, and where. A text that ends too early is at fault at its start. -/
structure Fault where
  cause : FaultCause
  location : Location
  deriving DecidableEq, Repr

def FaultCause.message : FaultCause → Text
  | unreadable => "cannot be read as a token".toList
  | unmatched => "closing bracket without its opening one".toList
  | unclosed => "opening bracket without its closing one".toList
  | unexpectedToken => "unexpected token".toList
  | unexpectedEnd => "unexpected end of the text".toList

/-- The fault of a text whose tokens do not nest. -/
def TokenFault.toFault (t : Text) (fault : TokenFault) : Fault :=
  let cause := match fault with
    | .unreadable _ => .unreadable
    | .unmatched _ => .unmatched
    | .unclosed _ => .unclosed
  ⟨cause, Location.ofOffset t fault.offset⟩

/-- The fault of tokens that the grammar refuses at a spot. -/
def Tokens.faultAt (s : Tokens) : Spot → Fault
  | .token index => ⟨.unexpectedToken, s.location index⟩
  | .textEnd => ⟨.unexpectedEnd, Location.start⟩

/-! ### Reading trees -/

/-- Reads all of some trees. A leftover in a group, or behind everything, is a fault. -/
def Parser.runAll {α : Type} (p : Parser α) (trees : List Tree) : Except Spot α :=
  match p.run ⟨trees, .textEnd, 0, false, none, []⟩ with
  | .error spot => .error spot
  | .ok (a, c) =>
    match c.leftover.or (c.rest.head?.map Tree.first) with
    | some index => .error (.token index)
    | none => .ok a

/-- Reads tokens by a nonterminal of the grammar. -/
def Tokens.parse {α : Type} (s : Tokens) (p : Rules → Parser α) : Except Fault α :=
  (p (.ofSize s.placed.size)).runAll s.trees |>.mapError s.faultAt

/-- Reads a text by a nonterminal of the grammar. -/
def parseText {α : Type} (p : Rules → Parser α) (t : Text) : Except Fault (Tokens × α) :=
  match Tokens.read t with
  | .error fault => .error (fault.toFault t)
  | .ok tokens => (tokens.parse p).map fun a => (tokens, a)

namespace Grammar

/-- A file: its items, behind its inner attributes. -/
def file (r : Rules) : Parser (List Item) := do
  discard (innerAttributes r)
  untilEnd (nestedItem r)

end Grammar

/-! ### Reading texts -/

/-- A file with the tokens it was read from. -/
structure SourceFile where
  tokens : Tokens
  items : List Item

def SourceFile.read (t : Text) : Except Fault SourceFile :=
  (parseText Grammar.file t).map fun (tokens, items) => ⟨tokens, items⟩

def TypeExpr.read (t : Text) : Except Fault TypeExpr :=
  (parseText (fun r => r.type true) t).map (·.2)

end MapperGen.Syntax
