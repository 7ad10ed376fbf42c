import MapperGen.Syntax.Ahead

/-!
# Parsers over token trees

A parser reads trees from a cursor and either answers with a value or fails at a spot. The cursor
also remembers what it has read, in printed order, and the first tree that a closed group left
unread: such a leftover is a fault only if nothing else is wrong.
-/

namespace MapperGen.Syntax

open Trees

/-- Where a parser fails: at a token, or where the whole text ends too early. -/
inductive Spot where
  | token (index : Nat)
  | textEnd
  deriving DecidableEq, Repr

/-- A position among the trees of a group, or of the text.
`ending` is the spot behind the last tree; `last` is the last token read and `afterBrace` says
whether it closed a group in braces; `read` holds the trees read, last one first. -/
structure Cursor where
  rest : Trees
  ending : Spot
  last : Nat
  afterBrace : Bool
  leftover : Option Nat
  read : List Tree

/-- The spot of the next tree. -/
def Cursor.spot (c : Cursor) : Spot :=
  match c.rest with
  | tree :: _ => .token tree.first
  | [] => c.ending

/-- A parser: it moves the cursor or fails at a spot. -/
abbrev Parser (α : Type) := StateT Cursor (Except Spot) α

namespace Parser

variable {α β : Type}

/-! ### Looking and failing -/

/-- The trees that come next. -/
def ahead : Parser Trees := return (← get).rest

/-- Does a test hold of the trees that come next? -/
def sees (test : Trees → Bool) : Parser Bool := return test (← ahead)

/-- The index of the next token; behind the last tree, that of the last token read. -/
def nextIndex : Parser Nat := return ((← ahead).head?.map Tree.first).getD (← get).last

/-- The group, or the text, holds no more trees. -/
def atEnd : Parser Bool := sees List.isEmpty

def failAt (spot : Spot) : Parser α := throw spot

def failAtToken (index : Nat) : Parser α := failAt (.token index)

/-- Fails at the next tree. -/
def fail : Parser α := fun c => .error c.spot

/-! ### Reading one thing -/

/-- Passes over trees that were matched; they count as read in the form given. -/
def pass (trees : List Tree) (rest : Trees) : Parser Unit :=
  modify fun c =>
    { c with
      rest
      last := (trees.getLast?.map Tree.last).getD c.last
      afterBrace := match trees.getLast? with
        | some (.group d _ _ _) => d == .brace
        | some _ => false
        | none => c.afterBrace
      read := trees.reverse ++ c.read }

/-- Reads any tree as it stands. -/
def anyTree : Parser Tree := do
  match ← ahead with
  | tree :: rest => pass [tree] rest; return tree
  | [] => fail

def op (symbol : String) : Parser Unit := do
  match operator? symbol.toList (← ahead) with
  | some (trees, rest) => pass trees rest
  | none => fail

/-- Reads an operator if it comes next, and says whether it did. -/
def op? (symbol : String) : Parser Bool := do
  if (← ahead).atOp symbol then op symbol; return true else return false

def anyWord : Parser Text := do
  match ← ahead with
  | .ident name i :: rest => pass [.ident name i] rest; return name
  | _ => fail

def ident : Parser Text := do
  if (← ahead).atIdent then anyWord else fail

def word (name : String) : Parser Unit := do
  if (← ahead).atWord name then discard anyWord else fail

/-- Reads the word `name` if it comes next, and says whether it did. -/
def word? (name : String) : Parser Bool := do
  if (← ahead).atWord name then word name; return true else return false

def lifetime : Parser Unit := do
  if (← ahead).atLifetime then
    discard anyTree
    discard anyTree
  else fail

def lifetime? : Parser Unit := do
  if (← ahead).atLifetime then lifetime

/-- Reads a literal, and answers with the index of a text literal. -/
def literal : Parser (Option Nat) := do
  match ← ahead with
  | .literal kind i :: rest =>
    pass [.literal kind i] rest
    return if kind = .text then some i else none
  | .punct '-' _ i :: .literal (.number lexeme) j :: rest =>
    pass [.punct '-' false i, .literal (.number lexeme) j] rest
    return none
  | ts => if ts.atLiteral then discard anyWord; return none else fail

/-! ### Groups -/

/-- Reads a group in the brackets `d`; `content` reads what is in it. -/
def inGroup (d : Delimiter) (content : Parser α) : Parser α := fun c =>
  match c.rest with
  | .group e trees opening closing :: rest =>
    if d = e then
      match content.run ⟨trees, .token closing, opening, false, c.leftover, []⟩ with
      | .error spot => .error spot
      | .ok (a, inner) =>
        .ok (a,
          { c with
            rest
            last := closing
            afterBrace := d == .brace
            -- the first leftover stays the one that counts
            leftover := inner.leftover.or (inner.rest.head?.map Tree.first)
            read := .group d inner.read.reverse opening closing :: c.read })
    else .error c.spot
  | _ => .error c.spot

abbrev parens (content : Parser α) : Parser α := inGroup .parenthesis content

abbrev brackets (content : Parser α) : Parser α := inGroup .bracket content

abbrev braces (content : Parser α) : Parser α := inGroup .brace content

/-- Reads a group as it stands, and answers with its brackets. -/
def anyGroup : Parser Delimiter := do
  match ← ahead with
  | .group d trees opening closing :: rest =>
    pass [.group d trees opening closing] rest
    return d
  | _ => fail

/-- Reads all that is left. -/
def everything : Parser Unit := do pass (← ahead) []

/-! ### Trying -/

/-- Runs a parser; if it fails, nothing has been read. -/
def attempt? (p : Parser α) : Parser (Option α) := fun c =>
  match p.run c with
  | .ok (a, c) => .ok (some a, c)
  | .error _ => .ok (none, c)

/-- Runs a parser and forgets that it moved; it still fails where it fails. -/
def foresee (p : Parser α) : Parser α := fun c =>
  match p.run c with
  | .ok (a, _) => .ok (a, c)
  | .error spot => .error spot

/-! ### Repeating -/

/-- Repeats a parser until it answers `none`, at most `n` times. -/
def collectUpTo (step : Parser (Option α)) : Nat → Parser (List α)
  | 0 => return []
  | n + 1 => do
    match ← step with
    | none => return []
    | some a => return a :: (← collectUpTo step n)

/-- Repeats a parser until it answers `none`. Each repetition reads a tree, so there are no more of
them than trees. -/
def collect (step : Parser (Option α)) : Parser (List α) := do
  collectUpTo step ((← ahead).length + 1)

/-- Repeats a parser as long as a test holds. -/
def whileSees (test : Trees → Bool) (p : Parser α) : Parser (List α) :=
  collect do if test (← ahead) then return some (← p) else return none

/-- Repeats a parser up to the end of the group. -/
def untilEnd (p : Parser α) : Parser (List α) := whileSees (!·.isEmpty) p

/-- Items with separators between them, and maybe one behind the last, up to where `stop` holds.
Answers whether a separator came last. -/
def separatedUpTo (stop : Trees → Bool) (item : Parser α) (separator : Parser Unit) :
    Nat → Parser (List α × Bool)
  | 0 => return ([], false)
  | n + 1 => do
    if stop (← ahead) then return ([], true)
    let a ← item
    if stop (← ahead) then return ([a], false)
    separator
    let (as, trailing) ← separatedUpTo stop item separator n
    return (a :: as, trailing)

/-- Items with a separator between them, up to where `stop` holds. -/
def separated (stop : Trees → Bool) (item : Parser α) (separator : Parser Unit) :
    Parser (List α × Bool) := do
  separatedUpTo stop item separator ((← ahead).length + 1)

/-- Items with commas between them, up to the end of the group. -/
def commaList (item : Parser α) : Parser (List α) :=
  return (← separated (·.isEmpty) item (op ",")).1

/-- Items up to where `stop` holds; they end as well behind one that no separator follows. -/
def joinedUpTo (stop : Trees → Bool) (item : Parser α) (separator : String) :
    Nat → Parser (List α)
  | 0 => return []
  | n + 1 => do
    if stop (← ahead) then return []
    let a ← item
    if ← op? separator then return a :: (← joinedUpTo stop item separator n) else return [a]

/-- Items joined by an operator; it may also follow the last one. -/
def joined (stop : Trees → Bool) (item : Parser α) (separator : String) : Parser (List α) := do
  joinedUpTo stop item separator ((← ahead).length + 1)

/-- Improves a value as long as `step` answers with a better one, at most `n` times. -/
def refineUpTo (step : α → Parser (Option α)) : Nat → α → Parser α
  | 0, a => return a
  | n + 1, a => do
    match ← step a with
    | none => return a
    | some b => refineUpTo step n b

/-- Improves a value as long as `step` answers with a better one. Each step reads a tree. -/
def refine (step : α → Parser (Option α)) (a : α) : Parser α := do
  refineUpTo step ((← ahead).length + 1) a

/-! ### What was read -/

/-- Runs a parser and takes out what it read, in printed order. -/
def taking (p : Parser α) : Parser (α × List Tree) := do
  let before := (← get).read
  modify ({ · with read := [] })
  let a ← p
  let trees := (← get).read.reverse
  modify ({ · with read := before })
  return (a, trees)

/-- Puts trees behind those read. -/
def putRead (trees : List Tree) : Parser Unit :=
  modify fun c => { c with read := trees.reverse ++ c.read }

end Parser

/-! ### Nodes -/

/-- The extent of a syntax node: its first and last token, and its trees in printed order. -/
structure Node where
  first : Nat
  last : Nat
  trees : List Tree

/-- Runs a parser and tells the extent of what it read. -/
def Parser.spanned {α : Type} (p : Parser α) : Parser (α × Node) := do
  let first ← nextIndex
  let (a, trees) ← taking p
  putRead trees
  return (a, ⟨first, (← get).last, trees⟩)

end MapperGen.Syntax
