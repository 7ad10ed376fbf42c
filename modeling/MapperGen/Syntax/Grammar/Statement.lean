import MapperGen.Syntax.Grammar.Signature

/-!
# Statements

Bindings, items, macro calls and expressions in a block. Only the last statement may lack the
semicolon it needs.
-/

namespace MapperGen.Syntax.Grammar

open MapperGen.Syntax.Parser Trees

variable (r : Rules)

/-- A binding, with an initial value maybe and a block for the case that the pattern fails. A value
that ends in a brace has no such block. -/
def binding : Parser Unit := do
  word "let"
  discard r.pattern
  if ← op? ":" then discard (r.type true)
  if ← op? "=" then
    discard (r.expr true)
    if !(← get).afterBrace then
      if ← word? "else" then block r
  op ";"

/-- How a statement that starts with a plain path goes on if a `!` follows the path. -/
inductive MacroForm where
  | item
  | statement
  | expression
  deriving DecidableEq, Repr

/-- The form of the macro call that comes next, if one does. With a name behind the `!` it is an
item; in braces it is a statement unless a dot or `?` follows. -/
def macroForm? : Parser (Option MacroForm) := foresee do
  match ← attempt? plainPath with
  | none => return none
  | some _ =>
    let ts ← ahead
    if !ts.atOp "!" then return none
    let next := ts.behind
    if next.atIdent || next.atWord "try" then return some .item
    if next.atBrace && !seesBoundary next.behind then return some .statement
    return some .expression

/-- A constant item rather than a block, a closure or an `async` expression follows. -/
def seesConstItem (ts : Trees) : Bool :=
  let next := ts.behind
  ts.atWord "const" &&
    !(next.atBrace || next.atOneWord ["static", "move"] || next.atOp "|" ||
      (next.atWord "async" && !next.behind.atOneWord ["unsafe", "extern", "fn"]))

/-- A static item rather than a closure follows. -/
def seesStaticItem (ts : Trees) : Bool :=
  let next := ts.behind
  ts.atWord "static" &&
    (next.atWord "mut" ||
      (next.atIdent &&
        !(next.atWord "async" && (next.behind.atWord "move" || next.behind.atOp "|"))))

/-- An item rather than an expression follows. -/
def seesItem (ts : Trees) : Bool :=
  let next := ts.behind
  ts.atOneWord ["pub", "extern", "use", "fn", "mod", "type", "struct", "enum", "trait", "impl",
      "macro"] ||
    (ts.atWord "crate" && !next.atOp "::") || seesStaticItem ts || seesConstItem ts ||
    (ts.atWord "unsafe" && !next.atBrace) ||
    (ts.atWord "async" && next.atOneWord ["unsafe", "extern", "fn"]) ||
    (ts.atWord "union" && next.atIdent) || (ts.atWord "auto" && next.atWord "trait") ||
    (ts.atWord "default" && next.atOneWord ["unsafe", "impl"])

/-- A statement; it answers whether a semicolon is missing behind it. -/
def statement : Parser Bool := do
  let first ← nextIndex
  let attributes ← outerAttributes r
  let form ← macroForm?
  let ts ← ahead
  if form = some .statement then
    discard plainPath
    discard macroTail
    discard (op? ";")
    return false
  else if ts.atWord "let" then
    binding r
    return false
  else if seesItem ts || form = some .item then
    discard (r.item first attributes)
    return false
  else
    let e ← earlyBoundary r
    if ← op? ";" then return false else return e.needsSemicolon

/-- Statements up to the end of a block. -/
def statements : Parser Unit := discard <| collect do
  discard (whileSees (·.atOp ";") (op ";"))
  if ← atEnd then return none
  if ← statement r then
    if ← atEnd then return none else fail
  return some ()

end MapperGen.Syntax.Grammar
