import MapperGen.Syntax.Grammar.Pattern

/-!
# Expressions

Operators are read by climbing: `climb` takes what binds tightly enough behind a left-hand side. In
the head of `if`, `while`, `for` and `match` a brace opens the body, so no struct literal may start
there.
-/

namespace MapperGen.Syntax.Grammar

open MapperGen.Syntax.Parser Trees

variable (r : Rules)

/-! ### Binary operators -/

/-- The binary operators, in the order in which they are looked for. -/
def binaryOperators : List (String × Precedence) :=
  [("+=", .assign), ("-=", .assign), ("*=", .assign), ("/=", .assign), ("%=", .assign),
    ("^=", .assign), ("&=", .assign), ("|=", .assign), ("<<=", .assign), (">>=", .assign),
    ("&&", .and), ("||", .or), ("<<", .shift), (">>", .shift), ("==", .compare), ("<=", .compare),
    ("!=", .compare), (">=", .compare), ("+", .sum), ("-", .sum), ("*", .product), ("/", .product),
    ("%", .product), ("^", .bitXor), ("&", .bitAnd), ("|", .bitOr), ("<", .compare),
    (">", .compare)]

def binaryOperator? (ts : Trees) : Option (String × Precedence) :=
  binaryOperators.find? fun (symbol, _) => ts.atOp symbol

def seesAssign (ts : Trees) : Bool := ts.atOp "=" && !ts.atOp "=>"

/-- How tightly the next operator binds. -/
def nextPrecedence (ts : Trees) : Precedence :=
  match binaryOperator? ts with
  | some (_, p) => p
  | none =>
    if seesAssign ts then .assign
    else if ts.atOp ".." then .range
    else if ts.atWord "as" then .cast
    else .lowest

/-- The right-hand side of an operator: what binds tighter, and a further assignment behind an
assignment. -/
def operand (structs : Bool) (precedence : Precedence) : Parser ExprShape := do
  let first ← r.unary structs
  first |> refine fun rhs => do
    let next := nextPrecedence (← ahead)
    if precedence.rank < next.rank || (next = precedence && precedence = .assign) then
      -- climbing that reads nothing ends the operand
      let before := (← ahead).length
      let improved ← r.climb rhs structs next
      return if (← ahead).length < before then some improved else none
    else return none

/-- What may follow a range that has no upper bound. -/
def endsOpenRange (structs : Bool) (ts : Trees) : Bool :=
  ts.isEmpty || ts.atOneOf [",", ";", "?", "=>"] || (ts.atOp "." && !ts.atOp "..") ||
    (!structs && ts.atBrace) ||
    ts.atOneOf ["=", "+", "/", "%", "^", ">", "<=", "!=", "-=", "*=", "&=", "|=", "<<="] ||
    ts.atWord "as"

/-- A range from its operator on. -/
def rangeTail (structs : Bool) : Parser ExprShape := do
  let dots ← nextIndex
  let closed ← rangeOperator false
  if closed || !endsOpenRange structs (← ahead) then discard (operand r structs .range)
  return .range dots

/-- Behind a cast no field, call, index or `?` may follow. -/
def seesTrailer (ts : Trees) : Bool :=
  (ts.atOp "." && !ts.atOp "..") || ts.atOp "?" || ts.atBracket || ts.atParen

/-- One operator behind a left-hand side, with its right-hand side. Comparisons do not chain, and a
range is no operand of what follows it. -/
def climbOnce (structs : Bool) (base : Precedence) (lhs : ExprShape) :
    Parser (Option ExprShape) := do
  let ts ← ahead
  if let .range _ := lhs then return none
  match binaryOperator? ts with
  | some (symbol, precedence) =>
    if precedence.rank < base.rank then return none
    if precedence = .compare && lhs = .comparison then fail
    op symbol
    discard (operand r structs precedence)
    return some (if precedence = .compare then .comparison else .other)
  | none =>
    if base.rank ≤ Precedence.assign.rank && seesAssign ts then
      op "="
      discard (operand r structs .assign)
      return some .other
    else if base.rank ≤ Precedence.range.rank && ts.atOp ".." then
      return some (← rangeTail r structs)
    else if base.rank ≤ Precedence.cast.rank && ts.atWord "as" then
      word "as"
      discard (r.type false)
      if seesTrailer (← ahead) then fail
      return some .other
    else return none

/-- What follows a left-hand side, as far as it binds at least as tightly as `base`. -/
def climb (lhs : ExprShape) (structs : Bool) (base : Precedence) : Parser ExprShape :=
  refine (climbOnce r structs base) lhs

def expr (structs : Bool) : Parser ExprShape := do
  climb r (← r.unary structs) structs .lowest

/-! ### Trailers -/

/-- A number with a point behind a dot stands for two indices, as in `x.0.1`; it answers whether it
ends in a point of its own. -/
def fieldIndices (lexeme : Text) : Parser Bool := do
  let trailing := lexeme.getLast? == some '.'
  let indices := Text.splitOn '.' (if trailing then lexeme.dropLast else lexeme)
  if indices.all isFieldIndex then
    discard literal
    return trailing
  else fail

def arguments : Parser Unit := discard (parens (commaList (r.expr true)))

/-- What follows a dot: a field or a method call. -/
def memberTail : Parser Unit := do
  if ← word? "await" then return
  let named ← fieldName
  let turbofish := named && (← ahead).atOp "::"
  if turbofish then
    op "::"
    discard (angleList (genericArgument r))
  if named && (turbofish || (← ahead).atParen) then arguments r

def dotTail : Parser Unit := do
  op "."
  match ← ahead with
  | .literal (.number lexeme) _ :: _ =>
    if isFloat lexeme then
      if ← fieldIndices lexeme then memberTail r
    else memberTail r
  | _ => memberTail r

/-- A call, field, index or `?` behind an expression. A range has neither fields nor `?`. -/
def trailer (e : ExprShape) : Parser (Option ExprShape) := do
  let ts ← ahead
  let isRange := match e with
    | .range _ => true
    | _ => false
  if ts.atParen then
    arguments r
    return some .other
  else if ts.atOp "." && !ts.atOp ".." && !isRange then
    dotTail r
    return some .other
  else if ts.atBracket then
    brackets do discard (r.expr true)
    return some .other
  else if ts.atOp "?" && !isRange then
    op "?"
    return some .other
  else return none

def trailers (e : ExprShape) : Parser ExprShape := refine (trailer r) e

/-! ### Control flow -/

/-- The tail of an `if`: its `else` branches. -/
def elseBranches : Parser Unit := discard <| collect do
  if !(← word? "else") then return none
  if ← word? "if" then
    discard (r.expr false)
    block r
    return some ()
  else
    block r
    return none

def ifExpr : Parser ExprShape := do
  word "if"
  discard (r.expr false)
  block r
  elseBranches r
  return .blockLike

/-- A block-like expression may go on with a field, a call on it or an operator. -/
def seesBoundary (ts : Trees) : Bool := (ts.atOp "." && !ts.atOp "..") || ts.atOp "?"

/-- A `for` loop rather than a closure with a binder follows. -/
def seesForLoop (ts : Trees) : Bool :=
  ts.atWord "for" &&
    !(ts.behind.atOp "<" && (ts.behindTwo.atLifetime || ts.behindTwo.atOp ">"))

def whileExpr : Parser ExprShape := do
  word "while"
  discard (r.expr false)
  discard (attributedBlock r)
  return .blockLike

def forExpr : Parser ExprShape := do
  word "for"
  discard (alternatives r)
  word "in"
  discard (r.expr false)
  discard (attributedBlock r)
  return .blockLike

def loopExpr : Parser ExprShape := do
  word "loop"
  discard (attributedBlock r)
  return .blockLike

def blockExpr : Parser ExprShape := do
  discard (attributedBlock r)
  return .blockLike

/-- A loop or block with a label. -/
def labelled : Parser ExprShape := do
  lifetime
  op ":"
  let ts ← ahead
  if ts.atWord "while" then whileExpr r
  else if ts.atWord "for" then forExpr r
  else if ts.atWord "loop" then loopExpr r
  else if ts.atBrace then blockExpr r
  else fail

/-- A block behind the word `name`, which may start with inner attributes. -/
def wordBlock (name : String) : Parser ExprShape := do
  word name
  blockExpr r

def tryBlock : Parser ExprShape := do
  word "try"
  block r
  return .blockLike

def matchExpr : Parser ExprShape := do
  word "match"
  discard (r.expr false)
  braces do
    discard (innerAttributes r)
    r.arms
  return .blockLike

/-- An expression that starts with the word for a block or a loop, unless what follows makes it
something else. -/
def blockLike? : Parser (Option ExprShape) := do
  let ts ← ahead
  if ts.atWord "if" then return some (← ifExpr r)
  else if ts.atWord "while" then return some (← whileExpr r)
  else if seesForLoop ts then return some (← forExpr r)
  else if ts.atWord "loop" then return some (← loopExpr r)
  else if ts.atWord "match" then return some (← matchExpr r)
  else if ts.atWord "unsafe" then return some (← wordBlock r "unsafe")
  else if ts.atWord "const" && ts.behind.atBrace then return some (← wordBlock r "const")
  else if ts.atWord "try" && ts.behind.atBrace then return some (← tryBlock r)
  else if ts.atBrace then return some (← blockExpr r)
  else if ts.atLifetime then return some (← labelled r)
  else return none

/-! ### Ends of statements and arms -/

/-- A statement or match arm ends as early as it can: a block-like expression is taken alone unless
a dot or `?` follows. -/
def earlyBoundary : Parser ExprShape := do
  discard (outerAttributes r)
  match ← blockLike? r with
  | some e => if seesBoundary (← ahead) then climb r (← trailers r e) true .lowest else return e
  | none => climb r (← r.unary true) true .lowest

def arm : Parser Unit := do
  discard (outerAttributes r)
  discard (alternatives r)
  if ← word? "if" then discard (r.expr true)
  op "=>"
  let body ← earlyBoundary r
  if body.needsComma && !(← atEnd) then op "," else discard (op? ",")

def arms : Parser Unit := discard (untilEnd (arm r))

/-! ### Atoms -/

def fieldValue : Parser Unit := do
  discard (outerAttributes r)
  let named ← fieldName
  if (← ahead).atOp ":" || !named then
    op ":"
    discard (r.expr true)

/-- The fields of a struct literal; `..` and a base may end them. -/
def structFields : Parser Unit := braces do
  discard <| collect do
    if ← atEnd then return none
    if ← op? ".." then
      if !(← atEnd) then discard (r.expr true)
      return none
    fieldValue r
    if !(← atEnd) then op ","
    return some ()

/-- An expression that starts with a path: a macro call, a struct literal or the path itself. -/
def pathExpr (structs : Bool) : Parser ExprShape := do
  let (qualified, p) ← qualifiedPath r true
  if !qualified && seesMacroTail p (← ahead) then return .macroCall ((← macroTail) = .brace)
  if structs && (← ahead).atBrace then structFields r
  return .other

/-- An array, given by its elements or by one element and a length. -/
def arrayContent : Parser Unit := do
  if ← atEnd then return
  discard (r.expr true)
  if ← op? ";" then discard (r.expr true)
  else if !(← atEnd) then
    op ","
    discard (commaList (r.expr true))

/-- The end of a list of closure parameters. -/
def endsClosureHead (ts : Trees) : Bool := ts.atOp "|"

def closureArgument : Parser Unit := do
  discard (outerAttributes r)
  discard r.pattern
  if ← op? ":" then discard (r.type true)

/-- A closure. With a result type its body is a block. -/
def closure (structs : Bool) : Parser ExprShape := do
  discard (binder? r)
  discard (word? "const")
  discard (word? "static")
  discard (word? "async")
  discard (word? "move")
  op "|"
  discard (separated endsClosureHead (closureArgument r) (op ","))
  op "|"
  if ← op? "->" then
    discard (r.type true)
    block r
  else discard (r.expr structs)
  return .other

def seesClosure (ts : Trees) : Bool :=
  ts.atOp "|" || ts.atOneWord ["move", "static"] ||
    (ts.atWord "for" && !seesForLoop ts) ||
    (ts.atWord "const" && !ts.behind.atBrace) ||
    (ts.atWord "async" && (ts.behind.atOp "|" || ts.behind.atWord "move"))

/-- An expression may start here, so that it is the value of what comes before. -/
def seesExpr (ts : Trees) : Bool :=
  (ts.atAnyWord && !ts.atWord "as") || ts.atParen || ts.atBracket || ts.atBrace || ts.atLiteral ||
    (ts.atOp "!" && !ts.atOp "!=") ||
    (ts.atOp "-" && !ts.atOneOf ["-=", "->"]) ||
    (ts.atOp "*" && !ts.atOp "*=") ||
    (ts.atOp "|" && !ts.atOp "|=") ||
    (ts.atOp "&" && !ts.atOp "&=") ||
    ts.atOp ".." ||
    (ts.atOp "<" && !ts.atOneOf ["<=", "<<="]) ||
    ts.atOp "::" || ts.atLifetime || ts.atOp "#"

/-- A `break`, maybe with a label and a value. A labelled loop as its value has to stand in
parentheses. -/
def breakExpr (structs : Bool) : Parser ExprShape := do
  word "break"
  let ts ← ahead
  if ts.atLifetime then
    let label ← nextIndex
    if ts.behind.atOp ":" then
      -- a fault in the loop is reported rather than the loop
      discard (r.expr true)
      failAtToken label
    lifetime
  if seesExpr (← ahead) && (structs || !(← ahead).atBrace) then discard (r.expr structs)
  return .other

/-- The word `name`, maybe with a value. -/
def jump (name : String) : Parser ExprShape := do
  word name
  if seesExpr (← ahead) then discard (r.expr true)
  return .other

def asyncBlock : Parser ExprShape := do
  word "async"
  discard (word? "move")
  block r
  return .other

/-- A built-in form: `builtin # name(..)`. -/
def builtinForm : Parser ExprShape := do
  word "builtin"
  op "#"
  discard ident
  parens everything
  return .other

/-- A binding in a condition. -/
def letExpr (structs : Bool) : Parser ExprShape := do
  word "let"
  discard (alternatives r)
  op "="
  discard (climb r (← r.unary structs) structs .compare)
  return .other

/-- An expression without prefix operators and trailers. -/
def atom (structs : Bool) : Parser ExprShape := do
  let ts ← ahead
  if ts.atLiteral then discard literal; return .other
  else if ts.atWord "async" && (ts.behind.atBrace ||
      (ts.behind.atWord "move" && ts.behindTwo.atBrace)) then asyncBlock r
  else if ts.atWord "try" && ts.behind.atBrace then tryBlock r
  else if seesClosure ts then closure r structs
  else if ts.atWord "builtin" && ts.behind.atOp "#" then builtinForm
  else if seesExprPath ts ||
      (ts.atWord "try" && (ts.behind.atOp "!" || ts.behind.atOp "::")) then pathExpr r structs
  else if ts.atParen then
    discard (parens (commaList (r.expr true)))
    return .other
  else if ts.atWord "break" then breakExpr r structs
  else if ts.atWord "continue" then
    word "continue"
    lifetime?
    return .other
  else if ts.atWord "return" then jump r "return"
  else if ts.atWord "become" then
    word "become"
    discard (r.expr true)
    return .other
  else if ts.atBracket then
    brackets (arrayContent r)
    return .other
  else if ts.atWord "let" then letExpr r structs
  else if ts.atWord "yield" then jump r "yield"
  else if ts.atOp ".." then rangeTail r structs
  else if ts.atWord "_" then word "_"; return .other
  else match ← blockLike? r with
    | some e => return e
    | none => fail

/-! ### Prefix operators -/

/-- The rest of a borrow behind `&`: its marks and its operand. -/
def borrow (structs : Bool) : Parser ExprShape := do
  let ts ← ahead
  let raw := ts.atWord "raw" && (ts.behind.atWord "mut" || ts.behind.atWord "const")
  if raw then word "raw"
  let isMut ← word? "mut"
  if raw && !isMut then word "const"
  discard (r.unary structs)
  return .other

/-- An expression without binary operators. Attributes may not stand before a range that starts with
its operator. -/
def unary (structs : Bool) : Parser ExprShape := do
  let attributes ← outerAttributes r
  let ts ← ahead
  if ts.atOp "&" then
    op "&"
    borrow r structs
  else
    match ["*", "!", "-"].find? (ts.atOp ·) with
    | some sign =>
      op sign
      discard (r.unary structs)
      return .other
    | none =>
      match ← trailers r (← atom r structs) with
      | .range dots => if attributes.isEmpty then return .range dots else failAtToken dots
      | e => return e

end MapperGen.Syntax.Grammar
