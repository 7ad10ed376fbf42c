import MapperGen.Syntax.Grammar.Generics

/-!
# Types

Where a `+` may follow, a path or a parenthesised path is the first of several bounds. A reference
or pointer binds tighter than `+`.
-/

namespace MapperGen.Syntax.Grammar

open MapperGen.Syntax.Parser Trees

variable (r : Rules)

/-- A type whose extent is not known yet. -/
abbrev TypeForm := Node → TypeExpr

/-! ### Object types -/

/-- The bounds of an object type, one of which has to be a trait; without one the fault is at
`index`. -/
def objectBounds (index : Nat) (plus capturing const : Bool) : Parser (List Bound) := do
  let found ← bounds r plus capturing const
  if found.contains .trait then return found else failAtToken index

/-- An object type that starts with a lifetime; a trait has to follow behind a `+`. -/
def lifetimeObject : Parser TypeForm := do
  discard (objectBounds r (← nextIndex) true false false)
  return (.bareBounds · false)

/-- Further bounds, each behind a `+`; the answer tells whether there are any. -/
def plusBounds : Parser Bool := do
  let more ← whileSees (·.atOp "+") do op "+"; r.bound false false
  return !more.isEmpty

/-- Further bounds, the last `+` of which may stand alone; the answer tells whether there is a
`+`. -/
def looseBounds : Parser Bool := do
  let plus ← sees (·.atOp "+")
  discard (collect (furtherBound false (r.bound false false)))
  return plus

/-! ### Parentheses -/

/-- What a pair of parentheses in a type holds. -/
inductive ParenContent where
  | tuple (elements : List TypeExpr)
  | object
  | questioned
  | one (type : TypeExpr)

def parenContent : Parser ParenContent := do
  let ts ← ahead
  if ts.isEmpty then return .tuple []
  if ts.atLifetime then
    discard (lifetimeObject r)
    return .object
  if ts.atOp "?" then
    traitBound r false
    return .questioned
  let first ← r.type true
  if (← ahead).atOp "," then
    op ","
    return .tuple (first :: (← commaList (r.type true)))
  return .one first

/-- A type in parentheses can be the first of several bounds. -/
def canBeBound : TypeExpr → Bool
  | .path _ false _ => true
  | .bareBounds _ single => single
  | _ => false

/-- A type that starts with a parenthesis. -/
def parenType (plus : Bool) : Parser TypeForm := do
  match ← parens (parenContent r) with
  | .tuple elements => return (.tuple · elements)
  | .object => return .other
  | .questioned => let more ← plusBounds r; return (.bareBounds · (!more))
  | .one first =>
    if plus && (← ahead).atOp "+" && canBeBound first then
      discard (plusBounds r)
      return (.bareBounds · false)
    return .other

/-! ### Function types -/

/-- The ellipsis of a function type, maybe with a name. -/
def seesVariadic (ts : Trees) : Bool :=
  ts.atOp "..." ||
    ((ts.atIdent || ts.atWord "_") && ts.behind.atOp ":" && ts.behindTwo.atOp "...")

def seesMutSelf (ts : Trees) : Bool := ts.atWord "mut" && ts.behind.atWord "self"

/-- A parameter of a function type, maybe with a name. The first one may be `self`. -/
def functionTypeArgument (allowSelf : Bool) : Parser Unit := do
  discard (outerAttributes r)
  let mutSelf := allowSelf && seesMutSelf (← ahead)
  if mutSelf then word "mut"
  let ts ← ahead
  let selfNamed := allowSelf && ts.atWord "self"
  let named := (ts.atIdent || ts.atWord "_" || selfNamed) && ts.behind.atColon
  if named then
    discard anyWord
    op ":"
  if allowSelf && !(named && selfNamed) && seesMutSelf (← ahead) then
    word "mut"
    word "self"
  else if mutSelf && !named then word "self"
  else discard (r.type true)

/-- The parameters of a function type, at most `n` of them. -/
def functionTypeArguments (first : Bool) : Nat → Parser Unit
  | 0 => return
  | n + 1 => do
    if ← atEnd then return
    discard (outerAttributes r)
    if seesVariadic (← ahead) then
      if !(← ahead).atOp "..." then
        discard anyWord
        op ":"
      op "..."
      discard (op? ",")
    else
      functionTypeArgument r first
      if ← atEnd then return
      op ","
      functionTypeArguments false n

/-- The name of a calling convention, if there is one. -/
def convention : Parser Unit := do
  if ← word? "extern" then
    if (← ahead).atTextLiteral then discard literal

def functionType : Parser TypeForm := do
  discard (word? "unsafe")
  convention
  word "fn"
  parens do functionTypeArguments r true ((← ahead).length + 1)
  discard (resultType r false)
  return .other

/-! ### Other types -/

/-- A type that starts with a path: the path itself, a macro call or a list of bounds. -/
def pathType (plus bound : Bool) : Parser TypeForm := do
  let (qualified, p) ← qualifiedPath r false
  if qualified then return (.path · true p)
  if seesMacroTail p (← ahead) then
    discard macroTail
    return .other
  if bound || (plus && (← ahead).atOp "+") then
    let more ← if plus then looseBounds r else pure false
    return (.bareBounds · (!more))
  return (.path · false p)

/-- An object type with `dyn`. -/
def dynType (plus : Bool) : Parser TypeForm := do
  let index ← nextIndex
  word "dyn"
  discard (op? "*")
  discard (objectBounds r index plus false false)
  return .other

/-- A type known by its bounds only. -/
def implType (plus : Bool) : Parser TypeForm := do
  let index ← nextIndex
  word "impl"
  discard (objectBounds r index plus true true)
  return .other

/-- A slice or an array. -/
def sliceType : Parser TypeForm := brackets do
  discard (r.type true)
  if ← op? ";" then discard (r.expr true)
  return .other

def pointerType : Parser TypeForm := do
  op "*"
  if !(← word? "const") then word "mut"
  let referent ← r.type false
  return (.pointer · referent)

def referenceType : Parser TypeForm := do
  op "&"
  lifetime?
  discard (word? "mut")
  let referent ← r.type false
  return (.reference · referent)

/-- What may follow a binder at the head of a type. -/
def seesBindable (ts : Trees) : Bool :=
  ts.atIdent || ts.atOneWord ["fn", "unsafe", "extern", "super", "self", "Self", "crate"]

/-- A type behind its binder, if it has one. -/
def typeForm (plus bound : Bool) : Parser TypeForm := do
  let ts ← ahead
  if ts.atParen then parenType r plus
  else if ts.atOneWord ["fn", "unsafe", "extern"] then functionType r
  else if ts.atPathHead || ts.atWord "Self" || ts.atOp "<" then pathType r plus bound
  else if ts.atWord "dyn" then dynType r plus
  else if ts.atBracket then sliceType r
  else if ts.atOp "*" then pointerType r
  else if ts.atOp "&" then referenceType r
  else if ts.atOp "!" then op "!"; return .other
  else if ts.atWord "impl" then implType r plus
  else if ts.atWord "_" then word "_"; return .other
  else if ts.atLifetime then lifetimeObject r
  else fail

def typeExpr (plus : Bool) : Parser TypeExpr := do
  let (form, node) ← spanned do
    let bound ← binder? r
    if bound && !seesBindable (← ahead) then fail
    typeForm r plus bound
  return form node

end MapperGen.Syntax.Grammar
