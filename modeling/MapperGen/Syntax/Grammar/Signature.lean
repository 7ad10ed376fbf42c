import MapperGen.Syntax.Grammar.Expression

/-!
# Signatures

The head of a function: its marks, name, generic parameters, parameters, result and where clause. A
receiver comes first and only once.
-/

namespace MapperGen.Syntax.Grammar

open MapperGen.Syntax.Parser Trees

variable (r : Rules)

/-! ### Marks -/

def pastWord (name : String) (ts : Trees) : Trees := if ts.atWord name then ts.behind else ts

def pastConvention (ts : Trees) : Trees :=
  if ts.atWord "extern" then
    let rest := ts.behind
    if rest.atTextLiteral then rest.behind else rest
  else ts

/-- A signature follows: `fn` comes behind its marks, `safe` among them if it is allowed. -/
def seesSignature (allowSafe : Bool) (ts : Trees) : Bool :=
  let rest := pastWord "async" (pastWord "const" ts)
  let rest := if allowSafe && rest.atWord "safe" then rest.behind else pastWord "unsafe" rest
  (pastConvention rest).atWord "fn"

/-! ### Parameters -/

/-- A receiver, and the index of its `self`. -/
def receiver : Parser Nat := do
  let isReference ← op? "&"
  if isReference then lifetime?
  discard (word? "mut")
  let selfAt ← nextIndex
  word "self"
  if !isReference then
    if ← op? ":" then discard (r.type true)
  return selfAt

/-- What one step through the parameters finds: a parameter, or the ellipsis that ends them. -/
inductive ArgumentStep where
  | argument (argument : Argument)
  | receiver (selfAt : Nat)
  | variadic

/-- The ellipsis behind the name of a parameter, or the type. -/
def typedArgument : Parser ArgumentStep := do
  let patternAt ← nextIndex
  let p ← r.pattern
  op ":"
  if ← op? "..." then return .variadic
  return .argument (.typed p patternAt (← r.type true))

/-- One parameter. A type with generic arguments may stand without a name. -/
def argumentStep : Parser ArgumentStep := do
  discard (outerAttributes r)
  if ← op? "..." then return .variadic
  match ← attempt? (receiver r) with
  | some selfAt => return .receiver selfAt
  | none =>
    if (← ahead).atIdent && (← ahead).behind.atOp "<" then
      let patternAt ← nextIndex
      return .argument (.typed .other patternAt (← r.type true))
    else typedArgument r

/-- The parameters of a signature, at most `n` of them. -/
def argumentList (first : Bool) : Nat → Parser (List Argument)
  | 0 => return []
  | n + 1 => do
    if ← atEnd then return []
    match ← argumentStep r with
    | .variadic =>
      if !(← atEnd) then op ","
      return []
    | .receiver selfAt =>
      if !first then failAtToken selfAt
      if ← atEnd then return [.receiver]
      op ","
      return .receiver :: (← argumentList false n)
    | .argument a =>
      if ← atEnd then return [a]
      op ","
      return a :: (← argumentList false n)

/-! ### Signatures -/

/-- A signature; `safe` may stand for `unsafe` if it is allowed. -/
def signature (allowSafe : Bool) : Parser Signature := do
  let first ← nextIndex
  discard (word? "const")
  discard (word? "async")
  if !(← word? "unsafe") then
    if allowSafe then discard (word? "safe")
  convention
  word "fn"
  let name ← ident
  let generics ← generics r
  let arguments ← parens do argumentList r true ((← ahead).length + 1)
  let result ← resultType r true
  let whereClause ← whereClause r
  return { first, name, generics, arguments, result, whereClause }

/-! ### Visibility -/

/-- A visibility mark if there is one, and whether there is. A group behind it that holds more than
one word is no part of it. -/
def visibility : Parser Bool := do
  if !(← word? "pub") then return false
  match ← ahead with
  | .group .parenthesis content _ _ :: _ =>
    if content matches [_] && atOneWord ["crate", "self", "super"] content then discard anyGroup
    else if atWord "in" content then
      parens do
        word "in"
        discard plainPath
  | _ => pure ()
  return true

end MapperGen.Syntax.Grammar
