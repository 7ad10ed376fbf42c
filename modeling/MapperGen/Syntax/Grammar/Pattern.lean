import MapperGen.Syntax.Grammar.Type

/-!
# Patterns

A single pattern, patterns with alternatives, and the bounds of range patterns.
-/

namespace MapperGen.Syntax.Grammar

open MapperGen.Syntax.Parser Trees

variable (r : Rules)

/-! ### Alternatives -/

/-- A bar that separates alternatives. -/
def seesBar (ts : Trees) : Bool := ts.atOp "|" && !ts.atOneOf ["||", "|="]

/-- A pattern with alternatives; a bar may come first. -/
def alternatives : Parser Pattern := do
  let leading ← op? "|"
  let first ← r.pattern
  if leading || seesBar (← ahead) then
    discard (whileSees seesBar do op "|"; r.pattern)
    return .other
  return first

/-! ### Ranges -/

/-- The end of a pattern, so that a range has no upper bound. -/
def endsRange (ts : Trees) : Bool :=
  ts.isEmpty || ts.atOneOf ["|", "=", ",", ";"] || ts.atColon || ts.atWord "if"

/-- A path in an expression may start here. -/
def seesExprPath (ts : Trees) : Bool := ts.atPathHead || ts.atWord "Self" || ts.atOp "<"

/-- A block of constants: `const` and a block. -/
def constBlock : Parser Unit := do
  word "const"
  discard (attributedBlock r)

/-- A bound of a range, if there is one, and whether there is. -/
def rangeBound : Parser Bool := do
  let ts ← ahead
  if endsRange ts then return false
  if ts.atLiteral then discard literal
  else if seesExprPath ts then discard (qualifiedPath r true)
  else if ts.atWord "const" then constBlock r
  else fail
  return true

/-- A range operator; it answers whether the range includes its end. The old form `...` does. -/
def rangeOperator (oldForm : Bool) : Parser Bool := do
  let ts ← ahead
  if ts.atOp "..=" then op "..="; return true
  if ts.atOp "..." then
    if oldForm then op "..."; return true else fail
  op ".."
  return false

/-- A range pattern from its operator on; a range that includes its end has one. -/
def rangePattern (hasStart oldForm : Bool) : Parser Pattern := do
  let dots ← nextIndex
  let closed ← rangeOperator oldForm
  let bounded ← rangeBound r
  if closed && !bounded then fail
  if hasStart then return if bounded then .other else .openRange dots
  return if bounded then .openRange dots else .rest

/-- A literal or a block of constants, maybe as the start of a range. -/
def literalPattern : Parser Pattern := do
  discard (rangeBound r)
  if (← ahead).atOp ".." then rangePattern r true true else return .other

/-! ### Fields and elements -/

/-- The value of a whole number in its base. -/
def wholeValue (lexeme : Text) : Nat :=
  let inBase (base : Nat) (t : Text) : Nat :=
    t.foldl (fun n c => match Text.hexValue? c with | some d => base * n + d | none => n) 0
  match lexeme with
  | '0' :: 'x' :: t => inBase 16 t
  | '0' :: 'o' :: t => inBase 8 t
  | '0' :: 'b' :: t => inBase 2 t
  | t => inBase 10 t

/-- A whole number without suffix, small enough to be the index of a field. -/
def isFieldIndex (lexeme : Text) : Bool :=
  wholeDigitsLength lexeme == some lexeme.length && wholeValue lexeme < 4294967296

/-- A number with a point or an exponent. -/
def isFloat (lexeme : Text) : Bool := (floatDigitsLength lexeme).isSome

/-- The name or index of a field; it answers whether it is a name. -/
def fieldName : Parser Bool := do
  match ← ahead with
  | .literal (.number lexeme) _ :: _ =>
    if isFieldIndex lexeme && !isFloat lexeme then
      discard literal
      return false
    else fail
  | _ =>
    discard ident
    return true

def fieldPattern : Parser Unit := do
  let boxed ← word? "box"
  let byRef ← word? "ref"
  let isMut ← word? "mut"
  let binds := boxed || byRef || isMut
  let named ← if binds then (do discard ident; pure true) else fieldName
  if (!binds && (← ahead).atOp ":") || !named then
    op ":"
    discard (alternatives r)

/-- The fields of a struct pattern; `..` ends them. -/
def structPattern : Parser Unit := braces do
  discard <| collect do
    if ← atEnd then return none
    discard (outerAttributes r)
    if ← op? ".." then return none
    fieldPattern r
    if !(← atEnd) then op ","
    return some ()

/-- An element of a slice pattern, which may be no range with an end missing. -/
def sliceElement : Parser Unit := do
  match ← alternatives r with
  | .openRange dots => failAtToken dots
  | _ => return

/-! ### Single patterns -/

/-- A pattern that starts with a path: a macro call, a struct, a tuple struct, a range or the path
itself. -/
def pathPattern : Parser Pattern := do
  let (qualified, p) ← qualifiedPath r true
  let ts ← ahead
  if !qualified && seesMacroTail p ts then
    discard macroTail
    return .other
  if ts.atBrace then
    structPattern r
    return .other
  if ts.atParen then
    discard (parens (commaList (alternatives r)))
    return .other
  if ts.atOp ".." then rangePattern r true true else return .other

/-- A name to bind, maybe with a pattern behind `@`. -/
def bindingPattern : Parser Pattern := do
  discard (word? "ref")
  discard (word? "mut")
  let name ← if (← ahead).atWord "self" then anyWord else ident
  if ← op? "@" then
    discard r.pattern
    return .binding name true
  return .binding name false

/-- A path rather than a name to bind starts here. -/
def seesPathPattern (ts : Trees) : Bool :=
  let next := ts.behind
  (ts.atIdent && (next.atOneOf ["::", "!", ".."] || next.atBrace || next.atParen)) ||
    (ts.atWord "self" && next.atOp "::") || ts.atOneOf ["::", "<"] ||
    ts.atOneWord ["Self", "super", "crate"]

/-- A pattern without alternatives. -/
def pattern : Parser Pattern := do
  let ts ← ahead
  if seesPathPattern ts then pathPattern r
  else if ts.atWord "_" then word "_"; return .other
  else if ts.atWord "box" then
    word "box"
    discard r.pattern
    return .other
  else if ts.atOp "-" || ts.atLiteral || ts.atWord "const" then literalPattern r
  else if ts.atOneWord ["ref", "mut", "self"] || ts.atIdent then bindingPattern r
  else if ts.atOp "&" then
    op "&"
    discard (word? "mut")
    discard r.pattern
    return .other
  else if ts.atParen then
    discard (parens (commaList (alternatives r)))
    return .other
  else if ts.atBracket then
    discard (brackets (commaList (sliceElement r)))
    return .other
  else if ts.atOp ".." && !ts.atOp "..." then rangePattern r false false
  else fail

end MapperGen.Syntax.Grammar
