import MapperGen.Syntax.Grammar.Attribute

/-!
# Paths with arguments

Generic arguments follow the name directly in a type and behind `::` in an expression. In printed
order lifetimes come before all other arguments and parameters.
-/

namespace MapperGen.Syntax.Grammar

open MapperGen.Syntax.Parser Trees

variable (r : Rules)

/-! ### Lists in angle brackets -/

/-- Each entry with a comma behind it, the last one only if `trailing`. -/
def withCommas (comma : Tree) (trailing : Bool) : List (Bool × List Tree) → List (Bool × List Tree)
  | [] => []
  | [(b, trees)] => [(b, if trailing then trees ++ [comma] else trees)]
  | (b, trees) :: rest => (b, trees ++ [comma]) :: withCommas comma trailing rest

/-- Printed order of a list in angle brackets: the entries marked as lifetimes come first. -/
def lifetimesFirst (comma : Tree) (trailing : Bool) (entries : List (Bool × List Tree)) :
    List Tree :=
  let entries' := withCommas comma trailing entries
  let lifetimes := (entries'.filter (·.1)).flatMap (·.2)
  let others := (entries'.filter (!·.1)).flatMap (·.2)
  let lastIsLifetime := (entries.getLast?.map (·.1)).getD false
  lifetimes ++ (if lastIsLifetime && !trailing && !others.isEmpty then [comma] else []) ++ others

/-- A list in angle brackets; an entry tells whether it is a lifetime. -/
def angleList (entry : Parser Bool) : Parser (List (List Tree)) := do
  op "<"
  let ((entries, trailing), _) ← taking (separated (·.atOp ">") (taking entry) (op ","))
  putRead (lifetimesFirst (.punct ',' false (← nextIndex)) trailing entries)
  op ">"
  return entries.map (·.2)

/-! ### Generic arguments -/

/-- A constant as a generic argument: a literal, a name or a block. -/
def constArgument : Parser Unit := do
  let ts ← ahead
  if ts.atLiteral then discard literal
  else if ts.atIdent then discard ident
  else if ts.atBrace then discard (attributedBlock r)
  else fail

/-- A constant follows that cannot be a type. -/
def seesConst (ts : Trees) : Bool := ts.atLiteral || ts.atBrace

/-- A generic argument; it answers whether it is a lifetime. -/
def genericArgument : Parser Bool := do
  let ts ← ahead
  if ts.atLifetime && !ts.behind.atOp "+" then
    lifetime
    return true
  if seesConst ts then
    constArgument r
    return false
  match ← r.type true with
  | .path _ false path =>
    -- a name may be that of an associated type, with its value or bounds
    if path.isSimple then
      if ← op? "=" then
        if seesConst (← ahead) then constArgument r else discard (r.type true)
      else if ← op? ":" then
        discard (separated (·.atOneOf [",", ">"]) (r.bound false true) (op "+"))
  | _ => pure ()
  return false

/-- Generic arguments, maybe behind `::`. -/
def angleArguments : Parser SegmentArguments := do
  discard (op? "::")
  return .angle (← angleList (genericArgument r))

/-! ### Segments and paths -/

/-- Generic arguments follow the name of a segment. -/
def seesArguments (inExpr : Bool) (ts : Trees) : Bool :=
  -- `<<` may open arguments that start with a qualified path
  (!inExpr && ts.atOp "<" && !ts.atOp "<=" && !ts.atOp "<<=") ||
    (ts.atOp "::" && ts.behindTwo.atOp "<")

def segment (inExpr : Bool) : Parser Segment := do
  let ts ← ahead
  if ts.atOneWord ["super", "self", "crate", "try"] then return ⟨← anyWord, .none⟩
  let name ← if ts.atWord "Self" then anyWord else ident
  if seesArguments inExpr (← ahead) then return ⟨name, ← angleArguments r⟩
  return ⟨name, .none⟩

/-- A further segment with the `::` before it. -/
def nextSegment (inExpr : Bool) : Parser Segment := do
  op "::"
  segment r inExpr

def path (inExpr : Bool) : Parser Path := do
  let isGlobal ← op? "::"
  let first ← segment r inExpr
  -- `::` in front of parentheses belongs to the types of a call
  let rest ← whileSees (fun ts => ts.atOp "::" && !ts.behindTwo.atParen) (nextSegment r inExpr)
  return ⟨isGlobal, first :: rest⟩

/-- A path that may be qualified by a self type, and whether it is. -/
def qualifiedPath (inExpr : Bool) : Parser (Bool × Path) := do
  if (← ahead).atOp "<" then
    op "<"
    discard (r.type true)
    if ← word? "as" then discard (path r false)
    op ">"
    op "::"
    let first ← segment r inExpr
    let rest ← whileSees (·.atOp "::") (nextSegment r inExpr)
    return (true, ⟨false, first :: rest⟩)
  else return (false, ← path r inExpr)

end MapperGen.Syntax.Grammar
