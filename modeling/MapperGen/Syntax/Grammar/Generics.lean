import MapperGen.Syntax.Grammar.Path

/-!
# Generic parameters and bounds

Parameter lists, `for<..>` binders, where clauses, and the bounds of all of them. The colon before an
empty list of bounds is not printed.
-/

namespace MapperGen.Syntax.Grammar

open MapperGen.Syntax.Parser Trees

variable (r : Rules)

/-! ### Parameters -/

/-- A colon and bounds up to where `stop` holds. -/
def parameterBounds {α : Type} (stop : Trees → Bool) (bound : Parser α) : Parser Unit := do
  if (← ahead).atOp ":" then
    let (bounds, trees) ← taking do
      op ":"
      joined stop bound "+"
    if !bounds.isEmpty then putRead trees

def endsLifetimeBounds (ts : Trees) : Bool := ts.isEmpty || ts.atOneOf [",", ">"]

def endsTypeBounds (ts : Trees) : Bool := endsLifetimeBounds ts || ts.atOp "="

def typeParameter : Parser Unit := do
  discard ident
  parameterBounds endsTypeBounds (r.bound false true)
  if ← op? "=" then discard (r.type true)

def lifetimeParameter : Parser Unit := do
  lifetime
  parameterBounds endsLifetimeBounds lifetime

def constParameter : Parser Unit := do
  word "const"
  discard ident
  op ":"
  discard (r.type true)
  if ← op? "=" then constArgument r

/-- A generic parameter; it answers whether it is a lifetime. -/
def genericParameter (placeholders : Bool) : Parser Bool := do
  discard (outerAttributes r)
  let ts ← ahead
  if ts.atLifetime then lifetimeParameter; return true
  if ts.atIdent then typeParameter r
  else if ts.atWord "const" then constParameter r
  else if placeholders && ts.atWord "_" then word "_"
  else fail
  return false

/-- A generic parameter list, if there is one. -/
def generics : Parser (Option Clause) := do
  if (← ahead).atOp "<" then
    let (entries, node) ← spanned (angleList (genericParameter r true))
    return some ⟨entries.isEmpty, node⟩
  else return none

def binder : Parser Unit := do
  word "for"
  op "<"
  discard (separated (·.atOp ">") (genericParameter r false) (op ","))
  op ">"

/-- A `for<..>` binder if there is one, and whether there is. -/
def binder? : Parser Bool := do
  if (← ahead).atWord "for" then binder r; return true else return false

/-! ### Bounds -/

/-- The result type behind `->`, if there is one. -/
def resultType (plus : Bool) : Parser (Option TypeExpr) := do
  if ← op? "->" then return some (← r.type plus) else return none

/-- Parameter types in parentheses and a result type. -/
def callArguments : Parser Unit := do
  discard (parens (commaList (r.type true)))
  discard (resultType r false)

/-- Parenthesised arguments follow, maybe behind `::`. -/
def seesCallArguments (ts : Trees) : Bool :=
  ts.atParen || (ts.atOp "::" && ts.behindTwo.atParen)

/-- The mark `const` or `[const]` of a bound, if there is one. -/
def constMark (allowed : Bool) : Parser Unit := do
  let ts ← ahead
  let index ← nextIndex
  if ts.atBracket then
    brackets (word "const")
    if !allowed then failAtToken index
  else if ts.atWord "const" then
    word "const"
    if !allowed then failAtToken index

/-- A trait as a bound. A binder and the mark `?` exclude each other. -/
def traitBound (const : Bool) : Parser Unit := do
  let bindsFirst ← binder? r
  constMark const
  let markAt ← nextIndex
  let questioned ← op? "?"
  let binds ← if questioned && !bindsFirst then binder? r else pure bindsFirst
  let p ← path r false
  let bare := match p.segments.getLast? with
    | some ⟨_, .none⟩ | some ⟨_, .angle []⟩ => true
    | _ => false
  if bare && seesCallArguments (← ahead) then
    if (← ahead).atOp "::" then discard (taking (op "::"))
    callArguments r
  if binds && questioned then failAtToken markAt

/-- The list of captured parameters behind `use`. -/
def captures : Parser Unit := do
  word "use"
  op "<"
  discard <| separated (·.atOp ">")
    (do
      let ts ← ahead
      if ts.atLifetime then lifetime
      else if ts.atIdent || ts.atWord "Self" then discard anyWord
      else fail)
    (op ",")
  op ">"

def bound (capturing const : Bool) : Parser Bound := do
  let ts ← ahead
  if ts.atLifetime then
    lifetime
    return .lifetime
  else if ts.atWord "use" then
    let index ← nextIndex
    captures
    if capturing then return .captures else failAtToken index
  else if ts.atParen then
    parens (traitBound r const)
    return .trait
  else
    traitBound r const
    return .trait

/-- One more bound follows a `+`. -/
def seesBound (const : Bool) (ts : Trees) : Bool :=
  ts.atAnyWord || ts.atOp "::" || ts.atOp "?" || ts.atLifetime || ts.atParen ||
    (const && (ts.atBracket || ts.atWord "const"))

/-- A further bound with the `+` before it; none may follow the last `+`. -/
def furtherBound (const : Bool) (bound : Parser Bound) : Parser (Option Bound) := do
  if (← ahead).atOp "+" then
    op "+"
    if seesBound const (← ahead) then return some (← bound) else return none
  else return none

/-- Bounds joined by `+`; only one if `plus` is not allowed. -/
def bounds (plus capturing const : Bool) : Parser (List Bound) := do
  let first ← r.bound capturing const
  let rest ← if plus then collect (furtherBound const (r.bound capturing const)) else pure []
  return first :: rest

/-! ### Where clauses -/

/-- The end of a where clause, or of the bounds of one of its predicates. -/
def endsWhere (ts : Trees) : Bool :=
  ts.isEmpty || ts.atBrace || ts.atOneOf [",", ";", "="] || ts.atColon

/-- The end of the bounds on a lifetime in a where clause. -/
def endsWhereLifetimes (ts : Trees) : Bool := endsWhere ts || ts.atOp ":"

def wherePredicate : Parser Unit := do
  if (← ahead).atLifetime && (← ahead).behind.atOp ":" then
    lifetime
    op ":"
    discard (joined endsWhereLifetimes lifetime "+")
  else
    discard (binder? r)
    discard (r.type true)
    op ":"
    discard (joined endsWhere (r.bound false true) "+")

/-- A where clause if there is one. -/
def whereClause : Parser (Option Clause) := do
  if (← ahead).atWord "where" then
    let (predicates, node) ← spanned do
      word "where"
      if (← ahead).atGenerics then fail
      joined endsWhere (wherePredicate r) ","
    return some ⟨predicates.isEmpty, node⟩
  else return none

end MapperGen.Syntax.Grammar
