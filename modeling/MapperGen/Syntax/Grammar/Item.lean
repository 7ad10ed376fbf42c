import MapperGen.Syntax.Grammar.Statement

/-!
# Items

The declarations of a file, of modules, traits, implementations and extern blocks. An item answers
with its kind and the attributes found inside it; forms that are read without being understood are
`uninterpreted` and have none.
-/

namespace MapperGen.Syntax.Grammar

open MapperGen.Syntax.Parser Trees

variable (r : Rules)

/-! ### Shared parts -/

/-- The spot of the first of some trees ahead. -/
def spotOf (ts : Trees) : Parser Spot := return { (← get) with rest := ts }.spot

/-- Fails at trees further ahead. -/
def failBefore {α : Type} (ts : Trees) : Parser α := do failAt (← spotOf ts)

/-- Looks past a visibility mark: whether there is one, and the trees behind it. -/
def pastVisibility : Parser (Bool × Trees) := foresee do
  let isPub ← visibility
  return (isPub, ← ahead)

/-- The body of a function; it answers with the attributes in it. -/
def body : Parser (List Attribute) := attributedBlock r

/-- The members of a group in braces behind its inner attributes. -/
def members {α : Type} (member : Parser α) : Parser (List Attribute × List α) := braces do
  let attributes ← innerAttributes r
  return (attributes, ← untilEnd member)

/-- Bounds behind a colon, if there is one, up to where `stop` holds; whether there is a colon. -/
def boundsBehindColon (stop : Trees → Bool) : Parser Bool := do
  let colon ← op? ":"
  if colon then discard (separated stop (r.bound false true) (op "+"))
  return colon

/-- A word that may name a constant: an identifier or the low line. -/
def constantName : Parser Unit := do
  if (← ahead).atIdent || (← ahead).atWord "_" then discard anyWord else fail

/-- A constant from its name on: whether it has a value and neither generic parameters nor a where
clause. -/
def constantTail : Parser Bool := do
  constantName
  let parameters ← generics r
  op ":"
  discard (r.type true)
  let hasValue ← op? "="
  if hasValue then discard (r.expr true)
  let clause ← whereClause r
  op ";"
  return hasValue && parameters.isNone && clause.isNone

/-- Where a type declaration may have its where clause. -/
inductive WherePlace where
  | beforeType
  | behindType
  | anywhere
  deriving DecidableEq, Repr

/-- The end of the bounds of a type declaration. -/
def endsTypeDeclaration (ts : Trees) : Bool := ts.atWord "where" || ts.atOneOf ["=", ";"]

/-- A type declaration: whether it names a type and has no bounds. -/
def typeDeclaration (allowDefault : Bool) (place : WherePlace) : Parser Bool := do
  discard visibility
  if allowDefault then discard (word? "default")
  word "type"
  discard ident
  discard (generics r)
  let bounded ← boundsBehindColon r endsTypeDeclaration
  let before ← if place = .behindType then pure none else whereClause r
  let defined ← op? "="
  if defined then discard (r.type true)
  if place != .beforeType && before.isNone then discard (whereClause r)
  op ";"
  return defined && !bounded

/-- A macro call as a declaration: its end depends on its brackets. -/
def macroDeclaration : Parser Unit := do
  discard plainPath
  if (← macroTail) != .brace then op ";"

/-- What an item yields: its kind and the attributes in it. -/
abbrev ItemParts := ItemKind × List Attribute

/-- An item whose parts are not looked into. -/
def uninterpretedParts : ItemParts := (.uninterpreted, [])

/-! ### Functions, constants and types -/

/-- A function, or its mere signature. -/
def functionItem : Parser ItemParts := do
  discard visibility
  discard (signature r false)
  if ← op? ";" then return uninterpretedParts
  return (.function, ← body r)

/-- A static. Without a type or a value it is not interpreted. -/
def staticItem : Parser ItemParts := do
  discard visibility
  word "static"
  discard (word? "mut")
  discard ident
  if ← op? "=" then
    discard (r.expr true)
    op ";"
    return uninterpretedParts
  op ":"
  discard (r.type true)
  if ← op? ";" then return uninterpretedParts
  op "="
  discard (r.expr true)
  op ";"
  return (.staticDecl, [])

def constantItem : Parser ItemParts := do
  discard visibility
  word "const"
  return if ← constantTail r then (.constant, []) else uninterpretedParts

def typeAliasItem : Parser ItemParts := do
  return if ← typeDeclaration r false .beforeType then (.typeAlias, []) else uninterpretedParts

/-! ### Structures, enumerations and unions -/

/-- A field with a name; an unnamed one may hold a structure or union of its own. -/
def namedField : Parser Unit := do
  discard (outerAttributes r)
  discard visibility
  let unnamed := (← ahead).atWord "_"
  if unnamed then discard anyWord else discard ident
  op ":"
  let ts ← ahead
  if unnamed && (ts.atWord "struct" || (ts.atWord "union" && ts.behind.atBrace)) then
    discard anyWord
    r.fields
  else discard (r.type true)

def fieldsInBraces : Parser Unit := braces do discard (commaList (namedField r))

def fieldsInParens : Parser Unit := parens do
  discard <| commaList do
    discard (outerAttributes r)
    discard visibility
    discard (r.type true)

def structItem : Parser ItemParts := do
  discard visibility
  word "struct"
  discard ident
  discard (generics r)
  let clause ← whereClause r
  let ts ← ahead
  -- behind parentheses a where clause comes last, in front of braces it comes first
  if clause.isNone && ts.atParen then
    fieldsInParens r
    discard (whereClause r)
    op ";"
  else if ts.atBrace then fieldsInBraces r
  else op ";"
  return (.structDecl, [])

def variant : Parser Unit := do
  discard (outerAttributes r)
  discard visibility
  discard ident
  let ts ← ahead
  if ts.atBrace then fieldsInBraces r
  else if ts.atParen then fieldsInParens r
  if ← op? "=" then discard (r.expr true)

def enumItem : Parser ItemParts := do
  discard visibility
  word "enum"
  discard ident
  discard (generics r)
  discard (whereClause r)
  discard (braces (commaList (variant r)))
  return (.enumeration, [])

def unionItem : Parser ItemParts := do
  discard visibility
  word "union"
  discard ident
  discard (generics r)
  discard (whereClause r)
  fieldsInBraces r
  return (.unionDecl, [])

/-! ### Modules, imports and extern blocks -/

/-- An item with its attributes. -/
def nestedItem : Parser Item := do
  let first ← nextIndex
  r.item first (← outerAttributes r)

/-- A module, in this file or another. -/
def moduleItem : Parser ItemParts := do
  discard visibility
  discard (word? "unsafe")
  word "mod"
  if (← ahead).atWord "try" then discard anyWord else discard ident
  if ← op? ";" then return (.moduleDecl, [])
  let (attributes, _) ← members r (nestedItem r)
  return (.moduleDecl, attributes)

def externCrateItem : Parser ItemParts := do
  discard visibility
  word "extern"
  word "crate"
  if (← ahead).atWord "self" then discard anyWord else discard ident
  if ← word? "as" then
    if !(← word? "_") then discard ident
  op ";"
  return (.externCrate, [])

/-- A name in a use tree, maybe with further branches or a new name. -/
def useName : Parser Unit := do
  discard anyWord
  if ← op? "::" then discard (r.useTree false)
  else if ← word? "as" then
    if !(← word? "_") then discard ident

/-- A use tree. It answers whether no branch starts with `::`. -/
def useTree (rooted : Bool) : Parser Bool := do
  let ts ← ahead
  if ts.atIdent || ts.atOneWord ["self", "super", "crate", "try"] then
    useName r
    return true
  else if ts.atOp "*" then
    op "*"
    return true
  else if ts.atBrace then
    let branches ← braces <| commaList do
      -- `::` stands at most once on the way to a leaf
      let atRoot ← if rooted then op? "::" else pure false
      let rest ← r.useTree (rooted && !atRoot)
      return !atRoot && rest
    return branches.all id
  else fail

def useItem : Parser ItemParts := do
  discard visibility
  word "use"
  let leading ← op? "::"
  let plain ← r.useTree (!leading)
  op ";"
  return if plain then (.useDeclaration, []) else uninterpretedParts

def seesForeignStatic (ts : Trees) : Bool :=
  ts.atWord "static" || (ts.atOneWord ["unsafe", "safe"] && ts.behind.atWord "static")

def foreignStatic : Parser Unit := do
  discard visibility
  if !(← word? "unsafe") then discard (word? "safe")
  word "static"
  discard (word? "mut")
  discard ident
  op ":"
  discard (r.type true)
  if ← op? "=" then discard (r.expr true)
  op ";"

def foreignFunction : Parser Unit := do
  discard visibility
  discard (signature r true)
  if (← ahead).atBrace then discard (body r) else op ";"

def foreignMember : Parser Unit := do
  discard (outerAttributes r)
  let (isPub, ts) ← pastVisibility
  if ts.atWord "fn" || seesSignature true ts then foreignFunction r
  else if seesForeignStatic ts then foreignStatic r
  else if ts.atWord "type" then discard (typeDeclaration r false .anywhere)
  else if !isPub && ts.atPathHead then macroDeclaration
  else failBefore ts

def externBlockItem : Parser ItemParts := do
  discard (word? "unsafe")
  if (← ahead).atWord "extern" then convention else fail
  let (attributes, _) ← members r (foreignMember r)
  return (.externBlock, attributes)

/-- An item that starts with `extern` and is no function. -/
def externItem (ts : Trees) : Parser ItemParts := do
  let next := ts.behind
  if next.atWord "crate" then externCrateItem
  else if next.atBrace then externBlockItem r
  else if next.atTextLiteral then
    if next.behind.atBrace then externBlockItem r else failBefore next.behind
  else failBefore next

/-! ### Traits -/

/-- A method of a trait, with the attributes in front of it. -/
def traitMethod (attributes : List Attribute) : Parser Method := do
  let sig ← signature r false
  if (← ahead).atBrace then return ⟨attributes ++ (← body r), sig, true⟩
  op ";"
  return ⟨attributes, sig, false⟩

/-- A member of a trait that starts with `const`: a method or a constant. -/
def constMember (ts : Trees) (attributes : List Attribute) : Parser (Option Method) := do
  let next := ts.behind
  if next.atIdent || next.atWord "_" then
    word "const"
    discard (constantTail r)
    return none
  else if next.atOneWord ["async", "unsafe", "extern", "fn"] then
    return some (← traitMethod r attributes)
  else failBefore next

/-- A member of a trait. With a visibility or `default` it counts as no method. -/
def traitMember : Parser Member := do
  let first ← nextIndex
  let attributes ← outerAttributes r
  let isPub ← visibility
  let isDefault ← word? "default"
  let ts ← ahead
  let method ←
    if ts.atWord "fn" || seesSignature false ts then some <$> traitMethod r attributes
    else if ts.atWord "const" then constMember r ts attributes
    else if ts.atWord "type" then
      discard (typeDeclaration r false .behindType)
      pure none
    else if !isPub && !isDefault && ts.atPathHead then
      macroDeclaration
      pure none
    else fail
  match method with
  | some m => return if isPub || isDefault then .other first else .method first m
  | none => return .other first

def endsSupertraits (ts : Trees) : Bool := ts.atWord "where" || ts.atBrace

def traitTail (keywordAt : Nat) (name : Text) (nameAt : Nat) (parameters : Option Clause) :
    Parser ItemParts := do
  discard (boundsBehindColon r endsSupertraits)
  let clause ← whereClause r
  let (attributes, found) ← members r (traitMember r)
  return (.traitDecl ⟨keywordAt, name, nameAt, parameters, clause, found⟩, attributes)

def endsAlias (ts : Trees) : Bool := ts.atWord "where" || ts.atOp ";"

def traitAliasTail : Parser ItemParts := do
  op "="
  discard (separated endsAlias (r.bound false false) (op "+"))
  discard (whereClause r)
  op ";"
  return (.traitAlias, [])

/-- A trait; an alias is one too if `mayAlias` says so. -/
def traitItem (mayAlias : Bool) : Parser ItemParts := do
  discard visibility
  if !mayAlias then
    discard (word? "unsafe")
    discard (word? "auto")
  let keywordAt ← nextIndex
  word "trait"
  let nameAt ← nextIndex
  let name ← ident
  let parameters ← generics r
  let ts ← ahead
  if !mayAlias || ts.atBrace || ts.atOp ":" || ts.atWord "where" then
    traitTail r keywordAt name nameAt parameters
  else traitAliasTail r

/-! ### Implementations -/

/-- A function of an implementation, which may lack its body. -/
def implFunction : Parser Unit := do
  discard visibility
  discard (word? "default")
  discard (signature r false)
  if !(← op? ";") then discard (body r)

def implConstant : Parser Unit := do
  discard visibility
  discard (word? "default")
  word "const"
  discard (constantTail r)

def implMember : Parser Unit := do
  discard (outerAttributes r)
  let (isPub, ts) ← pastVisibility
  -- `default!` is a macro call
  let isDefault := ts.atWord "default" && !ts.behind.atOp "!"
  let ts := if isDefault then ts.behind else ts
  if ts.atWord "fn" || seesSignature false ts then implFunction r
  else if ts.atWord "const" then implConstant r
  else if ts.atWord "type" then discard (typeDeclaration r true .behindType)
  else if !isPub && !isDefault && ts.atPathHead then macroDeclaration
  else failBefore ts

/-- A type that can name a trait. -/
def namesTrait : TypeExpr → Bool
  | .path _ false _ => true
  | _ => false

/-- The mark `const` of an implementation, if there is one, and whether there is. -/
def constImplMark : Parser Bool := do
  let ts ← ahead
  if ts.atWord "const" || (ts.atOp "?" && ts.behind.atWord "const") then
    discard (op? "?")
    word "const"
    return true
  else return false

/-- What an implementation is for, behind the first type: whether it is a well-formed one. A
negative one names a trait; `negationAt` is where its mark is. -/
def implTarget (first : TypeExpr) (negationAt : Option Nat) : Parser Bool := do
  if ← word? "for" then
    discard (r.type true)
    return namesTrait first
  else
    match negationAt with
    | some index => failAtToken index
    | none => return true

def implItem : Parser ItemParts := do
  let isPub ← visibility
  discard (word? "default")
  discard (word? "unsafe")
  word "impl"
  if (← ahead).atGenerics then discard (generics r)
  let isConst ← constImplMark
  let ts ← ahead
  let markAt ← nextIndex
  let negative := ts.atOp "!" && !ts.behind.atBrace
  if negative then op "!"
  let first ← r.type true
  let wellFormed ← implTarget r first (if negative then some markAt else none)
  discard (whereClause r)
  let (attributes, _) ← members r (implMember r)
  return if isPub || isConst || !wellFormed then uninterpretedParts
    else (.implementation, attributes)

/-! ### Macros -/

/-- A macro definition of the newer form. -/
def macroDefinition : Parser ItemParts := do
  discard visibility
  word "macro"
  discard ident
  if (← ahead).atParen then discard anyGroup
  if (← ahead).atBrace then discard anyGroup else fail
  return uninterpretedParts

/-- A macro call as an item; a name may stand behind the `!`. -/
def macroItem : Parser ItemParts := do
  discard plainPath
  op "!"
  if (← ahead).atIdent || (← ahead).atWord "try" then discard anyWord
  if (← anyGroup) != .brace then op ";"
  return (.macroCall, [])

/-! ### All items -/

/-- An item that starts with `unsafe` and is no function. -/
def unsafeItem (ts : Trees) : Parser ItemParts := do
  let next := ts.behind
  if next.atWord "trait" || (next.atWord "auto" && next.behind.atWord "trait") then traitItem r false
  else if next.atWord "impl" then implItem r
  else if next.atWord "extern" then externBlockItem r
  else if next.atWord "mod" then moduleItem r
  else failBefore next

/-- The parts of an item behind its attributes. -/
def itemParts : Parser ItemParts := do
  let (isPub, ts) ← pastVisibility
  let next := ts.behind
  if ts.atWord "fn" || seesSignature false ts then functionItem r
  else if ts.atWord "extern" then externItem r ts
  else if ts.atWord "use" then useItem r
  else if ts.atWord "static" then staticItem r
  else if ts.atWord "const" then constantItem r
  else if ts.atWord "unsafe" then unsafeItem r ts
  else if ts.atWord "mod" then moduleItem r
  else if ts.atWord "type" then typeAliasItem r
  else if ts.atWord "struct" then structItem r
  else if ts.atWord "enum" then enumItem r
  else if ts.atWord "union" && next.atIdent then unionItem r
  else if ts.atWord "trait" then traitItem r true
  else if ts.atWord "auto" && next.atWord "trait" then traitItem r false
  else if ts.atWord "impl" || (ts.atWord "default" && !next.atOp "!") then implItem r
  else if ts.atWord "macro" then macroDefinition
  else if !isPub && ts.atPathHead then macroItem
  else failBefore ts

/-- An item behind its attributes. -/
def item (first : Nat) (attributes : List Attribute) : Parser Item := do
  let (kind, inner) ← itemParts r
  return ⟨first, attributes ++ inner, kind⟩

end MapperGen.Syntax.Grammar
