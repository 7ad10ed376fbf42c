import MapperGen.Syntax.Grammar.Rules

/-!
# Plain paths, attributes and blocks

Paths without arguments, the attributes whose meaning hangs on them, and the two kinds of blocks: a
plain one, and one that may start with inner attributes.
-/

namespace MapperGen.Syntax.Grammar

open MapperGen.Syntax.Parser Trees

/-! ### Plain paths -/

/-- One word of a plain path. -/
def plainSegment : Parser Segment := do
  if (← ahead).atIdent || (← ahead).atOneWord ["super", "self", "Self", "crate"] then
    return ⟨← anyWord, .none⟩
  else fail

/-- A path of words without arguments. -/
def plainPath : Parser Path := do
  let isGlobal ← op? "::"
  let first ← plainSegment
  let rest ← whileSees (·.atOp "::") do op "::"; plainSegment
  return ⟨isGlobal, first :: rest⟩

/-! ### Attributes -/

variable (r : Rules)

/-- What follows the path of an attribute: nothing, a group, or `=` and a value. A lone text literal
as the value of `doc` documents. -/
def attributeValue (isDoc : Bool) : Parser Attribute := do
  match ← ahead with
  | .group .. :: _ => discard anyGroup; return .other
  | ts =>
    if ts.atOp "=" then
      op "="
      -- a literal with something behind it begins an expression
      let lone ← foresee (attempt? do let text ← literal; return (text, ← atEnd))
      match lone with
      | some (text, true) =>
        discard literal
        match isDoc, text with
        | true, some index => return .doc index
        | _, _ => return .other
      | _ =>
        -- the value has no attributes of its own
        if (← ahead).atOp "#" && (← ahead).behind.atBracket then fail
        discard (r.expr true)
        return .other
    else return .other

def attributeBody : Parser Attribute := do
  if ← word? "unsafe" then attributeValue r false
  else attributeValue r ((← plainPath).isWord "doc")

/-- An attribute in front of what it belongs to. -/
def outerAttribute : Parser Attribute := do
  op "#"
  brackets (attributeBody r)

/-- The attributes in front of something. -/
def outerAttributes : Parser (List Attribute) := whileSees (·.atOp "#") (outerAttribute r)

/-- The attributes at the start of what they belong to. -/
def innerAttributes : Parser (List Attribute) :=
  whileSees (fun ts => ts.atOp "#" && ts.behind.atOp "!") do
    op "#"
    op "!"
    brackets (attributeBody r)

/-! ### Blocks -/

def block : Parser Unit := braces r.statements

/-- A block that may start with inner attributes; it answers with them. -/
def attributedBlock : Parser (List Attribute) := braces do
  let attributes ← innerAttributes r
  r.statements
  return attributes

/-- A macro call behind its path: `!` and a group. -/
def macroTail : Parser Delimiter := do
  op "!"
  anyGroup

/-- Behind a plain path, a macro call goes on. -/
def seesMacroTail (path : Path) (ts : Trees) : Bool :=
  ts.atOp "!" && !ts.atOp "!=" && path.isPlain

end MapperGen.Syntax.Grammar
