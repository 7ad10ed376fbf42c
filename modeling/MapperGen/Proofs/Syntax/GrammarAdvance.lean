import MapperGen.Proofs.Syntax.Advance
import MapperGen.Syntax.Grammar.File

/-!
# Motion in the grammar

Every parser of the grammar passes over trees ahead of it and does nothing else to its position. It
does so if the rules that it takes for nested parts do, and hence at every level of nesting. A group
is passed as one tree, whatever is read in it.
-/

namespace MapperGen.Syntax

open MapperGen.Syntax.Parser Trees

/-- All rules of a level move over trees. -/
class Rules.Advance (r : Rules) : Prop where
  type : ∀ plus, Advancing (r.type plus)
  bound : ∀ captures const, Advancing (r.bound captures const)
  expr : ∀ structs, Advancing (r.expr structs)
  unary : ∀ structs, Advancing (r.unary structs)
  climb : ∀ lhs structs base, Advancing (r.climb lhs structs base)
  pattern : Advancing r.pattern
  arms : Advancing r.arms
  statements : Advancing r.statements
  fields : Advancing r.fields
  item : ∀ first attributes, Advancing (r.item first attributes)
  useTree : ∀ rooted, Advancing (r.useTree rooted)

attribute [instance] Rules.Advance.type Rules.Advance.bound Rules.Advance.expr Rules.Advance.unary
  Rules.Advance.climb Rules.Advance.pattern Rules.Advance.arms Rules.Advance.statements
  Rules.Advance.fields Rules.Advance.item Rules.Advance.useTree

-- the instance of a parser with many steps is a large term
set_option synthInstance.maxSize 100000

namespace Grammar

variable (r : Rules) [r.Advance]

/-! ### Attributes and blocks -/

instance : Advancing plainSegment := by
  unfold plainSegment
  infer_instance

instance : Advancing plainPath := by
  unfold plainPath
  infer_instance

instance (isDoc : Bool) : Advancing (attributeValue r isDoc) := by
  unfold attributeValue
  dsimp only
  repeat' first | infer_instance | refine along_bind fun _ => ?_ | split

instance : Advancing (attributeBody r) := by
  unfold attributeBody
  infer_instance

instance : Advancing (outerAttribute r) := by
  unfold outerAttribute
  infer_instance

instance : Advancing (outerAttributes r) := by
  unfold outerAttributes
  infer_instance

instance : Advancing (innerAttributes r) := by
  unfold innerAttributes
  infer_instance

instance : Advancing (block r) := by
  unfold block
  infer_instance

instance : Advancing (attributedBlock r) := by
  unfold attributedBlock
  infer_instance

instance : Advancing macroTail := by
  unfold macroTail
  infer_instance

/-! ### Paths -/

instance (entry : Parser Bool) [Advancing entry] : Advancing (angleList entry) := by
  unfold angleList
  infer_instance

instance : Advancing (constArgument r) := by
  unfold constArgument
  infer_instance

instance : Advancing (genericArgument r) := by
  unfold genericArgument
  dsimp only
  repeat' first | infer_instance | refine along_bind fun _ => ?_ | split

instance : Advancing (angleArguments r) := by
  unfold angleArguments
  infer_instance

instance (inExpr : Bool) : Advancing (segment r inExpr) := by
  unfold segment
  infer_instance

instance (inExpr : Bool) : Advancing (nextSegment r inExpr) := by
  unfold nextSegment
  infer_instance

instance (inExpr : Bool) : Advancing (path r inExpr) := by
  unfold path
  infer_instance

instance (inExpr : Bool) : Advancing (qualifiedPath r inExpr) := by
  unfold qualifiedPath
  infer_instance

/-! ### Generic parameters and bounds -/

instance {α : Type} (stop : Trees → Bool) (bound : Parser α) [Advancing bound] :
    Advancing (parameterBounds stop bound) := by
  unfold parameterBounds
  infer_instance

instance : Advancing (typeParameter r) := by
  unfold typeParameter
  infer_instance

instance : Advancing lifetimeParameter := by
  unfold lifetimeParameter
  infer_instance

instance : Advancing (constParameter r) := by
  unfold constParameter
  infer_instance

instance (placeholders : Bool) : Advancing (genericParameter r placeholders) := by
  unfold genericParameter
  infer_instance

instance : Advancing (generics r) := by
  unfold generics
  infer_instance

instance : Advancing (binder r) := by
  unfold binder
  infer_instance

instance : Advancing (binder? r) := by
  unfold binder?
  infer_instance

instance (plus : Bool) : Advancing (resultType r plus) := by
  unfold resultType
  infer_instance

instance : Advancing (callArguments r) := by
  unfold callArguments
  infer_instance

instance (allowed : Bool) : Advancing (constMark allowed) := by
  unfold constMark
  infer_instance

instance (const : Bool) : Advancing (traitBound r const) := by
  unfold traitBound
  infer_instance

instance : Advancing captures := by
  unfold captures
  infer_instance

instance (capturing const : Bool) : Advancing (bound r capturing const) := by
  unfold bound
  infer_instance

instance (const : Bool) (bound : Parser Bound) [Advancing bound] :
    Advancing (furtherBound const bound) := by
  unfold furtherBound
  infer_instance

instance (plus capturing const : Bool) : Advancing (bounds r plus capturing const) := by
  unfold bounds
  infer_instance

instance : Advancing (wherePredicate r) := by
  unfold wherePredicate
  infer_instance

instance : Advancing (whereClause r) := by
  unfold whereClause
  infer_instance

/-! ### Types -/

instance (index : Nat) (plus capturing const : Bool) :
    Advancing (objectBounds r index plus capturing const) := by
  unfold objectBounds
  infer_instance

instance : Advancing (lifetimeObject r) := by
  unfold lifetimeObject
  infer_instance

instance : Advancing (plusBounds r) := by
  unfold plusBounds
  infer_instance

instance : Advancing (looseBounds r) := by
  unfold looseBounds
  infer_instance

instance : Advancing (parenContent r) := by
  unfold parenContent
  infer_instance

instance (plus : Bool) : Advancing (parenType r plus) := by
  unfold parenType
  repeat' first | infer_instance | refine along_bind fun _ => ?_ | split

instance (allowSelf : Bool) : Advancing (functionTypeArgument r allowSelf) := by
  unfold functionTypeArgument
  infer_instance

instance : Advancing convention := by
  unfold convention
  infer_instance

instance : Advancing (functionType r) := by
  unfold functionType
  infer_instance

instance (plus bound : Bool) : Advancing (pathType r plus bound) := by
  unfold pathType
  infer_instance

instance (plus : Bool) : Advancing (dynType r plus) := by
  unfold dynType
  infer_instance

instance (plus : Bool) : Advancing (implType r plus) := by
  unfold implType
  infer_instance

instance : Advancing (sliceType r) := by
  unfold sliceType
  infer_instance

instance : Advancing (pointerType r) := by
  unfold pointerType
  infer_instance

instance : Advancing (referenceType r) := by
  unfold referenceType
  infer_instance

instance (plus bound : Bool) : Advancing (typeForm r plus bound) := by
  unfold typeForm
  infer_instance

instance (plus : Bool) : Advancing (typeExpr r plus) := by
  unfold typeExpr
  infer_instance

/-! ### Patterns -/

instance : Advancing (alternatives r) := by
  unfold alternatives
  infer_instance

instance : Advancing (constBlock r) := by
  unfold constBlock
  infer_instance

instance : Advancing (rangeBound r) := by
  unfold rangeBound
  infer_instance

instance (oldForm : Bool) : Advancing (rangeOperator oldForm) := by
  unfold rangeOperator
  infer_instance

instance (hasStart oldForm : Bool) : Advancing (rangePattern r hasStart oldForm) := by
  unfold rangePattern
  infer_instance

instance : Advancing (literalPattern r) := by
  unfold literalPattern
  infer_instance

instance : Advancing fieldName := by
  unfold fieldName
  repeat' first | infer_instance | refine along_bind fun _ => ?_ | split

instance : Advancing (fieldPattern r) := by
  unfold fieldPattern
  infer_instance

instance : Advancing (structPattern r) := by
  unfold structPattern
  infer_instance

instance : Advancing (sliceElement r) := by
  unfold sliceElement
  repeat' first | infer_instance | refine along_bind fun _ => ?_ | split

instance : Advancing (pathPattern r) := by
  unfold pathPattern
  infer_instance

instance : Advancing (bindingPattern r) := by
  unfold bindingPattern
  infer_instance

instance : Advancing (pattern r) := by
  unfold pattern
  infer_instance

/-! ### Expressions -/

instance (structs : Bool) (precedence : Precedence) : Advancing (operand r structs precedence) := by
  unfold operand
  infer_instance

instance (structs : Bool) : Advancing (rangeTail r structs) := by
  unfold rangeTail
  infer_instance

instance (structs : Bool) (base : Precedence) (lhs : ExprShape) :
    Advancing (climbOnce r structs base lhs) := by
  unfold climbOnce
  dsimp only
  repeat' first | infer_instance | refine along_bind fun _ => ?_ | split

instance (lhs : ExprShape) (structs : Bool) (base : Precedence) :
    Advancing (climb r lhs structs base) := by
  unfold climb
  infer_instance

instance (structs : Bool) : Advancing (expr r structs) := by
  unfold expr
  infer_instance

instance (lexeme : Text) : Advancing (fieldIndices lexeme) := by
  unfold fieldIndices
  infer_instance

instance : Advancing (arguments r) := by
  unfold arguments
  infer_instance

instance : Advancing (memberTail r) := by
  unfold memberTail
  infer_instance

instance : Advancing (dotTail r) := by
  unfold dotTail
  repeat' first | infer_instance | refine along_bind fun _ => ?_ | split

instance (e : ExprShape) : Advancing (trailer r e) := by
  unfold trailer
  infer_instance

instance (e : ExprShape) : Advancing (trailers r e) := by
  unfold trailers
  infer_instance

instance : Advancing (elseBranches r) := by
  unfold elseBranches
  infer_instance

instance : Advancing (ifExpr r) := by
  unfold ifExpr
  infer_instance

instance : Advancing (whileExpr r) := by
  unfold whileExpr
  infer_instance

instance : Advancing (forExpr r) := by
  unfold forExpr
  infer_instance

instance : Advancing (loopExpr r) := by
  unfold loopExpr
  infer_instance

instance : Advancing (blockExpr r) := by
  unfold blockExpr
  infer_instance

instance : Advancing (labelled r) := by
  unfold labelled
  infer_instance

instance (name : String) : Advancing (wordBlock r name) := by
  unfold wordBlock
  infer_instance

instance : Advancing (tryBlock r) := by
  unfold tryBlock
  infer_instance

instance : Advancing (matchExpr r) := by
  unfold matchExpr
  infer_instance

instance : Advancing (blockLike? r) := by
  unfold blockLike?
  infer_instance

instance : Advancing (earlyBoundary r) := by
  unfold earlyBoundary
  repeat' first | infer_instance | refine along_bind fun _ => ?_ | split

instance : Advancing (arm r) := by
  unfold arm
  infer_instance

instance : Advancing (arms r) := by
  unfold arms
  infer_instance

instance : Advancing (fieldValue r) := by
  unfold fieldValue
  infer_instance

instance : Advancing (structFields r) := by
  unfold structFields
  infer_instance

instance (structs : Bool) : Advancing (pathExpr r structs) := by
  unfold pathExpr
  infer_instance

instance : Advancing (arrayContent r) := by
  unfold arrayContent
  infer_instance

instance : Advancing (closureArgument r) := by
  unfold closureArgument
  infer_instance

instance (structs : Bool) : Advancing (closure r structs) := by
  unfold closure
  infer_instance

instance (structs : Bool) : Advancing (breakExpr r structs) := by
  unfold breakExpr
  infer_instance

instance (name : String) : Advancing (jump r name) := by
  unfold jump
  infer_instance

instance : Advancing (asyncBlock r) := by
  unfold asyncBlock
  infer_instance

instance : Advancing builtinForm := by
  unfold builtinForm
  infer_instance

instance (structs : Bool) : Advancing (letExpr r structs) := by
  unfold letExpr
  infer_instance

instance (structs : Bool) : Advancing (atom r structs) := by
  unfold atom
  refine along_bind fun ts => ?_
  repeat refine along_ite inferInstance ?_
  refine along_bind fun shape => ?_
  cases shape <;> infer_instance

instance (structs : Bool) : Advancing (borrow r structs) := by
  unfold borrow
  infer_instance

instance (structs : Bool) : Advancing (unary r structs) := by
  unfold unary
  repeat' first | infer_instance | refine along_bind fun _ => ?_ | split

/-! ### Statements -/

instance : Advancing (binding r) := by
  unfold binding
  infer_instance

instance : Advancing macroForm? := by
  unfold macroForm?
  infer_instance

instance : Advancing (statement r) := by
  unfold statement
  infer_instance

instance : Advancing (statements r) := by
  unfold statements
  infer_instance

/-! ### Signatures -/

instance : Advancing (receiver r) := by
  unfold receiver
  infer_instance

instance : Advancing (typedArgument r) := by
  unfold typedArgument
  infer_instance

instance : Advancing (argumentStep r) := by
  unfold argumentStep
  repeat' first | infer_instance | refine along_bind fun _ => ?_ | split

instance (allowSafe : Bool) : Advancing (signature r allowSafe) := by
  unfold signature
  infer_instance

instance : Advancing visibility := by
  unfold visibility
  dsimp only
  repeat' first | infer_instance | refine along_bind fun _ => ?_ | split

/-! ### Items -/

instance (ts : Trees) : Advancing (spotOf ts) := by
  unfold spotOf
  infer_instance

instance {α : Type} (ts : Trees) : Advancing ((failBefore ts : Parser α)) := by
  unfold failBefore
  infer_instance

instance : Advancing pastVisibility := by
  unfold pastVisibility
  infer_instance

instance : Advancing (body r) := by
  unfold body
  infer_instance

instance {α : Type} (member : Parser α) [Advancing member] : Advancing (members r member) := by
  unfold members
  infer_instance

instance (stop : Trees → Bool) : Advancing (boundsBehindColon r stop) := by
  unfold boundsBehindColon
  infer_instance

instance : Advancing constantName := by
  unfold constantName
  infer_instance

instance : Advancing (constantTail r) := by
  unfold constantTail
  infer_instance

instance (allowDefault : Bool) (place : WherePlace) :
    Advancing (typeDeclaration r allowDefault place) := by
  unfold typeDeclaration
  infer_instance

instance : Advancing macroDeclaration := by
  unfold macroDeclaration
  infer_instance

instance : Advancing (functionItem r) := by
  unfold functionItem
  infer_instance

instance : Advancing (staticItem r) := by
  unfold staticItem
  infer_instance

instance : Advancing (constantItem r) := by
  unfold constantItem
  infer_instance

instance : Advancing (typeAliasItem r) := by
  unfold typeAliasItem
  infer_instance

instance : Advancing (namedField r) := by
  unfold namedField
  infer_instance

instance : Advancing (fieldsInBraces r) := by
  unfold fieldsInBraces
  infer_instance

instance : Advancing (fieldsInParens r) := by
  unfold fieldsInParens
  infer_instance

instance : Advancing (structItem r) := by
  unfold structItem
  infer_instance

instance : Advancing (variant r) := by
  unfold variant
  infer_instance

instance : Advancing (enumItem r) := by
  unfold enumItem
  infer_instance

instance : Advancing (unionItem r) := by
  unfold unionItem
  infer_instance

instance : Advancing (nestedItem r) := by
  unfold nestedItem
  infer_instance

instance : Advancing (moduleItem r) := by
  unfold moduleItem
  infer_instance

instance : Advancing externCrateItem := by
  unfold externCrateItem
  infer_instance

instance : Advancing (useName r) := by
  unfold useName
  infer_instance

instance (rooted : Bool) : Advancing (useTree r rooted) := by
  unfold useTree
  infer_instance

instance : Advancing (useItem r) := by
  unfold useItem
  infer_instance

instance : Advancing (foreignStatic r) := by
  unfold foreignStatic
  infer_instance

instance : Advancing (foreignFunction r) := by
  unfold foreignFunction
  infer_instance

instance : Advancing (foreignMember r) := by
  unfold foreignMember
  infer_instance

instance : Advancing (externBlockItem r) := by
  unfold externBlockItem
  infer_instance

instance (ts : Trees) : Advancing (externItem r ts) := by
  unfold externItem
  infer_instance

instance (attributes : List Attribute) : Advancing (traitMethod r attributes) := by
  unfold traitMethod
  infer_instance

instance (ts : Trees) (attributes : List Attribute) : Advancing (constMember r ts attributes) := by
  unfold constMember
  infer_instance

instance : Advancing (traitMember r) := by
  unfold traitMember
  dsimp only
  repeat' first | infer_instance | refine along_bind fun _ => ?_ | split

instance (keywordAt : Nat) (name : Text) (nameAt : Nat) (parameters : Option Clause) :
    Advancing (traitTail r keywordAt name nameAt parameters) := by
  unfold traitTail
  infer_instance

instance : Advancing (traitAliasTail r) := by
  unfold traitAliasTail
  infer_instance

instance (mayAlias : Bool) : Advancing (traitItem r mayAlias) := by
  unfold traitItem
  infer_instance

instance : Advancing (implFunction r) := by
  unfold implFunction
  infer_instance

instance : Advancing (implConstant r) := by
  unfold implConstant
  infer_instance

instance : Advancing (implMember r) := by
  unfold implMember
  infer_instance

instance : Advancing constImplMark := by
  unfold constImplMark
  infer_instance

instance (first : TypeExpr) (negationAt : Option Nat) :
    Advancing (implTarget r first negationAt) := by
  unfold implTarget
  repeat' first | infer_instance | refine along_bind fun _ => ?_ | split

instance : Advancing (implItem r) := by
  unfold implItem
  infer_instance

instance : Advancing macroDefinition := by
  unfold macroDefinition
  infer_instance

instance : Advancing macroItem := by
  unfold macroItem
  infer_instance

instance (ts : Trees) : Advancing (unsafeItem r ts) := by
  unfold unsafeItem
  infer_instance

instance : Advancing (itemParts r) := by
  unfold itemParts
  infer_instance

instance (first : Nat) (attributes : List Attribute) : Advancing (item r first attributes) := by
  unfold item
  infer_instance

instance : Advancing (file r) := by
  unfold file
  infer_instance

end Grammar

/-! ### Levels -/

theorem Rules.none_advance : Rules.none.Advance := by
  constructor <;> intros <;> dsimp only [Rules.none] <;> infer_instance

theorem Rules.next_advance (r : Rules) [r.Advance] : r.next.Advance := by
  constructor <;> intros <;> dsimp only [Rules.next] <;> infer_instance

instance Rules.level_advance (n : Nat) : (Rules.level n).Advance := by
  induction n with
  | zero => exact Rules.none_advance
  | succ n ih => exact Rules.next_advance (Rules.level n)

instance (tokens : Nat) : (Rules.ofSize tokens).Advance := by
  unfold Rules.ofSize
  infer_instance

end MapperGen.Syntax
