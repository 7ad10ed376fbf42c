import MapperGen.Syntax.Grammar.File

/-!
# Heads of struct literals

A result type is built by a struct literal, so it has to be a plain path, and generic arguments need
`::` before them.
-/

namespace MapperGen

open Syntax

/-- Why a type heads no struct literal. -/
inductive HeadFault where
  | notType (type : Text) (fault : Fault)
  | notPath (type : Text)
  deriving DecidableEq, Repr

def HeadFault.message : HeadFault → Text
  | notType type fault =>
    "result type `".toList ++ type ++ "` is not a type: ".toList ++ fault.cause.message
  | notPath type =>
    "result type `".toList ++ type ++ "` cannot be built with a struct expression".toList

/-- Puts `::` before the first `<` unless it is there. -/
def withTurbofish (type : Text) : Text :=
  let before := Text.trimEnd (type.takeWhile (· != '<'))
  let behind := type.dropWhile (· != '<')
  if behind.isEmpty || "::".toList.isSuffixOf before then type
  else before ++ "::".toList ++ behind

/-- The head of the struct literal that builds a type. -/
def literalHead (type : Text) : Except HeadFault Text :=
  match TypeExpr.read type with
  | .error fault => .error (.notType type fault)
  | .ok (.path _ false _) => .ok (withTurbofish type)
  | .ok _ => .error (.notPath type)

end MapperGen
