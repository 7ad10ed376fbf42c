import MapperGen.Output.Render
import MapperGen.Proofs.Traversal

/-!
# Pieces of a rendered text

A rendered text is a header and the imports, and behind them the pieces of its mappers: struct
literals with the lines of their fields, and the code around them.
-/

namespace MapperGen

/-! ### Pieces -/

/-- A part of a rendered text: code without fields, or a struct literal. -/
inductive Piece where
  | code (t : Text)
  | literal (head : Text) (directives : List Directive)
  deriving DecidableEq, Repr

/-- The lines of the fields in a struct literal. -/
def entryLines (directives : List Directive) : Text :=
  directives.flatMap fun d => indented 3 d.entry

/-- The text of a piece. -/
def Piece.text : Piece → Text
  | code t => t
  | literal head directives =>
    if directives.isEmpty then indented 2 (head ++ " \x7b\x7d".toList)
    else indented 2 (head ++ " \x7b".toList) ++ entryLines directives ++ indented 2 ['\x7d']

/-- The text of pieces. -/
def Piece.join (pieces : List Piece) : Text := pieces.flatMap Piece.text

/-- The pieces of a conversion's method. -/
def Conversion.pieces (c : Conversion) : Except HeadFault (List Piece) :=
  (literalHead (ownedType c.result)).map fun head =>
    [.code (indented 1 c.head), .literal head c.directives, .code (indented 1 ['\x7d'])]

/-- The pieces of a mapper's conversion. -/
def Mapper.conversionPieces (m : Mapper) (c : Conversion) : Except TemplateFault (List Piece) :=
  c.pieces.mapError fun fault => ⟨m.name, c.name, fault⟩

/-- The pieces of a mapper. -/
def Mapper.pieces (m : Mapper) : Except TemplateFault (List Piece) :=
  if m.conversions.isEmpty then
    .ok [.code (m.structLines ++ line ("impl ".toList ++ m.structName ++ " \x7b\x7d".toList))]
  else
    (m.conversions.mapM m.conversionPieces).map fun methods =>
      .code (m.structLines ++ line "#[allow(unused_variables)]".toList ++
          line ("impl ".toList ++ m.structName ++ " \x7b".toList)) ::
        List.intercalate [.code (line [])] methods ++ [.code (line ['\x7d'])]

/-- The pieces of a spec. -/
def Spec.pieces (s : Spec) : Except TemplateFault (List Piece) :=
  (s.mappers.mapM Mapper.pieces).map fun mappers => mappers.flatMap (.code (line []) :: ·)

/-- What stands in front of the pieces. -/
def Spec.front (s : Spec) (imports : List Text) : Text :=
  header s.moduleName ++ importLines imports

/-! ### The text of the pieces -/

theorem Piece.join_append (ps qs : List Piece) : join (ps ++ qs) = join ps ++ join qs :=
  List.flatMap_append

theorem Piece.join_intercalate (separator : List Piece) (methods : List (List Piece)) :
    join (separator.intercalate methods) = Text.joinWith (join separator) (methods.map join) := by
  induction methods with
  | nil => rfl
  | cons method rest ih =>
    cases rest with
    | nil => rw [List.intercalate_singleton]; rfl
    | cons next rest =>
      rw [List.intercalate_cons_cons, join_append, join_append, ih]
      rfl

theorem Conversion.render_eq (c : Conversion) : c.render = c.pieces.map Piece.join := by
  rw [render, pieces]
  cases literalHead (ownedType c.result) with
  | error fault => rfl
  | ok head => simp [Except.map, Piece.join, Piece.text, body, entryLines]

theorem Mapper.renderConversion_eq (m : Mapper) (c : Conversion) :
    m.renderConversion c = (m.conversionPieces c).map Piece.join := by
  rw [renderConversion, conversionPieces, Conversion.render_eq]
  cases c.pieces <;> rfl

theorem Mapper.render_eq (m : Mapper) : m.render = m.pieces.map Piece.join := by
  rw [render, pieces]
  split
  · simp [Except.map, Piece.join, Piece.text]
  · rw [funext m.renderConversion_eq, ← map_mapM]
    cases m.conversions.mapM m.conversionPieces with
    | error fault => rfl
    | ok methods =>
      have hline : Piece.join [.code (line [])] = line [] := List.append_nil _
      have hjoined := Piece.join_intercalate [.code (line [])] methods
      rw [hline] at hjoined
      simp only [Except.map, ← hjoined, Except.ok.injEq]
      simp [Piece.join, Piece.text]

/-- A rendered text is that of its pieces. -/
theorem Spec.render_eq (s : Spec) (imports : List Text) :
    s.render imports = s.pieces.map fun pieces => s.front imports ++ Piece.join pieces := by
  rw [render, pieces, front, funext Mapper.render_eq, ← map_mapM]
  cases s.mappers.mapM Mapper.pieces with
  | error fault => rfl
  | ok mappers =>
    have hmappers : Piece.join (mappers.flatMap (.code (line []) :: ·)) =
        (mappers.map Piece.join).flatMap (line [] ++ ·) := by
      rw [Piece.join, List.flatMap_assoc, List.flatMap_map]
      rfl
    simp only [Except.map, hmappers]

end MapperGen
