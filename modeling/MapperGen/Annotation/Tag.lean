import MapperGen.Text.Basic

/-!
# Tagged lines

A line of documentation is an annotation if it starts with the tag. The marker among them makes a
trait a mapper.
-/

namespace MapperGen.Annotation

open Text

/-- What every annotation starts with. -/
def tag : Text := "+mapwright:".toList

/-- The annotation that makes a trait a mapper. -/
def mapperMarker : Text := "+mapwright:mapper".toList

/-- Is the line an annotation? Blanks around it do not count. -/
def isTagged (line : Text) : Bool := startsWith (trim line) tag

/-- Is the line the marker? A colon and anything may follow it. -/
def isMapperMarker (line : Text) : Bool :=
  match dropHead? mapperMarker (trim line) with
  | some rest => rest.isEmpty || startsWith rest [':']
  | none => false

end MapperGen.Annotation
