import MapperGen.Text.Basic

/-!
# Paths

A path is a text whose parts stand between slashes. Empty parts and `.` count for nothing, except a
`.` at the very start. What is left of a path is always a part of its text, so a path keeps the
spelling it was given.
-/

namespace MapperGen.Path

open Text

/-! ### Parts -/

/-- Does the path start at the root? -/
def isAbsolute (path : Text) : Bool := path.head? == some '/'

/-- What stands before the parts: the root, a leading `.`, or nothing. -/
def anchor : Text → Text
  | '/' :: _ => ['/']
  | ['.'] => ['.']
  | '.' :: '/' :: _ => ['.']
  | _ => []

/-- The parts behind the anchor, all of them. -/
def rawParts (path : Text) : List Text := splitOn '/' (path.drop (anchor path).length)

/-- A part that counts for nothing. -/
def isVoid (part : Text) : Bool := part.isEmpty || part == ['.']

/-- The parts behind the anchor from the last one that counts, in reverse order. -/
def partsFromLast (path : Text) : List Text := (rawParts path).reverse.dropWhile isVoid

/-! ### File names -/

/-- The last part, if it names something below its parent. -/
def fileName? (path : Text) : Option Text :=
  match partsFromLast path with
  | part :: _ => if part == ['.', '.'] then none else some part
  | [] => none

/-- Cuts a text at its last point. -/
def cutAtLastPoint (name : Text) : Option (Text × Text) :=
  let behind := (name.reverse.takeWhile (· != '.')).reverse
  if behind.length = name.length then none
  else some (name.take (name.length - behind.length - 1), behind)

/-- A name without its extension. A point at the start begins no extension. -/
def stemOf (name : Text) : Text :=
  match cutAtLastPoint name with
  | some (before, _) => if before.isEmpty then name else before
  | none => name

/-- The file name without its extension. -/
def stem? (path : Text) : Option Text := (fileName? path).map stemOf

/-! ### Parents and children -/

/-- The path without its last part; the root and the empty path have no parent. -/
def parent? (path : Text) : Option Text :=
  match partsFromLast path with
  | _ :: before => some (anchor path ++ joinWith ['/'] (before.dropWhile isVoid).reverse)
  -- a lone point lies in the empty path
  | [] => if anchor path == ['.'] then some [] else none

/-- A path seen from a directory. An absolute path stays as it is. -/
def join (directory path : Text) : Text :=
  if isAbsolute path then path
  else if directory.isEmpty || directory.getLast? == some '/' then directory ++ path
  else directory ++ '/' :: path

/-- A path seen from the directory of another one. -/
def beside (sibling path : Text) : Text :=
  match parent? sibling with
  | some directory => join directory path
  | none => path

end MapperGen.Path
