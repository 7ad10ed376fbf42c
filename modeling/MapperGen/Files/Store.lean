import MapperGen.Files.Access
import MapperGen.Files.Path

/-!
# Stores

A store maps places to the contents of files. A place is the list of names that lead to it from the
root. Directories are not kept: a place is one if the working directory or a file lies at it or
below it. Files may be replaced and added to directories, so the set of directories never changes.
-/

namespace MapperGen

open Utf8 (Bytes)

/-- The names that lead from the root to a file or directory. -/
abbrev Place := List Text

/-- A working directory, and files with their contents. No place occurs twice. -/
structure Store where
  workingDirectory : Place
  files : List (Place × Bytes)
  deriving DecidableEq, Repr

namespace Store

/-! ### Contents -/

/-- The content of the file at a place. -/
def content? (s : Store) (place : Place) : Option Bytes := s.files.lookup place

/-- Does the place lie at or below another one? -/
def liesWithin (place directory : Place) : Bool := directory.isPrefixOf place

/-- Does the place lie below another one? -/
def liesBelow (place directory : Place) : Bool :=
  liesWithin place directory && place.length != directory.length

def isDirectory (s : Store) (place : Place) : Bool :=
  liesWithin s.workingDirectory place || s.files.any fun (file, _) => liesBelow file place

/-- Gives the file at a place a content. -/
def put (s : Store) (place : Place) (content : Bytes) : Store :=
  if (s.content? place).isSome then
    { s with files := s.files.map fun f => if f.1 = place then (f.1, content) else f }
  else { s with files := s.files ++ [(place, content)] }

/-! ### Following paths -/

/-- The most bytes that a name may have. -/
def longestName : Nat := 255

/-- The most bytes that a path may have. -/
def longestPath : Nat := 4095

def byteCount (t : Text) : Nat := (Utf8.encode t).length

/-- Goes from a directory to where a name leads. -/
def child (place : Place) (name : Text) : Except FileFault Place :=
  if Path.isVoid name then .ok place
  else if name = ['.', '.'] then .ok place.dropLast
  else if longestName < byteCount name then .error .nameTooLong
  else .ok (place ++ [name])

/-- Goes from a directory through names that lead to directories. -/
def descend (s : Store) (place : Place) : List Text → Except FileFault Place
  | [] => .ok place
  | name :: names =>
    match child place name with
    | .error fault => .error fault
    | .ok next =>
      if s.isDirectory next then descend s next names
      else if (s.content? next).isSome then .error .notDirectory
      else .error .notFound

/-- Where a path leads: the directory that holds the last name of the path, that name, and whether
a slash follows it. -/
structure Target where
  directory : Place
  name : Text
  slash : Bool

/-- Follows a path up to its last name. -/
def follow (s : Store) (path : Text) : Except FileFault Target :=
  if path.contains (Char.ofNat 0) then .error .holdsNul
  else if path.isEmpty then .error .notFound
  else if longestPath < byteCount path then .error .nameTooLong
  else
    let start := if Path.isAbsolute path then [] else s.workingDirectory
    let reversed := (Text.splitOn '/' path).reverse
    let names := reversed.dropWhile (·.isEmpty)
    (s.descend start names.tail.reverse).map fun directory =>
      ⟨directory, names.headD [], names.length != reversed.length⟩

/-- Does a name name nothing below its directory? -/
def isRelative (name : Text) : Bool := Path.isVoid name || name == ['.', '.']

/-! ### Files -/

/-- The place of the file or directory that a path leads to. -/
def locate (s : Store) (path : Text) : Except FileFault Place :=
  match s.follow path with
  | .error fault => .error fault
  | .ok target =>
    match child target.directory target.name with
    | .error fault => .error fault
    | .ok place =>
      if s.isDirectory place then .ok place
      else if (s.content? place).isNone then .error .notFound
      else if target.slash then .error .notDirectory
      else .ok place

/-- The content of the file that a path leads to. -/
def read (s : Store) (path : Text) : Except FileFault Bytes :=
  match s.locate path with
  | .error fault => .error fault
  | .ok place =>
    match s.content? place with
    | some bytes => .ok bytes
    | none => .error .isDirectory

/-- The place that writing to a path changes. -/
def outputPlace (s : Store) (path : Text) : Except FileFault Place :=
  match s.follow path with
  | .error fault => .error fault
  | .ok target =>
    if isRelative target.name || target.slash then .error .isDirectory
    else
      match child target.directory target.name with
      | .error fault => .error fault
      | .ok place => if s.isDirectory place then .error .isDirectory else .ok place

/-- Writes a content to the file that a path leads to; the directory has to be there. A failure
changes nothing. -/
def write (s : Store) (path : Text) (content : Bytes) : Except FileFault Unit × Store :=
  match s.outputPlace path with
  | .error fault => (.error fault, s)
  | .ok place => (.ok (), s.put place content)

def isFile (s : Store) (path : Text) : Bool :=
  match s.locate path with
  | .error _ => false
  | .ok place => (s.content? place).isSome

end Store

instance : FileAccess (StateM Store) where
  readFile path := fun s => (s.read path, s)
  writeFile path content := fun s => s.write path content
  isFile path := fun s => (s.isFile path, s)

end MapperGen
