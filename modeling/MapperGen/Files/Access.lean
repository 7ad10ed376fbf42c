import MapperGen.Text.Utf8

/-!
# Access to files

What a command may do with files, in any monad that offers it: read one, write one, and ask whether
a path leads to one.
-/

namespace MapperGen

open Utf8 (Bytes)

/-- Why a file cannot be read or written. -/
inductive FileFault where
  | notFound
  | notDirectory
  | isDirectory
  | nameTooLong
  | holdsNul
  | notText
  | other (message : Text)
  deriving DecidableEq, Repr

/-- The report of a fault. -/
def FileFault.display : FileFault → Text
  | notFound => "No such file or directory (os error 2)".toList
  | notDirectory => "Not a directory (os error 20)".toList
  | isDirectory => "Is a directory (os error 21)".toList
  | nameTooLong => "File name too long (os error 36)".toList
  | holdsNul => "file name contained an unexpected NUL byte".toList
  | notText => "stream did not contain valid UTF-8".toList
  | other message => message

/-- Access to files by their paths. -/
class FileAccess (m : Type → Type) where
  readFile : (path : Text) → m (Except FileFault Bytes)
  writeFile : (path : Text) → (content : Bytes) → m (Except FileFault Unit)
  isFile : (path : Text) → m Bool

/-- The text in bytes that were read. -/
def textOf : Except FileFault Bytes → Except FileFault Text
  | .error fault => .error fault
  | .ok bytes =>
    match Utf8.decode bytes with
    | .ok text => .ok text
    | .error _ => .error .notText

/-- Reads a file that holds text. -/
def readText {m : Type → Type} [Monad m] [FileAccess m] (path : Text) :
    m (Except FileFault Text) :=
  textOf <$> FileAccess.readFile path

/-- Writes a text to a file. -/
def writeText {m : Type → Type} [FileAccess m] (path text : Text) : m (Except FileFault Unit) :=
  FileAccess.writeFile path (Utf8.encode text)

end MapperGen
