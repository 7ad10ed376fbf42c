import MapperGen.Syntax.Scan
import MapperGen.Syntax.Location

/-!
# Token trees

Tokens nested by their brackets. A tree names its tokens by their index in the flat sequence and
holds no text of quoted literals and no positions; those stay in the sequence. So whatever is
decided on trees alone depends neither on layout nor on what text literals and comments say.
-/

namespace MapperGen.Syntax

open MapperGen.Text

/-- What the grammar may know of a literal. -/
inductive Literal where
  | text
  | number (lexeme : Text)
  | other
  deriving DecidableEq, Repr

/-- The kind of a literal by its lexeme. -/
def Literal.ofLexeme (lexeme : Text) : Literal :=
  if isTextLiteral lexeme then .text
  else if isNumber lexeme then .number lexeme
  else .other

inductive Tree where
  | ident (name : Text) (index : Nat)
  | punct (char : Char) (joint : Bool) (index : Nat)
  | literal (kind : Literal) (index : Nat)
  | group (delimiter : Delimiter) (content : List Tree) (opening closing : Nat)

/-- The index of the first token. -/
def Tree.first : Tree → Nat
  | .ident _ i | .punct _ _ i | .literal _ i | .group _ _ i _ => i

/-- The index of the last token. -/
def Tree.last : Tree → Nat
  | .ident _ i | .punct _ _ i | .literal _ i | .group _ _ _ i => i

/-! ### Faults of the token level -/

/-- Why a text has no token trees. Each fault names the character it is found at. -/
inductive TokenFault where
  | unreadable (offset : Nat)
  | unmatched (offset : Nat)
  | unclosed (offset : Nat)
  deriving DecidableEq, Repr

def TokenFault.offset : TokenFault → Nat
  | .unreadable n | .unmatched n | .unclosed n => n

/-! ### Nesting -/

/-- A group whose closing bracket has not come yet, with the trees before it, last one first. -/
structure OpenGroup where
  delimiter : Delimiter
  index : Nat
  offset : Nat
  before : List Tree

/-- The tree of a token that nests nothing. -/
def leaf? (index : Nat) : Token → Option Tree
  | .ident name => some (.ident name index)
  | .punct c joint => some (.punct c joint index)
  | .literal lexeme => some (.literal (.ofLexeme lexeme) index)
  | .comment _ => some (.literal .text index)
  | .opening _ | .closing _ => none

/-- Nests tokens. `done` are the trees of the innermost open group, last one first; `stuck` is
where the tokens end although the text does not. -/
def nest (stuck : Option Nat) (groups : List OpenGroup) (done : List Tree) (index : Nat) :
    List Placed → Except TokenFault (List Tree)
  | [] =>
    match stuck, groups with
    | some offset, _ => .error (.unreadable offset)
    | none, group :: _ => .error (.unclosed group.offset)
    | none, [] => .ok done.reverse
  | ⟨token, start, _⟩ :: rest =>
    match token with
    | .opening d => nest stuck (⟨d, index, start, done⟩ :: groups) [] (index + 1) rest
    | .closing d =>
      match groups with
      | [] => .error (.unmatched start)
      | group :: groups =>
        if group.delimiter = d then
          nest stuck groups (.group d done.reverse group.index index :: group.before) (index + 1)
            rest
        else .error (.unmatched start)
    | token => nest stuck groups ((leaf? index token).toList ++ done) (index + 1) rest

/-! ### Read texts -/

/-- A text with its tokens and their trees. -/
structure Tokens where
  text : Text
  placed : Array Placed
  trees : List Tree

/-- Scans a text and nests its tokens. -/
def Tokens.read (t : Text) : Except TokenFault Tokens :=
  let (placed, stuck) := scan t
  (nest stuck [] [] 0 placed).map fun trees => ⟨t, placed.toArray, trees⟩

namespace Tokens

/-- The offset of the first character of a token. -/
def startOf (s : Tokens) (index : Nat) : Nat := (s.placed[index]?.map Placed.start).getD 0

/-- The offset behind the last character of a token. -/
def stopOf (s : Tokens) (index : Nat) : Nat := (s.placed[index]?.map Placed.stop).getD 0

/-- Where a token begins. -/
def location (s : Tokens) (index : Nat) : Location := Location.ofOffset s.text (s.startOf index)

/-- What the text literal at an index says; a documentation comment says its content. -/
def textAt (s : Tokens) (index : Nat) : Option Text :=
  match s.placed[index]?.map Placed.token with
  | some (.literal lexeme) => textValue? lexeme
  | some (.comment content) => some content
  | _ => none

end Tokens
end MapperGen.Syntax
