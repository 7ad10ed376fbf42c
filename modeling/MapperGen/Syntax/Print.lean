import MapperGen.Syntax.Tree

/-!
# Printing token trees

The printed form of tokens whose layout is not known: one space between any two tokens, except
behind punctuation that is joint with the next character. Brackets hug their content, braces keep
one space on each side of it.
-/

namespace MapperGen.Syntax

/-! ### The literal of a documentation comment -/

/-- A character of a written text literal. -/
def escapeChar (c : Char) : Text :=
  if c = '\n' then ['\\', 'n']
  else if c = '\r' then ['\\', 'r']
  else if c = '\t' then ['\\', 't']
  else if c = '\\' then ['\\', '\\']
  else if c = '"' then ['\\', '"']
  else if c = '\x00' then ['\\', '0']
  else if c.toNat < 0x20 || (0x7F ≤ c.toNat && c.toNat < 0xA0) then
    ['\\', 'u', '\x7b'] ++ Nat.toDigits 16 c.toNat ++ ['\x7d']
  else [c]

/-- The literal that denotes a text. -/
def quoteText (t : Text) : Text := '"' :: t.flatMap escapeChar ++ ['"']

/-- The lexeme of the literal at an index. -/
def Tokens.lexemeAt (s : Tokens) (index : Nat) : Text :=
  match s.placed[index]?.map Placed.token with
  | some (.literal lexeme) => lexeme
  | some (.comment content) => quoteText content
  | _ => []

/-! ### Trees -/

/-- Joins printed trees; `true` marks one that no space follows. -/
def spaced : List (Bool × Text) → Text
  | [] => []
  | [(_, t)] => t
  | (glued, t) :: rest => t ++ (if glued then [] else [' ']) ++ spaced rest

/-- Puts printed content between its brackets. -/
def enclose (d : Delimiter) (content : Text) : Text :=
  match d with
  | .brace => "\x7b ".toList ++ content ++ (if content.isEmpty then ['}'] else [' ', '}'])
  | d => d.opening :: content ++ [d.closing]

mutual

/-- Prints one tree, and says whether the next one follows without a space. -/
def Tree.print (lexemeAt : Nat → Text) : Tree → Bool × Text
  | .ident name _ => (false, name)
  | .punct c joint _ => (joint, [c])
  | .literal _ index => (false, lexemeAt index)
  | .group d content _ _ => (false, enclose d (spaced (Tree.printEach lexemeAt content)))

def Tree.printEach (lexemeAt : Nat → Text) : List Tree → List (Bool × Text)
  | [] => []
  | tree :: trees => tree.print lexemeAt :: Tree.printEach lexemeAt trees

end

def Tokens.print (s : Tokens) (trees : List Tree) : Text :=
  spaced (Tree.printEach s.lexemeAt trees)

end MapperGen.Syntax
