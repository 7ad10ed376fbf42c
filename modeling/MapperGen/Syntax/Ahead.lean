import MapperGen.Syntax.Tree

/-!
# Looking ahead

Tests on the trees that come next. None of them consumes anything. An operator is found also where
it is only the beginning of a longer one, so a longer operator is always asked for first.
-/

namespace MapperGen.Syntax

open MapperGen.Text

/-- Token trees still to be read. -/
abbrev Trees := List Tree

namespace Trees

/-! ### Operators, words, groups -/

/-- Reads the operator `symbol`: all its characters but the last have to be joint. -/
def operator? : Text → Trees → Option (List Tree × Trees)
  | [], ts => some ([], ts)
  | c :: cs, .punct d joint i :: ts =>
    if c = d && (joint || cs.isEmpty) then
      (operator? cs ts).map fun (read, rest) => (.punct c (!cs.isEmpty) i :: read, rest)
    else none
  | _ :: _, _ => none

/-- The operator `symbol` comes next. -/
def atOp (symbol : String) (ts : Trees) : Bool := (operator? symbol.toList ts).isSome

def atOneOf (symbols : List String) (ts : Trees) : Bool := symbols.any (ts.atOp ·)

def atWord (name : String) : Trees → Bool
  | .ident n _ :: _ => n == name.toList
  | _ => false

def atOneWord (names : List String) (ts : Trees) : Bool := names.any (ts.atWord ·)

/-- A group in the brackets `d` comes next. -/
def atGroup (d : Delimiter) : Trees → Bool
  | .group e _ _ _ :: _ => d == e
  | _ => false

abbrev atParen (ts : Trees) : Bool := ts.atGroup .parenthesis

abbrev atBracket (ts : Trees) : Bool := ts.atGroup .bracket

abbrev atBrace (ts : Trees) : Bool := ts.atGroup .brace

/-! ### Identifiers, lifetimes, literals -/

/-- Words that are no identifiers. -/
def keywords : List Text :=
  ["_", "abstract", "as", "async", "await", "become", "box", "break", "const", "continue", "crate",
    "do", "dyn", "else", "enum", "extern", "false", "final", "fn", "for", "if", "impl", "in", "let",
    "loop", "macro", "match", "mod", "move", "mut", "override", "priv", "pub", "ref", "return",
    "Self", "self", "static", "struct", "super", "trait", "true", "try", "type", "typeof", "unsafe",
    "unsized", "use", "virtual", "where", "while", "yield"].map String.toList

/-- May the word name something? -/
def isName (word : Text) : Bool := !keywords.contains word

def atAnyWord : Trees → Bool
  | .ident _ _ :: _ => true
  | _ => false

def atIdent : Trees → Bool
  | .ident n _ :: _ => isName n
  | _ => false

def atLifetime : Trees → Bool
  | .punct '\'' true _ :: .ident _ _ :: _ => true
  | _ => false

def atTextLiteral : Trees → Bool
  | .literal .text _ :: _ => true
  | _ => false

/-- A literal comes next: a literal token, a truth value or a negative number. -/
def atLiteral : Trees → Bool
  | .literal _ _ :: _ => true
  | .punct '-' _ _ :: .literal (.number _) _ :: _ => true
  | ts => ts.atWord "true" || ts.atWord "false"

/-! ### Further ahead -/

/-- The trees behind the next one; a lifetime counts as one tree. -/
def behind : Trees → Trees
  | .punct '\'' true _ :: .ident _ _ :: ts => ts
  | _ :: ts => ts
  | [] => []

abbrev behindTwo (ts : Trees) : Trees := (behind ts).behind

/-- A path may start here: an identifier, one of the path words, or `::`. -/
def atPathHead (ts : Trees) : Bool :=
  ts.atIdent || ts.atOneWord ["self", "super", "crate"] || ts.atOp "::"

/-- A single colon, not the beginning of `::`. -/
def atColon (ts : Trees) : Bool := ts.atOp ":" && !ts.atOp "::"

/-- A generic parameter list rather than a qualified path starts at this `<`. -/
def atGenerics (ts : Trees) : Bool :=
  ts.atOp "<" &&
    let second := behind ts
    let third := behindTwo ts
    (second.atOp ">" || second.atOp "#" ||
      ((second.atLifetime || second.atIdent) &&
        (third.atOneOf [">", ",", "="] || third.atColon)) ||
      second.atWord "const")

end Trees
end MapperGen.Syntax
