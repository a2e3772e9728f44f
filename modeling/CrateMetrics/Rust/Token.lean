/-
Tokens of Rust source text. Brackets pair up into groups, so a token is either a leaf or a
group that holds tokens. White space and ordinary comments are gone; a documentation
comment stands as the attribute that it abbreviates.
-/

namespace CrateMetrics.Rust

inductive Bracket where
  | round
  | square
  | curly
  deriving DecidableEq, Repr

inductive Token where
  /-- A word: an identifier, with the `r#` of a raw one, or a keyword. -/
  | word (name : String)
  /-- One punctuation character, and whether another one follows at once. -/
  | punct (char : Char) (joint : Bool)
  /-- A lifetime, without its apostrophe. -/
  | lifetime (name : String)
  | literal (text : String)
  | group (bracket : Bracket) (content : List Token)
  deriving Repr

mutual

def Token.size : Token → Nat
  | .group _ content => Token.sizeOfAll content + 2
  | .word _ | .punct _ _ | .lifetime _ | .literal _ => 1

def Token.sizeOfAll : List Token → Nat
  | [] => 0
  | token :: rest => token.size + Token.sizeOfAll rest

end

def Bracket.text : Bracket → Char × Char
  | .round => ('(', ')')
  | .square => ('[', ']')
  | .curly => ('\x7b', '\x7d')

mutual

/-- The characters of a token, with a blank between any two tokens inside of a group. -/
def Token.text : Token → List Char
  | .word name => name.toList
  | .punct char _ => [char]
  | .lifetime name => '\'' :: name.toList
  | .literal text => text.toList
  | .group bracket content => bracket.text.1 :: Token.textOfAll content ++ [bracket.text.2]

def Token.textOfAll : List Token → List Char
  | [] => []
  | token :: rest => token.text ++ ' ' :: Token.textOfAll rest

end

end CrateMetrics.Rust
