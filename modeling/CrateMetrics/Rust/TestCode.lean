/-
Which items are test code: those marked `#[test]`, and those under a `cfg` whose
predicate holds `test` as a word of its own.
-/

import CrateMetrics.Rust.Tree
import CrateMetrics.Text.Letter

namespace CrateMetrics.Rust

/-- Whether the character is part of a word of a predicate. The quotes of string literals
are, so that their text is set apart from flags. -/
def isPredicateWordPart (c : Char) : Bool :=
  Text.isAlphanumeric c || c == '_' || c == '"'

/-- Whether the word `test` stands between characters that are no part of words. `word`
holds the characters of the word being read, last one first. -/
def hasTestWord (word : List Char) : List Char → Bool
  | [] => word == ['t', 's', 'e', 't']
  | c :: rest =>
      if isPredicateWordPart c then hasTestWord (c :: word) rest
      else word == ['t', 's', 'e', 't'] || hasTestWord [] rest

def Attribute.marksTest (attr : Attribute) : Bool :=
  attr.isNamed "test" ||
    (attr.isNamed "cfg" &&
      match attr.form with
      | .list tokens => hasTestWord [] (Token.textOfAll tokens)
      | .bare | .assigned _ => false)

def isTestCode (attributes : List Attribute) : Bool :=
  attributes.any Attribute.marksTest

end CrateMetrics.Rust
