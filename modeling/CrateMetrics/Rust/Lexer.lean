/-
Reading Rust source text into tokens. The text is cut into pieces from left to right, and
the brackets among them are paired up. Text that is no token, a literal without end or an
unmatched bracket make the whole text unreadable.
-/

import CrateMetrics.Rust.Number
import CrateMetrics.Rust.Token
import CrateMetrics.Text.Blank
import CrateMetrics.Text.Quoted

namespace CrateMetrics.Rust.Lexer

inductive Piece where
  | opening (bracket : Bracket)
  | closing (bracket : Bracket)
  | leaf (token : Token)

def startsWith : List Char → List Char → Bool
  | [], _ => true
  | _ :: _, [] => false
  | c :: rest, d :: text => c == d && startsWith rest text

/-- The text after the end of a line comment, its line feed kept, and the line itself. A
carriage return before the line feed belongs to neither. -/
def takeLine : List Char → List Char × List Char
  | [] => ([], [])
  | '\n' :: rest => ([], '\n' :: rest)
  | '\r' :: '\n' :: rest => ([], '\n' :: rest)
  | c :: rest =>
      let (line, after) := takeLine rest
      (c :: line, after)

/-- The length of a block comment from so many characters on; comments nest. -/
def commentLength? (depth length : Nat) : List Char → Option Nat
  | '/' :: '*' :: rest => commentLength? (depth + 1) (length + 2) rest
  | '*' :: '/' :: rest =>
      if depth ≤ 1 then some (length + 2) else commentLength? (depth - 1) (length + 2) rest
  | _ :: rest => commentLength? depth (length + 1) rest
  | [] => none

def startsLineComment (text : List Char) : Bool :=
  startsWith ['/', '/'] text && !startsWith ['/', '/', '!'] text &&
    (!startsWith ['/', '/', '/'] text || startsWith ['/', '/', '/', '/'] text)

def startsBlockComment (text : List Char) : Bool :=
  startsWith ['/', '*'] text && !startsWith ['/', '*', '!'] text &&
    (!startsWith ['/', '*', '*'] text || startsWith ['/', '*', '*', '*'] text ||
      startsWith ['/', '*', '*', '/'] text)

/-- Drops one blank character or ordinary comment; `none` if there is none. -/
def skipOne? (text : List Char) : Option (List Char) :=
  if startsLineComment text then some (takeLine text).2
  else if startsBlockComment text then
    (commentLength? 0 0 text).map (fun length => text.drop length)
  else
    match text with
    | c :: rest => if Text.isSourceBlank c then some rest else none
    | [] => none

def skipBlanks : Nat → List Char → List Char
  | 0, text => text
  | tries + 1, text =>
      match skipOne? text with
      | some rest => skipBlanks tries rest
      | none => text

/-- The text of a documentation comment, whether it documents what encloses it, and the
text after it. -/
def documentation? (text : List Char) : Option (List Char × Bool × List Char) :=
  let block (inner : Bool) :=
    (commentLength? 0 0 text).map (fun length =>
      ((text.take (length - 2)).drop 3, inner, text.drop length))
  match text with
  | '/' :: '/' :: '!' :: rest =>
      let (line, after) := takeLine rest
      some (line, true, after)
  | '/' :: '/' :: '/' :: rest =>
      if startsWith ['/'] rest then none
      else
        let (line, after) := takeLine rest
        some (line, false, after)
  | '/' :: '*' :: '!' :: _ => block true
  | '/' :: '*' :: '*' :: rest => if startsWith ['*'] rest then none else block false
  | _ => none

def returnsAreLineEnds : List Char → Bool
  | [] => true
  | '\r' :: rest => startsWith ['\n'] rest && returnsAreLineEnds rest
  | _ :: rest => returnsAreLineEnds rest

/-- Text as it stands in a string literal. A null character before an octal digit is written
so that the digit does not belong to it. -/
def literalText : List Char → List Char
  | [] => []
  | [c] => Text.quotedChar c
  | c :: next :: rest =>
      let shown :=
        if c.toNat = 0 && '0' ≤ next && next ≤ '7' then ['\\', 'x', '0', '0']
        else Text.quotedChar c
      shown ++ literalText (next :: rest)

def documentationPieces (comment : List Char) (inner : Bool) : List Piece :=
  let literal := String.ofList ('"' :: literalText comment ++ ['"'])
  .leaf (.punct '#' false) :: (if inner then [.leaf (.punct '!' false)] else []) ++
    [.leaf (.group .square [.word "doc", .punct '=' false, .literal literal])]

def quotedLength? (text : List Char) : Option Nat :=
  match text with
  | '"' :: rest => Quoting.text.stringLength? 1 .plain rest
  | 'r' :: rest => (Quoting.text.hashedLength? rest).map (· + 1)
  | '\'' :: rest => (Quoting.text.charLength? rest).map (· + 1)
  | 'b' :: '"' :: rest => Quoting.bytes.stringLength? 2 .plain rest
  | 'b' :: 'r' :: rest => (Quoting.bytes.hashedLength? rest).map (· + 2)
  | 'b' :: '\'' :: rest => (Quoting.bytes.charLength? rest).map (· + 2)
  | 'c' :: '"' :: rest => Quoting.nulFree.stringLength? 2 .plain rest
  | 'c' :: 'r' :: rest => (Quoting.nulFree.hashedLength? rest).map (· + 2)
  | _ => none

def literalLength? (text : List Char) : Option Nat :=
  match quotedLength? text with
  | some length => some (length + Number.wordLength (text.drop length))
  | none => Number.length? text

def anyWord? (text : List Char) : Option (List Char) :=
  let raw := startsWith ['r', '#'] text
  let bare := if raw then text.drop 2 else text
  let word := bare.take (Number.wordLength bare)
  if word.isEmpty then none
  else if !raw then some word
  else if [['_'], "super".toList, "self".toList, "Self".toList, "crate".toList].contains word
  then none
  else some ('r' :: '#' :: word)

/-- The beginnings of quoted literals, which are never words. -/
def literalStarts : List (List Char) :=
  ["r\"", "r#\"", "r##", "b\"", "b'", "br\"", "br#", "c\"", "cr\"", "cr#"].map String.toList

def word? (text : List Char) : Option (List Char) :=
  if literalStarts.any (fun start => startsWith start text) then none else anyWord? text

/-- Whether a punctuation character starts the text. Comments start with none. -/
def startsWithPunct (text : List Char) : Bool :=
  !startsWith ['/', '/'] text && !startsWith ['/', '*'] text &&
    match text with
    | c :: _ => "~!@#$%^&*-=+|;:,<.>/?'".toList.contains c
    | [] => false

/-- The piece that an apostrophe starts, given what follows it, and the text after the piece.
A word has to follow that nothing makes a character literal or a prefix. Where the word is the
start of a literal, the apostrophe stands alone. -/
def afterApostrophe? (rest : List Char) : Option (Piece × List Char) :=
  match anyWord? rest with
  | none => none
  | some word =>
      let after := rest.drop word.length
      if startsWith ['\''] after || (startsWith ['#'] after && !startsWith ['r', '#'] rest) then
        none
      else if (literalLength? rest).isSome then some (.leaf (.punct '\'' true), rest)
      else if (word? rest).isNone then none
      else some (.leaf (.lifetime (String.ofList word)), after)

def brokenLiteral : List Char :=
  "(/*ERROR*/)".toList

def piece? (text : List Char) : Option (Piece × List Char) :=
  match text with
  | '(' :: rest =>
      if startsWith brokenLiteral text then
        some (.leaf (.literal (String.ofList brokenLiteral)), text.drop brokenLiteral.length)
      else some (.opening .round, rest)
  | '[' :: rest => some (.opening .square, rest)
  | '\x7b' :: rest => some (.opening .curly, rest)
  | ')' :: rest => some (.closing .round, rest)
  | ']' :: rest => some (.closing .square, rest)
  | '\x7d' :: rest => some (.closing .curly, rest)
  | [] => none
  | first :: rest =>
      match literalLength? text with
      | some length =>
          some (.leaf (.literal (String.ofList (text.take length))), text.drop length)
      | none =>
          if startsWithPunct text then
            if first = '\'' then afterApostrophe? rest
            else some (.leaf (.punct first (startsWithPunct rest)), rest)
          else
            (word? text).map (fun word =>
              (.leaf (.word (String.ofList word)), text.drop word.length))

/-- Cuts text into pieces. Each piece and each blank takes a step, so there have to be more
steps than characters. -/
def pieces? : Nat → List Char → Option (List Piece)
  | 0, _ => none
  | steps + 1, text =>
      let text := skipBlanks steps text
      if text.isEmpty then some []
      else
        match documentation? text with
        | some (comment, inner, rest) =>
            if returnsAreLineEnds comment then
              (pieces? steps rest).map (documentationPieces comment inner ++ ·)
            else none
        | none =>
            match piece? text with
            | some (piece, rest) => (pieces? steps rest).map (piece :: ·)
            | none => none

/-- A bracket that is still open: its kind, and the tokens before it, last one first. -/
abbrev Open := Bracket × List Token

/-- Pairs up the brackets. `tokens` are those of the innermost open bracket, last one
first. -/
def pairUp? (outer : List Open) (tokens : List Token) : List Piece → Option (List Token)
  | [] => if outer.isEmpty then some tokens.reverse else none
  | .leaf token :: rest => pairUp? outer (token :: tokens) rest
  | .opening bracket :: rest => pairUp? ((bracket, tokens) :: outer) [] rest
  | .closing bracket :: rest =>
      match outer with
      | [] => none
      | (opened, before) :: outer =>
          if opened = bracket then
            pairUp? outer (.group bracket tokens.reverse :: before) rest
          else none

def byteOrderMark : Char := '\ufeff'

def dropMark (text : List Char) : List Char :=
  match text with
  | c :: rest => if c = byteOrderMark then rest else text
  | [] => []

def tokens? (text : List Char) : Option (List Token) :=
  let text := dropMark text
  (pieces? (text.length + 1) text).bind (pairUp? [] [])

/-- Text without a first line that names an interpreter. A line that starts with `#!` and
goes on, after blanks, with a square bracket is an attribute instead. -/
def dropInterpreter (text : List Char) : List Char :=
  match text with
  | '#' :: '!' :: rest =>
      if startsWith ['['] (skipBlanks (rest.length + 1) rest) then text
      else text.dropWhile (· != '\n')
  | _ => text

def fileTokens? (source : String) : Option (List Token) :=
  tokens? (dropInterpreter (dropMark source.toList))

end CrateMetrics.Rust.Lexer
