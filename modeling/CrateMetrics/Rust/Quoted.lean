/-
Quoted literals of Rust source text: strings, byte strings, C strings, characters and
bytes. A literal is measured, not decoded: each function here gives the number of
characters up to and including the closing quote, if there is one and all is well formed.
-/

import CrateMetrics.Text.Digits
import CrateMetrics.Text.Identifier

namespace CrateMetrics.Rust

inductive Quoting where
  | text
  | bytes
  | nulFree
  deriving DecidableEq, Repr

namespace Quoting

def admits (quoting : Quoting) (c : Char) : Bool :=
  match quoting with
  | .text => true
  | .bytes => c.toNat < 128
  | .nulFree => c.toNat != 0

def admitsHex (quoting : Quoting) (high low : Char) : Bool :=
  match Text.hexValue? high, Text.hexValue? low with
  | some high, some low =>
      match quoting with
      | .text => high < 8
      | .bytes => true
      | .nulFree => high != 0 || low != 0
  | _, _ => false

def admitsCode (quoting : Quoting) (code : Nat) : Bool :=
  quoting != .bytes && (quoting != .nulFree || code != 0) && code.isValidChar

/-- The length of the rest of a `\u` escape after its opening brace. At most six digits,
underscores only after the first one. -/
def codeLength? (quoting : Quoting) (digits value length : Nat) : List Char → Option Nat
  | [] => none
  | c :: rest =>
      match Text.hexValue? c with
      | some digit =>
          if digits = 6 then none
          else codeLength? quoting (digits + 1) (value * 16 + digit) (length + 1) rest
      | none =>
          if digits = 0 then none
          else if c = '_' then codeLength? quoting digits value (length + 1) rest
          else if c = '\x7d' && quoting.admitsCode value then some (length + 1)
          else none

def escapeLength? (quoting : Quoting) : List Char → Option Nat
  | 'x' :: high :: low :: _ => if quoting.admitsHex high low then some 3 else none
  | 'u' :: '\x7b' :: rest => quoting.codeLength? 0 0 2 rest
  | '0' :: _ => if quoting = .nulFree then none else some 1
  | c :: _ => if ['n', 'r', 't', '\\', '\'', '"'].contains c then some 1 else none
  | [] => none

inductive Place where
  | plain
  /-- Inside of an escape with so many characters left. -/
  | escape (left : Nat)
  /-- Between a carriage return and the line feed that has to follow. -/
  | returned
  /-- In the blanks that a backslash at the end of a line swallows. -/
  | skipping
  /-- In such blanks between a carriage return and its line feed. -/
  | skippingReturned

def stringLength? (quoting : Quoting) (length : Nat) : Place → List Char → Option Nat
  | _, [] => none
  | .escape (left + 1), _ :: rest =>
      stringLength? quoting (length + 1) (if left = 0 then .plain else .escape left) rest
  | .returned, c :: rest =>
      if c = '\n' then stringLength? quoting (length + 1) .plain rest else none
  | .skippingReturned, c :: rest =>
      if c = '\n' then stringLength? quoting (length + 1) .skipping rest else none
  | place, c :: rest =>
      let skips := match place with
        | .skipping => true
        | _ => false
      if skips && (c = ' ' || c = '\t' || c = '\n') then
        stringLength? quoting (length + 1) .skipping rest
      else if skips && c = '\r' then
        stringLength? quoting (length + 1) .skippingReturned rest
      else if c = '"' then some (length + 1)
      else if c = '\r' then stringLength? quoting (length + 1) .returned rest
      else if c = '\\' then
        match rest with
        | '\n' :: _ | '\r' :: _ => stringLength? quoting (length + 1) .skipping rest
        | _ =>
            match quoting.escapeLength? rest with
            | some left => stringLength? quoting (length + 1) (.escape left) rest
            | none => none
      else if quoting.admits c then stringLength? quoting (length + 1) .plain rest
      else none

def startsWithHashes : Nat → List Char → Bool
  | 0, _ => true
  | hashes + 1, '#' :: rest => startsWithHashes hashes rest
  | _ + 1, _ => false

/-- The length of a raw string from its opening quote on; `returned` tells that a line
feed has to come next. -/
def rawLength? (quoting : Quoting) (hashes length : Nat) (returned : Bool) :
    List Char → Option Nat
  | [] => none
  | c :: rest =>
      if returned then
        if c = '\n' then rawLength? quoting hashes (length + 1) false rest else none
      else if c = '"' && startsWithHashes hashes rest then some (length + 1 + hashes)
      else if quoting.admits c then rawLength? quoting hashes (length + 1) (c = '\r') rest
      else none

def hashedLength? (quoting : Quoting) (text : List Char) : Option Nat :=
  let hashes := (text.takeWhile (· == '#')).length
  match text.drop hashes with
  | '"' :: rest =>
      if hashes ≤ 255 then rawLength? quoting hashes (hashes + 1) false rest else none
  | _ => none

def charLength? (quoting : Quoting) : List Char → Option Nat
  | '\\' :: rest =>
      match quoting.escapeLength? rest with
      | some length => if rest[length]? = some '\'' then some (length + 2) else none
      | none => none
  | c :: '\'' :: _ => if quoting.admits c then some 2 else none
  | _ => none

end Quoting

end CrateMetrics.Rust
