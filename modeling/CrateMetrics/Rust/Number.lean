/-
Numbers of Rust source text. Like quoted literals they are measured here: each function
gives a number of characters. Numbers may carry a suffix, and the measure is lenient about
which; `indexOf?` and `isFractional` look at the text of a single number.
-/

import CrateMetrics.Rust.Quoted

namespace CrateMetrics.Rust.Number

def wordLength (text : List Char) : Nat :=
  match text with
  | [] => 0
  | first :: rest =>
      if Text.isIdentifierStart first then (rest.takeWhile Text.isIdentifierPart).length + 1
      else 0

/-- The length together with the suffix that follows; the suffix ends the word. -/
def withSuffix? (text : List Char) (length : Nat) : Option Nat :=
  let whole := length + wordLength (text.drop length)
  match text[whole]? with
  | none => some whole
  | some next => if Text.isIdentifierPart next then none else some whole

/-- The length of an exponent after its `e`: signs, digits and underscores. -/
def exponentLength? (signed digits : Bool) (length : Nat) : List Char → Option Nat
  | [] => if digits then some length else none
  | c :: rest =>
      if c = '+' || c = '-' then
        if digits then some length
        else if signed then none
        else exponentLength? true digits (length + 1) rest
      else if c.isDigit then exponentLength? signed true (length + 1) rest
      else if c = '_' then exponentLength? signed digits (length + 1) rest
      else if digits then some length
      else none

/-- The length of a number with a point or an exponent, after its first digit. A point is
not part of a number if another point or a word follows. -/
def fractionLength? (point : Bool) (length : Nat) : List Char → Option Nat
  | [] => if point then some length else none
  | c :: rest =>
      if c.isDigit || c = '_' then fractionLength? point (length + 1) rest
      else if c = '.' && !point then
        match rest with
        | [] => some (length + 1)
        | next :: _ =>
            if next = '.' || Text.isIdentifierStart next then none
            else fractionLength? true (length + 1) rest
      else if c = 'e' || c = 'E' then
        match exponentLength? false false (length + 1) rest with
        | some whole => some whole
        | none => if point then some length else none
      else if point then some length
      else none

def baseOf : List Char → Nat × Nat
  | '0' :: 'x' :: _ => (16, 2)
  | '0' :: 'o' :: _ => (8, 2)
  | '0' :: 'b' :: _ => (2, 2)
  | _ => (10, 0)

/-- The length of the digits and underscores of a base. A decimal number does not start
with an underscore, and a decimal digit has to be below the base. -/
def digitsLength? (base length : Nat) (found : Bool) : List Char → Option Nat
  | [] => if found then some length else none
  | c :: rest =>
      if c = '_' then
        if !found && base = 10 then none else digitsLength? base (length + 1) found rest
      else
        match Text.hexValue? c with
        | some digit =>
            if digit < base then digitsLength? base (length + 1) true rest
            else if c.isDigit then none
            else if found then some length
            else none
        | none => if found then some length else none

def length? (text : List Char) : Option Nat :=
  let fractional := match text with
    | first :: rest =>
        if first.isDigit then (fractionLength? false 1 rest).bind (withSuffix? text) else none
    | [] => none
  match fractional with
  | some length => some length
  | none =>
      let (base, mark) := baseOf text
      (digitsLength? base mark false (text.drop mark)).bind (withSuffix? text)

/-- What follows the leading digits and underscores of a whole number, and their value.
Digits that do not belong to the base are refused if they are decimal. -/
def wholeValue? (base value : Nat) (found : Bool) : List Char → Option (Nat × List Char)
  | [] => if found then some (value, []) else none
  | c :: rest =>
      if c = '_' then wholeValue? base value found rest
      else
        match Text.hexValue? c with
        | some digit =>
            if digit < base then wholeValue? base (value * base + digit) true rest
            else if c.isDigit then none
            else if found then some (value, c :: rest)
            else none
        | none => if found then some (value, c :: rest) else none

/-- Whether a decimal exponent starts here, given what follows its `e`: a sign, or digits
and then nothing or a suffix. -/
def isExponent (digits : Bool) : List Char → Bool
  | [] => digits
  | c :: rest =>
      if c = '_' then isExponent digits rest
      else if c = '+' || c = '-' then true
      else if c.isDigit then isExponent true rest
      else digits && Text.isIdentifier (c :: rest)

def whole? (text : List Char) : Option (Nat × List Char) :=
  match text with
  | [] => none
  | first :: _ =>
      if !first.isDigit then none
      else
        let (base, mark) := baseOf text
        match wholeValue? base 0 false (text.drop mark) with
        | none => none
        | some (value, suffix) =>
            let fractional := base = 10 &&
              match suffix with
              | '.' :: _ => true
              | 'e' :: rest | 'E' :: rest => isExponent false rest
              | _ => false
            if fractional then none
            else if suffix.isEmpty || Text.isIdentifier suffix then some (value, suffix)
            else none

/-- The position that a whole number without suffix stands for; positions are below
`2^32`. -/
def indexOf? (text : List Char) : Option Nat :=
  match whole? text with
  | some (value, []) => if value < Nat.pow 2 32 then some value else none
  | _ => none

end CrateMetrics.Rust.Number
