/-
Text in YAML. It stands plain where it reads back as that text, else between apostrophes;
text with line feeds stands below an indicator line by line, and text with hidden
characters between quotation marks with escapes.
-/

import CrateMetrics.Decimal.Binary
import CrateMetrics.Text.Digits

namespace CrateMetrics.Yaml

/-! What plain text would be read as. -/

/-- Words that stand for a truth value, for nothing or for a number without digits. The words
for yes and no, on and off are plain text. -/
def reservedWords : List String :=
  ["true", "True", "TRUE", "false", "False", "FALSE", "null", "Null", "NULL", "~", "",
    ".inf", ".Inf", ".INF", "+.inf", "+.Inf", "+.INF", "-.inf", "-.Inf", "-.INF", ".nan", ".NaN",
    ".NAN"]

def isDigit (c : Char) : Bool :=
  Text.isDigitOf 10 c

def isBasedNumber (negative : Bool) (text : List Char) : Bool :=
  let fits (base : Nat) (digits : List Char) :=
    !digits.isEmpty && digits.all (Text.isDigitOf base) &&
      Text.numberOf base digits < (if negative then Nat.pow 2 127 + 1 else Nat.pow 2 128)
  match text with
  | '0' :: 'x' :: digits => fits 16 digits
  | '0' :: 'o' :: digits => fits 8 digits
  | '0' :: 'b' :: digits => fits 2 digits
  | _ => false

def exponent? : List Char → Option Int
  | [] => some 0
  | mark :: rest =>
      let digits :=
        match rest with
        | '+' :: digits => digits
        | '-' :: digits => digits
        | digits => digits
      if (mark == 'e' || mark == 'E') && !digits.isEmpty && digits.all isDigit then
        let size : Int := Text.numberOf 10 digits
        some (if rest.head? == some '-' then -size else size)
      else none

def isDecimalNumber (text : List Char) : Bool :=
  let (whole, afterWhole) := text.span isDigit
  let (fraction, afterFraction) :=
    match afterWhole with
    | '.' :: rest => rest.span isDigit
    | _ => ([], afterWhole)
  match exponent? afterFraction with
  | none => false
  | some exponent =>
      let digits := whole ++ fraction
      let number :=
        Decimal.nearestScaled false (Text.numberOf 10 digits) (exponent - fraction.length)
      !digits.isEmpty && number.isFinite

/-- Whether text consists of several digits and begins with zero, which is a number by older
rules only. -/
def isPaddedNumber (text : List Char) : Bool :=
  text.head? == some '0' && 1 < text.length && text.all isDigit

def readsAsOther (text : String) : Bool :=
  let negative := text.startsWith "-"
  let unsigned :=
    match text.toList with
    | '+' :: rest => rest
    | '-' :: rest => rest
    | chars => chars
  reservedWords.contains text || isBasedNumber negative unsigned ||
    isDecimalNumber unsigned || isPaddedNumber unsigned

/-! Which characters plain text may have. -/

def isBreak (c : Char) : Bool :=
  c == '\n' || c == '\r' || c.toNat == 0x85 || c.toNat == 0x2028 || c.toNat == 0x2029

/-- Whether a blank, a line end or the end of the text stands here. -/
def startsBlank : List Char → Bool
  | [] => true
  | c :: _ => c == ' ' || c == '\t' || isBreak c

def isPrintable (c : Char) : Bool :=
  c == '\n' || (0x20 ≤ c.toNat && c.toNat ≤ 0x7e) ||
    (0xa0 ≤ c.toNat && c.toNat != 0xfeff && c.toNat != 0xfffe && c.toNat != 0xffff)

def startsWithIndicator (text : List Char) : Bool :=
  match text with
  | [] => false
  | first :: rest =>
      "#,[]\x7b\x7d&*!|>'\"%@\x60".toList.contains first ||
        ("?:-".toList.contains first && startsBlank rest) ||
        text.take 3 == ['-', '-', '-'] || text.take 3 == ['.', '.', '.']

/-- Whether a colon before a blank or a number sign after one stands in the text after its
first character, which is `before`. -/
def holdsIndicator (before : Char) : List Char → Bool
  | [] => false
  | c :: rest =>
      (c == ':' && startsBlank rest) || (c == '#' && startsBlank [before]) ||
        holdsIndicator c rest

def isPlain (text : List Char) : Bool :=
  match text with
  | [] => false
  | first :: rest =>
      !startsWithIndicator text && !holdsIndicator first rest && first != ' ' &&
        text.getLast? != some ' ' && text.all (fun c => isPrintable c && !isBreak c)

/-- Whether a blank stands before a line end. -/
def blankBeforeBreak : List Char → Bool
  | c :: next :: rest => (c == ' ' && isBreak next) || blankBeforeBreak (next :: rest)
  | [_] | [] => false

def blankAfterBreak : List Char → Bool
  | c :: next :: rest => (isBreak c && next == ' ') || blankAfterBreak (next :: rest)
  | [_] | [] => false

/-! Writing. -/

def escapedChar (c : Char) : List Char :=
  let code (mark : Char) (width : Nat) :=
    let digits := (Nat.toDigits 16 c.toNat).map Char.toUpper
    '\\' :: mark :: List.replicate (width - digits.length) '0' ++ digits
  if c == '"' || c == '\\' then ['\\', c]
  else if isPrintable c && !isBreak c then [c]
  else
    match c.toNat with
    | 0 => ['\\', '0']
    | 7 => ['\\', 'a']
    | 8 => ['\\', 'b']
    | 9 => ['\\', 't']
    | 10 => ['\\', 'n']
    | 11 => ['\\', 'v']
    | 12 => ['\\', 'f']
    | 13 => ['\\', 'r']
    | 27 => ['\\', 'e']
    | 0x85 => ['\\', 'N']
    | 0x2028 => ['\\', 'L']
    | 0x2029 => ['\\', 'P']
    | number =>
        if number ≤ 0xff then code 'x' 2 else if number ≤ 0xffff then code 'u' 4 else code 'U' 8

def escaped (text : List Char) : String :=
  String.ofList ('"' :: text.flatMap escapedChar ++ ['"'])

/-- Characters written from the start of an indented line: each line end stands for itself,
and the first character after one is indented. -/
def indentedChars (indent : Nat) (write : Char → List Char) (atStart : Bool) :
    List Char → List Char
  | [] => []
  | c :: rest =>
      if isBreak c then c :: indentedChars indent write true rest
      else
        (if atStart then List.replicate indent ' ' else []) ++
          (write c ++ indentedChars indent write false rest)

/-- Text between apostrophes, of which those inside are doubled. -/
def single (indent : Nat) (text : List Char) : String :=
  let inside := indentedChars indent (fun c => if c = '\'' then [c, c] else [c]) false text
  let closing := if text.getLast?.any isBreak then List.replicate indent ' ' else []
  String.ofList ('\'' :: inside ++ (closing ++ ['\'']))

/-- What stands before the lines of a text: whether its first line needs the indentation
told, and what becomes of the line ends after its last one. -/
def linesHeader (text : List Char) : List Char :=
  let indentation :=
    match text with
    | first :: _ => if first == ' ' || isBreak first then ['2'] else []
    | [] => []
  let ending :=
    match text.reverse with
    | [] => ['-']
    | last :: before =>
        if !isBreak last then ['-']
        else
          match before with
          | [] => ['+']
          | c :: _ => if isBreak c then ['+'] else []
  '|' :: indentation ++ ending

def literal (indent : Nat) (text : List Char) : String :=
  String.ofList (linesHeader text ++ ('\n' :: indentedChars indent ([·]) true text))

/-- Text as a value; `indent` is the indentation of its further lines. -/
def scalar (indent : Nat) (text : String) : String :=
  let chars := text.toList
  if !chars.all isPrintable || blankBeforeBreak chars then escaped chars
  else if chars.contains '\n' then
    if chars.getLast? == some ' ' then escaped chars else literal indent chars
  else if isPlain chars && !readsAsOther text then text
  else if blankAfterBreak chars then escaped chars
  else single indent chars

end CrateMetrics.Yaml
