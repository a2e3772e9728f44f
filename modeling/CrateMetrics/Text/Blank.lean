/-
White space: the Unicode property White_Space, and the two direction marks that Rust
source text also treats as blank.
-/

import CrateMetrics.Text.Ranges

namespace CrateMetrics.Text

/-- White_Space beyond ASCII. -/
def blankRanges : Ranges :=
  #[(0x85, 0x85), (0xa0, 0xa0), (0x1680, 0x1680), (0x2000, 0x200a), (0x2028, 0x2029),
    (0x202f, 0x202f), (0x205f, 0x205f), (0x3000, 0x3000)]

def isBlank (c : Char) : Bool :=
  c == ' ' || (9 ≤ c.toNat && c.toNat ≤ 13) ||
    (128 ≤ c.toNat && blankRanges.contains c.toNat)

/-- White space between Rust tokens: also the left-to-right and right-to-left marks. -/
def isSourceBlank (c : Char) : Bool :=
  isBlank c || c.toNat == 0x200e || c.toNat == 0x200f

def trimEnd (text : String) : String :=
  String.ofList (text.toList.reverse.dropWhile isBlank).reverse

end CrateMetrics.Text
