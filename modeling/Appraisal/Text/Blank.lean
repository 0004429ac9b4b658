/-!
# Appraisal.Text.Blank

The characters that count as blank at the ends of a text (the property White_Space).

* `isBlank`: whether a character is one of them.
* `isTrimmed`: whether a text neither begins nor ends with one.
-/

namespace Appraisal

/-- The first and the last code point of each run of blank characters, in order. -/
def blankRanges : List (Nat × Nat) :=
  [(0x09, 0x0D), (0x20, 0x20), (0x85, 0x85), (0xA0, 0xA0), (0x1680, 0x1680), (0x2000, 0x200A),
   (0x2028, 0x2029), (0x202F, 0x202F), (0x205F, 0x205F), (0x3000, 0x3000)]

def isBlank (c : Char) : Bool := blankRanges.any fun r => r.1 ≤ c.toNat && c.toNat ≤ r.2

/-- Whether a text neither begins nor ends with a blank character. -/
def isTrimmed (s : String) : Bool :=
  !s.toList.head?.any isBlank && !s.toList.getLast?.any isBlank

end Appraisal
