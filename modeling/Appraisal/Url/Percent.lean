import Appraisal.Text.Hex
import Appraisal.Text.Utf8

/-!
# Appraisal.Url.Percent

Percent escapes. A character that a part of a URL may not hold as it is stands there as its UTF-8
bytes, each written as a percent sign and two upper-case hexadecimal digits.

* `encode`: a text with the escapes that a part needs; `inFragment`, `inQuery`, `inPath` and
  `inUserinfo` say which characters those are.
* `decode`: the bytes behind escapes. A percent sign without two digits stands for itself.
-/

namespace Appraisal
namespace Percent

def escapeByte (b : UInt8) : List Char :=
  ['%', Hex.upperDigit (b.toNat / 16), Hex.upperDigit (b.toNat % 16)]

def isControl (c : Char) : Bool := c.toNat < 0x20 || c.toNat == 0x7F

/-- A character as it stands in a part where `reserved` characters are escaped. Control characters and
those outside ASCII always are. -/
def encodeChar (reserved : Char → Bool) (c : Char) : List Char :=
  if isControl c || 0x80 ≤ c.toNat || reserved c then (Utf8.encodeChar c).flatMap escapeByte
  else [c]

/-- A text as it stands in a part where `reserved` characters are escaped. -/
def encode (reserved : Char → Bool) (cs : List Char) : String :=
  String.ofList (cs.flatMap (encodeChar reserved))

/-- What is escaped in a host or a path that no rule of its scheme divides: nothing but what always
is. -/
def inWhole (_ : Char) : Bool := false

def inFragment (c : Char) : Bool := [' ', '"', '<', '>', '\x60'].contains c

def inQuery (c : Char) : Bool := [' ', '"', '#', '<', '>'].contains c

/-- What is escaped in the query of a scheme with known rules. -/
def inSpecialQuery (c : Char) : Bool := inQuery c || c == '\''

def inPath (c : Char) : Bool := inFragment c || ['#', '?', '\x7b', '\x7d'].contains c

def inUserinfo (c : Char) : Bool :=
  inPath c || ['/', ':', ';', '=', '@', '[', '\\', ']', '^', '|'].contains c

def decode : Bytes → Bytes
  | 0x25 :: a :: b :: r =>
    match Hex.digit? (Char.ofNat a.toNat), Hex.digit? (Char.ofNat b.toNat) with
    | some hi, some lo => UInt8.ofNat (16 * hi + lo) :: decode r
    | _, _ => 0x25 :: decode (a :: b :: r)
  | b :: r => b :: decode r
  | [] => []

end Percent
end Appraisal
