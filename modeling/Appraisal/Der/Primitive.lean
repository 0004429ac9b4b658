import Appraisal.Der.Element
import Appraisal.Error
import Appraisal.Text.Utf8

/-!
# Appraisal.Der.Primitive

The content of primitive elements: integers, text and object identifiers.

* `int64`: an integer that fits into 64 bits with its sign. Leading zero bytes do not count against
  its size, and no content at all is zero.
* `text`: UTF-8 text.
* `objectId`: the dotted text of an object identifier.
-/

namespace Appraisal
namespace Der

/-- An integer in two's complement, most significant byte first. -/
def int64 (content : Bytes) : Except DerValueFault Int :=
  match content with
  | [] => .ok 0
  | b :: _ =>
    if 0x80 ≤ b then
      if content.length ≤ 8 then
        .ok ((Bytes.toNatBE content : Int) - Bytes.count content.length)
      else .error .integerTooLarge
    else
      let n := Bytes.toNatBE content
      if n < 0x8000000000000000 then .ok n else .error .integerTooLarge

def text (content : Bytes) : Except DerValueFault String :=
  match Utf8.decode? content with
  | some s => .ok s
  | none => .error .invalidText

/-- The arcs behind the first byte of an object identifier, in base 128. `acc` holds the arc that has
begun, if one has, and bits above the 64th are dropped. An arc that the content cuts off counts. -/
def arcs (acc : Option Nat) : Bytes → List Nat
  | [] => acc.toList
  | b :: r =>
    let n := ((acc.getD 0) * 128 + b.toNat % 128) % 0x10000000000000000
    if b < 0x80 then n :: arcs none r else arcs (some n) r

/-- The most bytes that one complete arc takes, of which `begun` have been passed. -/
def longestArc (begun : Nat) : Bytes → Nat
  | [] => 0
  | b :: r => if b < 0x80 then max (begun + 1) (longestArc 0 r) else longestArc (begun + 1) r

/-- The dotted text of an object identifier. The first byte makes two arcs, except that a single zero
byte makes one. An identifier with an arc of more than nine bytes is written as its bytes. -/
def objectId (content : Bytes) : String :=
  match content with
  | [] => ""
  | b :: r =>
    if 9 < longestArc 0 r then String.intercalate " " (content.map fun x => Hex.lower [x])
    else
      let first := b.toNat / 40 :: if content = [0] then [] else [b.toNat % 40]
      String.intercalate "." ((first ++ arcs none r).map toString)

end Der
end Appraisal
