import Appraisal.Text.Hex
import Appraisal.Text.Split

/-!
# Appraisal.Url.Ipv4

Addresses of four bytes as hosts. A part of an address may be decimal, octal with a leading zero or
hexadecimal with a leading `0x`, and the last part fills all bytes that the others leave.

* `endsInNumber`: whether a host must be read as an address.
* `parse?`, `render`: an address read, and written with four decimal numbers.
-/

namespace Appraisal
namespace Ipv4

/-- The number that digits write to a base; none if one of them is no digit of it. -/
def ofDigits? (base : Nat) (cs : List Char) : Option Nat :=
  cs.foldl (fun n c => match n, Hex.digit? c with
    | some n, some d => if d < base then some (base * n + d) else none
    | _, _ => none) (some 0)

/-- The number in a part. A mark of the base with no digits behind it is zero. -/
def number? : List Char → Option Nat
  | [] => none
  | '0' :: 'x' :: r => ofDigits? 16 r
  | '0' :: 'X' :: r => ofDigits? 16 r
  | '0' :: c :: r => ofDigits? 8 (c :: r)
  | cs => ofDigits? 10 cs

/-- The parts of a host. A point at the end is no separator. -/
def parts (cs : List Char) : List (List Char) :=
  let ps := splitWhere (· == '.') cs
  match ps.getLast? with
  | some [] => if ps.length = 1 then ps else ps.dropLast
  | _ => ps

def endsInNumber (cs : List Char) : Bool :=
  match (parts cs).getLast? with
  | none => false
  | some last => (!last.isEmpty && last.all Char.isDigit) || (number? last).isSome

/-- The number that the parts of an address give to its last `k` bytes: all but the last part are
bytes. -/
def ofNumbers? (k : Nat) : List Nat → Option Nat
  | [] => none
  | [n] => if n < Bytes.count k then some n else none
  | n :: ns => if n < 256 then (ofNumbers? (k - 1) ns).map (n * Bytes.count (k - 1) + ·) else none

def parse? (cs : List Char) : Option UInt32 :=
  let ps := parts cs
  if 4 < ps.length then none
  else match ps.mapM number? with
    | none => none
    | some ns => (ofNumbers? 4 ns).map UInt32.ofNat

def render (a : UInt32) : String :=
  ".".intercalate ((Bytes.ofNatBE 4 a.toNat).map fun b => toString b.toNat)

end Ipv4
end Appraisal
