import Appraisal.Bytes

/-!
# Appraisal.Cbor.Head

What CBOR items begin with: a kind of item and a number, which is the item itself, its length or how
many items follow. The number need not be written in the fewest bytes, and a length may be left open
until a stop.

* `Head.read?`: the head in front of some bytes, and what follows it.
* `Head.encode`: the shortest head of a kind and a number.
-/

namespace Appraisal
namespace Cbor

/-- The head of an item. An open length is none. -/
inductive Head where
  | unsigned (value : Nat)
  | negative (value : Nat)
  | bytes (length : Option Nat)
  | text (length : Option Nat)
  | array (count : Option Nat)
  | map (count : Option Nat)
  | tag (number : Nat)
  | simple (number : Nat)
  | float
  | stop
deriving DecidableEq, Repr

namespace Head

/-- The number behind the first byte, whose five lowest bits say how it is written: none if it is left
open. -/
def argument? (info : Nat) (r : Bytes) : Option (Option Nat × Bytes) :=
  if info < 24 then some (some info, r)
  else if info < 28 then
    let width := 1 <<< (info - 24)
    if r.length < width then none
    else some (some (Bytes.toNatBE (r.take width)), r.drop width)
  else if info = 31 then some (none, r)
  else none

/-- The head that the three highest bits of the first byte, its lowest five and a number make. -/
def ofParts? (major info : Nat) (argument : Option Nat) : Option Head :=
  match major, argument with
  | 0, some n => some (unsigned n)
  | 1, some n => some (negative n)
  | 2, n => some (bytes n)
  | 3, n => some (text n)
  | 4, n => some (array n)
  | 5, n => some (map n)
  | 6, some n => some (tag n)
  | 7, some n => some (if info ≤ 24 then simple n else float)
  | 7, none => some stop
  | _, _ => none

def read? : Bytes → Option (Head × Bytes)
  | [] => none
  | b :: r =>
    let major := b.toNat / 32
    let info := b.toNat % 32
    match argument? info r with
    | none => none
    | some (n, r) =>
      match ofParts? major info n with
      | none => none
      | some h => some (h, r)

/-- The shortest head of kind `major` with a number below `2 ^ 64`. -/
def encode (major n : Nat) : Bytes :=
  let first (info : Nat) : UInt8 := UInt8.ofNat (32 * major + info)
  if n < 24 then [first n]
  else if n < 0x100 then first 24 :: Bytes.ofNatBE 1 n
  else if n < 0x10000 then first 25 :: Bytes.ofNatBE 2 n
  else if n < 0x100000000 then first 26 :: Bytes.ofNatBE 4 n
  else first 27 :: Bytes.ofNatBE 8 n

end Head
end Cbor
end Appraisal
