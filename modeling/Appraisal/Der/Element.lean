import Appraisal.Bytes

/-!
# Appraisal.Der.Element

DER elements: an identifier, a length and that many content bytes. A length in the long form need not
be the shortest, but an indefinite one is no length here.

* `Element.read?`: the element in front of some bytes, and what follows it.
* `elements?`: the elements that some bytes are made of.
-/

namespace Appraisal
namespace Der

inductive TagClass where
  | universal
  | application
  | contextSpecific
  | privateUse
deriving DecidableEq, Repr

structure Element where
  tagClass : TagClass
  constructed : Bool
  tag : Nat
  content : Bytes
deriving DecidableEq, Repr

namespace Tag

def boolean : Nat := 1
def integer : Nat := 2
def bitString : Nat := 3
def octetString : Nat := 4
def objectId : Nat := 6
def sequence : Nat := 16
def utcTime : Nat := 23
def generalizedTime : Nat := 24

end Tag

def TagClass.ofIdentifier (b : UInt8) : TagClass :=
  if b < 0x40 then .universal
  else if b < 0x80 then .application
  else if b < 0xC0 then .contextSpecific
  else .privateUse

/-- A tag number in base 128, in at most `left` bytes behind what `acc` holds already. Bits above the
32nd are dropped. -/
def highTag? (acc : Nat) : Nat → Bytes → Option (Nat × Bytes)
  | 0, _ => none
  | _, [] => none
  | left + 1, b :: r =>
    let acc := (acc * 128 + b.toNat % 128) % 0x100000000
    if b < 0x80 then some (acc, r) else highTag? acc left r

/-- A tag number: in the identifier itself or, marked by 31 there, in the bytes behind it. -/
def tag? (b : UInt8) (r : Bytes) : Option (Nat × Bytes) :=
  if b.toNat % 32 = 31 then highTag? 0 5 r else some (b.toNat % 32, r)

/-- A definite length: in one byte, or in as many bytes as the first one says. -/
def length? : Bytes → Option (Nat × Bytes)
  | [] => none
  | b :: r =>
    if b < 0x80 then some (b.toNat, r)
    else if b = 0x80 ∨ b = 0xFF then none
    else
      let n := b.toNat - 0x80
      if n ≤ r.length then some (Bytes.toNatBE (r.take n), r.drop n) else none

structure Header where
  tagClass : TagClass
  constructed : Bool
  tag : Nat
  length : Nat
deriving DecidableEq, Repr

def Header.read? : Bytes → Option (Header × Bytes)
  | [] => none
  | b :: r =>
    match tag? b r with
    | none => none
    | some (tag, r) =>
      match length? r with
      | none => none
      | some (n, r) => some (⟨.ofIdentifier b, b.toNat / 32 % 2 == 1, tag, n⟩, r)

namespace Element

def read? (bs : Bytes) : Option (Element × Bytes) :=
  match Header.read? bs with
  | none => none
  | some (h, r) =>
    if h.length ≤ r.length then
      some (⟨h.tagClass, h.constructed, h.tag, r.take h.length⟩, r.drop h.length)
    else none

end Element

theorem length_lt_of_highTag? {acc left n : Nat} {bs r : Bytes}
    (h : highTag? acc left bs = some (n, r)) : r.length < bs.length := by
  induction bs generalizing acc left with
  | nil => cases left <;> simp [highTag?] at h
  | cons b bs ih =>
    cases left with
    | zero => simp [highTag?] at h
    | succ left =>
      rw [highTag?] at h
      split at h
      · cases h; simp
      · have := ih h
        simp
        omega

theorem length_le_of_tag? {b : UInt8} {n : Nat} {bs r : Bytes} (h : tag? b bs = some (n, r)) :
    r.length ≤ bs.length := by
  unfold tag? at h
  split at h
  · exact Nat.le_of_lt (length_lt_of_highTag? h)
  · cases h; exact Nat.le_refl _

theorem length_lt_of_length? {n : Nat} {bs r : Bytes} (h : length? bs = some (n, r)) :
    r.length < bs.length := by
  cases bs with
  | nil => cases h
  | cons b bs =>
    rw [length?] at h
    split at h
    · cases h; simp
    · split at h
      · cases h
      · simp only at h
        split at h
        · simp only [Option.some.injEq, Prod.mk.injEq] at h
          rw [← h.2, List.length_drop, List.length_cons]
          omega
        · cases h

theorem length_lt_of_readHeader? {hd : Header} {bs r : Bytes}
    (h : Header.read? bs = some (hd, r)) : r.length < bs.length := by
  cases bs with
  | nil => cases h
  | cons b bs =>
    rw [Header.read?] at h
    split at h
    · cases h
    · rename_i tag r1 htag
      split at h
      · cases h
      · rename_i n r2 hlen
        cases h
        have h1 := length_le_of_tag? htag
        have h2 := length_lt_of_length? hlen
        simp
        omega

/-- An element is never empty. -/
theorem Element.length_lt_of_read? {e : Element} {bs r : Bytes} (h : read? bs = some (e, r)) :
    r.length < bs.length := by
  unfold read? at h
  split at h
  · cases h
  · rename_i hd r1 hhd
    split at h
    · cases h
      have h1 := length_lt_of_readHeader? hhd
      simp
      omega
    · cases h

def elements? (bs : Bytes) : Option (List Element) :=
  if bs = [] then some []
  else match h : Element.read? bs with
    | none => none
    | some (e, r) =>
      have := Element.length_lt_of_read? h
      match elements? r with
      | none => none
      | some es => some (e :: es)
termination_by bs.length

end Der
end Appraisal
