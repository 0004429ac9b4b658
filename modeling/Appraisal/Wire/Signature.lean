import Appraisal.Wire.Format

/-!
# Appraisal.Wire.Signature

The ECDSA signature block of the secure device manager: a magic, two sizes, the magic of the curve
and the two components. The curve alone fixes the length of the block; the sizes are carried along.

* `Signature.raw`: the two components, one behind the other, as a verifier takes them.
* `Signature.format`: the block as a message of its own.
-/

namespace Appraisal
namespace Wire

inductive Curve where
  | secp256r1
  | secp384r1
deriving DecidableEq, Repr

namespace Curve

def magic : Curve → UInt32
  | secp256r1 => 0x30548820
  | secp384r1 => 0x54713230

def componentSize : Curve → Nat
  | secp256r1 => 32
  | secp384r1 => 48

def name : Curve → String
  | secp256r1 => "Secp256r1"
  | secp384r1 => "Secp384r1"

def all : List Curve := [secp256r1, secp384r1]

def ofMagic (w : UInt32) : Except Error Curve :=
  match all.find? fun c => c.magic == w with
  | some c => .ok c
  | none => .error (.unsupportedSignatureCurve w)

end Curve

structure Signature where
  curve : Curve
  sizeR : UInt32
  sizeS : UInt32
  r : Bytes
  s : Bytes
deriving DecidableEq, Repr

namespace Signature

def magic : UInt32 := 0x74881520

def headerSize : Nat := 16

def zero (c : Curve) : Signature :=
  ⟨c, 0, 0, Bytes.zeros c.componentSize, Bytes.zeros c.componentSize⟩

def encodedLength (sig : Signature) : Nat := headerSize + 2 * sig.curve.componentSize

def raw (sig : Signature) : Bytes := sig.r ++ sig.s

/-- Reads a block; a wrong magic is reported before anything behind it is read. -/
def read (e : Endpoint) : Reader Signature := do
  let m ← Reader.fieldWord e .magic
  if m ≠ magic then throw (.invalidSignatureMagic magic m)
  let sizeR ← Reader.fieldWord e .sizeR
  let sizeS ← Reader.fieldWord e .sizeS
  let word ← Reader.fieldWord e .curveMagic
  let curve ← (Curve.ofMagic word : Except Error Curve)
  let r ← Reader.field e .r curve.componentSize
  let s ← Reader.field e .s curve.componentSize
  pure ⟨curve, sizeR, sizeS, r, s⟩

def span : Span Signature where
  limits sig :=
    [.exactly "signature_r" sig.curve.componentSize sig.r,
      .exactly "signature_s" sig.curve.componentSize sig.s]
  pieces sig :=
    [.word .magic magic, .word .sizeR sig.sizeR, .word .sizeS sig.sizeS,
      .word .curveMagic sig.curve.magic, .part .r sig.r, .part .s sig.s]

/-- A block that is a message of its own: nothing follows it, and nothing covers it. -/
def format : Format Signature where
  read e := do
    let sig ← read e
    let _ ← Reader.exactly 0
    pure sig
  whole := span

end Signature
end Wire
end Appraisal
