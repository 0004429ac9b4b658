import Appraisal.Cose.Header

/-!
# Appraisal.Cose.Sign1

Documents with one signature: a header that the signature covers, one that it does not, a payload
that may be kept apart, and the signature.

* `Sign1.decode?`: the signed document that bytes write, with or without its tag.
* `Sign1.signedBytes`: the bytes that the signature covers.
-/

namespace Appraisal
namespace Cose

structure Sign1 where
  coveredBytes : Bytes
  covered : Header
  uncovered : Header
  /-- What is signed; none if it is kept apart. -/
  payload : Option Bytes
  signature : Bytes

namespace Sign1

def tagNumber : Nat := 18

/-- The header in a byte string; an empty one is a header without parameters. -/
def headerOfBytes? (depth : Nat) (bs : Bytes) : Option Header :=
  if bs.isEmpty then some {} else (Cbor.decode? bs).bind (Header.ofValue? depth)

def payloadOfValue? : Cbor.Value → Option (Option Bytes)
  | .bytes bs => some (some bs)
  | .null => some none
  | _ => none

def ofValue? (depth : Nat) : Cbor.Value → Option Sign1
  | .array [.bytes coveredBytes, uncovered, payload, .bytes signature] => do
    let payload ← payloadOfValue? payload
    let uncovered ← Header.ofValue? depth uncovered
    let covered ← headerOfBytes? depth coveredBytes
    pure { coveredBytes, covered, uncovered, payload, signature }
  | _ => none

/-- The signed document that bytes write. Headers nest less deep than there are bytes. -/
def decode? (bs : Bytes) : Option Sign1 :=
  match Cbor.decode? bs with
  | some (.tag n v) => if n = tagNumber then ofValue? bs.length v else none
  | some v => ofValue? bs.length v
  | none => none

/-- The bytes that the signature covers: what it is for, the covered header as it was received, no
further data, and the payload. -/
def signedBytes (d : Sign1) (payload : Bytes) : Bytes :=
  Cbor.encodeArray [Cbor.encodeText "Signature1", Cbor.encodeBytes d.coveredBytes,
    Cbor.encodeBytes [], Cbor.encodeBytes payload]

/-- A parameter of the document. One that the signature covers comes first. -/
def get? (d : Sign1) (label : Label) : Option Cbor.Value :=
  (d.covered.get? label).or (d.uncovered.get? label)

end Sign1
end Cose
end Appraisal
