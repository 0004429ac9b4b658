import Appraisal.Wire.Format

/-!
# Appraisal.Wire.SpdmCertificate

The certificate chain that an SPDM GET_CERTIFICATE exchange returns: the total length, a hash and
the chain. The total length counts the whole response.

* `SpdmCertificate.format`: a total length other than that of the buffer is refused before anything
  else is read.
-/

namespace Appraisal
namespace Wire

structure SpdmCertificate where
  reserved : Bytes
  certChainHash : Bytes
  certChain : Bytes
deriving DecidableEq, Repr

namespace SpdmCertificate

def chainHashSize : Nat := 48

def reservedSize : Nat := 2

def headerSize : Nat := 2 + reservedSize + chainHashSize

def maxChainSize : Nat := 65535 - headerSize

def zero : SpdmCertificate := ⟨Bytes.zeros reservedSize, Bytes.zeros chainHashSize, []⟩

def totalLength (m : SpdmCertificate) : Nat := headerSize + m.certChain.length

def read (e : Endpoint) : Reader SpdmCertificate := do
  let size ← Reader.remaining
  let totalLen ← Reader.fieldHalf e .totalLen
  if totalLen.toNat ≠ size then
    throw (.lengthFieldMismatch "SPDM certificate total length" size totalLen.toNat)
  let reserved ← Reader.take reservedSize
  let certChainHash ← Reader.field e .chainHash chainHashSize
  let certChain ← Reader.rest
  pure { reserved, certChainHash, certChain }

def whole : Span SpdmCertificate where
  limits m :=
    [.exactly "reserved" reservedSize m.reserved,
      .exactly "cert_chain_hash" chainHashSize m.certChainHash,
      .atMost "cert_chain" maxChainSize m.certChain]
  pieces m :=
    [.half .totalLen m.totalLength, .plain m.reserved, .part .chainHash m.certChainHash,
      .part .chain m.certChain]

/-- How the response is read and written; nothing covers it. -/
def format : Format SpdmCertificate := { read, whole }

end SpdmCertificate
end Wire
end Appraisal
