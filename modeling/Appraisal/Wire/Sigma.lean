import Appraisal.Wire.DeviceHeader
import Appraisal.Wire.Signature

/-!
# Appraisal.Wire.Sigma

The three messages of the SIGMA key exchange: the service opens it, the device answers with its
identity and a signature, and the service closes it with its own signature.

* `SigmaM1.format`: the MAC also covers the key chain, which the signature does not.
* `SigmaM2.format`, `SigmaM3.format`: the MAC covers what is signed and the signature.
-/

namespace Appraisal
namespace Wire

structure SigmaM1 where
  reservedHeader : Bytes
  magic : UInt32
  reserved1 : Bytes
  bkpsDhPubKey : Bytes
  pufType : UInt32
  reserved2 : Bytes
  userKeyChain : Bytes
deriving DecidableEq, Repr

namespace SigmaM1

def magicWord : UInt32 := 0x6E3A7DAC

def reserved1Size : Nat := 4

def reserved2Size : Nat := 12

def zero : SigmaM1 where
  reservedHeader := Bytes.zeros reservedHeaderSize
  magic := magicWord
  reserved1 := Bytes.zeros reserved1Size
  bkpsDhPubKey := Bytes.zeros publicKeySize
  pufType := 0
  reserved2 := Bytes.zeros reserved2Size
  userKeyChain := []

/-- Reads a message; the key chain is all that is left. -/
def read (e : Endpoint) : Reader SigmaM1 := do
  let reservedHeader ← Reader.take reservedHeaderSize
  let magic ← Reader.fieldWord e .magic
  let reserved1 ← Reader.take reserved1Size
  let bkpsDhPubKey ← Reader.field e .bkpsDhPubKey publicKeySize
  let pufType ← Reader.fieldWord e .pufType
  let reserved2 ← Reader.take reserved2Size
  let userKeyChain ← Reader.rest
  pure { reservedHeader, magic, reserved1, bkpsDhPubKey, pufType, reserved2, userKeyChain }

def signed : Span SigmaM1 where
  limits m :=
    [.exactly "reserved1" reserved1Size m.reserved1,
      .exactly "bkps_dh_pub_key" publicKeySize m.bkpsDhPubKey,
      .exactly "reserved2" reserved2Size m.reserved2]
  pieces m :=
    [.word .magic m.magic, .plain m.reserved1, .part .bkpsDhPubKey m.bkpsDhPubKey,
      .word .pufType m.pufType, .plain m.reserved2]

def covered : Span SigmaM1 where
  limits := signed.limits
  pieces m := signed.pieces m ++ [.part .userKeyChain m.userKeyChain]

def whole : Span SigmaM1 where
  limits m :=
    .exactly "reserved_header" reservedHeaderSize m.reservedHeader :: covered.limits m
  pieces m := .plain m.reservedHeader :: covered.pieces m

def format : Format SigmaM1 := { read, whole, signed, covered }

end SigmaM1

structure SigmaM2 where
  header : DeviceHeader
  deviceDhPubKey : Bytes
  bkpsDhPubKey : Bytes
  signature : Signature
  mac : Bytes
deriving DecidableEq, Repr

namespace SigmaM2

def magicWord : UInt32 := 0xFC06A385

def zero : SigmaM2 where
  header := DeviceHeader.zero magicWord
  deviceDhPubKey := Bytes.zeros publicKeySize
  bkpsDhPubKey := Bytes.zeros publicKeySize
  signature := Signature.zero .secp384r1
  mac := Bytes.zeros mac384Size

def read (e : Endpoint) : Reader SigmaM2 := do
  let header ← DeviceHeader.read e
  let deviceDhPubKey ← Reader.field e .deviceDhPubKey publicKeySize
  let bkpsDhPubKey ← Reader.field e .bkpsDhPubKey publicKeySize
  let signature ← Signature.read e
  let mac ← Reader.exactly mac384Size
  pure { header, deviceDhPubKey, bkpsDhPubKey, signature, mac }

def signed : Span SigmaM2 where
  limits m :=
    [.exactly "device_dh_pub_key" publicKeySize m.deviceDhPubKey,
      .exactly "bkps_dh_pub_key" publicKeySize m.bkpsDhPubKey]
      ++ DeviceHeader.signed.limits m.header
  pieces m :=
    DeviceHeader.signed.pieces m.header ++
    [.part .deviceDhPubKey m.deviceDhPubKey, .part .bkpsDhPubKey m.bkpsDhPubKey]

def covered : Span SigmaM2 := signed.append (Signature.span.within (·.signature))

def whole : Span SigmaM2 where
  limits m :=
    .exactly "reserved_header" reservedHeaderSize m.header.reservedHeader ::
    .exactly "mac" mac384Size m.mac :: covered.limits m
  pieces m := .plain m.header.reservedHeader :: covered.pieces m ++ [.part .mac m.mac]

def format : Format SigmaM2 := { read, whole, signed, covered }

end SigmaM2

structure SigmaM3 where
  reservedHeader : Bytes
  magic : UInt32
  sdmSessionId : UInt32
  bkpsDhPubKey : Bytes
  deviceDhPubKey : Bytes
  signature : Signature
  mac : Bytes
deriving DecidableEq, Repr

namespace SigmaM3

def magicWord : UInt32 := 0x2F8A45C1

def zero : SigmaM3 where
  reservedHeader := Bytes.zeros reservedHeaderSize
  magic := magicWord
  sdmSessionId := 0
  bkpsDhPubKey := Bytes.zeros publicKeySize
  deviceDhPubKey := Bytes.zeros publicKeySize
  signature := Signature.zero .secp384r1
  mac := Bytes.zeros mac384Size

def read (e : Endpoint) : Reader SigmaM3 := do
  let reservedHeader ← Reader.take reservedHeaderSize
  let magic ← Reader.fieldWord e .magic
  let sdmSessionId ← Reader.fieldWord e .sdmSessionId
  let bkpsDhPubKey ← Reader.field e .bkpsDhPubKey publicKeySize
  let deviceDhPubKey ← Reader.field e .deviceDhPubKey publicKeySize
  let signature ← Signature.read e
  let mac ← Reader.exactly mac384Size
  pure { reservedHeader, magic, sdmSessionId, bkpsDhPubKey, deviceDhPubKey, signature, mac }

def signed : Span SigmaM3 where
  limits m :=
    [.exactly "bkps_dh_pub_key" publicKeySize m.bkpsDhPubKey,
      .exactly "device_dh_pub_key" publicKeySize m.deviceDhPubKey]
  pieces m :=
    [.word .magic m.magic, .word .sdmSessionId m.sdmSessionId,
      .part .bkpsDhPubKey m.bkpsDhPubKey, .part .deviceDhPubKey m.deviceDhPubKey]

def covered : Span SigmaM3 := signed.append (Signature.span.within (·.signature))

def whole : Span SigmaM3 where
  limits m :=
    .exactly "reserved_header" reservedHeaderSize m.reservedHeader ::
    .exactly "mac" mac384Size m.mac :: covered.limits m
  pieces m := .plain m.reservedHeader :: covered.pieces m ++ [.part .mac m.mac]

def format : Format SigmaM3 := { read, whole, signed, covered }

end SigmaM3
end Wire
end Appraisal
