import Appraisal.Wire.DeviceHeader
import Appraisal.Wire.Signature

/-!
# Appraisal.Wire.GetMeasurement

The device's answer to GET_MEASUREMENT: its identity, the keys of the session, the measurement
record, a signature and a MAC. The length of the record is written in front of it.

* `GetMeasurement.format`: everything between the reserved header and the signature is signed, and
  the MAC covers that and the signature.
-/

namespace Appraisal
namespace Wire

structure GetMeasurement where
  header : DeviceHeader
  deviceDhPubKey : Bytes
  verifierDhPubKey : Bytes
  cmfDescriptorHash : Bytes
  reserved2 : Bytes
  numberOfMeasurementBlocks : UInt8
  reserved3 : UInt8
  measurementRecord : Bytes
  signature : Signature
  mac : Bytes
deriving DecidableEq, Repr

namespace GetMeasurement

def magic : UInt32 := 0x8C6F1A35

def descriptorHashSize : Nat := 48

/-- The size of the reserved span behind the descriptor hash. -/
def reserved2Size : Nat := 12

def maxRecordSize : Nat := 65535

def zero : GetMeasurement where
  header := DeviceHeader.zero magic
  deviceDhPubKey := Bytes.zeros publicKeySize
  verifierDhPubKey := Bytes.zeros publicKeySize
  cmfDescriptorHash := Bytes.zeros descriptorHashSize
  reserved2 := Bytes.zeros reserved2Size
  numberOfMeasurementBlocks := 0
  reserved3 := 0
  measurementRecord := []
  signature := Signature.zero .secp384r1
  mac := Bytes.zeros mac384Size

def read (e : Endpoint) : Reader GetMeasurement := do
  let header ← DeviceHeader.read e
  let deviceDhPubKey ← Reader.field e .deviceDhPubKey publicKeySize
  let verifierDhPubKey ← Reader.field e .verifierDhPubKey publicKeySize
  let cmfDescriptorHash ← Reader.field e .cmfDescriptorHash descriptorHashSize
  let reserved2 ← Reader.take reserved2Size
  let numberOfMeasurementBlocks ← Reader.byte
  let reserved3 ← Reader.byte
  let recordLen ← Reader.fieldHalf e .recordLen
  let measurementRecord ← Reader.take recordLen.toNat
  let signature ← Signature.read e
  let mac ← Reader.exactly mac384Size
  pure { header, deviceDhPubKey, verifierDhPubKey, cmfDescriptorHash, reserved2,
         numberOfMeasurementBlocks, reserved3, measurementRecord, signature, mac }

def signed : Span GetMeasurement where
  limits m :=
    [.exactly "device_dh_pub_key" publicKeySize m.deviceDhPubKey,
      .exactly "verifier_dh_pub_key" publicKeySize m.verifierDhPubKey,
      .exactly "cmf_descriptor_hash" descriptorHashSize m.cmfDescriptorHash,
      .exactly "reserved2" reserved2Size m.reserved2,
      .atMost "measurement_record" maxRecordSize m.measurementRecord]
      ++ DeviceHeader.signed.limits m.header
  pieces m :=
    DeviceHeader.signed.pieces m.header ++
    [.part .deviceDhPubKey m.deviceDhPubKey, .part .verifierDhPubKey m.verifierDhPubKey,
      .part .cmfDescriptorHash m.cmfDescriptorHash, .plain m.reserved2,
      .byte m.numberOfMeasurementBlocks, .byte m.reserved3,
      .half .recordLen m.measurementRecord.length, .plain m.measurementRecord]

def covered : Span GetMeasurement := signed.append (Signature.span.within (·.signature))

def whole : Span GetMeasurement where
  limits m :=
    .exactly "reserved_header" reservedHeaderSize m.header.reservedHeader ::
    .exactly "mac" mac384Size m.mac :: covered.limits m
  pieces m := .plain m.header.reservedHeader :: covered.pieces m ++ [.part .mac m.mac]

def format : Format GetMeasurement := { read, whole, signed, covered }

end GetMeasurement
end Wire
end Appraisal
