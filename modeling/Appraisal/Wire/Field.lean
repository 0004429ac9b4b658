import Appraisal.Wire.ByteOrder

/-!
# Appraisal.Wire.Field

The fields of the messages that have a byte order of their own. A field is a part of a message; its
part alone decides its order, so `Part.order` is the one table behind the reading and the writing
of every message.

* `Owner.parts`: the parts of each message, in the order of the message.
* `Owner.orders`: a message's table of byte orders.
* `Field.name`, `Field.ofName?`: the names of the fields in diagnostics.
-/

namespace Appraisal
namespace Wire

/-- What a field is a part of: a message, or the signature block inside one. -/
inductive Owner where
  | psgSignature
  | getMeasurement
  | sigmaM1
  | sigmaM2
  | sigmaM3
  | sigmaEnc
  | spdmCertificate
deriving DecidableEq, Repr

inductive Part where
  | magic
  | sizeR
  | sizeS
  | curveMagic
  | r
  | s
  | sdmSessionId
  | deviceUniqueId
  | romVersionNum
  | sdmFwBuildId
  | sdmFwSecurityVersionNum
  | publicEfuseValues
  | deviceDhPubKey
  | verifierDhPubKey
  | bkpsDhPubKey
  | cmfDescriptorHash
  | recordLen
  | mac
  | pufType
  | userKeyChain
  | messageCounter
  | payloadLen
  | initialIv
  | payload
  | totalLen
  | chainHash
  | chain
deriving DecidableEq, Repr

namespace Part

/-- Integers are reversed, the public efuse words each, and all else keeps its place. -/
def order : Part → ByteOrder
  | magic | sizeR | sizeS | curveMagic | sdmSessionId | romVersionNum
  | sdmFwSecurityVersionNum | recordLen | pufType | messageCounter | payloadLen
  | totalLen => .integer
  | publicEfuseValues => .words32
  | _ => .kept

def name : Part → String
  | magic => "Magic"
  | sizeR => "SizeR"
  | sizeS => "SizeS"
  | curveMagic => "CurveMagic"
  | r => "R"
  | s => "S"
  | sdmSessionId => "SdmSessionId"
  | deviceUniqueId => "DeviceUniqueId"
  | romVersionNum => "RomVersionNum"
  | sdmFwBuildId => "SdmFwBuildId"
  | sdmFwSecurityVersionNum => "SdmFwSecurityVersionNum"
  | publicEfuseValues => "PublicEfuseValues"
  | deviceDhPubKey => "DeviceDhPubKey"
  | verifierDhPubKey => "VerifierDhPubKey"
  | bkpsDhPubKey => "BkpsDhPubKey"
  | cmfDescriptorHash => "CmfDescriptorHash"
  | recordLen => "RecordLen"
  | mac => "Mac"
  | pufType => "PufType"
  | userKeyChain => "UserKeyChain"
  | messageCounter => "MessageCounter"
  | payloadLen => "PayloadLen"
  | initialIv => "InitialIv"
  | payload => "Payload"
  | totalLen => "TotalLen"
  | chainHash => "ChainHash"
  | chain => "Chain"

end Part

structure Field where
  owner : Owner
  part : Part
deriving DecidableEq, Repr

namespace Owner

def name : Owner → String
  | psgSignature => "PsgSignature"
  | getMeasurement => "GetMeasurement"
  | sigmaM1 => "SigmaM1"
  | sigmaM2 => "SigmaM2"
  | sigmaM3 => "SigmaM3"
  | sigmaEnc => "SigmaEnc"
  | spdmCertificate => "SpdmCertificate"

/-- The parts of a message that have a byte order, in the order of the message. -/
def parts : Owner → List Part
  | psgSignature => [.magic, .sizeR, .sizeS, .curveMagic, .r, .s]
  | getMeasurement =>
    [.magic, .sdmSessionId, .deviceUniqueId, .romVersionNum, .sdmFwBuildId,
      .sdmFwSecurityVersionNum, .publicEfuseValues, .deviceDhPubKey, .verifierDhPubKey,
      .cmfDescriptorHash, .recordLen, .mac]
  | sigmaM1 => [.magic, .bkpsDhPubKey, .pufType, .userKeyChain]
  | sigmaM2 =>
    [.magic, .sdmSessionId, .deviceUniqueId, .romVersionNum, .sdmFwBuildId,
      .sdmFwSecurityVersionNum, .publicEfuseValues, .deviceDhPubKey, .bkpsDhPubKey, .mac]
  | sigmaM3 => [.magic, .sdmSessionId, .bkpsDhPubKey, .deviceDhPubKey, .mac]
  | sigmaEnc =>
    [.magic, .sdmSessionId, .messageCounter, .payloadLen, .initialIv, .payload, .mac]
  | spdmCertificate => [.totalLen, .chainHash, .chain]

def all : List Owner :=
  [psgSignature, getMeasurement, sigmaM1, sigmaM2, sigmaM3, sigmaEnc, spdmCertificate]

def fields (o : Owner) : List Field := o.parts.map (Field.mk o)

def orders (o : Owner) : List (Field × ByteOrder) := o.fields.map fun f => (f, f.part.order)

end Owner

namespace Field

def name (f : Field) : String := f.owner.name ++ f.part.name

def all : List Field := Owner.all.flatMap Owner.fields

def ofName? (s : String) : Option Field := all.find? fun f => f.name == s

end Field
end Wire
end Appraisal
