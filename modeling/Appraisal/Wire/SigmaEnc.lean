import Appraisal.Wire.DeviceHeader

/-!
# Appraisal.Wire.SigmaEnc

The encrypted envelope of an established SIGMA session, and the device's response to it. A device
that has nothing to return answers with the bare header.

* `SigmaEnc.format`: the envelope; the MAC covers all between the reserved header and itself, and
  nothing is signed.
* `SigmaEncResponse.format`: a response ends after the header or holds a whole envelope.
-/

namespace Appraisal
namespace Wire

structure SigmaEnc where
  reservedHeader : Bytes
  magic : UInt32
  sdmSessionId : UInt32
  messageCounter : UInt32
  reserved1 : Bytes
  initialIv : Bytes
  numberOfPaddingBytes : UInt8
  reserved2 : Bytes
  encryptedPayload : Bytes
  mac : Bytes
deriving DecidableEq, Repr

/-- The fields in front of an envelope's body, which are all that a bare response holds. -/
structure SigmaEncHeader where
  reservedHeader : Bytes
  magic : UInt32
  sdmSessionId : UInt32
deriving DecidableEq, Repr

namespace SigmaEncHeader

def read (e : Endpoint) : Reader SigmaEncHeader := do
  let reservedHeader ← Reader.take reservedHeaderSize
  let magic ← Reader.fieldWord e .magic
  let sdmSessionId ← Reader.fieldWord e .sdmSessionId
  pure { reservedHeader, magic, sdmSessionId }

def span : Span SigmaEncHeader where
  limits h := [.exactly "reserved_header" reservedHeaderSize h.reservedHeader]
  pieces h :=
    [.plain h.reservedHeader, .word .magic h.magic, .word .sdmSessionId h.sdmSessionId]

end SigmaEncHeader

namespace SigmaEnc

def magicWord : UInt32 := 0x5E1DA39B

def initialIvSize : Nat := 16

def reserved1Size : Nat := 8

/-- The size of the reserved span behind the padding count. -/
def reserved2Size : Nat := 3

/-- The longest payload that the length field can announce. -/
def maxPayloadSize : Nat := 4294967295

def zero : SigmaEnc where
  reservedHeader := Bytes.zeros reservedHeaderSize
  magic := magicWord
  sdmSessionId := 0
  messageCounter := 0
  reserved1 := Bytes.zeros reserved1Size
  initialIv := Bytes.zeros initialIvSize
  numberOfPaddingBytes := 0
  reserved2 := Bytes.zeros reserved2Size
  encryptedPayload := []
  mac := Bytes.zeros mac256Size

def readBody (e : Endpoint) (h : SigmaEncHeader) : Reader SigmaEnc := do
  let messageCounter ← Reader.fieldWord e .messageCounter
  let reserved1 ← Reader.take reserved1Size
  let payloadLen ← Reader.fieldWord e .payloadLen
  let initialIv ← Reader.field e .initialIv initialIvSize
  let numberOfPaddingBytes ← Reader.byte
  let reserved2 ← Reader.take reserved2Size
  let encryptedPayload ← Reader.field e .payload payloadLen.toNat
  let mac ← Reader.exactly mac256Size
  pure { reservedHeader := h.reservedHeader, magic := h.magic, sdmSessionId := h.sdmSessionId,
         messageCounter, reserved1, initialIv, numberOfPaddingBytes, reserved2,
         encryptedPayload, mac }

def read (e : Endpoint) : Reader SigmaEnc := do
  let h ← SigmaEncHeader.read e
  readBody e h

def covered : Span SigmaEnc where
  limits m :=
    [.exactly "reserved1" reserved1Size m.reserved1,
      .exactly "initial_iv" initialIvSize m.initialIv,
      .exactly "reserved2" reserved2Size m.reserved2,
      .atMost "encrypted_payload" maxPayloadSize m.encryptedPayload]
  pieces m :=
    [.word .magic m.magic, .word .sdmSessionId m.sdmSessionId,
      .word .messageCounter m.messageCounter, .plain m.reserved1,
      .part .payloadLen (Bytes.ofNatBE 4 m.encryptedPayload.length),
      .part .initialIv m.initialIv, .byte m.numberOfPaddingBytes, .plain m.reserved2,
      .part .payload m.encryptedPayload]

def whole : Span SigmaEnc where
  limits m :=
    .exactly "reserved_header" reservedHeaderSize m.reservedHeader ::
    .exactly "mac" mac256Size m.mac :: covered.limits m
  pieces m := .plain m.reservedHeader :: covered.pieces m ++ [.part .mac m.mac]

def format : Format SigmaEnc := { read, whole, covered }

end SigmaEnc

inductive SigmaEncResponse where
  | headerOnly (header : SigmaEncHeader)
  | encrypted (body : SigmaEnc)
deriving DecidableEq, Repr

namespace SigmaEncResponse

def isHeaderOnly : SigmaEncResponse → Bool
  | headerOnly _ => true
  | encrypted _ => false

def sdmSessionId : SigmaEncResponse → UInt32
  | headerOnly h => h.sdmSessionId
  | encrypted m => m.sdmSessionId

/-- Reads a response: bare if nothing follows the header. -/
def read (e : Endpoint) : Reader SigmaEncResponse := do
  let h ← SigmaEncHeader.read e
  let left ← Reader.remaining
  if left = 0 then pure (headerOnly h)
  else do
    let m ← SigmaEnc.readBody e h
    pure (encrypted m)

def whole : Span SigmaEncResponse where
  limits
    | headerOnly h => SigmaEncHeader.span.limits h
    | encrypted m => SigmaEnc.whole.limits m
  pieces
    | headerOnly h => SigmaEncHeader.span.pieces h
    | encrypted m => SigmaEnc.whole.pieces m

/-- What the MAC covers; a bare header has none. -/
def covered : Span SigmaEncResponse where
  limits
    | headerOnly _ => []
    | encrypted m => SigmaEnc.covered.limits m
  pieces
    | headerOnly _ => []
    | encrypted m => SigmaEnc.covered.pieces m

def format : Format SigmaEncResponse := { read, whole, covered }

end SigmaEncResponse
end Wire
end Appraisal
