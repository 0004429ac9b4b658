import Appraisal.Wire.Format

/-!
# Appraisal.Wire.DeviceHeader

The identity block of a device, in front of a measurement response and of the second SIGMA message.
A byte names the device family, which fixes how many public efuse bytes follow.

* `DeviceHeader.read`: the block with its reserved header.
* `DeviceHeader.signed`: the block from the magic on; the reserved header is never signed.
-/

namespace Appraisal
namespace Wire

/-- The device family, which fixes the size of the public efuse values. -/
inductive DeviceFamily where
  | s10
  | fm568
deriving DecidableEq, Repr

namespace DeviceFamily

def efuseSize : DeviceFamily → Nat
  | s10 => 256
  | fm568 => 448

def toByte : DeviceFamily → UInt8
  | s10 => 0
  | fm568 => 1

def name : DeviceFamily → String
  | s10 => "S10"
  | fm568 => "Fm568"

def ofByte (b : UInt8) : Except Error DeviceFamily :=
  if b = 0 then .ok s10
  else if b = 1 then .ok fm568
  else .error (.unsupportedDeviceFamily b)

end DeviceFamily

/-- The size of the reserved header in front of every command and response. -/
def reservedHeaderSize : Nat := 4

def publicKeySize : Nat := 96

def mac384Size : Nat := 48

def mac256Size : Nat := 32

structure DeviceHeader where
  reservedHeader : Bytes
  magic : UInt32
  sdmSessionId : UInt32
  deviceUniqueId : Bytes
  romVersionNum : UInt32
  sdmFwBuildId : Bytes
  sdmFwSecurityVersionNum : UInt32
  deviceFamily : DeviceFamily
  reserved : Bytes
  publicEfuseValues : Bytes
deriving DecidableEq, Repr

namespace DeviceHeader

def uniqueIdSize : Nat := 8

def buildIdSize : Nat := 28

def reservedSize : Nat := 3

def zero (magic : UInt32) : DeviceHeader where
  reservedHeader := Bytes.zeros reservedHeaderSize
  magic := magic
  sdmSessionId := 0
  deviceUniqueId := Bytes.zeros uniqueIdSize
  romVersionNum := 0
  sdmFwBuildId := Bytes.zeros buildIdSize
  sdmFwSecurityVersionNum := 0
  deviceFamily := .s10
  reserved := Bytes.zeros reservedSize
  publicEfuseValues := Bytes.zeros DeviceFamily.s10.efuseSize

def read (e : Endpoint) : Reader DeviceHeader := do
  let reservedHeader ← Reader.take reservedHeaderSize
  let magic ← Reader.fieldWord e .magic
  let sdmSessionId ← Reader.fieldWord e .sdmSessionId
  let deviceUniqueId ← Reader.field e .deviceUniqueId uniqueIdSize
  let romVersionNum ← Reader.fieldWord e .romVersionNum
  let sdmFwBuildId ← Reader.field e .sdmFwBuildId buildIdSize
  let sdmFwSecurityVersionNum ← Reader.fieldWord e .sdmFwSecurityVersionNum
  let byte ← Reader.byte
  let deviceFamily ← (DeviceFamily.ofByte byte : Except Error DeviceFamily)
  let reserved ← Reader.take reservedSize
  let publicEfuseValues ← Reader.field e .publicEfuseValues deviceFamily.efuseSize
  pure { reservedHeader, magic, sdmSessionId, deviceUniqueId, romVersionNum, sdmFwBuildId,
         sdmFwSecurityVersionNum, deviceFamily, reserved, publicEfuseValues }

def signed : Span DeviceHeader where
  limits h :=
    [.exactly "device_unique_id" uniqueIdSize h.deviceUniqueId,
      .exactly "sdm_fw_build_id" buildIdSize h.sdmFwBuildId,
      .exactly "reserved" reservedSize h.reserved,
      .exactly "public_efuse_values" h.deviceFamily.efuseSize h.publicEfuseValues]
  pieces h :=
    [.word .magic h.magic, .word .sdmSessionId h.sdmSessionId,
      .part .deviceUniqueId h.deviceUniqueId, .word .romVersionNum h.romVersionNum,
      .part .sdmFwBuildId h.sdmFwBuildId,
      .word .sdmFwSecurityVersionNum h.sdmFwSecurityVersionNum, .byte h.deviceFamily.toByte,
      .plain h.reserved, .part .publicEfuseValues h.publicEfuseValues]

end DeviceHeader
end Wire
end Appraisal
