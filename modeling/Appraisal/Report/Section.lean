import Appraisal.Error

/-!
# Appraisal.Report.Section

The sections of a device that are measured, and the record that the measurement of one makes. Both
report formats name sections and share the records.

* `Section.typeOid`: the measurement type of a section.
* `Section.record?`: device state is kept as vendor information, the designs as digests, and the
  other sections make no record.
-/

namespace Appraisal

inductive Section where
  | reserved
  | deviceState
  | io
  | core
  | hpio
  | hps
  /-- A partial reconfiguration region; an index tells which. -/
  | pr
  | layer0FwRomExt
  | layer1FwCmf
  | layer2BaseDesign
deriving DecidableEq, Repr

namespace Section

def number : Section → UInt8
  | reserved => 0
  | deviceState => 1
  | io => 2
  | core => 3
  | hpio => 4
  | hps => 5
  | pr => 6
  | layer0FwRomExt => 10
  | layer1FwCmf => 11
  | layer2BaseDesign => 12

def all : List Section :=
  [reserved, deviceState, io, core, hpio, hps, pr, layer0FwRomExt, layer1FwCmf, layer2BaseDesign]

def ofNumber? (n : UInt8) : Option Section := all.find? fun s => s.number == n

/-- The DMTF value type under which SPDM reports a section. -/
def dmtfType? : Section → Option UInt8
  | deviceState => some 0x82
  | io | core | hpio | hps | pr => some 0x01
  | reserved | layer0FwRomExt | layer1FwCmf | layer2BaseDesign => none

def name : Section → String
  | reserved => "Reserved"
  | deviceState => "DeviceState"
  | io => "Io"
  | core => "Core"
  | hpio => "Hpio"
  | hps => "Hps"
  | pr => "Pr"
  | layer0FwRomExt => "Layer0FwRomExt"
  | layer1FwCmf => "Layer1FwCmf"
  | layer2BaseDesign => "Layer2BaseDesign"

/-- The object identifier under which the measurement types of all sections lie. -/
def typeOidBase : String := "2.16.840.1.113741.1.15.4"

def typeOid (number : UInt8) : String := typeOidBase ++ "." ++ toString number.toNat

/-- The vendor of all measurements that the device takes itself. -/
def vendor : String := "intel.com"

/-- The layer of all measurements that the device takes itself, the user design. -/
def layer : Int := 2

end Section

def sha384Oid : String := "2.16.840.1.101.3.4.2.2"

def sha512Oid : String := "2.16.840.1.101.3.4.2.3"

def hashAlgOfSize (size : Nat) : Except Error String :=
  if size = 48 then .ok sha384Oid
  else if size = 64 then .ok sha512Oid
  else .error (.invalidDigestSize size)

namespace Section

open Measurement

def key (s : Section) (index : Int) : Key where
  vendor := vendor
  layer := layer
  index := if s = pr then index else 0
  measurementType := some (typeOid s.number)

/-- A digest of the given bytes by the hash that their size tells. -/
def digest (data : Bytes) : Except Error Value :=
  match hashAlgOfSize data.length with
  | .ok alg => .ok { fwid := some (Fwid.ofDigest alg (Hex.lower data)) }
  | .error e => .error e

/-- The record that the measurement `data` of a section makes, if it makes one. -/
def record? (s : Section) (index : Int) (data : Bytes) : Except Error (Option Record) :=
  match s with
  | deviceState =>
    .ok (some ⟨s.key index, { vendorInfo := some (VendorInfo.ofText (Hex.upper data) none) }⟩)
  | pr | io | core | hpio | hps =>
    match digest data with
    | .ok v => .ok (some ⟨s.key index, v⟩)
    | .error e => .error e
  | reserved | layer0FwRomExt | layer1FwCmf | layer2BaseDesign => .ok none

end Section
end Appraisal
