import Appraisal.Report.Section
import Appraisal.Wire.GetMeasurement

/-!
# Appraisal.Report.Device

The measurement record of a GET_MEASUREMENT response: as many blocks as the response announces, each
a section number, two reserved bytes, a size that counts the header, an index and a value.

* `Block.read`: one block.
* `records`: the records of a whole report. A block of an unknown section is passed over, and bytes
  behind the last block are an error.
-/

namespace Appraisal
namespace DeviceReport

open Measurement

structure Block where
  sectionNumber : UInt8
  reserved : Bytes
  index : Bytes
  value : Bytes
deriving DecidableEq, Repr

namespace Block

def headerSize : Nat := 8

/-- Reads the block in front of `bs` and gives what follows it. -/
def read (bs : Bytes) : Except Error (Block × Bytes) :=
  let header : Wire.Reader (UInt8 × Bytes × UInt8 × Bytes) := do
    let sectionNumber ← Wire.Reader.byte
    let reserved ← Wire.Reader.take 2
    let size ← Wire.Reader.byte
    let index ← Wire.Reader.take 4
    pure (sectionNumber, reserved, size, index)
  match header bs with
  | .error e => .error (.wire e)
  | .ok ((sectionNumber, reserved, size, index), rest) =>
    if size.toNat < headerSize then .error (.invalidBlockSize headerSize size.toNat)
    else match Wire.Reader.take (size.toNat - headerSize) rest with
      | .error e => .error (.wire e)
      | .ok (value, rest) => .ok (⟨sectionNumber, reserved, index, value⟩, rest)

def record? (b : Block) : Except Error (Option Record) :=
  match Section.ofNumber? b.sectionNumber with
  | none => .ok none
  | some s => s.record? (Bytes.toNatBE b.index) b.value

end Block

/-- The records of the `count` blocks that make up a report. -/
def records : Nat → Bytes → Except Error (List Record)
  | 0, bs => if bs.isEmpty then .ok [] else .error (.trailingMeasurementData bs.length)
  | count + 1, bs =>
    match Block.read bs with
    | .error e => .error e
    | .ok (b, rest) =>
      match b.record? with
      | .error e => .error e
      | .ok r =>
        match records count rest with
        | .error e => .error e
        | .ok rs => .ok (r.toList ++ rs)

def ofResponse (m : Wire.GetMeasurement) : Except Error (List Record) :=
  records m.numberOfMeasurementBlocks.toNat m.measurementRecord

end DeviceReport
end Appraisal
