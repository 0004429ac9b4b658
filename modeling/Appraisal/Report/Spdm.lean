import Appraisal.Report.Section
import Appraisal.Wire.Reader

/-!
# Appraisal.Report.Spdm

The measurement record of an SPDM MEASUREMENTS response: blocks up to the end, each an index, a
measurement specification, a size and a body. The body of a DMTF block is a value type, two size
bytes and the value.

* `Block.read`: one block.
* `Block.section?`: the section and the key index that an index and a value type name.
* `records`: the records of a whole report. Blocks of other specifications and of unknown sections
  are passed over.
-/

namespace Appraisal
namespace SpdmReport

open Measurement

structure Block where
  index : UInt8
  spec : UInt8
  body : Bytes
deriving DecidableEq, Repr

namespace Block

def dmtfSpec : UInt8 := 1

/-- The size of the header inside the body of a DMTF block. -/
def dmtfHeaderSize : Nat := 3

def firstRegion : UInt8 := 0x40

def lastRegion : UInt8 := 0x5F

def read : Wire.Reader Block := do
  let index ← Wire.Reader.byte
  let spec ← Wire.Reader.byte
  let size ← Wire.Reader.take 2
  let body ← Wire.Reader.take (Bytes.toNatLE size)
  pure ⟨index, spec, body⟩

/-- The section, and the index in its key, that the block's index and the value type `type` name.
Regions count from one, in the most significant byte of the key's index. -/
def section? (b : Block) (type : UInt8) : Option (Section × Int) :=
  if firstRegion ≤ b.index ∧ b.index ≤ lastRegion then
    if Section.pr.dmtfType? = some type then
      some (.pr, ((b.index.toNat - firstRegion.toNat + 1) * 0x1000000 : Nat))
    else none
  else if 1 ≤ b.index ∧ b.index ≤ 5 then
    match Section.ofNumber? b.index with
    | some s => if s.dmtfType? = some type then some (s, 0) else none
    | none => none
  else none

def record? (b : Block) : Except Error (Option Record) :=
  if b.spec ≠ dmtfSpec then .ok none
  else match b.body with
    | type :: _ :: _ :: value =>
      match b.section? type with
      | none => .ok none
      | some (s, index) => s.record? index value
    | _ => .error (.invalidBlockSize dmtfHeaderSize b.body.length)

/-- A block is never empty. -/
theorem length_lt_of_read {bs rest : Bytes} {b : Block} (h : read bs = .ok (b, rest)) :
    rest.length < bs.length := by
  obtain ⟨_, m1, h1, h⟩ := Wire.Reader.bind_eq_ok.1 h
  obtain ⟨_, m2, h2, h⟩ := Wire.Reader.bind_eq_ok.1 h
  obtain ⟨_, m3, h3, h⟩ := Wire.Reader.bind_eq_ok.1 h
  obtain ⟨_, m4, h4, h⟩ := Wire.Reader.bind_eq_ok.1 h
  obtain ⟨_, rfl⟩ := Wire.Reader.pure_eq_ok.1 h
  rw [Wire.Reader.byte_eq_ok h1, Wire.Reader.byte_eq_ok h2, (Wire.Reader.take_eq_ok h3).1,
    (Wire.Reader.take_eq_ok h4).1]
  simp
  omega

end Block

def records (bs : Bytes) : Except Error (List Record) :=
  if bs = [] then .ok []
  else match h : Block.read bs with
    | .error e => .error (.wire e)
    | .ok (b, rest) =>
      have := Block.length_lt_of_read h
      match b.record? with
      | .error e => .error e
      | .ok r =>
        match records rest with
        | .error e => .error e
        | .ok rs => .ok (r.toList ++ rs)
termination_by bs.length

end SpdmReport
end Appraisal
