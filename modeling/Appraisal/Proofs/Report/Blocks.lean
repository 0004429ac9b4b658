import Appraisal.Proofs.Wire.Reader
import Appraisal.Report.Device
import Appraisal.Report.Spdm

/-!
# Appraisal.Proofs.Report.Blocks

The blocks of both report formats, written out. A block is read from the bytes that begin with its
written form, and a report of written blocks makes the records of its blocks, in order. There is no other
report that makes any, and it is written in one way only.

* `encode`, `WellFormed`: a block as bytes, and the sizes that its bytes can tell.
* `read_eq_ok_iff`: reading a block against its written form.
* `eq_of_flatMap_encode_eq`: blocks in a row are told apart.
* `records_encode`, `records_eq_ok_iff`: the records of a written report, and of any.
-/

namespace Appraisal

open Measurement Wire Reader

theorem Bytes.toNatLE_ofNatLE_of_lt {w n : Nat} (h : n < Bytes.count w) :
    Bytes.toNatLE (Bytes.ofNatLE w n) = n := by
  rw [Bytes.toNatLE_ofNatLE, Nat.mod_eq_of_lt h]

theorem filterMapM_record_cons {β : Type} {f : β → Except Error (Option Record)} {x : β}
    {xs : List β} :
    (x :: xs).filterMapM f =
      match f x with
      | .error e => .error e
      | .ok r =>
        match xs.filterMapM f with
        | .error e => .error e
        | .ok rs => .ok (r.toList ++ rs) := by
  rw [List.filterMapM_cons]
  cases f x with
  | error e => rfl
  | ok r => cases r <;> cases xs.filterMapM f <;> rfl

/-- A list of blocks is told only if every block is. -/
theorem exists_told_of_filterMapM {β : Type} {f : β → Except Error (Option Record)} {blocks : List β}
    {rs : List Record} (h : blocks.filterMapM f = .ok rs) : ∀ b ∈ blocks, ∃ r, f b = .ok r := by
  induction blocks generalizing rs with
  | nil => exact List.forall_mem_nil _
  | cons b blocks ih =>
    rw [filterMapM_record_cons] at h
    split at h
    · cases h
    · rename_i r hr
      split at h
      · cases h
      · rename_i rs' hrest
        exact List.forall_mem_cons.mpr ⟨⟨r, hr⟩, ih hrest⟩

/-- Blocks that are told apart at the front of any bytes are told apart in a row. -/
theorem eq_of_flatMap_encode_eq {β ε : Type} {read : Bytes → Except ε (β × Bytes)}
    {encode : β → Bytes} {WellFormed : β → Prop}
    (hread : ∀ bs b rest, read bs = .ok (b, rest) ↔ WellFormed b ∧ bs = encode b ++ rest)
    (hne : ∀ b, encode b ≠ []) {xs ys : List β} (hxs : ∀ b ∈ xs, WellFormed b)
    (hys : ∀ b ∈ ys, WellFormed b) (h : xs.flatMap encode = ys.flatMap encode) : xs = ys := by
  induction xs generalizing ys with
  | nil =>
    cases ys with
    | nil => rfl
    | cons y ys => simp [hne] at h
  | cons x xs ih =>
    cases ys with
    | nil => simp [hne] at h
    | cons y ys =>
      obtain ⟨hx, hleft⟩ := List.forall_mem_cons.mp hxs
      obtain ⟨hy, hright⟩ := List.forall_mem_cons.mp hys
      rw [List.flatMap_cons, List.flatMap_cons] at h
      have hfirst : read (encode x ++ xs.flatMap encode) = .ok (x, xs.flatMap encode) :=
        (hread ..).mpr ⟨hx, rfl⟩
      have hsecond : read (encode y ++ ys.flatMap encode) = .ok (y, ys.flatMap encode) :=
        (hread ..).mpr ⟨hy, rfl⟩
      rw [h, hsecond] at hfirst
      obtain ⟨rfl, hrest⟩ := Prod.mk.inj (Except.ok.inj hfirst)
      rw [ih hleft hright hrest.symm]

namespace DeviceReport

/-- A block as bytes; its size counts the header. -/
def Block.encode (b : Block) : Bytes :=
  b.sectionNumber :: (b.reserved ++
    UInt8.ofNat (headerSize + b.value.length) :: (b.index ++ b.value))

/-- A block whose header has its size, and whose own size fits in a byte. -/
structure Block.WellFormed (b : Block) : Prop where
  reserved_length : b.reserved.length = 2
  index_length : b.index.length = 4
  value_length : b.value.length ≤ 247

variable {b : Block} {bs rest : Bytes}

/-- The section, the reserved bytes, the size and the index in front of a value. -/
def Block.readHeader : Reader (UInt8 × Bytes × UInt8 × Bytes) := do
  let sectionNumber ← Reader.byte
  let reserved ← Reader.take 2
  let size ← Reader.byte
  let index ← Reader.take 4
  pure (sectionNumber, reserved, size, index)

theorem Block.readHeader_eq_ok_iff {n size : UInt8} {reserved index : Bytes} :
    readHeader bs = .ok ((n, reserved, size, index), rest) ↔
      reserved.length = 2 ∧ index.length = 4 ∧ bs = n :: (reserved ++ size :: (index ++ rest)) := by
  simp only [readHeader, bind_eq_ok, pure_eq_ok, byte_eq_ok_iff, take_eq_ok_iff]
  constructor
  · intro h
    obtain ⟨_, _, rfl, _, _, ⟨hreserved, rfl⟩, _, _, rfl, _, _, ⟨hindex, rfl⟩, hfields, rfl⟩ := h
    cases hfields
    exact ⟨hreserved, hindex, rfl⟩
  · intro h
    obtain ⟨hreserved, hindex, rfl⟩ := h
    exact ⟨n, _, rfl, reserved, _, ⟨hreserved, rfl⟩, size, _, rfl, index, rest, ⟨hindex, rfl⟩, rfl,
      rfl⟩

theorem Block.read_eq_ok_iff : read bs = .ok (b, rest) ↔ b.WellFormed ∧ bs = b.encode ++ rest := by
  constructor
  · intro h
    simp only [read] at h
    split at h
    · cases h
    · rename_i n reserved size index mid hheader
      obtain ⟨hreserved, hindex, rfl⟩ := readHeader_eq_ok_iff.mp hheader
      split at h
      · cases h
      · rename_i hsize
        split at h
        · cases h
        · rename_i value left htake
          cases h
          obtain ⟨hvalue, rfl⟩ := take_eq_ok_iff.mp htake
          have hlt := size.toNat_lt
          simp only [headerSize] at hsize hvalue
          have hlen : UInt8.ofNat (headerSize + value.length) = size := by
            rw [headerSize, hvalue, Nat.add_sub_cancel' (by omega), UInt8.ofNat_toNat]
          have hle : value.length ≤ 247 := by omega
          exact ⟨⟨hreserved, hindex, hle⟩, by simp [encode, hlen]⟩
  · intro h
    obtain ⟨⟨hreserved, hindex, hvalue⟩, rfl⟩ := h
    have hlen : (UInt8.ofNat (headerSize + b.value.length)).toNat = headerSize + b.value.length :=
      UInt8.toNat_ofNat_of_lt' (by simp only [headerSize, UInt8.size]; omega)
    have hheader : readHeader (b.encode ++ rest) = .ok ((b.sectionNumber, b.reserved,
        UInt8.ofNat (headerSize + b.value.length), b.index), b.value ++ rest) :=
      readHeader_eq_ok_iff.mpr ⟨hreserved, hindex, by simp [encode]⟩
    unfold readHeader at hheader
    rw [read, hheader]
    dsimp only
    rw [hlen, if_neg (by omega), Nat.add_sub_cancel_left, take_append rfl]

theorem records_encode {blocks : List Block} (h : ∀ b ∈ blocks, b.WellFormed) :
    records blocks.length (blocks.flatMap Block.encode) = blocks.filterMapM Block.record? := by
  induction blocks with
  | nil => rfl
  | cons b blocks ih =>
    obtain ⟨hb, hblocks⟩ := List.forall_mem_cons.mp h
    rewrite [List.length_cons, List.flatMap_cons, records, Block.read_eq_ok_iff.mpr ⟨hb, rfl⟩,
      filterMapM_record_cons, ← ih hblocks]
    rfl

/-- A report makes records exactly when it is as many blocks as it should be, and each of them tells what
it should. -/
theorem records_eq_ok_iff {count : Nat} {rs : List Record} :
    records count bs = .ok rs ↔
      ∃ blocks : List Block, blocks.length = count ∧ (∀ b ∈ blocks, b.WellFormed) ∧
        bs = blocks.flatMap Block.encode ∧ blocks.filterMapM Block.record? = .ok rs := by
  constructor
  · intro h
    induction count generalizing bs rs with
    | zero =>
      rw [records] at h
      split at h
      · rename_i hempty
        cases h
        exact ⟨[], rfl, List.forall_mem_nil _, List.isEmpty_iff.mp hempty, rfl⟩
      · cases h
    | succ count ih =>
      rw [records] at h
      split at h
      · cases h
      · rename_i b rest hread
        obtain ⟨hb, rfl⟩ := Block.read_eq_ok_iff.mp hread
        split at h
        · cases h
        · rename_i r hr
          split at h
          · cases h
          · rename_i rs' hrest
            cases h
            obtain ⟨blocks, rfl, hblocks, rfl, htold⟩ := ih hrest
            refine ⟨b :: blocks, rfl, List.forall_mem_cons.mpr ⟨hb, hblocks⟩, rfl, ?_⟩
            rw [filterMapM_record_cons, hr, htold]
  · intro h
    obtain ⟨blocks, rfl, hblocks, rfl, htold⟩ := h
    rw [records_encode hblocks, htold]

end DeviceReport

namespace SpdmReport

/-- A block as bytes; its size is that of the body. -/
def Block.encode (b : Block) : Bytes :=
  b.index :: b.spec :: (Bytes.ofNatLE 2 b.body.length ++ b.body)

/-- A block whose size can be told. -/
def Block.WellFormed (b : Block) : Prop := b.body.length ≤ 65535

variable {b : Block} {bs rest : Bytes}

theorem Block.read_eq_ok_iff : read bs = .ok (b, rest) ↔ b.WellFormed ∧ bs = b.encode ++ rest := by
  simp only [read, bind_eq_ok, pure_eq_ok, byte_eq_ok_iff, take_eq_ok_iff]
  constructor
  · intro h
    obtain ⟨index, _, rfl, spec, _, rfl, size, _, ⟨hsize, rfl⟩, body, _, ⟨hbody, rfl⟩, rfl, rfl⟩ := h
    have hlt := Bytes.toNatLE_lt size
    rw [hsize, ← hbody] at hlt
    refine ⟨Nat.le_of_lt_succ hlt, ?_⟩
    simp [encode, hbody, Bytes.ofNatLE_toNatLE_of_length hsize]
  · intro h
    obtain ⟨hb, rfl⟩ := h
    have hlen : Bytes.toNatLE (Bytes.ofNatLE 2 b.body.length) = b.body.length :=
      Bytes.toNatLE_ofNatLE_of_lt (Nat.lt_succ_of_le hb)
    exact ⟨b.index, _, rfl, b.spec, _, rfl, _, _, ⟨Bytes.length_ofNatLE 2 b.body.length, by simp⟩,
      b.body, rest, ⟨hlen.symm, rfl⟩, rfl, rfl⟩

theorem records_encode {blocks : List Block} (h : ∀ b ∈ blocks, b.WellFormed) :
    records (blocks.flatMap Block.encode) = blocks.filterMapM Block.record? := by
  induction blocks with
  | nil =>
    rw [List.flatMap_nil, records]
    rfl
  | cons b blocks ih =>
    obtain ⟨hb, hblocks⟩ := List.forall_mem_cons.mp h
    have hread : Block.read (b.encode ++ blocks.flatMap Block.encode) = .ok (b, _) :=
      Block.read_eq_ok_iff.mpr ⟨hb, rfl⟩
    rw [List.flatMap_cons, records, if_neg (by simp [Block.encode]), filterMapM_record_cons,
      ← ih hblocks]
    split
    · rename_i e he
      rw [hread] at he
      cases he
    · rename_i c left hc
      rw [hread] at hc
      cases hc
      rfl

/-- A report makes records exactly when it is blocks up to its end, and each of them tells what it
should. -/
theorem records_eq_ok_iff {rs : List Record} :
    records bs = .ok rs ↔
      ∃ blocks : List Block, (∀ b ∈ blocks, b.WellFormed) ∧ bs = blocks.flatMap Block.encode ∧
        blocks.filterMapM Block.record? = .ok rs := by
  constructor
  · intro h
    fun_induction records bs generalizing rs with
    | case1 =>
      cases h
      exact ⟨[], List.forall_mem_nil _, rfl, rfl⟩
    | case2 => cases h
    | case3 => cases h
    | case4 => cases h
    | case5 bs hne b rest hread hlt r hr rs' hrest ih =>
      cases h
      obtain ⟨hb, rfl⟩ := Block.read_eq_ok_iff.mp hread
      obtain ⟨blocks, hblocks, rfl, htold⟩ := ih hrest
      refine ⟨b :: blocks, List.forall_mem_cons.mpr ⟨hb, hblocks⟩, rfl, ?_⟩
      rw [filterMapM_record_cons, hr, htold]
  · intro h
    obtain ⟨blocks, hblocks, rfl, htold⟩ := h
    rw [records_encode hblocks, htold]

end SpdmReport
end Appraisal
