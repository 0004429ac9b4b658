import Appraisal.Proofs.Report.Blocks

/-!
# Appraisal.Proofs.Report.Agreement

A device can report its measurements in its own format and over SPDM, and both reports make the same
records.

* `Subject`, `Measured`: what both formats can name, and a measurement with the bytes that only one of
  the formats has.
* `Measured.deviceBlock`, `Measured.spdmBlock`: the measurement in each format.
* `Measured.record`: what it says, whichever format it is in.
* `reports_agree`: two reports of the same measurements make the same records, or fail alike at the
  first digest whose size no hash has.
-/

namespace Appraisal
open Measurement

namespace Section

/-- The measured sections of which a device has one each. -/
def singles : List Section := [deviceState, io, core, hpio, hps]

/-- The sections whose measurements make records. -/
def measured : List Section := singles ++ [pr]

/-- What a measurement says: the device state as it is, and a design by its digest. -/
def reading (s : Section) (data : Bytes) : Except Error Value :=
  if s = deviceState then .ok { vendorInfo := some (VendorInfo.ofText (Hex.upper data) none) }
  else digest data

theorem ofNumber?_number (s : Section) : ofNumber? s.number = some s := by
  cases s <;> rfl

theorem record?_of_measured {s : Section} (h : s ∈ measured) (index : Int) (data : Bytes) :
    s.record? index data = (s.reading data).map fun v => some ⟨s.key index, v⟩ := by
  cases s with
  | deviceState => rfl
  | io | core | hpio | hps | pr =>
    unfold record? reading
    cases digest data <;> rfl
  | reserved | layer0FwRomExt | layer1FwCmf | layer2BaseDesign => exact absurd h (by decide)

/-- The only measurement without a reading is a digest of a size that no hash has. -/
theorem reading_eq_error {s : Section} {data : Bytes} {e : Error}
    (h : s.reading data = .error e) : e = .invalidDigestSize data.length := by
  unfold reading digest hashAlgOfSize at h
  by_cases hstate : s = deviceState
  · rw [if_pos hstate] at h
    cases h
  · by_cases h48 : data.length = 48
    · simp [hstate, h48] at h
    · by_cases h64 : data.length = 64
      · simp [hstate, h64] at h
      · simpa [hstate, h48, h64] using h.symm

end Section

namespace SpdmReport.Block

variable {b : Block}

/-- The indices of the sections that a device has once. -/
theorem section?_of_single {s : Section} (h : s ∈ Section.singles) (hindex : b.index = s.number)
    (type : UInt8) :
    b.section? type = if s.dmtfType? = some type then some (s, 0) else none := by
  unfold section?
  rw [hindex]
  simp only [Section.singles, List.mem_cons, List.not_mem_nil, or_false] at h
  rcases h with rfl | rfl | rfl | rfl | rfl <;> rfl

/-- The indices of the regions. -/
theorem section?_of_region (h : 0x40 ≤ b.index.toNat ∧ b.index.toNat ≤ 0x5F) (type : UInt8) :
    b.section? type = if Section.pr.dmtfType? = some type then
      some (.pr, (((b.index.toNat - 0x3F) * 0x1000000 : Nat) : Int)) else none := by
  have hrange : firstRegion ≤ b.index ∧ b.index ≤ lastRegion := by
    rw [UInt8.le_iff_toNat_le, UInt8.le_iff_toNat_le]
    exact h
  have hregion : b.index.toNat - firstRegion.toNat + 1 = b.index.toNat - 0x3F := by
    have hfirst : firstRegion.toNat = 0x40 := rfl
    omega
  rw [section?, if_pos hrange, hregion]

end SpdmReport.Block

namespace Report

/-- What both formats can name: a section of which a device has one, or one of up to 32 regions. -/
inductive Subject where
  | single (s : Section) (h : s ∈ Section.singles)
  | region (r : Nat) (one_le : 1 ≤ r) (le_last : r ≤ 32)

namespace Subject

def toSection : Subject → Section
  | single s _ => s
  | region _ _ _ => .pr

/-- The index in the key: a region in the most significant of four bytes. -/
def keyIndex : Subject → Nat
  | single _ _ => 0
  | region r _ _ => r * 0x1000000

def key (x : Subject) : Key where
  vendor := "intel.com"
  layer := 2
  index := x.keyIndex
  measurementType := some (Section.typeOid x.toSection.number)

/-- The index under which SPDM reports it: regions count from 64. -/
def spdmIndex : Subject → UInt8
  | single s _ => s.number
  | region r _ _ => UInt8.ofNat (0x3F + r)

/-- The DMTF type of its value: raw bits for the device state, digests for all else. -/
def valueType (x : Subject) : UInt8 := if x.toSection = .deviceState then 0x82 else 0x01

theorem toSection_mem (x : Subject) : x.toSection ∈ Section.measured := by
  cases x with
  | single s h => exact List.mem_append_left [.pr] h
  | region r one_le le_last => exact List.mem_append_right _ (List.mem_singleton.mpr rfl)

theorem dmtfType?_toSection (x : Subject) : x.toSection.dmtfType? = some x.valueType := by
  cases x with
  | single s hs =>
    simp only [Section.singles, List.mem_cons, List.not_mem_nil, or_false] at hs
    rcases hs with rfl | rfl | rfl | rfl | rfl <;> rfl
  | region r one_le le_last => rfl

/-- Only a region has an index. -/
theorem key_eq (x : Subject) {index : Int} (h : x.toSection = .pr → index = x.keyIndex) :
    x.toSection.key index = x.key := by
  cases x with
  | single s hs =>
    have hpr : s ≠ .pr := by
      rintro rfl
      exact absurd hs (by decide)
    simp [key, Section.key, toSection, keyIndex, hpr, Section.vendor, Section.layer]
  | region r one_le le_last =>
    rw [h rfl]
    rfl

end Subject

/-- A measurement, with the bytes of its blocks that do not matter. -/
structure Measured where
  subject : Subject
  value : Bytes
  /-- The reserved bytes of its device block. -/
  reserved : Bytes
  /-- The index in its device block, if the section has no regions. -/
  index : Bytes
  /-- The size of the value, inside its SPDM block. -/
  valueSize : Bytes
  value_length : value.length ≤ 247
  reserved_length : reserved.length = 2
  index_length : index.length = 4
  valueSize_length : valueSize.length = 2

namespace Measured

def deviceIndex (m : Measured) : Bytes :=
  match m.subject with
  | .single _ _ => m.index
  | .region r _ _ => [UInt8.ofNat r, 0, 0, 0]

def deviceBlock (m : Measured) : DeviceReport.Block :=
  ⟨m.subject.toSection.number, m.reserved, m.deviceIndex, m.value⟩

def spdmBlock (m : Measured) : SpdmReport.Block :=
  ⟨m.subject.spdmIndex, 1, m.subject.valueType :: (m.valueSize ++ m.value)⟩

/-- The record of a measurement, in whichever report it is. -/
def record (m : Measured) : Except Error Record :=
  (m.subject.toSection.reading m.value).map (⟨m.subject.key, ·⟩)

theorem record_eq_error {m : Measured} {e : Error} (h : m.record = .error e) :
    e = .invalidDigestSize m.value.length := by
  unfold record at h
  cases hreading : m.subject.toSection.reading m.value with
  | error e' =>
    rw [hreading] at h
    cases h
    exact Section.reading_eq_error hreading
  | ok v =>
    rw [hreading] at h
    cases h

theorem record?_eq (m : Measured) {index : Int}
    (h : m.subject.toSection = .pr → index = m.subject.keyIndex) :
    m.subject.toSection.record? index m.value = m.record.map some := by
  rw [Section.record?_of_measured m.subject.toSection_mem, m.subject.key_eq h, record]
  cases m.subject.toSection.reading m.value <;> rfl

theorem deviceBlock_wellFormed (m : Measured) : m.deviceBlock.WellFormed := by
  refine ⟨m.reserved_length, ?_, m.value_length⟩
  unfold deviceBlock deviceIndex
  cases m.subject with
  | single s h => exact m.index_length
  | region r one_le le_last => rfl

theorem spdmBlock_wellFormed (m : Measured) : m.spdmBlock.WellFormed := by
  have hvalue := m.value_length
  have hsize := m.valueSize_length
  simp [SpdmReport.Block.WellFormed, spdmBlock, hsize]
  omega

/-- A region is in the most significant byte of its index. -/
theorem toNatBE_deviceIndex (m : Measured) (h : m.subject.toSection = .pr) :
    Bytes.toNatBE m.deviceIndex = m.subject.keyIndex := by
  unfold deviceIndex
  cases hx : m.subject with
  | single s hs =>
    rw [hx] at h
    obtain rfl : s = .pr := h
    exact absurd hs (by decide)
  | region r one_le le_last =>
    have hr : r % 256 = r := Nat.mod_eq_of_lt (by omega)
    simp [Bytes.toNatBE, Bytes.toNatLE, Subject.keyIndex, hr]
    omega

theorem deviceBlock_record? (m : Measured) : m.deviceBlock.record? = m.record.map some := by
  rw [DeviceReport.Block.record?, deviceBlock, Section.ofNumber?_number]
  exact m.record?_eq fun h => congrArg Nat.cast (m.toNatBE_deviceIndex h)

theorem spdmBlock_section? (m : Measured) :
    m.spdmBlock.section? m.subject.valueType =
      some (m.subject.toSection, (m.subject.keyIndex : Int)) := by
  unfold spdmBlock
  cases m.subject with
  | single s hs =>
    have htype : s.dmtfType? = some (Subject.single s hs).valueType :=
      (Subject.single s hs).dmtfType?_toSection
    rw [SpdmReport.Block.section?_of_single hs rfl, if_pos htype]
    rfl
  | region r one_le le_last =>
    have htype : Section.pr.dmtfType? = some (Subject.region r one_le le_last).valueType :=
      (Subject.region r one_le le_last).dmtfType?_toSection
    have hindex : (Subject.region r one_le le_last).spdmIndex.toNat = 0x3F + r :=
      UInt8.toNat_ofNat_of_lt' (by simp only [UInt8.size]; omega)
    have hrange : 0x40 ≤ (Subject.region r one_le le_last).spdmIndex.toNat ∧
        (Subject.region r one_le le_last).spdmIndex.toNat ≤ 0x5F := by omega
    rw [SpdmReport.Block.section?_of_region hrange, if_pos htype, hindex, Nat.add_sub_cancel_left]
    rfl

theorem spdmBlock_record? (m : Measured) : m.spdmBlock.record? = m.record.map some := by
  have hsection := m.spdmBlock_section?
  unfold spdmBlock at hsection ⊢
  -- The two size bytes in front of the value are read over.
  match hsize : m.valueSize, m.valueSize_length with
  | [a, b], _ =>
    rw [hsize] at hsection
    simp only [SpdmReport.Block.record?, List.cons_append, List.nil_append] at hsection ⊢
    rw [hsection]
    exact m.record?_eq fun _ => rfl

end Measured

/-- Blocks that tell one record each. -/
theorem filterMapM_eq_mapM {α β : Type} {f : β → Except Error (Option Record)} {g : α → β}
    {h : α → Except Error Record} (hf : ∀ x, f (g x) = (h x).map some) (xs : List α) :
    (xs.map g).filterMapM f = xs.mapM h := by
  induction xs with
  | nil => rfl
  | cons x xs ih =>
    rw [List.map_cons, filterMapM_record_cons, ih, hf, List.mapM_cons]
    cases h x with
    | error e => rfl
    | ok r => cases xs.mapM h <;> rfl

/-- Either all are told, or all in front of the first that is not. -/
theorem mapM_told_or_failed {α β : Type} (f : α → Except Error β) (xs : List α) :
    (∃ ys : List β, xs.mapM f = .ok ys ∧ xs.map f = ys.map .ok) ∨
      ∃ told x rest e, xs = told ++ x :: rest ∧ (∀ z ∈ told, ∃ y, f z = .ok y) ∧ f x = .error e ∧
        xs.mapM f = .error e := by
  induction xs with
  | nil => exact .inl ⟨[], rfl, rfl⟩
  | cons x xs ih =>
    rw [List.mapM_cons]
    cases hx : f x with
    | error e => exact .inr ⟨[], x, xs, e, rfl, List.forall_mem_nil _, hx, rfl⟩
    | ok y =>
      obtain ⟨ys, hok, hmap⟩ | ⟨told, z, rest, e, rfl, htold, hz, herr⟩ := ih
      · exact .inl ⟨y :: ys, by rw [hok]; rfl, by simp [hx, hmap]⟩
      · refine .inr ⟨x :: told, z, rest, e, rfl, ?_, hz, by rw [herr]; rfl⟩
        exact List.forall_mem_cons.mpr ⟨⟨y, hx⟩, htold⟩

theorem ofResponse_deviceBlocks {ms : List Measured} (h : ms.length ≤ 255)
    {response : Wire.GetMeasurement}
    (hblocks : response.numberOfMeasurementBlocks = UInt8.ofNat ms.length)
    (hrecord : response.measurementRecord = ms.flatMap fun m => m.deviceBlock.encode) :
    DeviceReport.ofResponse response = ms.mapM Measured.record := by
  have hwell : ∀ b ∈ ms.map Measured.deviceBlock, b.WellFormed :=
    List.forall_mem_map.mpr fun m _ => m.deviceBlock_wellFormed
  have hread := DeviceReport.records_encode hwell
  rw [List.length_map, List.flatMap_map] at hread
  rw [DeviceReport.ofResponse, hblocks, hrecord, UInt8.toNat_ofNat_of_lt' (Nat.lt_succ_of_le h),
    hread, filterMapM_eq_mapM Measured.deviceBlock_record?]

theorem records_spdmBlocks (ms : List Measured) :
    SpdmReport.records (ms.flatMap fun m => m.spdmBlock.encode) = ms.mapM Measured.record := by
  have hwell : ∀ b ∈ ms.map Measured.spdmBlock, b.WellFormed :=
    List.forall_mem_map.mpr fun m _ => m.spdmBlock_wellFormed
  have hread := SpdmReport.records_encode hwell
  rw [List.flatMap_map] at hread
  rw [hread, filterMapM_eq_mapM Measured.spdmBlock_record?]

/-- A device's own report and its report over SPDM, of the same measurements in the same order: they
make the same records, or the same error at the first digest whose size no hash has. -/
theorem reports_agree (ms : List Measured) (h : ms.length ≤ 255) (response : Wire.GetMeasurement) :
    let device := DeviceReport.ofResponse
      { response with
        numberOfMeasurementBlocks := UInt8.ofNat ms.length
        measurementRecord := ms.flatMap fun m => m.deviceBlock.encode }
    let spdm := SpdmReport.records (ms.flatMap fun m => m.spdmBlock.encode)
    device = spdm ∧
      ((∃ rs : List Record, spdm = .ok rs ∧ ms.map Measured.record = rs.map .ok) ∨
        ∃ told m rest, ms = told ++ m :: rest ∧ (∀ x ∈ told, ∃ r, x.record = .ok r) ∧
          m.record = .error (.invalidDigestSize m.value.length) ∧
          spdm = .error (.invalidDigestSize m.value.length)) := by
  intro device spdm
  have hdevice : device = ms.mapM Measured.record := ofResponse_deviceBlocks h rfl rfl
  have hspdm : spdm = ms.mapM Measured.record := records_spdmBlocks ms
  refine ⟨hdevice.trans hspdm.symm, ?_⟩
  obtain ⟨rs, hok, hrs⟩ | ⟨told, m, rest, e, hms, htold, hm, herr⟩ :=
    mapM_told_or_failed Measured.record ms
  · exact .inl ⟨rs, hspdm.trans hok, hrs⟩
  · obtain rfl := Measured.record_eq_error hm
    exact .inr ⟨told, m, rest, hms, htold, hm, hspdm.trans herr⟩

/-- The device state and the last region, with odd bytes where they do not matter. -/
theorem reports_agree_last_region :
    let state : Measured := ⟨.single .deviceState (by decide), [0xAB, 0xCD], [1, 2], [3, 4, 5, 6],
      [7, 8], by decide, by decide, by decide, by decide⟩
    let region : Measured := ⟨.region 32 (by decide) (by decide), Bytes.zeros 48, [0, 0],
      [9, 9, 9, 9], [48, 0], by decide, by decide, by decide, by decide⟩
    let ms := [state, region]
    let response := { Wire.GetMeasurement.zero with
      numberOfMeasurementBlocks := 2
      measurementRecord := ms.flatMap fun m => m.deviceBlock.encode }
    ∃ rs, DeviceReport.ofResponse response = .ok rs ∧
      SpdmReport.records (ms.flatMap fun m => m.spdmBlock.encode) = .ok rs ∧
      rs.map (·.key.index) = [0, 0x20000000] := by
  intro state region ms response
  obtain ⟨hagree, -⟩ := reports_agree ms (by decide) Wire.GetMeasurement.zero
  have hindices : (DeviceReport.ofResponse response).toOption.map (·.map (·.key.index)) =
      some [0, 0x20000000] := by decide +kernel
  cases hdevice : DeviceReport.ofResponse response with
  | error e => simp [hdevice, Except.toOption] at hindices
  | ok rs =>
    refine ⟨rs, rfl, hagree.symm.trans hdevice, ?_⟩
    simpa [hdevice, Except.toOption] using hindices

end Report
end Appraisal
