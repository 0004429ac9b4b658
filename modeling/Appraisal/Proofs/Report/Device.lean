import Appraisal.Proofs.Report.Reading

/-!
# Appraisal.Proofs.Report.Device

The reports that a device makes itself: which ones are accepted, and what they say. A report is as many
blocks in a row as its response announces, and it is accepted exactly when each digest in it has the size
of a hash. Its records are those of the blocks that are read, in their order.

* `WrittenAs`: a response whose measurement record is some blocks in a row.
* `Block.reading?`: what is read of a block.
* `ofResponse_exact`: which responses make records, and which records they make.
-/

namespace Appraisal

open Measurement Report

namespace Section

theorem number_of_ofNumber? {n : UInt8} {s : Section} (h : ofNumber? n = some s) : s.number = n := by
  simpa using List.find?_some h

/-- A number without a section is none of those that are measured. -/
theorem of?_of_ofNumber?_none {n : UInt8} (h : ofNumber? n = none) (index : Nat) (data : Bytes) :
    Reading.of? n.toNat index data = none := by
  have hne : ∀ s : Section, n.toNat ≠ s.number.toNat := by
    intro s hs
    rw [UInt8.toNat_inj.mp hs, ofNumber?_number] at h
    cases h
  have h1 : n.toNat ≠ 1 := hne .deviceState
  have h2 : n.toNat ≠ 2 := hne .io
  have h3 : n.toNat ≠ 3 := hne .core
  have h4 : n.toNat ≠ 4 := hne .hpio
  have h5 : n.toNat ≠ 5 := hne .hps
  have h6 : n.toNat ≠ 6 := hne .pr
  rw [Reading.of?, if_neg (by omega)]

end Section

namespace DeviceReport

/-- What is read of a block: its section if that is measured, and the index of a region, most significant
byte first. -/
def Block.reading? (b : Block) : Option Reading :=
  Reading.of? b.sectionNumber.toNat (Bytes.toNatBE b.index) b.value

theorem Block.record?_eq (b : Block) : b.record? = b.reading?.mapM Reading.told := by
  unfold record? reading?
  split
  · rename_i hnone
    rw [Section.of?_of_ofNumber?_none hnone]
    rfl
  · rename_i s hs
    rw [s.record?_eq, Section.number_of_ofNumber? hs]

/-- The measurement record of a response is some blocks in a row, as many as it announces. -/
structure WrittenAs (response : Wire.GetMeasurement) (blocks : List Block) : Prop where
  count : blocks.length = response.numberOfMeasurementBlocks.toNat
  wellFormed : ∀ b ∈ blocks, b.WellFormed
  bytes : response.measurementRecord = blocks.flatMap Block.encode

variable {response : Wire.GetMeasurement} {blocks blocks' : List Block}

theorem WrittenAs.unique (h : WrittenAs response blocks) (h' : WrittenAs response blocks') :
    blocks = blocks' :=
  eq_of_flatMap_encode_eq (fun _ _ _ => Block.read_eq_ok_iff) (by simp [Block.encode]) h.wellFormed
    h'.wellFormed (h.bytes.symm.trans h'.bytes)

/-- A report of blocks tells what is read of them. -/
theorem WrittenAs.ofResponse_eq (h : WrittenAs response blocks) :
    ofResponse response = (blocks.filterMap Block.reading?).mapM Reading.told := by
  rw [ofResponse, ← h.count, h.bytes, records_encode h.wellFormed]
  exact filterMapM_eq_mapM_readings fun b _ => b.record?_eq

theorem ofResponse_eq_ok_iff {rs : List Record} :
    ofResponse response = .ok rs ↔
      ∃ blocks, WrittenAs response blocks ∧ (∀ r ∈ blocks.filterMap Block.reading?, r.Fits) ∧
        (blocks.filterMap Block.reading?).map Reading.record = rs := by
  constructor
  · intro h
    obtain ⟨blocks, hcount, hwell, hbytes, -⟩ := records_eq_ok_iff.mp h
    have hwritten : WrittenAs response blocks := ⟨hcount, hwell, hbytes⟩
    rw [hwritten.ofResponse_eq] at h
    exact ⟨blocks, hwritten, Reading.mapM_told_eq_ok_iff.mp h⟩
  · intro h
    obtain ⟨blocks, hwritten, htold⟩ := h
    rw [hwritten.ofResponse_eq]
    exact Reading.mapM_told_eq_ok_iff.mpr htold

/-- A response makes records exactly when its record is the blocks that it announces and nothing else,
and each digest in them has the size of a hash. There is one way to take it apart. The records are those
of the measured blocks, in their order; and in every other case there is an error instead. -/
theorem ofResponse_exact (response : Wire.GetMeasurement) :
    (∀ rs, ofResponse response = .ok rs ↔
      ∃ blocks, WrittenAs response blocks ∧ (∀ r ∈ blocks.filterMap Block.reading?, r.Fits) ∧
        (blocks.filterMap Block.reading?).map Reading.record = rs) ∧
    (∀ blocks blocks', WrittenAs response blocks → WrittenAs response blocks' → blocks = blocks') ∧
    ((∃ e, ofResponse response = .error e) ↔
      ¬ ∃ blocks, WrittenAs response blocks ∧ ∀ r ∈ blocks.filterMap Block.reading?, r.Fits) := by
  refine ⟨fun _ => ofResponse_eq_ok_iff, fun _ _ => WrittenAs.unique, ?_⟩
  constructor
  · intro h
    obtain ⟨e, he⟩ := h
    intro hwritten
    obtain ⟨blocks, hblocks, hfits⟩ := hwritten
    rw [ofResponse_eq_ok_iff.mpr ⟨blocks, hblocks, hfits, rfl⟩] at he
    cases he
  · intro h
    cases hresult : ofResponse response with
    | error e => exact ⟨e, rfl⟩
    | ok rs =>
      obtain ⟨blocks, hblocks, hfits, -⟩ := ofResponse_eq_ok_iff.mp hresult
      exact absurd ⟨blocks, hblocks, hfits⟩ h

/-- A block that is passed over, a region with a long digest, and the device state with an index that does
not matter. -/
theorem ofResponse_exact_passed_over :
    let blocks : List Block :=
      [⟨0x7F, [1, 2], Bytes.zeros 4, [3]⟩, ⟨6, [0, 0], [2, 0, 0, 0], Bytes.zeros 64⟩,
        ⟨1, [0, 0], [9, 9, 9, 9], [0xAB]⟩]
    let response := { Wire.GetMeasurement.zero with
      numberOfMeasurementBlocks := 3
      measurementRecord := blocks.flatMap Block.encode }
    ofResponse response =
        .ok ([⟨6, 0x2000000, Bytes.zeros 64⟩, ⟨1, 0, [0xAB]⟩].map Reading.record) ∧
      ∀ others, WrittenAs response others → others = blocks := by
  intro blocks response
  obtain ⟨hok, hunique, -⟩ := ofResponse_exact response
  have hwell : ∀ b ∈ blocks, b.WellFormed := by
    intro b hb
    simp only [blocks, List.mem_cons, List.not_mem_nil, or_false] at hb
    rcases hb with rfl | rfl | rfl <;> exact ⟨by decide, by decide, by decide⟩
  have hwritten : WrittenAs response blocks := ⟨by decide, hwell, rfl⟩
  refine ⟨(hok _).mpr ⟨blocks, hwritten, ?_, rfl⟩, fun others h => hunique others blocks h hwritten⟩
  decide +kernel

end DeviceReport

end Appraisal
