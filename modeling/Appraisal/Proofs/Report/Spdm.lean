import Appraisal.Proofs.Report.Reading

/-!
# Appraisal.Proofs.Report.Spdm

The reports over SPDM: which ones are accepted, and what they say. A report is blocks up to its end, and it
is accepted exactly when its DMTF blocks have their headers and each digest has the size of a hash. Its
records are those of the blocks that are read, in their order.

* `WrittenAs`: bytes that are some blocks in a row.
* `Rounds`: going through a report that nothing but its end ends.
* `Block.reading?`: what is read of a block.
* `records_exact`: which reports make records, and which records they make.
-/

namespace Appraisal

open Measurement Report

namespace Section

theorem exists_single {n : UInt8} (h : 1 ≤ n.toNat ∧ n.toNat ≤ 5) :
    ∃ s ∈ singles, n = s.number := by
  obtain hn | hn | hn | hn | hn :
      n.toNat = 1 ∨ n.toNat = 2 ∨ n.toNat = 3 ∨ n.toNat = 4 ∨ n.toNat = 5 := by omega
  · exact ⟨deviceState, by decide, UInt8.toNat_inj.mp hn⟩
  · exact ⟨io, by decide, UInt8.toNat_inj.mp hn⟩
  · exact ⟨core, by decide, UInt8.toNat_inj.mp hn⟩
  · exact ⟨hpio, by decide, UInt8.toNat_inj.mp hn⟩
  · exact ⟨hps, by decide, UInt8.toNat_inj.mp hn⟩

end Section

namespace SpdmReport

/-- What is read of a block. A DMTF block has a value type in front; with the index it tells the section,
and for a region which one it is, in the most significant byte. Two bytes behind the type are read over. -/
def Block.reading? (b : Block) : Option Reading :=
  if b.spec ≠ 1 then none
  else if b.index.toNat = 1 ∧ b.body.head? = some 0x82 then some ⟨1, 0, b.body.drop 3⟩
  else if 2 ≤ b.index.toNat ∧ b.index.toNat ≤ 5 ∧ b.body.head? = some 0x01 then
    some ⟨b.index.toNat, 0, b.body.drop 3⟩
  else if 0x40 ≤ b.index.toNat ∧ b.index.toNat ≤ 0x5F ∧ b.body.head? = some 0x01 then
    some ⟨6, (b.index.toNat - 0x3F) * 0x1000000, b.body.drop 3⟩
  else none

/-- A DMTF block has its header. -/
def Block.HasHeader (b : Block) : Prop := b.spec = 1 → 3 ≤ b.body.length

namespace Block

variable {b : Block} {type x y : UInt8} {value : Bytes}

theorem hasHeader_of_record? {r : Option Record} (h : b.record? = .ok r) : b.HasHeader := by
  intro hspec
  unfold record? at h
  rw [if_neg (by simpa [dmtfSpec] using hspec)] at h
  split at h
  · rename_i hbody
    simp [hbody]
  · cases h

section Dmtf

variable (hspec : b.spec = 1) (hbody : b.body = type :: x :: y :: value)

include hspec hbody

theorem record?_of_body :
    b.record? = (b.section? type).elim (.ok none) fun p => p.1.record? p.2 value := by
  rw [record?, if_neg (by simpa [dmtfSpec] using hspec), hbody]
  dsimp only
  cases b.section? type <;> rfl

/-- The indices of the sections that a device has once. -/
theorem record?_of_single {s : Section} (h : s ∈ Section.singles) (hindex : b.index = s.number) :
    b.record? = b.reading?.mapM Reading.told := by
  have hreading : b.reading? =
      if s.dmtfType? = some type then Reading.of? s.number.toNat 0 value else none := by
    simp only [reading?, hspec, hbody, hindex]
    simp only [Section.singles, List.mem_cons, List.not_mem_nil, or_false] at h
    rcases h with rfl | rfl | rfl | rfl | rfl <;>
      simp [Section.number, Section.dmtfType?, Reading.of?, eq_comm]
  rw [record?_of_body hspec hbody, section?_of_single h hindex, hreading]
  split
  · exact s.record?_eq 0 value
  · rfl

theorem record?_of_region (h : 0x40 ≤ b.index.toNat ∧ b.index.toNat ≤ 0x5F) :
    b.record? = b.reading?.mapM Reading.told := by
  have hreading : b.reading? = if Section.pr.dmtfType? = some type then
      Reading.of? Section.pr.number.toNat ((b.index.toNat - 0x3F) * 0x1000000) value else none := by
    have h1 : b.index.toNat ≠ 1 := by omega
    have h5 : ¬ b.index.toNat ≤ 5 := by omega
    simp [reading?, hspec, hbody, h, h1, h5, Section.number, Section.dmtfType?, Reading.of?, eq_comm]
  rw [record?_of_body hspec hbody, section?_of_region h, hreading]
  split
  · exact Section.pr.record?_eq _ value
  · rfl

theorem record?_of_unknown (h : ¬ (1 ≤ b.index.toNat ∧ b.index.toNat ≤ 5))
    (h' : ¬ (0x40 ≤ b.index.toNat ∧ b.index.toNat ≤ 0x5F)) :
    b.record? = b.reading?.mapM Reading.told := by
  have hsection : b.section? type = none := by
    rw [section?, if_neg, if_neg]
    · rw [UInt8.le_iff_toNat_le, UInt8.le_iff_toNat_le]
      exact h
    · rw [UInt8.le_iff_toNat_le, UInt8.le_iff_toNat_le]
      exact h'
  have hreading : b.reading? = none := by
    rw [reading?, if_neg (by simp [hspec]), if_neg (by omega), if_neg (by omega), if_neg (by omega)]
  rw [record?_of_body hspec hbody, hsection, hreading]
  rfl

end Dmtf

theorem record?_eq (h : b.HasHeader) : b.record? = b.reading?.mapM Reading.told := by
  by_cases hspec : b.spec = 1
  · have hlen := h hspec
    rcases hbody : b.body with _ | ⟨type, _ | ⟨x, _ | ⟨y, value⟩⟩⟩
    · simp [hbody] at hlen
    · simp [hbody] at hlen
    · simp [hbody] at hlen
    · by_cases hregion : 0x40 ≤ b.index.toNat ∧ b.index.toNat ≤ 0x5F
      · exact record?_of_region hspec hbody hregion
      · by_cases hsingle : 1 ≤ b.index.toNat ∧ b.index.toNat ≤ 5
        · obtain ⟨s, hs, hindex⟩ := Section.exists_single hsingle
          exact record?_of_single hspec hbody hs hindex
        · exact record?_of_unknown hspec hbody hsingle hregion
  · have hne : b.spec ≠ dmtfSpec := hspec
    rw [record?, reading?, if_pos hne, if_pos hspec]
    rfl

theorem length_add_four_of_read {bs rest : Bytes} (h : read bs = .ok (b, rest)) :
    rest.length + 4 ≤ bs.length := by
  obtain ⟨-, rfl⟩ := read_eq_ok_iff.mp h
  simp [encode]
  omega

end Block

/-- Bytes that are some blocks in a row. -/
structure WrittenAs (bs : Bytes) (blocks : List Block) : Prop where
  wellFormed : ∀ b ∈ blocks, b.WellFormed
  bytes : bs = blocks.flatMap Block.encode

/-- Going through a report for `n` rounds, of which each reads a block, leaves `rest`. -/
inductive Rounds : (n : Nat) → (bs rest : Bytes) → Prop
  | start {bs : Bytes} : Rounds 0 bs bs
  | next {n : Nat} {bs mid rest : Bytes} {b : Block} (read : Block.read bs = .ok (b, mid))
      (rounds : Rounds n mid rest) : Rounds (n + 1) bs rest

variable {bs bs' rest : Bytes} {blocks blocks' : List Block}

/-- Every round takes at least the four bytes of a header. -/
theorem Rounds.length_le {n : Nat} (h : Rounds n bs rest) : 4 * n + rest.length ≤ bs.length := by
  induction h with
  | start => omega
  | next read rounds ih =>
    have hlen := Block.length_add_four_of_read read
    omega

theorem WrittenAs.unique (h : WrittenAs bs blocks) (h' : WrittenAs bs blocks') : blocks = blocks' :=
  eq_of_flatMap_encode_eq (fun _ _ _ => Block.read_eq_ok_iff) (by simp [Block.encode]) h.wellFormed
    h'.wellFormed (h.bytes.symm.trans h'.bytes)

theorem filterMapM_record? (h : ∀ b ∈ blocks, b.HasHeader) :
    blocks.filterMapM Block.record? = (blocks.filterMap Block.reading?).mapM Reading.told :=
  filterMapM_eq_mapM_readings fun b hb => Block.record?_eq (h b hb)

/-- A report of blocks that have their headers tells what is read of them. -/
theorem WrittenAs.records_eq (h : WrittenAs bs blocks) (hheader : ∀ b ∈ blocks, b.HasHeader) :
    records bs = (blocks.filterMap Block.reading?).mapM Reading.told := by
  rw [h.bytes, records_encode h.wellFormed, filterMapM_record? hheader]

theorem records_eq_ok_iff_written {rs : List Record} :
    records bs = .ok rs ↔
      ∃ blocks, WrittenAs bs blocks ∧ (∀ b ∈ blocks, b.HasHeader) ∧
        (∀ r ∈ blocks.filterMap Block.reading?, r.Fits) ∧
        (blocks.filterMap Block.reading?).map Reading.record = rs := by
  constructor
  · intro h
    obtain ⟨blocks, hwell, hbytes, htold⟩ := records_eq_ok_iff.mp h
    have hheader : ∀ b ∈ blocks, b.HasHeader := by
      intro b hb
      obtain ⟨r, hr⟩ := exists_told_of_filterMapM htold b hb
      exact Block.hasHeader_of_record? hr
    rw [filterMapM_record? hheader] at htold
    exact ⟨blocks, ⟨hwell, hbytes⟩, hheader, Reading.mapM_told_eq_ok_iff.mp htold⟩
  · intro h
    obtain ⟨blocks, hwritten, hheader, htold⟩ := h
    rw [hwritten.records_eq hheader]
    exact Reading.mapM_told_eq_ok_iff.mpr htold

/-- Going through a report ends, as every round leaves at least four bytes fewer. It makes records exactly
when it is blocks up to its end, DMTF blocks have their headers, and each digest has the size of a hash.
There is one way to take it apart. The records are those of what is read, in its order, and nothing else in
the blocks has an influence, not even on the error. -/
theorem records_exact (bs : Bytes) :
    (∀ n rest, Rounds n bs rest → 4 * n + rest.length ≤ bs.length) ∧
    (∀ rs, records bs = .ok rs ↔
      ∃ blocks, WrittenAs bs blocks ∧ (∀ b ∈ blocks, b.HasHeader) ∧
        (∀ r ∈ blocks.filterMap Block.reading?, r.Fits) ∧
        (blocks.filterMap Block.reading?).map Reading.record = rs) ∧
    (∀ blocks blocks', WrittenAs bs blocks → WrittenAs bs blocks' → blocks = blocks') ∧
    (∀ bs' blocks blocks', WrittenAs bs blocks → WrittenAs bs' blocks' →
      (∀ b ∈ blocks ++ blocks', b.HasHeader) →
      blocks.filterMap Block.reading? = blocks'.filterMap Block.reading? →
      records bs = records bs') := by
  refine ⟨fun _ _ => Rounds.length_le, fun _ => records_eq_ok_iff_written, fun _ _ =>
    WrittenAs.unique, ?_⟩
  intro bs' blocks blocks' hwritten hwritten' hheader hreadings
  obtain ⟨hheader, hheader'⟩ := List.forall_mem_append.mp hheader
  rw [hwritten.records_eq hheader, hwritten'.records_eq hheader', hreadings]

/-- A region alone, and the same with other bytes that do not matter, between an empty block of another
specification and a section under the type of another one. -/
theorem records_exact_skipped :
    let blocks : List Block := [⟨0x41, 1, [1, 0, 0] ++ Bytes.zeros 48⟩]
    let blocks' : List Block :=
      [⟨0x41, 2, []⟩, ⟨0x41, 1, [1, 7, 8] ++ Bytes.zeros 48⟩, ⟨0x02, 1, [0x82, 0, 0]⟩]
    records (blocks'.flatMap Block.encode) = .ok [Reading.record ⟨6, 0x2000000, Bytes.zeros 48⟩] ∧
      records (blocks.flatMap Block.encode) = records (blocks'.flatMap Block.encode) ∧
      (∀ n rest, Rounds n (blocks'.flatMap Block.encode) rest → n ≤ 16) ∧
      ∀ others, WrittenAs (blocks'.flatMap Block.encode) others → others = blocks' := by
  intro blocks blocks'
  obtain ⟨-, -, -, hcongr⟩ := records_exact (blocks.flatMap Block.encode)
  obtain ⟨hrounds, hok, hunique, -⟩ := records_exact (blocks'.flatMap Block.encode)
  have hwritten : WrittenAs (blocks.flatMap Block.encode) blocks :=
    ⟨by simp [blocks, Block.WellFormed], rfl⟩
  have hwritten' : WrittenAs (blocks'.flatMap Block.encode) blocks' :=
    ⟨by simp [blocks', Block.WellFormed], rfl⟩
  have hheader : ∀ b ∈ blocks ++ blocks', b.HasHeader := by
    simp [blocks, blocks', Block.HasHeader]
  have hheader' := (List.forall_mem_append.mp hheader).2
  refine ⟨(hok _).mpr ⟨blocks', hwritten', hheader', by decide +kernel, rfl⟩,
    hcongr _ blocks blocks' hwritten hwritten' hheader rfl, ?_,
    fun others h => hunique others blocks' h hwritten'⟩
  intro n rest h
  have hlen := hrounds n rest h
  have htotal : (blocks'.flatMap Block.encode).length = 66 := by decide
  omega

end SpdmReport
end Appraisal
