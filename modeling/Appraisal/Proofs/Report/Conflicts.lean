import Appraisal.Proofs.Measurement.Reordering
import Appraisal.Proofs.Report.Device
import Mathlib.Data.List.Dedup

/-!
# Appraisal.Proofs.Report.Conflicts

A device's report conflicts only with itself. Its records go into a fresh aggregate exactly when blocks of
the same place agree byte for byte; and then there is one entry for each place, since neither the key of a
place nor the text of a value confuses two of them.

* `Place`: a measured section, or one region of the last.
* `Reading.key_eq_iff`, `Reading.value_eq_iff`: keys and values say where and what.
* `Place.key_inj`: different places have different keys.
* `consistent_iff_agree`: records that do not contradict each other are of blocks that do not.
* `report_conflicts`: when a report goes in, and what is there then.
-/

namespace Appraisal

open Measurement Report

namespace Report.Reading

variable {r s : Reading}

theorem key_eq_iff (hr : r.number ≤ 6) (hs : s.number ≤ 6) :
    r.key = s.key ↔ r.number = s.number ∧ r.index = s.index := by
  have hnumber : toString r.number = toString s.number ↔ r.number = s.number := by
    have htext : ∀ m n : Fin 7, toString m.val = toString n.val → m.val = n.val := by decide
    exact ⟨htext ⟨r.number, by omega⟩ ⟨s.number, by omega⟩, congrArg _⟩
  simp only [key, Key.mk.injEq, true_and, Option.some.injEq, String.append_right_inj, hnumber,
    Int.natCast_inj, and_comm]

/-- A value tells the data: the mask or the hash that stands beside it goes by the data's size. -/
theorem value_eq_iff (h : r.number = s.number) : r.value = s.value ↔ r.data = s.data := by
  constructor
  · intro hvalue
    unfold value at hvalue
    rw [h] at hvalue
    split at hvalue
    · simp only [Value.mk.injEq, Option.some.injEq, VendorInfo.mk.injEq, Hex.upper_inj] at hvalue
      exact hvalue.2.2.2.2.1
    · simp only [Value.mk.injEq, Option.some.injEq, Fwid.mk.injEq, Hex.upper_inj] at hvalue
      exact hvalue.2.2.1.2
  · intro hdata
    rw [value, value, h, hdata]

theorem not_silent (r : Reading) : ¬ r.record.Silent := by
  intro h
  obtain ⟨hvendor, -⟩ := h
  simp [record, key] at hvendor

theorem consistent_iff {rs : List Reading} :
    Consistent (rs.map record) ↔ ∀ r ∈ rs, ∀ s ∈ rs, r.key = s.key → r.value = s.value := by
  simp only [Consistent, List.forall_mem_map, not_silent, not_false_eq_true, forall_const]
  rfl

end Report.Reading

namespace DeviceReport

/-- Where a block measures: a section by its number, and the region by its index bytes where a section has
regions. -/
structure Place where
  number : Nat
  region : Option Bytes
deriving DecidableEq, Repr

/-- The place of a block whose section is one of those from 1 to 6; of these the last has regions. -/
def Block.place? (b : Block) : Option Place :=
  if 1 ≤ b.sectionNumber.toNat ∧ b.sectionNumber.toNat ≤ 6 then
    some ⟨b.sectionNumber.toNat, if b.sectionNumber.toNat = 6 then some b.index else none⟩
  else none

/-- What is read at a place. -/
def Place.reading (p : Place) (data : Bytes) : Reading :=
  ⟨p.number, (p.region.map Bytes.toNatBE).getD 0, data⟩

def Place.key (p : Place) : Key := (p.reading []).key

/-- Any two blocks of one place have the same bytes. -/
def Agree (blocks : List Block) : Prop :=
  ∀ b ∈ blocks, ∀ c ∈ blocks, b.place?.isSome → b.place? = c.place? → b.value = c.value

instance (blocks : List Block) : Decidable (Agree blocks) :=
  inferInstanceAs (Decidable (∀ b ∈ blocks, ∀ c ∈ blocks, _ → _ → _))

variable {b c : Block} {p q : Place} {blocks : List Block} {response : Wire.GetMeasurement}

theorem Block.reading?_eq (b : Block) : b.reading? = b.place?.map (·.reading b.value) := by
  unfold reading? Reading.of? place?
  split
  · by_cases hregion : b.sectionNumber.toNat = 6
    · simp [hregion, Place.reading]
    · simp [hregion, Place.reading]
  · rfl

theorem Block.place?_eq_some_iff : b.place? = some p ↔
    (1 ≤ b.sectionNumber.toNat ∧ b.sectionNumber.toNat ≤ 6) ∧
      ⟨b.sectionNumber.toNat, if b.sectionNumber.toNat = 6 then some b.index else none⟩ = p := by
  unfold place?
  split
  · rename_i h
    simp [h]
  · rename_i h
    simp [h]

/-- Different places have different keys: regions differ in four bytes, and those are read as a number. -/
theorem Place.key_inj (hb : b.WellFormed) (hc : c.WellFormed) (hp : b.place? = some p)
    (hq : c.place? = some q) (h : p.key = q.key) : p = q := by
  obtain ⟨⟨-, hb6⟩, rfl⟩ := Block.place?_eq_some_iff.mp hp
  obtain ⟨⟨-, hc6⟩, rfl⟩ := Block.place?_eq_some_iff.mp hq
  obtain ⟨hnumber, hindex⟩ := (Reading.key_eq_iff hb6 hc6).mp h
  simp only [reading] at hnumber hindex
  by_cases hregion : c.sectionNumber.toNat = 6
  · rw [hnumber, if_pos hregion, if_pos hregion] at hindex ⊢
    rw [Bytes.toNatBE_inj hb.index_length hc.index_length hindex]
  · rw [hnumber, if_neg hregion, if_neg hregion]

theorem Place.value_eq_iff {x y : Bytes} : (p.reading x).value = (p.reading y).value ↔ x = y :=
  Reading.value_eq_iff rfl

theorem mem_readings {r : Reading} : r ∈ blocks.filterMap Block.reading? ↔
    ∃ b ∈ blocks, ∃ p, b.place? = some p ∧ p.reading b.value = r := by
  simp [List.mem_filterMap, Block.reading?_eq]

theorem consistent_iff_agree (hwell : ∀ b ∈ blocks, b.WellFormed) :
    Consistent ((blocks.filterMap Block.reading?).map Reading.record) ↔ Agree blocks := by
  rw [Reading.consistent_iff]
  constructor
  · intro h b hb c hc hsome hsame
    obtain ⟨p, hp⟩ := Option.isSome_iff_exists.mp hsome
    have hq := hsame.symm.trans hp
    have hvalue := h (p.reading b.value) (mem_readings.mpr ⟨b, hb, p, hp, rfl⟩) (p.reading c.value)
      (mem_readings.mpr ⟨c, hc, p, hq, rfl⟩) rfl
    exact Place.value_eq_iff.mp hvalue
  · intro h r hr s hs hkey
    obtain ⟨b, hb, p, hp, rfl⟩ := mem_readings.mp hr
    obtain ⟨c, hc, q, hq, rfl⟩ := mem_readings.mp hs
    obtain rfl := Place.key_inj (hwell b hb) (hwell c hc) hp hq hkey
    exact Place.value_eq_iff.mpr (h b hb c hc (by rw [hp]; rfl) (hp.trans hq.symm))

theorem keys_perm {rs : List Record} {a : Aggregate} (hwell : ∀ b ∈ blocks, b.WellFormed)
    (hrs : (blocks.filterMap Block.reading?).map Reading.record = rs) (ha : a.Sorted)
    (hmerges : a.Merges rs) :
    (a.entries.map Prod.fst).Perm ((blocks.filterMap Block.place?).dedup.map Place.key) := by
  have hplaces : ((blocks.filterMap Block.place?).dedup.map Place.key).Nodup := by
    rw [List.nodup_map_iff_inj_on (List.nodup_dedup _)]
    intro p hp q hq hkey
    obtain ⟨b, hb, hp⟩ := List.mem_filterMap.mp (List.mem_dedup.mp hp)
    obtain ⟨c, hc, hq⟩ := List.mem_filterMap.mp (List.mem_dedup.mp hq)
    exact Place.key_inj (hwell b hb) (hwell c hc) hp hq hkey
  refine (List.perm_ext_iff_of_nodup ha.nodup_keys hplaces).mpr fun k => ?_
  rw [hmerges.mem_keys ha, List.mem_map]
  constructor
  · rintro ⟨r, hr, -, rfl⟩
    rw [← hrs] at hr
    obtain ⟨x, hx, rfl⟩ := List.mem_map.mp hr
    obtain ⟨b, hb, p, hp, rfl⟩ := mem_readings.mp hx
    exact ⟨p, List.mem_dedup.mpr (List.mem_filterMap.mpr ⟨b, hb, hp⟩), rfl⟩
  · rintro ⟨p, hp, rfl⟩
    obtain ⟨b, hb, hp⟩ := List.mem_filterMap.mp (List.mem_dedup.mp hp)
    have hr : (p.reading b.value).record ∈ rs :=
      hrs ▸ List.mem_map_of_mem (mem_readings.mpr ⟨b, hb, p, hp, rfl⟩)
    exact ⟨_, hr, Record.isEmpty_eq_false_iff.mpr (p.reading b.value).not_silent, rfl⟩

/-- The records of an accepted report go into a fresh aggregate exactly when blocks of one place have the
same bytes. Then it holds one entry for each place, with what was read there, and different places have
different keys. -/
theorem report_conflicts (response : Wire.GetMeasurement) (rs : List Record)
    (h : ofResponse response = .ok rs) :
    ∃ blocks, WrittenAs response blocks ∧ (∀ others, WrittenAs response others → others = blocks) ∧
      ((Aggregate.empty.add rs).2 = none ↔ Agree blocks) ∧
      (∀ b ∈ blocks, ∀ c ∈ blocks, ∀ p q, b.place? = some p → c.place? = some q → p.key = q.key →
        p = q) ∧
      ∀ a, Aggregate.empty.add rs = (a, none) →
        (a.entries.map Prod.fst).Perm ((blocks.filterMap Block.place?).dedup.map Place.key) ∧
        ∀ b ∈ blocks, ∀ p, b.place? = some p → a.get? p.key = some (p.reading b.value).value := by
  obtain ⟨blocks, hwritten, -, hrs⟩ := ofResponse_eq_ok_iff.mp h
  refine ⟨blocks, hwritten, fun others hothers => hothers.unique hwritten, ?_, ?_, ?_⟩
  · rw [Aggregate.add_eq_none_iff Aggregate.merges_empty, List.nil_append, ← hrs]
    exact consistent_iff_agree hwritten.wellFormed
  · intro b hb c hc p q
    exact Place.key_inj (hwritten.wellFormed b hb) (hwritten.wellFormed c hc)
  · intro a ha
    have hmerges : a.Merges rs := Aggregate.merges_of_add Aggregate.merges_empty ha
    have hsorted : a.Sorted := by
      have hadd : (Aggregate.empty.add rs).1.Sorted := Aggregate.sorted_add Aggregate.sorted_empty
      rwa [ha] at hadd
    refine ⟨keys_perm hwritten.wellFormed hrs hsorted hmerges, ?_⟩
    intro b hb p hp
    have hr : (p.reading b.value).record ∈ rs :=
      hrs ▸ List.mem_map_of_mem (mem_readings.mpr ⟨b, hb, p, hp, rfl⟩)
    exact (hmerges _ _).mpr
      ⟨_, hr, Record.isEmpty_eq_false_iff.mpr (p.reading b.value).not_silent, rfl, rfl⟩

/-- Two regions, one of them reported twice, and the device state; and the same with a third report of that
region, which has other bytes. -/
theorem report_conflicts_regions :
    let blocks : List Block :=
      [⟨6, [0, 0], [2, 0, 0, 0], Bytes.zeros 64⟩, ⟨1, [0, 0], [9, 9, 9, 9], [0xAB]⟩,
        ⟨6, [0, 0], [1, 0, 0, 0], Bytes.zeros 48⟩, ⟨6, [7, 7], [2, 0, 0, 0], Bytes.zeros 64⟩]
    let response (blocks : List Block) := { Wire.GetMeasurement.zero with
      numberOfMeasurementBlocks := UInt8.ofNat blocks.length
      measurementRecord := blocks.flatMap Block.encode }
    let other : Block := ⟨6, [0, 0], [2, 0, 0, 0], Bytes.zeros 48⟩
    (∃ rs a, ofResponse (response blocks) = .ok rs ∧ Aggregate.empty.add rs = (a, none) ∧ a.size = 3) ∧
      ∃ rs, ofResponse (response (blocks ++ [other])) = .ok rs ∧ (Aggregate.empty.add rs).2 ≠ none := by
  intro blocks response other
  have hwell : ∀ b ∈ blocks ++ [other], b.WellFormed := by
    intro b hb
    simp only [blocks, List.cons_append, List.nil_append, List.mem_cons, List.not_mem_nil, or_false] at hb
    rcases hb with rfl | rfl | rfl | rfl | rfl <;> exact ⟨by decide, by decide, by decide⟩
  have hwritten : WrittenAs (response blocks) blocks :=
    ⟨by decide, fun b hb => hwell b (List.mem_append_left _ hb), rfl⟩
  have hwritten' : WrittenAs (response (blocks ++ [other])) (blocks ++ [other]) := ⟨by decide, hwell, rfl⟩
  have hok := ofResponse_eq_ok_iff.mpr ⟨blocks, hwritten, by decide +kernel, rfl⟩
  have hok' := ofResponse_eq_ok_iff.mpr ⟨blocks ++ [other], hwritten', by decide +kernel, rfl⟩
  constructor
  · obtain ⟨found, -, hunique, hadd, -, hheld⟩ := report_conflicts _ _ hok
    obtain rfl := hunique blocks hwritten
    have hpair : ∀ x : Aggregate × Option Conflict, x.2 = none → x = (x.1, none) :=
      fun x hx => Prod.ext rfl hx
    have hadded := hpair _ (hadd.mpr (by decide +kernel))
    obtain ⟨hperm, -⟩ := hheld _ hadded
    have hlength := hperm.length_eq
    rw [List.length_map, List.length_map] at hlength
    have hplaces : (blocks.filterMap Block.place?).dedup.length = 3 := by decide +kernel
    exact ⟨_, _, hok, hadded, hlength.trans hplaces⟩
  · obtain ⟨found, -, hunique, hadd, -, -⟩ := report_conflicts _ _ hok'
    obtain rfl := hunique _ hwritten'
    refine ⟨_, hok', fun hnone => ?_⟩
    exact absurd (hadd.mp hnone) (by decide +kernel)

end DeviceReport

end Appraisal
