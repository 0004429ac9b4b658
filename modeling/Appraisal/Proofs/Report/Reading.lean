import Appraisal.Proofs.Measurement.Masking
import Appraisal.Proofs.Report.Agreement
import Appraisal.Proofs.Transcript

/-!
# Appraisal.Proofs.Report.Reading

What a block of a report says, spelled out: which section it measures and what the record of it is. Nothing
else of a block matters.

* `Reading`: a measured section with its index and its data; `Reading.record` is the record.
* `Section.record?_eq`: a section tells what its number and its data say.
* `filterMapM_eq_mapM_readings`: what blocks tell is what their readings tell.
-/

namespace Appraisal

open Measurement

namespace Report

/-- A measured section by its number, the index in the key, and the data. -/
structure Reading where
  number : Nat
  index : Nat
  data : Bytes

namespace Reading

/-- What is said about the section `number`: those from 1 to 6 are measured, and the last has regions,
which the index tells apart. -/
def of? (number index : Nat) (data : Bytes) : Option Reading :=
  if 1 ≤ number ∧ number ≤ 6 then some ⟨number, if number = 6 then index else 0, data⟩ else none

/-- The data of the sections from 2 on is a digest, by one of two hashes. -/
def Fits (r : Reading) : Prop := 2 ≤ r.number → r.data.length = 48 ∨ r.data.length = 64

instance (r : Reading) : Decidable r.Fits := inferInstanceAs (Decidable (_ → _))

def key (r : Reading) : Key where
  vendor := "intel.com"
  layer := 2
  index := r.index
  measurementType := some ("2.16.840.1.113741.1.15.4." ++ toString r.number)

/-- The device state is kept with a mask that covers all of its digits, and everything else as a digest
of the hash that its size tells. -/
def value (r : Reading) : Value :=
  if r.number = 1 then
    { vendorInfo := some ⟨Hex.upper r.data, String.ofList (List.replicate (2 * r.data.length) 'F')⟩ }
  else
    { fwid := some
        ⟨if r.data.length = 48 then "2.16.840.1.101.3.4.2.2" else "2.16.840.1.101.3.4.2.3",
          Hex.upper r.data⟩ }

def record (r : Reading) : Record := ⟨r.key, r.value⟩

/-- The record, unless the data is of a size that no digest has. -/
def told (r : Reading) : Except Error Record :=
  if r.Fits then .ok r.record else .error (.invalidDigestSize r.data.length)

theorem told_eq_ok_iff {r : Reading} {x : Record} : r.told = .ok x ↔ r.Fits ∧ r.record = x := by
  unfold told
  split
  · rename_i h
    simp [h]
  · rename_i h
    simp [h]

theorem mapM_told_eq_ok_iff {rs : List Reading} {xs : List Record} :
    rs.mapM told = .ok xs ↔ (∀ r ∈ rs, r.Fits) ∧ rs.map record = xs := by
  induction rs generalizing xs with
  | nil =>
    rw [List.mapM_nil, List.map_nil]
    constructor
    · intro h
      cases h
      exact ⟨List.forall_mem_nil _, rfl⟩
    · intro h
      obtain ⟨-, rfl⟩ := h
      rfl
  | cons r rs ih =>
    simp only [List.mapM_cons, except_bind_eq_ok_iff, told_eq_ok_iff, ih, List.forall_mem_cons,
      List.map_cons]
    constructor
    · intro h
      obtain ⟨x, ⟨hr, rfl⟩, xs, ⟨hrs, rfl⟩, hxs⟩ := h
      cases hxs
      exact ⟨⟨hr, hrs⟩, rfl⟩
    · intro h
      obtain ⟨⟨hr, hrs⟩, rfl⟩ := h
      exact ⟨_, ⟨hr, rfl⟩, _, ⟨hrs, rfl⟩, rfl⟩

end Reading

/-- What blocks tell is what their readings tell, one by one and up to the first that cannot be told. -/
theorem filterMapM_eq_mapM_readings {β : Type} {f : β → Except Error (Option Record)}
    {reading? : β → Option Reading} {blocks : List β}
    (h : ∀ b ∈ blocks, f b = (reading? b).mapM Reading.told) :
    blocks.filterMapM f = (blocks.filterMap reading?).mapM Reading.told := by
  induction blocks with
  | nil => rfl
  | cons b blocks ih =>
    obtain ⟨hb, hblocks⟩ := List.forall_mem_cons.mp h
    rw [filterMapM_record_cons, hb, ih hblocks, List.filterMap_cons]
    cases reading? b with
    | none => cases (blocks.filterMap reading?).mapM Reading.told <;> rfl
    | some r =>
      rw [List.mapM_cons, Option.mapM_some]
      cases r.told with
      | error e => rfl
      | ok x => cases (blocks.filterMap reading?).mapM Reading.told <;> rfl

end Report

namespace Section

open Report

variable {s : Section} {index : Nat} {data : Bytes}

theorem digest_eq_ok (h : data.length = 48 ∨ data.length = 64) :
    digest data = .ok
      { fwid := some
          ⟨if data.length = 48 then "2.16.840.1.101.3.4.2.2" else "2.16.840.1.101.3.4.2.3",
            Hex.upper data⟩ } := by
  rcases h with h | h
  · simp [digest, hashAlgOfSize, h, Fwid.ofDigest, Hex.upper_lower, sha384Oid]
  · simp [digest, hashAlgOfSize, h, Fwid.ofDigest, Hex.upper_lower, sha512Oid]

theorem digest_eq_error (h : ¬ (data.length = 48 ∨ data.length = 64)) :
    digest data = .error (.invalidDigestSize data.length) := by
  rw [not_or] at h
  simp [digest, hashAlgOfSize, h]

/-- A section as it is read. -/
def read (s : Section) (index : Nat) (data : Bytes) : Reading :=
  ⟨s.number.toNat, if s.number.toNat = 6 then index else 0, data⟩

theorem key_read (s : Section) (index : Nat) (data : Bytes) :
    (s.read index data).key = s.key index := by
  cases s <;> rfl

/-- What a measured section says is what its reading tells. -/
theorem record?_eq_told (hs : s ∈ measured) :
    s.record? index data = some <$> (s.read index data).told := by
  rw [record?_of_measured hs, ← key_read s index data]
  by_cases hstate : s = deviceState
  · subst hstate
    rw [reading, if_pos rfl, VendorInfo.ofText_upper]
    rfl
  · have hnumber : 2 ≤ s.number.toNat := by
      revert hs hstate
      cases s <;> decide
    have hne : (s.read index data).number ≠ 1 := by
      show s.number.toNat ≠ 1
      omega
    rw [reading, if_neg hstate, Reading.told]
    by_cases hsize : data.length = 48 ∨ data.length = 64
    · have hfits : (s.read index data).Fits := fun _ => hsize
      rw [if_pos hfits, digest_eq_ok hsize, Reading.record, Reading.value, if_neg hne]
      rfl
    · have hfits : ¬ (s.read index data).Fits := fun h => hsize (h hnumber)
      rw [if_neg hfits, digest_eq_error hsize]
      rfl

/-- A section tells what its number and its data say. -/
theorem record?_eq (s : Section) (index : Nat) (data : Bytes) :
    s.record? index data = (Reading.of? s.number.toNat index data).mapM Reading.told := by
  by_cases hs : s ∈ measured
  · have hrange : 1 ≤ s.number.toNat ∧ s.number.toNat ≤ 6 := by
      revert hs
      cases s <;> decide
    rw [record?_eq_told hs, Reading.of?, if_pos hrange, Option.mapM_some]
    rfl
  · cases s with
    | deviceState | io | core | hpio | hps | pr => exact absurd (by decide) hs
    | reserved | layer0FwRomExt | layer1FwCmf | layer2BaseDesign => rfl

end Section
end Appraisal
