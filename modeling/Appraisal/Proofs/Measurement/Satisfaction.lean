import Appraisal.Verdict

/-!
# Appraisal.Proofs.Measurement.Satisfaction

What it means that received measurements satisfy what is expected, without an order of checks.

* `Value.SatisfiedBy`: every field that is expected was received and agrees.
* `Record.SatisfiedBy`: something was received for the key, and it satisfies the value.
* `compare_eq_ok_iff`: a device is accepted exactly when every record is satisfied.
-/

namespace Appraisal
namespace Measurement

/-- Every field set in `expected` is set in `actual` and agrees. -/
structure Value.SatisfiedBy (expected actual : Value) : Prop where
  version : ∀ e ∈ expected.version, actual.version = some e
  svn : ∀ e ∈ expected.svn, actual.svn = some e
  /-- The hashes are the same, and the digests differ in case at most. -/
  fwid : ∀ e ∈ expected.fwid, ∃ a ∈ actual.fwid,
    a.hashAlg = e.hashAlg ∧ Ascii.lower a.digest = Ascii.lower e.digest
  flags : ∀ e ∈ expected.flags, ∃ a ∈ actual.flags, Ascii.lower a = Ascii.lower e
  /-- Under the expected mask, what was received is the expected value. -/
  vendorInfo : ∀ e ∈ expected.vendorInfo, ∃ a ∈ actual.vendorInfo,
    applyMask a.value e.mask = .ok e.value

/-- Something was received for the key of a record, and it satisfies the value. -/
def Record.SatisfiedBy (expected : Record) (received : Aggregate) : Prop :=
  ∃ actual, received.get? expected.key = some actual ∧ expected.value.SatisfiedBy actual

section Agreement

theorem Fwid.agrees_iff {e a : Fwid} :
    e.agrees a = true ↔ a.hashAlg = e.hashAlg ∧ Ascii.lower a.digest = Ascii.lower e.digest := by
  rw [agrees, Ascii.eqIgnoringCase, Bool.and_eq_true, beq_iff_eq, beq_iff_eq, eq_comm,
    eq_comm (b := Ascii.lower a.digest)]

theorem VendorInfo.agrees_iff {e a : VendorInfo} :
    e.agrees a = true ↔ applyMask a.value e.mask = .ok e.value := by
  unfold agrees
  split
  · rename_i h
    simp [h]
  · rename_i h
    simp [h]

theorem Value.fieldMismatch_eq_none_iff {α : Type} {field : String} {agrees : α → α → Bool}
    {showExpected showActual : α → String} {expected actual : Option α} :
    fieldMismatch field agrees showExpected showActual expected actual = none ↔
      ∀ e ∈ expected, ∃ a ∈ actual, agrees e a = true := by
  unfold fieldMismatch
  split
  · simp
  · rename_i e
    simp [Option.any_eq_true]

theorem Value.firstMismatch_eq_none_iff {expected actual : Value} :
    expected.firstMismatch actual = none ↔ expected.SatisfiedBy actual := by
  simp only [firstMismatch, Option.or_eq_none_iff, fieldMismatch_eq_none_iff, Fwid.agrees_iff,
    VendorInfo.agrees_iff, Ascii.eqIgnoringCase, beq_iff_eq]
  constructor
  · intro h
    obtain ⟨hversion, hsvn, hfwid, hflags, hvendor⟩ := h
    constructor
    case version => simpa using hversion
    case svn => simpa using hsvn
    case fwid => exact hfwid
    case flags => simpa [eq_comm] using hflags
    case vendorInfo => exact hvendor
  · intro h
    obtain ⟨hversion, hsvn, hfwid, hflags, hvendor⟩ := h
    refine ⟨?_, ?_, hfwid, ?_, hvendor⟩
    · simpa using hversion
    · simpa using hsvn
    · simpa [eq_comm] using hflags

theorem Record.failure?_eq_none_iff {received : Aggregate} {expected : Record} :
    expected.failure? received = none ↔ expected.SatisfiedBy received := by
  unfold failure? SatisfiedBy
  split
  · rename_i h
    simp [h]
  · rename_i actual h
    simp [h, Value.firstMismatch_eq_none_iff]

end Agreement
end Measurement

open Measurement

theorem Failure.verdict_ne_ok (f : Failure) : f.verdict ≠ .ok := by
  cases f <;> simp [Failure.verdict]

theorem Outcome.verdict_eq_ok_iff {o : Outcome} : o.verdict = .ok ↔ o.failure = none := by
  unfold Outcome.verdict
  split
  · rename_i h
    simp [h]
  · rename_i f h
    simp [h, f.verdict_ne_ok]

/-- A device is accepted exactly when every record of the manifest is satisfied. -/
theorem compare_eq_ok_iff {received : Aggregate} {m : Manifest} :
    (compare received m).verdict = .ok ↔ ∀ r ∈ m.records, r.SatisfiedBy received := by
  rw [Outcome.verdict_eq_ok_iff]
  simp only [compare, List.findSome?_eq_none_iff, Record.failure?_eq_none_iff]

end Appraisal
