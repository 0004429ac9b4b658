import Appraisal.Proofs.Measurement.Comparison
import Appraisal.Proofs.Measurement.Reordering

/-!
# Appraisal.Proofs.Measurement.Growth

More evidence and other manifests. An aggregate never gives up a value that it holds, so what was
received satisfies a record for good; and a manifest fails as soon as a part of it does.

* `Aggregate.Keeps`: an aggregate that holds all that another one holds.
* `keeps_add`, `keeps_addAll`: an addition, and any number of them, whether or not they go through.
* `compare_failure_of_prefix`: a failure of the first records is the failure of all.
* `compare_ok_of_subset`, `compare_mismatch_of_keeps`: what more evidence cannot change.
-/

namespace Appraisal
namespace Measurement
namespace Aggregate

variable {a b c : Aggregate} {k : Key} {v : Value} {rs : List Record}

/-- `b` holds every value that `a` holds, under the same key. -/
def Keeps (b a : Aggregate) : Prop := ∀ k v, a.get? k = some v → b.get? k = some v

theorem Keeps.refl (a : Aggregate) : a.Keeps a := fun _ _ h => h

theorem Keeps.trans (hcb : c.Keeps b) (hba : b.Keeps a) : c.Keeps a :=
  fun k v h => hcb k v (hba k v h)

/-- A value goes in only where there is none. -/
theorem keeps_insert (h : a.get? k = none) : (a.insert k v).Keeps a := by
  intro k' v' hv
  have hne : k ≠ k' := by
    rintro rfl
    cases h.symm.trans hv
  rw [get?_insert h, if_neg hne]
  exact hv

/-- No record that is added takes a value away, also in front of a conflict. -/
theorem keeps_add : (a.add rs).1.Keeps a := by
  induction rs generalizing a with
  | nil => exact .refl a
  | cons r rs ih =>
    rw [add]
    split
    · exact ih
    · split
      · rename_i hnone
        exact ih.trans (keeps_insert hnone)
      · split
        · exact ih
        · exact .refl a

theorem keeps_addAll {rss : List (List Record)} : (a.addAll rss).1.Keeps a := by
  induction rss generalizing a with
  | nil => exact .refl a
  | cons rs rss ih =>
    rw [addAll_cons]
    exact ih.trans keeps_add

end Aggregate

section Records

variable {received received' : Aggregate} {r : Record}

theorem Record.SatisfiedBy.of_keeps (h : r.SatisfiedBy received)
    (hkeeps : received'.Keeps received) : r.SatisfiedBy received' := by
  obtain ⟨actual, hget, hactual⟩ := h
  exact ⟨actual, hkeeps _ _ hget, hactual⟩

theorem Record.failure?_of_keeps {k : Key} {d : Mismatch}
    (h : r.failure? received = some (.mismatch k d)) (hkeeps : received'.Keeps received) :
    r.failure? received' = some (.mismatch k d) := by
  rcases Record.failure?_eq_some_iff.mp h with ⟨-, hf⟩ | ⟨actual, d', hget, hd, hf⟩
  · cases hf
  · exact Record.failure?_eq_some_iff.mpr (.inr ⟨actual, d', hkeeps _ _ hget, hd, hf⟩)

end Records
end Measurement

open Measurement

section Comparisons

variable {received received' : Aggregate} {m m' : Manifest}

theorem verdict_of_compare_failure {f : Failure} (h : (compare received m).failure = some f) :
    f.verdict = .fail := by
  obtain ⟨r, -, hr⟩ := compare_failure_eq_some_iff.mp h
  rcases Record.failure?_eq_some_iff.mp hr with ⟨-, rfl⟩ | ⟨actual, d, -, -, rfl⟩
  · rfl
  · rfl

theorem compare_failure_of_prefix {f : Failure} (h : m.records <+: m'.records)
    (hf : (compare received m).failure = some f) : compare received m' = ⟨some f⟩ := by
  obtain ⟨later, hlater⟩ := h
  have hfind : m.records.findSome? (Record.failure? received) = some f := hf
  rw [compare, ← hlater, List.findSome?_append, hfind]
  rfl

/-- An accepted device is accepted by any manifest that expects nothing else, however much more is
received. -/
theorem compare_ok_of_subset (hkeeps : received'.Keeps received)
    (hsub : m'.records ⊆ m.records) (h : (compare received m).verdict = .ok) :
    (compare received' m').verdict = .ok := by
  rw [compare_eq_ok_iff] at h ⊢
  intro r hr
  exact (h r (hsub hr)).of_keeps hkeeps

theorem compare_verdict_congr (h : ∀ r, r ∈ m.records ↔ r ∈ m'.records) :
    (compare received m).verdict = (compare received m').verdict := by
  cases hv : (compare received m).verdict with
  | ok => exact (compare_ok_of_subset (.refl received) (fun r => (h r).mpr) hv).symm
  | fail =>
    obtain ⟨r, hr, hnot⟩ := judged_compare.verdict_eq_fail_iff.mp hv
    exact (judged_compare.verdict_eq_fail_iff.mpr ⟨r, (h r).mp hr, hnot⟩).symm
  | error => exact absurd hv judged_compare.verdict_ne_error

/-- A value that was received and does not agree stays the failure, however much more is received. -/
theorem compare_mismatch_of_keeps {k : Key} {d : Mismatch} (hkeeps : received'.Keeps received)
    (h : (compare received m).failure = some (.mismatch k d)) :
    (compare received' m).failure = some (.mismatch k d) := by
  obtain ⟨r, ⟨before, after, hrecords, hbefore, -⟩, hr⟩ := compare_failure_eq_some_iff.mp h
  have hr' := Record.failure?_of_keeps hr hkeeps
  refine compare_failure_eq_some_iff.mpr ⟨r, ⟨before, after, hrecords, ?_, ?_⟩, hr'⟩
  · intro x hx
    exact (hbefore x hx).of_keeps hkeeps
  · intro hsat
    rw [Record.failure?_eq_none_iff.mpr hsat] at hr'
    cases hr'

end Comparisons
end Appraisal
