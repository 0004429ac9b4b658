import Appraisal.Proofs.Measurement.Sorted

/-!
# Appraisal.Proofs.Measurement.Reordering

The order in which sources report does not matter, and neither does how their records are grouped into
additions.

* `Consistent`: records that do not contradict each other.
* `add_eq_none_iff`: an addition meets a conflict exactly when something contradicts what was added.
* `addAll`, `Accepts`: a sequence of additions, and one in which all go through.
* `addAll_perm`: two sequences that add the same records both go through or neither does, and lead to
  the same aggregate.
-/

namespace Appraisal
namespace Measurement

variable {r : Record} {qs rs : List Record}

/-- A record that names no vendor, no model and no type, and has no field. -/
def Record.Silent (r : Record) : Prop :=
  r.key.vendor = "" ∧ r.key.model = none ∧ r.key.measurementType = none ∧ r.value = {}

theorem Record.isEmpty_iff : r.isEmpty = true ↔ r.Silent := by
  obtain ⟨key, version, svn, fwid, flags, vendorInfo⟩ := r
  simp [isEmpty, Silent, Key.isEmpty, Value.isEmpty, and_assoc]

theorem Record.isEmpty_eq_false_iff : r.isEmpty = false ↔ ¬ r.Silent := by
  rw [← isEmpty_iff, Bool.not_eq_true]

/-- No two of the records that say something have the same key and different values. -/
def Consistent (rs : List Record) : Prop :=
  ∀ r ∈ rs, ∀ s ∈ rs, ¬ r.Silent → ¬ s.Silent → r.key = s.key → r.value = s.value

theorem Consistent.of_subset (h : Consistent rs) (hsub : qs ⊆ rs) : Consistent qs := by
  intro r hr s hs
  exact h r (hsub hr) s (hsub hs)

theorem consistent_iff_of_perm (h : qs.Perm rs) : Consistent qs ↔ Consistent rs :=
  ⟨fun hqs => hqs.of_subset h.symm.subset, fun hrs => hrs.of_subset h.subset⟩

namespace Aggregate

variable {a : Aggregate} {xss yss : List (List Record)}

/-- What one aggregate holds is consistent, as it has one value for a key. -/
theorem Merges.consistent (ha : a.Merges qs) : Consistent qs := by
  intro r hr s hs hrsays hssays hkey
  have hgetr := (ha r.key r.value).mpr ⟨r, hr, Record.isEmpty_eq_false_iff.mpr hrsays, rfl, rfl⟩
  have hgets := (ha s.key s.value).mpr ⟨s, hs, Record.isEmpty_eq_false_iff.mpr hssays, rfl, rfl⟩
  rw [hkey, hgets] at hgetr
  exact (Option.some.inj hgetr).symm

/-- An addition meets no conflict exactly when nothing contradicts what was added. -/
theorem add_eq_none_iff (ha : a.Merges qs) : (a.add rs).2 = none ↔ Consistent (qs ++ rs) := by
  induction rs generalizing a qs with
  | nil =>
    rw [List.append_nil]
    exact ⟨fun _ => ha.consistent, fun _ => rfl⟩
  | cons r rs ih =>
    rw [add, List.append_cons]
    split
    · rename_i hr
      exact ih (ha.skip hr)
    · rename_i hr
      rw [Bool.not_eq_true] at hr
      split
      · rename_i hnone
        exact ih (ha.insert hr hnone)
      · rename_i v hsome
        split
        · rename_i hv
          exact ih (ha.again (hv ▸ hsome))
        · rename_i hv
          -- The value that is there is that of an earlier record.
          obtain ⟨q, hq, hqsays, hkey, rfl⟩ := (ha r.key v).mp hsome
          constructor
          · intro h
            cases h
          · intro h
            refine absurd (h q ?_ r ?_ ?_ ?_ hkey) hv
            · simp [hq]
            · simp
            · exact Record.isEmpty_eq_false_iff.mp hqsays
            · exact Record.isEmpty_eq_false_iff.mp hr

/-- The aggregate after a sequence of additions, and what each of them met. After a conflict the later
ones are still made. -/
def addAll (a : Aggregate) : List (List Record) → Aggregate × List (Option Conflict)
  | [] => (a, [])
  | rs :: rss =>
    let (b, conflict) := a.add rs
    let (c, conflicts) := b.addAll rss
    (c, conflict :: conflicts)

/-- Whether every addition to a fresh aggregate goes through. -/
def Accepts (rss : List (List Record)) : Prop := ∀ c ∈ (empty.addAll rss).2, c = none

theorem addAll_cons {rs : List Record} {rss : List (List Record)} :
    a.addAll (rs :: rss) =
      (((a.add rs).1.addAll rss).1, (a.add rs).2 :: ((a.add rs).1.addAll rss).2) := rfl

theorem sorted_addAll (ha : a.Sorted) : (a.addAll xss).1.Sorted := by
  induction xss generalizing a with
  | nil => exact ha
  | cons rs xss ih => exact ih (sorted_add ha)

/-- Additions that all go through merge what they add. -/
theorem merges_of_addAll (ha : a.Merges qs) (h : ∀ c ∈ (a.addAll xss).2, c = none) :
    (a.addAll xss).1.Merges (qs ++ xss.flatten) := by
  induction xss generalizing a qs with
  | nil =>
    rw [List.flatten_nil, List.append_nil]
    exact ha
  | cons rs xss ih =>
    rw [addAll_cons, List.forall_mem_cons] at h
    rw [addAll_cons, List.flatten_cons, ← List.append_assoc]
    exact ih (merges_of_add ha (Prod.ext rfl h.1)) h.2

/-- All additions go through exactly when nothing contradicts what was added. -/
theorem addAll_eq_none_iff (ha : a.Merges qs) :
    (∀ c ∈ (a.addAll xss).2, c = none) ↔ Consistent (qs ++ xss.flatten) := by
  induction xss generalizing a qs with
  | nil =>
    rw [List.flatten_nil, List.append_nil]
    exact ⟨fun _ => ha.consistent, fun _ => List.forall_mem_nil _⟩
  | cons rs xss ih =>
    rw [addAll_cons, List.flatten_cons, ← List.append_assoc, List.forall_mem_cons]
    constructor
    · intro h
      obtain ⟨hrs, hxss⟩ := h
      exact (ih (merges_of_add ha (Prod.ext rfl hrs))).mp hxss
    · intro h
      have hrs := (add_eq_none_iff ha).mpr (h.of_subset (List.subset_append_left _ _))
      exact ⟨hrs, (ih (merges_of_add ha (Prod.ext rfl hrs))).mpr h⟩

theorem accepts_iff : Accepts xss ↔ Consistent xss.flatten := addAll_eq_none_iff merges_empty

theorem Accepts.merges (h : Accepts xss) : (empty.addAll xss).1.Merges xss.flatten :=
  merges_of_addAll merges_empty h

/-- Two sequences of additions that add the same records, in whatever order and groups: they go
through together, exactly when the records do not contradict each other, and the aggregates are then
the same, with just what the records say. -/
theorem addAll_perm (h : xss.flatten.Perm yss.flatten) :
    (Accepts xss ↔ Accepts yss) ∧ (Accepts xss ↔ Consistent xss.flatten) ∧
      (Accepts xss → (empty.addAll xss).1 = (empty.addAll yss).1 ∧
        (empty.addAll xss).1.Merges xss.flatten) := by
  have hiff : Accepts xss ↔ Accepts yss := by
    rw [accepts_iff, accepts_iff, consistent_iff_of_perm h]
  refine ⟨hiff, accepts_iff, ?_⟩
  intro hx
  refine ⟨?_, hx.merges⟩
  refine (sorted_addAll sorted_empty).ext (sorted_addAll sorted_empty) ?_
  intro k
  apply Option.ext
  intro v
  rw [hx.merges k v, (hiff.mp hx).merges k v]
  simp only [h.mem_iff]

/-- Two sources that report the same security version, one of them in front of another measurement and
one behind it, with a record that says nothing. -/
theorem addAll_perm_regrouped :
    let state : Record := ⟨{ vendor := "v", layer := 2 }, { svn := some 3 }⟩
    let design : Record := ⟨{ vendor := "v", index := 1 }, { flags := some "01" }⟩
    let silent : Record := ⟨{ layer := 5 }, {}⟩
    let xss := [[state, silent], [design, state]]
    let yss := [[], [design, state, state], [silent]]
    Accepts xss ∧ Accepts yss ∧ (empty.addAll xss).1 = (empty.addAll yss).1 ∧
      (empty.addAll yss).1.size = 2 := by
  intro state design silent xss yss
  have hperm : xss.flatten.Perm yss.flatten := by decide
  obtain ⟨hiff, -, heq⟩ := addAll_perm hperm
  have hx : Accepts xss := by
    unfold Accepts
    decide +kernel
  refine ⟨hx, hiff.mp hx, (heq hx).1, ?_⟩
  rw [← (heq hx).1]
  decide +kernel

end Aggregate
end Measurement
end Appraisal
