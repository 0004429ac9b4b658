import Appraisal.Proofs.Measurement.Merge

/-!
# Appraisal.Proofs.Measurement.Sorted

Aggregates are sorted. Keys are totally ordered, records go in at their place, and so there is one
aggregate for what is held.

* `Key.compare_eq_iff`: keys that are nowhere apart are the same.
* `Aggregate.Sorted`: the keys of the entries go up, so that no key is there twice.
* `sorted_add`: what is added keeps that, whether or not a conflict ends the addition.
* `Sorted.ext`: sorted aggregates that hold the same are the same.
-/

namespace Appraisal
namespace Measurement

namespace Key

variable {a b : Key}

theorem compare_eq_iff : a.compare b = .eq ↔ a = b := by
  cases a
  cases b
  simp [compare, Ordering.then_eq_eq]

/-- Keys go by one field after the other. -/
instance : Std.TransCmp Key.compare :=
  inferInstanceAs <| Std.TransCmp <|
    compareLex (compareOn vendor) <| compareLex (compareOn model) <|
    compareLex (compareOn layer) <| compareLex (compareOn index) (compareOn measurementType)

instance : Std.LawfulEqCmp Key.compare where
  eq_of_compare h := compare_eq_iff.mp h

/-- Keys that are apart stand in one of the two orders. -/
theorem compare_gt_of_not_lt (hne : a ≠ b) (h : a.compare b ≠ .lt) : b.compare a = .lt := by
  cases hab : a.compare b with
  | lt => exact absurd hab h
  | eq => exact absurd (compare_eq_iff.mp hab) hne
  | gt => exact Std.OrientedCmp.lt_of_gt hab

end Key

namespace Aggregate

variable {a b : Aggregate} {k : Key} {v : Value} {rs : List Record}

/-- Entries whose keys go up. -/
def Ascending (es : List (Key × Value)) : Prop := es.Pairwise fun x y => x.1.compare y.1 = .lt

def Sorted (a : Aggregate) : Prop := Ascending a.entries

theorem mem_insertEntry {es : List (Key × Value)} {e : Key × Value} :
    e ∈ insertEntry k v es ↔ e = (k, v) ∨ e ∈ es := by
  induction es with
  | nil => simp [insertEntry]
  | cons x es ih =>
    rw [insertEntry]
    split
    · simp
    · simp only [List.mem_cons, ih]
      exact or_left_comm

theorem ascending_insertEntry {es : List (Key × Value)} (h : Ascending es)
    (hk : ∀ e ∈ es, e.1 ≠ k) : Ascending (insertEntry k v es) := by
  induction es with
  | nil => exact List.pairwise_singleton ..
  | cons x es ih =>
    obtain ⟨hx, hes⟩ := List.pairwise_cons.mp h
    have hne : x.1 ≠ k := hk x (List.mem_cons_self ..)
    rw [insertEntry]
    split
    · rename_i hlt
      -- The new key is in front of the first, and so of all others.
      refine List.pairwise_cons.mpr ⟨?_, h⟩
      intro y hy
      rcases List.mem_cons.mp hy with rfl | hy
      · exact hlt
      · exact Std.TransCmp.lt_trans hlt (hx y hy)
    · rename_i hlt
      refine List.pairwise_cons.mpr ⟨?_, ih hes fun e he => hk e (List.mem_cons_of_mem _ he)⟩
      intro y hy
      rcases mem_insertEntry.mp hy with rfl | hy
      · exact Key.compare_gt_of_not_lt hne.symm hlt
      · exact hx y hy

theorem sorted_empty : empty.Sorted := List.Pairwise.nil

theorem Sorted.insert (ha : a.Sorted) (h : a.get? k = none) : (a.insert k v).Sorted :=
  ascending_insertEntry ha (get?_eq_none_iff.mp h)

theorem sorted_add (ha : a.Sorted) : (a.add rs).1.Sorted := by
  induction rs generalizing a with
  | nil => exact ha
  | cons r rs ih =>
    rw [add]
    split
    · exact ih ha
    · split
      · rename_i hnone
        exact ih (ha.insert hnone)
      · split
        · exact ih ha
        · exact ha

/-- Of entries whose keys go up, one is the first for its key. -/
theorem find?_of_ascending {es : List (Key × Value)} (h : Ascending es) (hmem : (k, v) ∈ es) :
    es.find? (fun e => e.1 == k) = some (k, v) := by
  induction es with
  | nil => cases hmem
  | cons x es ih =>
    obtain ⟨hx, hes⟩ := List.pairwise_cons.mp h
    rcases List.mem_cons.mp hmem with rfl | hmem
    · simp
    · have hne : x.1 ≠ k := by
        intro hk
        have hlt := hx _ hmem
        rw [Key.compare_eq_iff.mpr hk] at hlt
        cases hlt
      rw [List.find?_cons_of_neg (by simpa using hne)]
      exact ih hes hmem

/-- What a sorted aggregate holds for a key is its entry for it. -/
theorem Sorted.mem_iff (ha : a.Sorted) : (k, v) ∈ a.entries ↔ a.get? k = some v := by
  rw [get?]
  constructor
  · intro hmem
    rw [find?_of_ascending ha hmem]
    rfl
  · intro h
    obtain ⟨e, hfind, rfl⟩ := Option.map_eq_some_iff.mp h
    have hkey : e.1 = k := by simpa using List.find?_some hfind
    exact hkey ▸ List.mem_of_find?_eq_some hfind

theorem Sorted.nodup_keys (ha : a.Sorted) : (a.entries.map Prod.fst).Nodup := by
  refine List.pairwise_map.mpr (ha.imp ?_)
  intro x y hlt hkey
  rw [Key.compare_eq_iff.mpr hkey] at hlt
  cases hlt

/-- The keys that are held are those of the records. -/
theorem Merges.mem_keys (h : a.Merges rs) (ha : a.Sorted) :
    k ∈ a.entries.map Prod.fst ↔ ∃ r ∈ rs, r.isEmpty = false ∧ r.key = k := by
  constructor
  · intro hk
    obtain ⟨⟨k, v⟩, hentry, rfl⟩ := List.mem_map.mp hk
    obtain ⟨r, hr, hsays, hkey, -⟩ := (h k v).mp (ha.mem_iff.mp hentry)
    exact ⟨r, hr, hsays, hkey⟩
  · rintro ⟨r, hr, hsays, rfl⟩
    have hentry := ha.mem_iff.mpr ((h r.key r.value).mpr ⟨r, hr, hsays, rfl, rfl⟩)
    exact List.mem_map_of_mem hentry

/-- Sorted aggregates that hold the same are the same. -/
theorem Sorted.ext (ha : a.Sorted) (hb : b.Sorted) (h : ∀ k, a.get? k = b.get? k) : a = b := by
  have hmem : ∀ e, e ∈ a.entries ↔ e ∈ b.entries := by
    intro e
    rw [ha.mem_iff (k := e.1) (v := e.2), hb.mem_iff, h]
  have hirrefl : ∀ x y : Key × Value, x.1.compare y.1 = .lt → x ≠ y := by
    rintro x y hlt rfl
    rw [Key.compare_eq_iff.mpr rfl] at hlt
    cases hlt
  have hperm : a.entries.Perm b.entries :=
    (List.perm_ext_iff_of_nodup (ha.imp (hirrefl _ _)) (hb.imp (hirrefl _ _))).mpr hmem
  have hentries : a.entries = b.entries := by
    refine hperm.eq_of_pairwise ?_ ha hb
    intro x y _ _ hxy hyx
    rw [Std.OrientedCmp.gt_of_lt hxy] at hyx
    cases hyx
  cases a
  cases b
  exact congrArg Aggregate.mk hentries

end Aggregate
end Measurement
end Appraisal
