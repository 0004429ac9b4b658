import Appraisal.Measurement.Aggregate

/-!
# Appraisal.Proofs.Measurement.Merge

What an aggregate holds after records were added: exactly what they say, if no two of them contradict
each other.

* `Aggregate.Merges`: an aggregate that holds what some records say, and nothing else.
* `merges_of_add`: adding records without a conflict merges them.
-/

namespace Appraisal
namespace Measurement
namespace Aggregate

variable {a b : Aggregate} {k k' : Key} {v v' : Value} {r : Record} {rs qs : List Record}

theorem find?_insertEntry {es : List (Key × Value)} (h : ∀ e ∈ es, e.1 ≠ k) :
    (insertEntry k v es).find? (fun e => e.1 == k') =
      if k = k' then some (k, v) else es.find? fun e => e.1 == k' := by
  induction es with
  | nil =>
    by_cases hk : k = k'
    · simp [insertEntry, hk]
    · simp [insertEntry, hk]
  | cons e es ih =>
    have he : e.1 ≠ k := h e (List.mem_cons_self ..)
    rw [insertEntry]
    split
    · by_cases hk : k = k'
      · simp [hk]
      · simp [hk]
    · rw [List.find?_cons, List.find?_cons, ih fun x hx => h x (List.mem_cons_of_mem _ hx)]
      by_cases hk : k = k'
      · have hek : (e.1 == k') = false := beq_eq_false_iff_ne.mpr (hk ▸ he)
        simp [hk, hek]
      · simp [hk]

theorem get?_eq_none_iff : a.get? k = none ↔ ∀ e ∈ a.entries, e.1 ≠ k := by
  simp [get?, List.find?_eq_none]

theorem get?_insert (h : a.get? k = none) :
    (a.insert k v).get? k' = if k = k' then some v else a.get? k' := by
  rw [get?, insert, find?_insertEntry (get?_eq_none_iff.mp h)]
  split
  · rfl
  · rfl

@[simp] theorem get?_empty : empty.get? k = none := rfl

/-- The aggregate holds exactly what some records say. As it has one value for a key, no two of them
contradict each other. -/
def Merges (a : Aggregate) (rs : List Record) : Prop :=
  ∀ k v, a.get? k = some v ↔ ∃ r ∈ rs, r.isEmpty = false ∧ r.key = k ∧ r.value = v

theorem merges_empty : empty.Merges [] := by
  intro k v
  simp

theorem Merges.skip (ha : a.Merges qs) (hr : r.isEmpty = true) : a.Merges (qs ++ [r]) := by
  intro k v
  rw [ha k v]
  simp [hr, or_and_right, exists_or]

theorem Merges.insert (ha : a.Merges qs) (hr : r.isEmpty = false) (h : a.get? r.key = none) :
    (a.insert r.key r.value).Merges (qs ++ [r]) := by
  intro k v
  rw [get?_insert h]
  by_cases hk : r.key = k
  · subst hk
    have hnone : ∀ x ∈ qs, x.isEmpty = false → x.key ≠ r.key := by
      intro x hx hempty hkey
      have hx := (ha r.key x.value).mpr ⟨x, hx, hempty, hkey, rfl⟩
      rw [h] at hx
      cases hx
    simp only [if_true, Option.some.injEq]
    constructor
    · rintro rfl
      exact ⟨r, by simp, hr, rfl, rfl⟩
    · intro h
      obtain ⟨x, hx, hempty, hkey, hvalue⟩ := h
      rcases List.mem_append.mp hx with hx | hx
      · exact absurd hkey (hnone x hx hempty)
      · rw [List.mem_singleton.mp hx] at hvalue
        exact hvalue
  · simp only [hk, if_false]
    rw [ha k v]
    simp [hk, or_and_right, exists_or]

theorem Merges.again (ha : a.Merges qs) (h : a.get? r.key = some r.value) :
    a.Merges (qs ++ [r]) := by
  intro k v
  rw [ha k v]
  constructor
  · intro h
    obtain ⟨x, hx, hrest⟩ := h
    exact ⟨x, List.mem_append_left _ hx, hrest⟩
  · intro h
    obtain ⟨x, hx, hempty, hkey, hvalue⟩ := h
    rcases List.mem_append.mp hx with hx | hx
    · exact ⟨x, hx, hempty, hkey, hvalue⟩
    · rw [List.mem_singleton.mp hx] at hkey hvalue
      rw [hkey, hvalue] at h
      exact (ha k v).mp h

/-- Adding records to an aggregate without a conflict merges them into it. -/
theorem merges_of_add (ha : a.Merges qs) (h : a.add rs = (b, none)) : b.Merges (qs ++ rs) := by
  induction rs generalizing a qs with
  | nil =>
    cases h
    rw [List.append_nil]
    exact ha
  | cons r rs ih =>
    rw [List.append_cons]
    rw [add] at h
    split at h
    · rename_i hr
      exact ih (ha.skip hr) h
    · rename_i hr
      split at h
      · rename_i hnone
        exact ih (ha.insert (Bool.eq_false_iff.mpr hr) hnone) h
      · rename_i v hsome
        split at h
        · rename_i hv
          exact ih (ha.again (hv ▸ hsome)) h
        · cases h

/-- Behind what goes in without a conflict, an addition goes on as one of its own. -/
theorem add_append_of_none (h : a.add qs = (b, none)) : a.add (qs ++ rs) = b.add rs := by
  fun_induction add a qs with
  | case1 a =>
    cases h
    rfl
  | case2 a q qs hq ih =>
    rw [List.cons_append, add, if_pos hq]
    exact ih h
  | case3 a q qs hq hnone ih =>
    rw [List.cons_append, add, if_neg hq, hnone]
    exact ih h
  | case4 a q qs hq hsame ih =>
    rw [List.cons_append, add, if_neg hq, hsame]
    exact (if_pos rfl).trans (ih h)
  | case5 a q qs hq v hsome hv => cases h

/-- Records go in one behind the other, in whatever portions they are added. -/
theorem add_append_eq_none_iff :
    a.add (rs ++ qs) = (b, none) ↔ ∃ c, a.add rs = (c, none) ∧ c.add qs = (b, none) := by
  induction rs generalizing a with
  | nil => simp [add]
  | cons r rs ih =>
    rw [List.cons_append, add, add]
    split
    · exact ih
    · split
      · exact ih
      · split
        · exact ih
        · simp

end Aggregate
end Measurement
end Appraisal
