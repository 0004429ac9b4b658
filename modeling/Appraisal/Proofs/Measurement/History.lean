import Appraisal.Proofs.Measurement.Growth

/-!
# Appraisal.Proofs.Measurement.History

The life of an aggregate, through any additions, whether or not they go through. It stays sorted, it holds
nothing that was not added, and it gives nothing up. An addition ends at the first record that something
contradicts.

* `Key.Before`: the order of keys, field by field.
* `GainsFrom`: what an aggregate holds beside another one.
* `Contradicted`, `FirstContradicted`: a record for whose key another value is there, and the first one.
* `exists_merges_addAll`: after any history an aggregate is the merge of some of what was added.
* `addAll_exact`: what every history leads to, and what the next addition to it does.
-/

namespace Appraisal
namespace Measurement

/-- One text in front of another, where what is absent comes first. -/
inductive AbsentFirst : Option String → Option String → Prop where
  | absent {t : String} : AbsentFirst none (some t)
  | less {s t : String} (h : s < t) : AbsentFirst (some s) (some t)

/-- One key in front of another: in the first field in which they differ, it has the less. -/
inductive Key.Before (a b : Key) : Prop where
  | vendor (less : a.vendor < b.vendor)
  | model (vendor : a.vendor = b.vendor) (less : AbsentFirst a.model b.model)
  | layer (vendor : a.vendor = b.vendor) (model : a.model = b.model) (less : a.layer < b.layer)
  | index (vendor : a.vendor = b.vendor) (model : a.model = b.model) (layer : a.layer = b.layer)
      (less : a.index < b.index)
  | measurementType (vendor : a.vendor = b.vendor) (model : a.model = b.model)
      (layer : a.layer = b.layer) (index : a.index = b.index)
      (less : AbsentFirst a.measurementType b.measurementType)

section Order

theorem compare_eq_lt_iff_absentFirst {s t : Option String} :
    Ord.compare s t = .lt ↔ AbsentFirst s t := by
  cases s with
  | none =>
    cases t with
    | none => exact ⟨nofun, nofun⟩
    | some t => exact ⟨fun _ => .absent, fun _ => rfl⟩
  | some s =>
    cases t with
    | none => exact ⟨nofun, nofun⟩
    | some t =>
      constructor
      · intro h
        exact .less (compareOfLessAndEq_eq_lt.mp h)
      · intro h
        cases h with
        | less h => exact compareOfLessAndEq_eq_lt.mpr h

theorem Key.compare_eq_lt_iff {a b : Key} : a.compare b = .lt ↔ a.Before b := by
  have htext : ∀ s t : String, Ord.compare s t = .lt ↔ s < t := fun _ _ => compareOfLessAndEq_eq_lt
  have hint : ∀ m n : Int, Ord.compare m n = .lt ↔ m < n := fun _ _ => Std.compare_eq_lt
  simp only [compare, Ordering.then_eq_lt, htext, hint, compare_eq_lt_iff_absentFirst,
    Std.LawfulEqCmp.compare_eq_iff_eq]
  constructor
  · intro h
    rcases h with h | ⟨hvendor, h | ⟨hmodel, h | ⟨hlayer, h | ⟨hindex, h⟩⟩⟩⟩
    · exact .vendor h
    · exact .model hvendor h
    · exact .layer hvendor hmodel h
    · exact .index hvendor hmodel hlayer h
    · exact .measurementType hvendor hmodel hlayer hindex h
  · intro h
    cases h with
    | vendor h => exact .inl h
    | model hvendor h => exact .inr ⟨hvendor, .inl h⟩
    | layer hvendor hmodel h => exact .inr ⟨hvendor, .inr ⟨hmodel, .inl h⟩⟩
    | index hvendor hmodel hlayer h => exact .inr ⟨hvendor, .inr ⟨hmodel, .inr ⟨hlayer, .inl h⟩⟩⟩
    | measurementType hvendor hmodel hlayer hindex h =>
      exact .inr ⟨hvendor, .inr ⟨hmodel, .inr ⟨hlayer, .inr ⟨hindex, h⟩⟩⟩⟩

end Order

namespace Aggregate

/-- `b` holds what `a` holds and what some records say, and nothing else. -/
def GainsFrom (b a : Aggregate) (rs : List Record) : Prop :=
  ∀ k v, b.get? k = some v ↔ a.get? k = some v ∨ ∃ r ∈ rs, ¬ r.Silent ∧ r.key = k ∧ r.value = v

/-- A record says something, and another value `v` is there for its key: the aggregate held it before the
addition, or an earlier record of the addition says it. -/
structure Contradicted (a : Aggregate) (earlier : List Record) (r : Record) (v : Value) : Prop where
  speaks : ¬ r.Silent
  differs : v ≠ r.value
  there : a.get? r.key = some v ∨ ∃ q ∈ earlier, ¬ q.Silent ∧ q.key = r.key ∧ q.value = v

/-- The first record of an addition that is contradicted is `r`, behind `before`. -/
structure FirstContradicted (a : Aggregate) (rs before : List Record) (r : Record) (v : Value) :
    Prop where
  position : before ++ [r] <+: rs
  contradicted : a.Contradicted before r v
  first : ∀ earlier q w, earlier ++ [q] <+: before → ¬ a.Contradicted earlier q w

section Additions

variable {a b : Aggregate} {k : Key} {v : Value} {r : Record} {c : Conflict}
  {qs rs before : List Record} {rss later : List (List Record)}

/-- An addition that fails goes through up to a record for whose key another value is held by then. -/
theorem add_eq_some_iff :
    a.add rs = (b, some c) ↔
      ∃ before r v after, rs = before ++ r :: after ∧ a.add before = (b, none) ∧ ¬ r.Silent ∧
        b.get? r.key = some v ∧ v ≠ r.value ∧ c = ⟨r.key, v, r.value⟩ := by
  constructor
  · intro h
    fun_induction add a rs with
    | case1 a => cases h
    | case2 a q rs hq ih =>
      obtain ⟨before, r, v, after, rfl, hbefore, hr⟩ := ih h
      refine ⟨q :: before, r, v, after, rfl, ?_, hr⟩
      rw [add, if_pos hq]
      exact hbefore
    | case3 a q rs hq hnone ih =>
      obtain ⟨before, r, v, after, rfl, hbefore, hr⟩ := ih h
      refine ⟨q :: before, r, v, after, rfl, ?_, hr⟩
      rw [add, if_neg hq, hnone]
      exact hbefore
    | case4 a q rs hq hsame ih =>
      obtain ⟨before, r, v, after, rfl, hbefore, hr⟩ := ih h
      refine ⟨q :: before, r, v, after, rfl, ?_, hr⟩
      rw [add, if_neg hq, hsame]
      exact (if_pos rfl).trans hbefore
    | case5 a q rs hq v hsome hv =>
      cases h
      exact ⟨[], q, v, rs, rfl, rfl, mt Record.isEmpty_iff.mpr hq, hsome, hv, rfl⟩
  · intro h
    obtain ⟨before, r, v, after, rfl, hbefore, hspeaks, hget, hne, rfl⟩ := h
    rw [add_append_of_none hbefore, add, if_neg (mt Record.isEmpty_iff.mp hspeaks), hget]
    exact if_neg hne

theorem Merges.gainsFrom (ha : a.Merges qs) (hb : b.Merges (qs ++ rs)) : b.GainsFrom a rs := by
  intro k v
  rw [hb k v, ha k v]
  simp only [Record.isEmpty_eq_false_iff, List.mem_append, or_and_right, exists_or]

theorem gainsFrom_of_add (ha : a.Merges qs) (h : a.add rs = (b, none)) : b.GainsFrom a rs :=
  ha.gainsFrom (merges_of_add ha h)

theorem GainsFrom.contradicted_iff (hb : b.GainsFrom a before) :
    a.Contradicted before r v ↔ ¬ r.Silent ∧ b.get? r.key = some v ∧ v ≠ r.value := by
  rw [hb r.key v]
  constructor
  · intro h
    exact ⟨h.speaks, h.there, h.differs⟩
  · intro h
    obtain ⟨hspeaks, hthere, hne⟩ := h
    exact ⟨hspeaks, hne, hthere⟩

theorem not_contradicted_of_add (ha : a.Merges qs) (h : a.add rs = (b, none))
    (hposition : before ++ [r] <+: rs) : ¬ a.Contradicted before r v := by
  intro hcontradicted
  obtain ⟨after, rfl⟩ := hposition
  obtain ⟨b', hr, -⟩ := add_append_eq_none_iff.mp h
  obtain ⟨b'', hbefore, hlast⟩ := add_append_eq_none_iff.mp hr
  obtain ⟨hspeaks, hget, hne⟩ := (gainsFrom_of_add ha hbefore).contradicted_iff.mp hcontradicted
  have hfails : b''.add [r] = (b'', some ⟨r.key, v, r.value⟩) :=
    add_eq_some_iff.mpr ⟨[], r, v, [], rfl, rfl, hspeaks, hget, hne, rfl⟩
  rw [hlast] at hfails
  cases hfails

theorem exists_firstContradicted (ha : a.Merges qs) (h : a.add rs = (b, some c)) :
    ∃ before r v, a.FirstContradicted rs before r v ∧ c = ⟨r.key, v, r.value⟩ := by
  obtain ⟨before, r, v, after, rfl, hbefore, hspeaks, hget, hne, rfl⟩ := add_eq_some_iff.mp h
  refine ⟨before, r, v, ⟨⟨after, by simp⟩, ?_, ?_⟩, rfl⟩
  · exact (gainsFrom_of_add ha hbefore).contradicted_iff.mpr ⟨hspeaks, hget, hne⟩
  · intro earlier q w
    exact not_contradicted_of_add ha hbefore

theorem add_eq_none_iff_not_contradicted (ha : a.Merges qs) :
    (a.add rs).2 = none ↔ ∀ before r v, before ++ [r] <+: rs → ¬ a.Contradicted before r v := by
  constructor
  · intro h before r v
    exact not_contradicted_of_add ha (Prod.ext rfl h)
  · intro h
    cases hc : (a.add rs).2 with
    | none => rfl
    | some c =>
      obtain ⟨before, r, v, hfirst, -⟩ := exists_firstContradicted ha (Prod.ext rfl hc)
      exact absurd hfirst.contradicted (h before r v hfirst.position)

theorem add_ne_none_iff (ha : a.Merges qs) :
    (a.add rs).2 ≠ none ↔ ∃ before r v, before ++ [r] <+: rs ∧ a.Contradicted before r v := by
  rw [ne_eq, add_eq_none_iff_not_contradicted ha]
  simp only [Classical.not_forall, Classical.not_not, exists_prop]

/-- At the first record that is contradicted an addition ends. What it gained is what stands in front. -/
theorem FirstContradicted.add_eq (ha : a.Merges qs) (h : a.FirstContradicted rs before r v) :
    ∃ b, a.add rs = (b, some ⟨r.key, v, r.value⟩) ∧ b.GainsFrom a before ∧ b.get? r.key = some v := by
  have hbefore : a.add before = ((a.add before).1, none) :=
    Prod.ext rfl ((add_eq_none_iff_not_contradicted ha).mpr h.first)
  have hgains := gainsFrom_of_add ha hbefore
  obtain ⟨hspeaks, hget, hne⟩ := hgains.contradicted_iff.mp h.contradicted
  obtain ⟨after, hrs⟩ := h.position
  refine ⟨_, add_eq_some_iff.mpr ⟨before, r, v, after, ?_, hbefore, hspeaks, hget, hne, rfl⟩, hgains, hget⟩
  rw [← hrs, List.append_assoc]
  rfl

theorem exists_merges_add (rs : List Record) (ha : a.Merges qs) :
    ∃ before, before <+: rs ∧ (a.add rs).1.Merges (qs ++ before) := by
  cases hc : (a.add rs).2 with
  | none => exact ⟨rs, List.prefix_rfl, merges_of_add ha (Prod.ext rfl hc)⟩
  | some c =>
    obtain ⟨before, r, v, after, hrs, hbefore, -⟩ := add_eq_some_iff.mp (Prod.ext rfl hc)
    exact ⟨before, ⟨r :: after, hrs.symm⟩, merges_of_add ha hbefore⟩

/-- After any history an aggregate is the merge of some of what was added. -/
theorem exists_merges_addAll (rss : List (List Record)) (ha : a.Merges qs) :
    ∃ added ⊆ rss.flatten, (a.addAll rss).1.Merges (qs ++ added) := by
  induction rss generalizing a qs with
  | nil => exact ⟨[], List.nil_subset _, by simpa [addAll] using ha⟩
  | cons rs rss ih =>
    obtain ⟨before, hbefore, hmerges⟩ := exists_merges_add rs ha
    obtain ⟨added, hadded, hall⟩ := ih hmerges
    refine ⟨before ++ added, ?_, ?_⟩
    · rw [List.flatten_cons]
      exact List.append_subset.mpr
        ⟨List.subset_append_of_subset_left _ hbefore.subset, List.subset_append_of_subset_right _ hadded⟩
    · rw [addAll_cons, ← List.append_assoc]
      exact hall

theorem addAll_append : (a.addAll (rss ++ later)).1 = ((a.addAll rss).1.addAll later).1 := by
  induction rss generalizing a with
  | nil => rfl
  | cons rs rss ih => exact ih

theorem Keeps.entries_subset (hkeeps : b.Keeps a) (ha : a.Sorted) (hb : b.Sorted) :
    a.entries ⊆ b.entries := by
  intro e he
  exact hb.mem_iff.mpr (hkeeps _ _ (ha.mem_iff.mp he))

end Additions

/-- Whatever was added to a fresh aggregate, and whether or not it went through: the entries go up in the order
of keys, each of them is a record that was added and says something, and all of them stay through all later
additions. The next addition fails exactly when it has a record that is contradicted. The conflict is that of
the first such record, with the value that is held for its key by then; what stands in front of it is gained,
and nothing else. -/
theorem addAll_exact (rss : List (List Record)) :
    let a := (empty.addAll rss).1
    a.entries.Pairwise (fun x y => x.1.Before y.1) ∧
    (∀ e ∈ a.entries, ∃ r ∈ rss.flatten, ¬ r.Silent ∧ e = (r.key, r.value)) ∧
    (∀ later, a.entries ⊆ (empty.addAll (rss ++ later)).1.entries) ∧
    ∀ rs : List Record,
      ((a.add rs).2 ≠ none ↔ ∃ before r v, before ++ [r] <+: rs ∧ a.Contradicted before r v) ∧
      ((a.add rs).2 = none → (a.add rs).1.GainsFrom a rs) ∧
      ∀ c, (a.add rs).2 = some c ↔
        ∃ before r v, a.FirstContradicted rs before r v ∧ c = ⟨r.key, v, r.value⟩ ∧
          (a.add rs).1.GainsFrom a before ∧ (a.add rs).1.get? r.key = some v := by
  intro a
  have hsorted : a.Sorted := sorted_addAll sorted_empty
  obtain ⟨added, hadded, hmerges⟩ := exists_merges_addAll rss merges_empty
  rw [List.nil_append] at hmerges
  refine ⟨hsorted.imp Key.compare_eq_lt_iff.mp, ?_, ?_, ?_⟩
  · intro e he
    obtain ⟨r, hr, hspeaks, hkey, hvalue⟩ := (hmerges e.1 e.2).mp (hsorted.mem_iff.mp he)
    exact ⟨r, hadded hr, Record.isEmpty_eq_false_iff.mp hspeaks, Prod.ext hkey.symm hvalue.symm⟩
  · intro later
    rw [addAll_append]
    exact keeps_addAll.entries_subset hsorted (sorted_addAll hsorted)
  · intro rs
    refine ⟨add_ne_none_iff hmerges, fun h => gainsFrom_of_add hmerges (Prod.ext rfl h), ?_⟩
    intro c
    constructor
    · intro h
      obtain ⟨before, r, v, hfirst, rfl⟩ := exists_firstContradicted hmerges (Prod.ext rfl h)
      obtain ⟨b, hb, hgains, hget⟩ := hfirst.add_eq hmerges
      exact ⟨before, r, v, hfirst, rfl, by rwa [hb], by rwa [hb]⟩
    · intro h
      obtain ⟨before, r, v, hfirst, rfl, -⟩ := h
      obtain ⟨b, hb, -⟩ := hfirst.add_eq hmerges
      exact congrArg Prod.snd hb

/-- What stands in front of a conflict is gained, and what stands behind it is not, though it says nothing
against anything. -/
example :
    let held : Record := ⟨{ vendor := "v" }, { svn := some 1 }⟩
    let front : Record := ⟨{ vendor := "a" }, {}⟩
    let behind : Record := ⟨{ vendor := "z" }, {}⟩
    let other : Record := ⟨held.key, { svn := some 2 }⟩
    empty.addAll [[held], [front, other, behind]] =
      (⟨[(front.key, {}), (held.key, held.value)]⟩,
        [none, some ⟨held.key, held.value, other.value⟩]) := by
  decide +kernel

end Aggregate
end Measurement
end Appraisal
