import Appraisal.Proofs.Measurement.Satisfaction

/-!
# Appraisal.Proofs.Measurement.Comparison

What a comparison reports, and about which record and field. Satisfaction has no order; the order only
decides which of several failures is told.

* `FirstWithout`: the first element of a list that lacks a property, for records and for fields.
* `Value.only`: one field of a value, so that a mismatch can be told of it alone.
* `Judged`: the outcome of a comparison, from satisfaction and the two orders alone.
* `compare_exact`: a comparison gives that outcome and no other, and nothing else has an influence.
-/

namespace Appraisal

/-- All elements in front of `x` have the property, and `x` lacks it. -/
def FirstWithout {α : Type} (P : α → Prop) (l : List α) (x : α) : Prop :=
  ∃ before after, l = before ++ x :: after ∧ (∀ y ∈ before, P y) ∧ ¬ P x

section FirstWithout

variable {α β : Type} {P : α → Prop} {l : List α} {x : α}

theorem FirstWithout.exists_not (h : FirstWithout P l x) : ∃ y ∈ l, ¬ P y := by
  obtain ⟨before, after, rfl, -, hx⟩ := h
  exact ⟨x, by simp, hx⟩

/-- A search by a test that finds nothing in what has the property stops at the first without it. -/
theorem findSome?_eq_some_iff_firstWithout {test : α → Option β} (hP : ∀ y, test y = none ↔ P y)
    {b : β} : l.findSome? test = some b ↔ ∃ x, FirstWithout P l x ∧ test x = some b := by
  rw [List.findSome?_eq_some_iff]
  constructor
  · intro h
    obtain ⟨before, x, after, rfl, hx, hbefore⟩ := h
    refine ⟨x, ⟨before, after, rfl, fun y hy => (hP y).mp (hbefore y hy), ?_⟩, hx⟩
    intro hPx
    rw [(hP x).mpr hPx] at hx
    cases hx
  · intro h
    obtain ⟨x, ⟨before, after, rfl, hbefore, -⟩, hx⟩ := h
    exact ⟨before, x, after, rfl, hx, fun y hy => (hP y).mpr (hbefore y hy)⟩

end FirstWithout

namespace Measurement

inductive Field where
  | version
  | svn
  | fwid
  | flags
  | vendorInfo
deriving DecidableEq, Repr

namespace Field

/-- All fields, in the order of comparison. -/
def all : List Field := [version, svn, fwid, flags, vendorInfo]

def name : Field → String
  | version => "version"
  | svn => "svn"
  | fwid => "fwid"
  | flags => "flags"
  | vendorInfo => "vendor_info"

end Field

namespace Value

/-- One field of a value, all others left out. -/
def only (v : Value) : Field → Value
  | .version => { version := v.version }
  | .svn => { svn := v.svn }
  | .fwid => { fwid := v.fwid }
  | .flags => { flags := v.flags }
  | .vendorInfo => { vendorInfo := v.vendorInfo }

/-- The text of a field that was received. -/
def shown? (v : Value) : Field → Option String
  | .version => v.version
  | .svn => v.svn.map toString
  | .fwid => v.fwid.map (·.digest)
  | .flags => v.flags
  | .vendorInfo => v.vendorInfo.map (·.value)

/-- The text of a field that is expected, which has the mask of vendor information as well. -/
def demanded? (v : Value) : Field → Option String
  | .vendorInfo => v.vendorInfo.map fun i => i.value ++ " (mask " ++ i.mask ++ ")"
  | f => v.shown? f

end Value

/-- The mismatch names the field, and shows what is expected of it and what was received. -/
structure Mismatch.Tells (d : Mismatch) (expected actual : Value) (f : Field) : Prop where
  field : d.field = f.name
  expected : expected.demanded? f = some d.expected
  actual : d.actual = (actual.shown? f).getD Value.absent

theorem Mismatch.Tells.unique {d d' : Mismatch} {expected actual : Value} {f : Field}
    (h : d.Tells expected actual f) (h' : d'.Tells expected actual f) : d = d' := by
  obtain ⟨field, text, shown⟩ := d
  obtain ⟨field', text', shown'⟩ := d'
  obtain rfl : field = field' := h.field.trans h'.field.symm
  obtain rfl : text = text' := Option.some.inj (h.expected.symm.trans h'.expected)
  obtain rfl : shown = shown' := h.actual.trans h'.actual.symm
  rfl

namespace Value

variable {expected actual : Value} {f : Field} {d : Mismatch}

@[simp] theorem fieldMismatch_none {α : Type} {field : String} {agrees : α → α → Bool}
    {showExpected showActual : α → String} {actual : Option α} :
    fieldMismatch field agrees showExpected showActual none actual = none := rfl

theorem fieldMismatch_eq_some {α : Type} {field : String} {agrees : α → α → Bool}
    {showExpected showActual : α → String} {expected actual : Option α}
    (h : fieldMismatch field agrees showExpected showActual expected actual = some d) :
    d.field = field ∧ expected.map showExpected = some d.expected ∧
      d.actual = (actual.map showActual).getD absent := by
  unfold fieldMismatch at h
  split at h
  · cases h
  · split at h
    · cases h
    · cases h
      exact ⟨rfl, rfl, rfl⟩

/-- The fields are compared one by one. -/
theorem firstMismatch_eq_findSome? :
    expected.firstMismatch actual =
      Field.all.findSome? fun f => (expected.only f).firstMismatch actual := by
  have hcons : ∀ (test : Field → Option Mismatch) (f : Field) (fs : List Field),
      (f :: fs).findSome? test = (test f).or (fs.findSome? test) := by
    intro test f fs
    rw [List.findSome?_cons]
    cases test f <;> rfl
  simp only [Field.all, hcons, List.findSome?_nil, only, firstMismatch, fieldMismatch_none,
    Option.none_or, Option.or_none]

theorem tells_of_firstMismatch_only (h : (expected.only f).firstMismatch actual = some d) :
    d.Tells expected actual f := by
  cases f <;> simp only [only, firstMismatch, fieldMismatch_none, Option.none_or, Option.or_none] at h
  all_goals
    obtain ⟨hfield, hexpected, hactual⟩ := fieldMismatch_eq_some h
    exact ⟨hfield, by simpa [demanded?, shown?] using hexpected, by simpa [shown?] using hactual⟩

theorem firstMismatch_only_eq_some_iff :
    (expected.only f).firstMismatch actual = some d ↔
      ¬ (expected.only f).SatisfiedBy actual ∧ d.Tells expected actual f := by
  rw [← firstMismatch_eq_none_iff]
  constructor
  · intro h
    exact ⟨by simp [h], tells_of_firstMismatch_only h⟩
  · intro h
    obtain ⟨hne, htells⟩ := h
    obtain ⟨d', hd'⟩ := Option.ne_none_iff_exists'.mp hne
    rw [hd', htells.unique (tells_of_firstMismatch_only hd')]

/-- A mismatch tells of the first field that is not satisfied. -/
theorem firstMismatch_eq_some_iff :
    expected.firstMismatch actual = some d ↔
      ∃ f, FirstWithout (fun f => (expected.only f).SatisfiedBy actual) Field.all f ∧
        d.Tells expected actual f := by
  rw [firstMismatch_eq_findSome?,
    findSome?_eq_some_iff_firstWithout fun f => firstMismatch_eq_none_iff]
  constructor
  · intro h
    obtain ⟨f, hf, hd⟩ := h
    exact ⟨f, hf, (firstMismatch_only_eq_some_iff.mp hd).2⟩
  · intro h
    obtain ⟨f, hf, htells⟩ := h
    have hnot : ¬ (expected.only f).SatisfiedBy actual := by
      obtain ⟨before, after, -, -, hnot⟩ := hf
      exact hnot
    exact ⟨f, hf, firstMismatch_only_eq_some_iff.mpr ⟨hnot, htells⟩⟩

end Value
end Measurement

open Measurement

section Outcomes

variable {received : Aggregate} {m : Manifest} {records : List Record} {r : Record}

/-- The outcome of a comparison. A failure is about the first record that is not satisfied: either
nothing was received for its key, or what was received does not satisfy some field, and the first such
field is told. -/
inductive Judged (received : Aggregate) (records : List Record) : Outcome → Prop
  | satisfied (all : ∀ r ∈ records, r.SatisfiedBy received) : Judged received records ⟨none⟩
  | missing {r : Record} (first : FirstWithout (·.SatisfiedBy received) records r)
      (absent : received.get? r.key = none) :
      Judged received records ⟨some (.missingMeasurement r.key)⟩
  | mismatch {r : Record} {actual : Value} {f : Field} {d : Mismatch}
      (first : FirstWithout (·.SatisfiedBy received) records r)
      (present : received.get? r.key = some actual)
      (firstField : FirstWithout (fun f => (r.value.only f).SatisfiedBy actual) Field.all f)
      (tells : d.Tells r.value actual f) :
      Judged received records ⟨some (.mismatch r.key d)⟩

/-- A record fails for one of two reasons. -/
theorem Measurement.Record.failure?_eq_some_iff {failure : Failure} :
    r.failure? received = some failure ↔
      (received.get? r.key = none ∧ failure = .missingMeasurement r.key) ∨
      ∃ actual d, received.get? r.key = some actual ∧ r.value.firstMismatch actual = some d ∧
        failure = .mismatch r.key d := by
  unfold failure?
  split
  · rename_i h
    simp [h, eq_comm]
  · rename_i actual h
    rw [Option.map_eq_some_iff]
    simp only [h, reduceCtorEq, false_and, false_or, Option.some.injEq]
    constructor
    · intro h
      obtain ⟨d, hd, rfl⟩ := h
      exact ⟨actual, d, rfl, hd, rfl⟩
    · intro h
      obtain ⟨_, d, rfl, hd, rfl⟩ := h
      exact ⟨d, hd, rfl⟩

theorem compare_failure_eq_some_iff {failure : Failure} :
    (compare received m).failure = some failure ↔
      ∃ r, FirstWithout (·.SatisfiedBy received) m.records r ∧
        r.failure? received = some failure :=
  findSome?_eq_some_iff_firstWithout fun _ => Record.failure?_eq_none_iff

theorem compare_failure_eq_none_iff :
    (compare received m).failure = none ↔ ∀ r ∈ m.records, r.SatisfiedBy received := by
  rw [← Outcome.verdict_eq_ok_iff, compare_eq_ok_iff]

theorem judged_compare : Judged received m.records (compare received m) := by
  cases h : (compare received m).failure with
  | none =>
    rw [show compare received m = ⟨none⟩ from congrArg Outcome.mk h]
    exact .satisfied (compare_failure_eq_none_iff.mp h)
  | some failure =>
    rw [show compare received m = ⟨some failure⟩ from congrArg Outcome.mk h]
    obtain ⟨r, hfirst, hr⟩ := compare_failure_eq_some_iff.mp h
    rcases Record.failure?_eq_some_iff.mp hr with ⟨habsent, rfl⟩ | ⟨actual, d, hpresent, hd, rfl⟩
    · exact .missing hfirst habsent
    · obtain ⟨f, hfield, htells⟩ := Value.firstMismatch_eq_some_iff.mp hd
      exact .mismatch hfirst hpresent hfield htells

/-- There is one outcome only. -/
theorem Judged.eq_compare {o : Outcome} (h : Judged received m.records o) :
    compare received m = o := by
  cases h with
  | satisfied all => exact congrArg Outcome.mk (compare_failure_eq_none_iff.mpr all)
  | missing first absent =>
    refine congrArg Outcome.mk (compare_failure_eq_some_iff.mpr ⟨_, first, ?_⟩)
    exact Record.failure?_eq_some_iff.mpr (.inl ⟨absent, rfl⟩)
  | mismatch first present firstField tells =>
    refine congrArg Outcome.mk (compare_failure_eq_some_iff.mpr ⟨_, first, ?_⟩)
    have hd := Value.firstMismatch_eq_some_iff.mpr ⟨_, firstField, tells⟩
    exact Record.failure?_eq_some_iff.mpr (.inr ⟨_, _, present, hd, rfl⟩)

theorem Judged.verdict_ne_error {o : Outcome} (h : Judged received records o) :
    o.verdict ≠ .error := by
  cases h <;> exact nofun

theorem Judged.verdict_eq_fail_iff {o : Outcome} (h : Judged received records o) :
    o.verdict = .fail ↔ ∃ r ∈ records, ¬ r.SatisfiedBy received := by
  cases h with
  | satisfied all => simpa [Outcome.verdict] using all
  | missing first absent => simpa [Outcome.verdict, Failure.verdict] using first.exists_not
  | mismatch first present firstField tells =>
    simpa [Outcome.verdict, Failure.verdict] using first.exists_not

/-- What was received for other keys has no influence, nor has what else the manifest says. -/
theorem compare_congr {received' : Aggregate} {m' : Manifest} (hm : m'.records = m.records)
    (h : ∀ r ∈ m.records, received'.get? r.key = received.get? r.key) :
    compare received' m' = compare received m := by
  have hfailure : ∀ r ∈ m.records, r.failure? received' = r.failure? received := by
    intro r hr
    simp only [Record.failure?, h r hr]
  have hfind : ∀ a : Aggregate, m.records.findSome? (Record.failure? a) =
      (m.records.map (Record.failure? a)).findSome? id := by
    intro a
    rw [List.findSome?_map, Function.id_comp]
  rw [compare, compare, hm, hfind, hfind, List.map_congr_left hfailure]

end Outcomes

/-- A comparison is exact. It gives the outcome that satisfaction and the orders of records and fields
determine, so it accepts a device exactly when every record is satisfied, and else fails without being
an error. What was received for other keys has no influence, nor has what the manifest endorses. -/
theorem compare_exact (received : Aggregate) (m : Manifest) :
    (∀ o, compare received m = o ↔ Judged received m.records o) ∧
    ((compare received m).verdict = .ok ↔ ∀ r ∈ m.records, r.SatisfiedBy received) ∧
    ((compare received m).verdict = .fail ↔ ∃ r ∈ m.records, ¬ r.SatisfiedBy received) ∧
    (compare received m).verdict ≠ .error ∧
    ∀ (received' : Aggregate) (m' : Manifest), m'.records = m.records →
      (∀ r ∈ m.records, received'.get? r.key = received.get? r.key) →
      compare received' m' = compare received m := by
  refine ⟨?_, compare_eq_ok_iff, judged_compare.verdict_eq_fail_iff,
    judged_compare.verdict_ne_error, fun _ _ => compare_congr⟩
  intro o
  constructor
  · rintro rfl
    exact judged_compare
  · exact Judged.eq_compare

/-- Of two fields that differ the first is told; letter case, another key and what is endorsed make no
difference. -/
theorem compare_exact_two_fields :
    let key : Key := { vendor := "v" }
    let received : Aggregate :=
      ⟨[(key, { version := some "1", svn := some 2, flags := some "ab" }), ({ vendor := "w" }, {})]⟩
    let m : Manifest :=
      { records := [⟨key, { flags := some "AB" }⟩,
          ⟨key, { version := some "1", svn := some 3, flags := some "cd" }⟩]
        endorsed := [⟨{}, {}⟩] }
    Judged received m.records ⟨some (.mismatch key ⟨"svn", "3", "2"⟩)⟩ ∧
      compare ⟨received.entries.take 1⟩ { m with endorsed := [] } = compare received m := by
  intro key received m
  obtain ⟨hjudged, -, -, -, hcongr⟩ := compare_exact received m
  exact ⟨(hjudged _).mp (by decide +kernel), hcongr _ _ rfl (by decide +kernel)⟩

end Appraisal
