import Appraisal.Wire.Cursor
import Mathlib.Algebra.Group.Nat.Defs
import Mathlib.Data.List.Basic

/-!
# Appraisal.Proofs.Wire.Sentinel

The search for a sentinel. It stands at some distance from the position or it does not, and of the distances
at which it stands the search gives the first one, where multiples of four come before those that are one
more, two more and three more. The search is also run as two loops, round by round, on numbers of 64 bits
and with every range checked: it stops with the same answer, and soon.

* `StandsAt`, `Precedes`: where a sentinel stands, and which of two distances comes first.
* `scan_eq_some_iff`, `scan_eq_none_iff`: one pass over the distances of one residue.
* `Checked.add`, `Checked.slice`: steps of a machine that can go wrong.
* `Search.step`, `Search.run`: the two loops.
* `Search.run_looking`: they stop within as many rounds as there are bytes, and five more.
* `findFirst_least`: what the search gives.
-/

namespace Appraisal
namespace Wire

variable {needle hay : Bytes} {o : Nat}

/-- The needle stands in the hay at distance `o`. -/
def StandsAt (needle hay : Bytes) (o : Nat) : Prop :=
  o + needle.length ≤ hay.length ∧ hay.extract o (o + needle.length) = needle

instance (needle hay : Bytes) (o : Nat) : Decidable (StandsAt needle hay o) :=
  inferInstanceAs (Decidable (_ ∧ _))

/-- Distances by their residue modulo four, and those of one residue by size. -/
def Precedes (o p : Nat) : Prop := o % 4 < p % 4 ∨ o % 4 = p % 4 ∧ o ≤ p

instance (o p : Nat) : Decidable (Precedes o p) := inferInstanceAs (Decidable (_ ∨ _))

/-! ## One residue -/

namespace Cursor

variable {s : Nat}

/-- A pass as a loop over distances: the needle stands here, or further on by its own length. -/
theorem scan_drop (h : 0 < needle.length) :
    scan needle s (hay.drop s) =
      if StandsAt needle hay s then some s
      else if s + needle.length ≤ hay.length then
        scan needle (s + needle.length) (hay.drop (s + needle.length))
      else none := by
  have hne : needle ≠ [] := List.length_pos_iff.mp h
  rw [scan]
  by_cases hfit : s + needle.length ≤ hay.length
  · have hstands : StandsAt needle hay s ↔ (hay.drop s).take needle.length = needle := by
      simp [StandsAt, hfit, List.extract_eq_take_drop]
    rw [if_neg (by simp [hne]; omega), List.drop_drop]
    simp only [hstands, hfit, if_true]
  · have hstands : ¬ StandsAt needle hay s := fun hs => hfit hs.1
    rw [if_pos (.inl (by simp; omega)), if_neg hstands, if_neg hfit]

/-- What holds of a loop over distances that ends where the needle no longer fits. -/
theorem scan_induction (hay : Bytes) {P : Nat → Prop} (h : 0 < needle.length)
    (step : ∀ s, (s + needle.length ≤ hay.length → P (s + needle.length)) → P s) (s : Nat) : P s := by
  induction hleft : hay.length - s using Nat.strongRecOn generalizing s with
  | _ left ih =>
    subst hleft
    exact step s fun hfit => ih _ (by omega) _ rfl

theorem distance_succ (s n k : Nat) : s + n + n * k = s + n * (k + 1) := by
  rw [Nat.mul_add_one, Nat.add_assoc, Nat.add_comm n]

theorem not_standsAt_of_lt {k : Nat} (h : hay.length < s + needle.length) :
    ¬ StandsAt needle hay (s + needle.length * k) :=
  fun hstands => absurd hstands.1 (by omega)

theorem scan_eq_none_iff (h : 0 < needle.length) :
    scan needle s (hay.drop s) = none ↔ ∀ k, ¬ StandsAt needle hay (s + needle.length * k) := by
  induction s using scan_induction hay h with
  | step s ih =>
    rw [scan_drop h]
    by_cases hstands : StandsAt needle hay s
    · simp only [hstands, if_true, reduceCtorEq, false_iff]
      exact fun hnone => hnone 0 hstands
    · rw [if_neg hstands]
      split
      · rename_i hfit
        simp only [ih hfit, distance_succ]
        constructor
        · intro hnone k
          cases k with
          | zero => exact hstands
          | succ k => exact hnone k
        · exact fun hnone k => hnone (k + 1)
      · simp only [true_iff]
        exact fun k => not_standsAt_of_lt (by omega)

/-- A pass gives the first distance at which the needle stands. -/
theorem scan_eq_some_iff (h : 0 < needle.length) :
    scan needle s (hay.drop s) = some o ↔
      ∃ k, o = s + needle.length * k ∧ StandsAt needle hay o ∧
        ∀ j < k, ¬ StandsAt needle hay (s + needle.length * j) := by
  induction s using scan_induction hay h with
  | step s ih =>
    rw [scan_drop h]
    by_cases hstands : StandsAt needle hay s
    · rw [if_pos hstands, Option.some.injEq]
      constructor
      · rintro rfl
        exact ⟨0, rfl, hstands, fun j hj => absurd hj (Nat.not_lt_zero j)⟩
      · rintro ⟨k, rfl, -, hfirst⟩
        cases k with
        | zero => rfl
        | succ k => exact absurd hstands (hfirst 0 (Nat.succ_pos k))
    · rw [if_neg hstands]
      split
      · rename_i hfit
        simp only [ih hfit, distance_succ]
        constructor
        · rintro ⟨k, rfl, ho, hfirst⟩
          refine ⟨k + 1, rfl, ho, fun j hj => ?_⟩
          cases j with
          | zero => exact hstands
          | succ j => exact hfirst j (Nat.lt_of_succ_lt_succ hj)
        · rintro ⟨k, rfl, ho, hfirst⟩
          cases k with
          | zero => exact absurd ho hstands
          | succ k => exact ⟨k, rfl, ho, fun j hj => hfirst (j + 1) (Nat.succ_lt_succ hj)⟩
      · simp only [reduceCtorEq, false_iff]
        rintro ⟨k, rfl, ho, -⟩
        exact not_standsAt_of_lt (by omega) ho

end Cursor

/-! ## All residues -/

theorem findSome?_range_eq_some_iff {f : Nat → Option Nat} {n : Nat} :
    (List.range n).findSome? f = some o ↔ ∃ i < n, f i = some o ∧ ∀ j < i, f j = none := by
  induction n with
  | zero => simp
  | succ n ih =>
    simp only [List.range_succ, List.findSome?_append, Option.or_eq_some_iff, ih,
      List.findSome?_eq_none_iff, List.mem_range, List.findSome?_singleton]
    constructor
    · rintro (⟨i, hi, hfound⟩ | ⟨hnone, hlast⟩)
      · exact ⟨i, Nat.lt_succ_of_lt hi, hfound⟩
      · exact ⟨n, Nat.lt_succ_self n, hlast, hnone⟩
    · rintro ⟨i, hi, hfound, hnone⟩
      rcases Nat.lt_succ_iff_lt_or_eq.mp hi with hi | rfl
      · exact .inl ⟨i, hi, hfound, hnone⟩
      · exact .inr ⟨hnone, hfound⟩

/-- The first residue at which a pass finds the needle gives the first distance of all. -/
theorem findSome?_scan_eq_some_iff (h : needle.length = 4) :
    ((List.range 4).findSome? fun s => Cursor.scan needle s (hay.drop s)) = some o ↔
      StandsAt needle hay o ∧ ∀ p, StandsAt needle hay p → Precedes o p := by
  have hpos : 0 < needle.length := by omega
  simp only [findSome?_range_eq_some_iff, Cursor.scan_eq_some_iff hpos, Cursor.scan_eq_none_iff hpos, h]
  constructor
  · rintro ⟨s, hs, ⟨k, rfl, ho, hfirst⟩, hnone⟩
    refine ⟨ho, fun p hp => ?_⟩
    rw [← Nat.mod_add_div p 4] at hp
    have hs' : s ≤ p % 4 := Nat.le_of_not_lt fun hlt => hnone _ hlt _ hp
    have hmod : (s + 4 * k) % 4 = s := by omega
    rw [Precedes, hmod]
    rcases Nat.lt_or_eq_of_le hs' with hlt | rfl
    · exact .inl hlt
    · have hk : k ≤ p / 4 := Nat.le_of_not_lt fun hlt => hfirst _ hlt hp
      exact .inr ⟨rfl, by omega⟩
  · rintro ⟨ho, hleast⟩
    refine ⟨o % 4, by omega, ⟨o / 4, (Nat.mod_add_div o 4).symm, ho, fun j hj hstands => ?_⟩,
      fun s hs k hstands => ?_⟩
    · have hprecedes := hleast _ hstands
      unfold Precedes at hprecedes
      omega
    · have hprecedes := hleast _ hstands
      unfold Precedes at hprecedes
      omega

theorem findSome?_scan_eq_none_iff (h : needle.length = 4) :
    ((List.range 4).findSome? fun s => Cursor.scan needle s (hay.drop s)) = none ↔
      ∀ p, ¬ StandsAt needle hay p := by
  have hpos : 0 < needle.length := by omega
  simp only [List.findSome?_eq_none_iff, List.mem_range, Cursor.scan_eq_none_iff hpos, h]
  constructor
  · intro hnone p
    rw [← Nat.mod_add_div p 4]
    exact hnone _ (by omega) _
  · exact fun hnone s _ k => hnone _

/-! ## The loops -/

/-- How a step of a machine can go wrong. -/
inductive Trap where
  /-- A number does not fit in 64 bits. -/
  | overflow
  /-- Bytes are asked for that are not there. -/
  | outOfRange
  /-- A loop is not done within the rounds that it was given. -/
  | unfinished
deriving DecidableEq, Repr

namespace Checked

def add (a b : Nat) : Except Trap Nat := if a + b < 2 ^ 64 then .ok (a + b) else .error .overflow

def sub (a b : Nat) : Except Trap Nat := if b ≤ a then .ok (a - b) else .error .overflow

/-- The bytes from `start` up to `stop`. -/
def slice (bs : Bytes) (start stop : Nat) : Except Trap Bytes :=
  if start ≤ stop ∧ stop ≤ bs.length then .ok (bs.extract start stop) else .error .outOfRange

theorem add_of_lt {a b : Nat} (h : a + b < 2 ^ 64) : add a b = .ok (a + b) := if_pos h

theorem sub_of_le {a b : Nat} (h : b ≤ a) : sub a b = .ok (a - b) := if_pos h

theorem slice_of_le {bs : Bytes} {start stop : Nat} (h : start ≤ stop) (h' : stop ≤ bs.length) :
    slice bs start stop = .ok (bs.extract start stop) := if_pos ⟨h, h'⟩

end Checked

open Checked

/-- A search between two rounds: it looks at a distance for some residue, or has stopped. -/
inductive Search where
  | looking (shift offset : Nat)
  | stopped (found : Option Nat)
deriving DecidableEq, Repr

namespace Search

/-- A round of the inner loop while the needle still fits, and then one of the outer loop. -/
def step (needle hay : Bytes) : Search → Except Trap Search
  | stopped found => .ok (stopped found)
  | looking shift offset =>
    if shift < needle.length then do
      let stop ← add offset needle.length
      if stop ≤ hay.length then do
        let window ← slice hay offset stop
        if window = needle then pure (stopped (some offset))
        else do
          let next ← add offset needle.length
          pure (looking shift next)
      else do
        let next ← add shift 1
        pure (looking next next)
    else .ok (stopped none)

def run (needle hay : Bytes) : Nat → Search → Except Trap Search
  | 0, s => .ok s
  | rounds + 1, s => do
    let s ← s.step needle hay
    run needle hay rounds s

variable {shift offset m n : Nat} {s t : Search}

theorem run_of_step (h : s.step needle hay = .ok t) : run needle hay (n + 1) s = run needle hay n t := by
  rw [run, h]
  rfl

theorem run_stopped (found : Option Nat) (n : Nat) :
    run needle hay n (stopped found) = .ok (stopped found) := by
  induction n with
  | zero => rfl
  | succ n ih => exact (run_of_step rfl).trans ih

theorem run_add (h : run needle hay m s = .ok t) : run needle hay (m + n) s = run needle hay n t := by
  induction m generalizing s with
  | zero =>
    cases h
    rw [Nat.zero_add]
  | succ m ih =>
    cases hstep : s.step needle hay with
    | error trap =>
      rw [run, hstep] at h
      cases h
    | ok u =>
      rw [run_of_step hstep] at h
      rw [Nat.add_right_comm, run_of_step hstep]
      exact ih h

/-- A search that has stopped has stopped for any more rounds. -/
theorem run_of_le {found : Option Nat} (h : run needle hay m s = .ok (stopped found)) (hmn : m ≤ n) :
    run needle hay n s = .ok (stopped found) := by
  obtain ⟨k, rfl⟩ := Nat.exists_eq_add_of_le hmn
  rw [run_add h, run_stopped]

theorem step_looking (hshift : shift < needle.length)
    (hoffset : offset + needle.length < 2 ^ 64) :
    step needle hay (looking shift offset) = .ok
      (if StandsAt needle hay offset then stopped (some offset)
      else if offset + needle.length ≤ hay.length then looking shift (offset + needle.length)
      else looking (shift + 1) (shift + 1)) := by
  have hnext : shift + 1 < 2 ^ 64 := by omega
  simp only [step, if_pos hshift, add_of_lt hoffset, add_of_lt hnext, StandsAt, bind, Except.bind, pure,
    Except.pure]
  by_cases hfit : offset + needle.length ≤ hay.length
  · have hslice := slice_of_le (Nat.le_add_right offset needle.length) hfit
    by_cases hwindow : hay.extract offset (offset + needle.length) = needle
    · simp only [hfit, hslice, hwindow, if_true, true_and]
    · simp only [hfit, hslice, hwindow, if_true, if_false, and_false]
  · simp only [hfit, if_false, false_and]

section Loops

variable (hneedle : needle.length = 4) (hhay : hay.length < 2 ^ 63)
include hneedle hhay

/-- The inner loop does what a pass does, and then goes on to the next residue. -/
theorem run_pass (shift offset : Nat) (hshift : shift < 4) (hoffset : offset < hay.length + 4) :
    ∃ n, 4 * n ≤ hay.length - offset + 4 ∧ run needle hay n (looking shift offset) = .ok
      (match Cursor.scan needle offset (hay.drop offset) with
      | some found => stopped (some found)
      | none => looking (shift + 1) (shift + 1)) := by
  have hpos : 0 < needle.length := by omega
  induction offset using Cursor.scan_induction hay hpos with
  | step offset ih =>
    have hstep : step needle hay (looking shift offset) = _ :=
      step_looking (by omega) (by omega)
    rw [Cursor.scan_drop hpos]
    by_cases hstands : StandsAt needle hay offset
    · rw [if_pos hstands] at hstep ⊢
      exact ⟨1, by omega, run_of_step hstep⟩
    · rw [if_neg hstands] at hstep ⊢
      by_cases hfit : offset + needle.length ≤ hay.length
      · rw [if_pos hfit] at hstep ⊢
        obtain ⟨n, hn, hrun⟩ := ih hfit (by omega)
        exact ⟨n + 1, by omega, (run_of_step hstep).trans hrun⟩
      · rw [if_neg hfit] at hstep ⊢
        exact ⟨1, by omega, run_of_step hstep⟩

/-- The outer loop, with `k` residues to go. -/
theorem run_passes (shift k : Nat) (hk : shift + k = 4) :
    ∃ n, n ≤ k * (hay.length / 4 + 1) + 1 ∧ run needle hay n (looking shift shift) = .ok
      (stopped ((List.range' shift k).findSome? fun s => Cursor.scan needle s (hay.drop s))) := by
  induction k generalizing shift with
  | zero =>
    refine ⟨1, Nat.le_add_left _ _, run_of_step ?_⟩
    simp only [step]
    rw [if_neg (by omega)]
    rfl
  | succ k ih =>
    obtain ⟨m, hm, hpass⟩ := run_pass hneedle hhay shift shift (by omega) (by omega)
    rw [List.range'_succ, List.findSome?_cons, Nat.succ_mul]
    cases hscan : Cursor.scan needle shift (hay.drop shift) with
    | some found =>
      rw [hscan] at hpass
      exact ⟨m, by omega, hpass⟩
    | none =>
      rw [hscan] at hpass
      obtain ⟨n, hn, hrest⟩ := ih (shift + 1) (by omega)
      exact ⟨m + n, by omega, (run_add hpass).trans hrest⟩

/-- The loops stop within as many rounds as there are bytes, and five more. -/
theorem run_looking : run needle hay (hay.length + 5) (looking 0 0) = .ok
    (stopped ((List.range 4).findSome? fun s => Cursor.scan needle s (hay.drop s))) := by
  obtain ⟨n, hn, hrun⟩ := run_passes hneedle hhay 0 4 rfl
  rw [List.range_eq_range']
  exact run_of_le hrun (by omega)

end Loops

end Search

def Search.answer (value : UInt32) : Option Nat → Except Error Nat
  | some offset => .ok offset
  | none => .error (.valueNotFound value)

theorem Search.answer_eq_ok_iff {value : UInt32} {found : Option Nat} :
    answer value found = .ok o ↔ found = some o := by
  cases found <;> simp [answer]

theorem Search.answer_eq_error_iff {value : UInt32} {found : Option Nat} {err : Error} :
    answer value found = .error err ↔ found = none ∧ err = .valueNotFound value := by
  cases found <;> simp [answer, eq_comm]

theorem Cursor.findFirst_eq (c : Cursor) (value : UInt32) :
    c.findFirst value = Search.answer value ((List.range 4).findSome? fun s =>
      scan (Bytes.ofNatBE 4 value.toNat) s (c.rest.drop s)) := by
  rw [findFirst]
  cases (List.range 4).findSome? fun s =>
      scan (Bytes.ofNatBE 4 value.toNat) s (c.rest.drop s) with
  | some offset => rfl
  | none => rfl

/-- The search of a buffer behind a position, which it leaves as it is. -/
def Checked.findFirst (value : UInt32) (buffer : Bytes) (position : Nat) :
    Except Trap (Except Error Nat × Nat) := do
  let hay ← slice buffer position buffer.length
  match ← Search.run (Bytes.ofNatBE 4 value.toNat) hay (hay.length + 5) (.looking 0 0) with
  | .stopped found => pure (Search.answer value found, position)
  | .looking _ _ => .error .unfinished

theorem Checked.findFirst_eq (c : Cursor) (value : UInt32) (h : c.buffer.length < 2 ^ 63) :
    Checked.findFirst value c.buffer c.position = .ok (c.findFirst value, c.position) := by
  have hslice : slice c.buffer c.position c.buffer.length = .ok c.rest := by
    rw [slice_of_le c.position_le (Nat.le_refl _), Cursor.rest, List.extract_eq_take_drop,
      ← List.length_drop, List.take_length]
  have hrest : c.rest.length < 2 ^ 63 := by
    rw [Cursor.rest, List.length_drop]
    omega
  have hrun := Search.run_looking (Bytes.length_ofNatBE 4 value.toNat) hrest
  rw [findFirst, hslice, Cursor.findFirst_eq]
  simp only [bind, Except.bind, hrun]
  rfl

/-- The sentinel is not found exactly when it stands nowhere behind the position. Otherwise the distance is
given at which it stands first: the least multiple of four, else the least that is one more than one, two
more or three more. The two loops of the search stop with this answer, and with no number or range that a
buffer does not have; the position stays. -/
theorem findFirst_least (c : Cursor) (value : UInt32) :
    (c.findFirst value = .error (.valueNotFound value) ↔
      ∀ o, ¬ StandsAt (Bytes.ofNatBE 4 value.toNat) c.rest o) ∧
    (∀ o, c.findFirst value = .ok o ↔ StandsAt (Bytes.ofNatBE 4 value.toNat) c.rest o ∧
      ∀ p, StandsAt (Bytes.ofNatBE 4 value.toNat) c.rest p → Precedes o p) ∧
    (∀ err, c.findFirst value = .error err → err = .valueNotFound value) ∧
    (c.buffer.length < 2 ^ 63 →
      Checked.findFirst value c.buffer c.position = .ok (c.findFirst value, c.position)) := by
  have hneedle := Bytes.length_ofNatBE 4 value.toNat
  refine ⟨?_, fun o => ?_, ?_, Checked.findFirst_eq c value⟩
  · rw [Cursor.findFirst_eq, ← findSome?_scan_eq_none_iff hneedle, Search.answer_eq_error_iff]
    exact and_iff_left rfl
  · rw [Cursor.findFirst_eq, ← findSome?_scan_eq_some_iff hneedle, Search.answer_eq_ok_iff]
  · intro err herr
    rw [Cursor.findFirst_eq, Search.answer_eq_error_iff] at herr
    exact herr.2

/-- A match at a multiple of four, behind one that is not. -/
theorem findFirst_least_aligned :
    (Cursor.ofBytes [0, 1, 2, 3, 4, 9, 9, 9, 1, 2, 3, 4]).findFirst 0x01020304 = .ok 8 := by
  obtain ⟨-, hfound, -, -⟩ :=
    findFirst_least (Cursor.ofBytes [0, 1, 2, 3, 4, 9, 9, 9, 1, 2, 3, 4]) 0x01020304
  refine (hfound 8).mpr ⟨by decide, fun p hp => ?_⟩
  have hle : p ≤ 8 := by
    have := hp.1
    simp [Cursor.ofBytes, Cursor.rest] at this
    omega
  have hsmall : ∀ p ≤ 8, StandsAt [1, 2, 3, 4] [0, 1, 2, 3, 4, 9, 9, 9, 1, 2, 3, 4] p →
      Precedes 8 p := by decide
  exact hsmall p hle hp

end Wire
end Appraisal
