import Appraisal.Der.Primitive
import Appraisal.Proofs.Text.Utf8

/-!
# Appraisal.Proofs.Der.Primitive

Which contents are integers of 64 bits, and which are text.

* `twosComplement`: the number that a content writes.
* `int64_eq_ok_iff`: the contents that are read as integers. A negative one has eight bytes at most; in
  front of the others zeros do not count.
* `exists_writes64_iff`: among the shortest contents, those are integers whose number has 64 bits.
* `text_eq_ok_iff`: the contents that are text are the written forms of texts.
-/

namespace Appraisal

namespace Bytes

theorem toNatLE_append (bs cs : Bytes) :
    toNatLE (bs ++ cs) = toNatLE bs + count bs.length * toNatLE cs := by
  induction bs with
  | nil => simp [toNatLE, count]
  | cons b bs ih =>
    rw [List.cons_append, toNatLE, toNatLE, ih, List.length_cons, count, Nat.mul_add, Nat.mul_assoc]
    omega

theorem toNatBE_cons (b : UInt8) (bs : Bytes) :
    toNatBE (b :: bs) = count bs.length * b.toNat + toNatBE bs := by
  rw [toNatBE, List.reverse_cons, toNatLE_append, List.length_reverse, toNatLE, toNatLE, toNatBE,
    Nat.mul_zero, Nat.add_zero, Nat.add_comm]

theorem count_le {m n : Nat} (h : m ≤ n) : count m ≤ count n := by
  induction h with
  | refl => exact Nat.le_refl _
  | step h ih =>
    rw [count]
    omega

end Bytes

namespace Der

open Bytes

variable {b : UInt8} {bs content : Bytes} {n : Int}

/-- The number that a content writes in two's complement, most significant byte first. -/
def twosComplement (content : Bytes) : Int :=
  (toNatBE content : Int) - if 0x80 ≤ content.headD 0 then count content.length else 0

/-- The contents that are read as an integer of 64 bits. Those of a negative one have eight bytes at most, as
its shortest content has. -/
structure Writes64 (content : Bytes) (n : Int) : Prop where
  value : twosComplement content = n
  least : -0x8000000000000000 ≤ n
  most : n < 0x8000000000000000
  short : n < 0 → content.length ≤ 8

theorem twosComplement_of_lt (h : b < 0x80) (bs : Bytes) :
    twosComplement (b :: bs) = toNatBE (b :: bs) := by
  rw [twosComplement, List.headD_cons, if_neg (UInt8.not_le.mpr h)]
  omega

theorem twosComplement_of_le (h : 0x80 ≤ b) (bs : Bytes) :
    twosComplement (b :: bs) = (toNatBE (b :: bs) : Int) - count (bs.length + 1) := by
  rw [twosComplement, List.headD_cons, if_pos h, List.length_cons]

/-- A number with the sign bit set is negative, and not below the least of its size. -/
theorem twosComplement_bounds (h : 0x80 ≤ b) (bs : Bytes) :
    -(0x80 * count bs.length : Int) ≤ twosComplement (b :: bs) ∧ twosComplement (b :: bs) < 0 := by
  have hb : 0x80 ≤ b.toNat := h
  have hmul : count bs.length * 0x80 ≤ count bs.length * b.toNat := Nat.mul_le_mul_left _ hb
  have hlt := toNatBE_lt (b :: bs)
  rw [List.length_cons, count] at hlt
  rw [twosComplement_of_le h, count]
  rw [toNatBE_cons] at hlt ⊢
  omega

theorem int64_eq_ok_iff : int64 content = .ok n ↔ Writes64 content n := by
  cases content with
  | nil =>
    constructor
    · intro h
      cases h
      exact ⟨rfl, by decide, by decide, fun _ => Nat.zero_le 8⟩
    · intro h
      rw [int64, ← h.value]
      rfl
  | cons b bs =>
    rw [int64]
    by_cases hsign : 0x80 ≤ b
    · obtain ⟨hleast, hneg⟩ := twosComplement_bounds hsign bs
      rw [if_pos hsign, List.length_cons, ← twosComplement_of_le hsign]
      split
      · rename_i hlength
        have hcount : count bs.length ≤ count 7 := count_le (by omega)
        have hseven : count 7 = 0x100000000000000 := by decide
        constructor
        · intro h
          cases h
          exact ⟨rfl, by omega, by omega, fun _ => hlength⟩
        · intro h
          rw [h.value]
      · rename_i hlength
        constructor
        · intro h
          cases h
        · intro h
          rw [← h.value] at h
          exact absurd (h.short hneg) hlength
    · have hlt : b < 0x80 := UInt8.not_le.mp hsign
      have hvalue := twosComplement_of_lt hlt bs
      rw [if_neg hsign]
      dsimp only
      split
      · rename_i hmost
        constructor
        · intro h
          cases h
          exact ⟨hvalue, by omega, by omega, fun hneg => by omega⟩
        · intro h
          rw [← h.value, hvalue]
      · rename_i hmost
        constructor
        · intro h
          cases h
        · intro h
          have := h.most
          rw [← h.value, hvalue] at this
          omega

/-- The shortest contents: the first nine bits are not all the same. -/
structure Shortest (content : Bytes) : Prop where
  nonempty : content ≠ []
  zeros : ∀ b bs, content = 0x00 :: b :: bs → 0x80 ≤ b
  ones : ∀ b bs, content = 0xFF :: b :: bs → b < 0x80

/-- A shortest content of more than eight bytes writes no negative number of 64 bits. -/
theorem Shortest.length_le (h : Shortest content) (hneg : twosComplement content < 0)
    (hleast : -0x8000000000000000 ≤ twosComplement content) : content.length ≤ 8 := by
  obtain ⟨b, bs, rfl⟩ := List.exists_cons_of_ne_nil h.nonempty
  cases bs with
  | nil => exact Nat.le_of_ble_eq_true rfl
  | cons c bs =>
    have hsign : 0x80 ≤ b := by
      apply UInt8.not_lt.mp
      intro hlt
      rw [twosComplement_of_lt hlt] at hneg
      omega
    -- Behind the first two bytes there are so many that these two decide.
    apply Nat.le_of_not_lt
    intro hlong
    simp only [List.length_cons] at hlong
    have hcount : count 7 ≤ count bs.length := count_le (by omega)
    have hseven : count 7 = 0x100000000000000 := by decide
    have hrest := toNatBE_lt bs
    have hfirst : count bs.length * (0x100 * b.toNat + c.toNat) ≤ count bs.length * 0xFF7F := by
      apply Nat.mul_le_mul_left
      have hb := b.toNat_lt
      have hc := c.toNat_lt
      by_cases hones : b = 0xFF
      · subst hones
        have hlow : c.toNat < 0x80 := h.ones c bs rfl
        show 0x100 * 0xFF + c.toNat ≤ 0xFF7F
        omega
      · have hne : b.toNat ≠ 0xFF := fun heq => hones (UInt8.toNat_inj.mp heq)
        omega
    rw [Nat.mul_add, Nat.mul_left_comm] at hfirst
    rw [twosComplement_of_le hsign, toNatBE_cons, toNatBE_cons] at hleast
    simp only [List.length_cons, count, Nat.mul_assoc] at hleast
    omega

/-- A shortest content is an integer of 64 bits exactly when its number has so many. -/
theorem exists_writes64_iff (h : Shortest content) :
    (∃ n, Writes64 content n) ↔
      -0x8000000000000000 ≤ twosComplement content ∧ twosComplement content < 0x8000000000000000 := by
  constructor
  · intro hwrites
    obtain ⟨n, hn⟩ := hwrites
    rw [hn.value]
    exact ⟨hn.least, hn.most⟩
  · intro hfits
    obtain ⟨hleast, hmost⟩ := hfits
    exact ⟨_, rfl, hleast, hmost, fun hneg => h.length_le hneg hleast⟩

theorem text_eq_ok_iff {s : String} : text content = .ok s ↔ content = Utf8.encode s := by
  rw [← Utf8.decode?_eq_some_iff, text]
  split
  · rename_i s' h
    rw [h, Except.ok.injEq, Option.some.injEq]
  · rename_i h
    rw [h]
    simp

end Der
end Appraisal
