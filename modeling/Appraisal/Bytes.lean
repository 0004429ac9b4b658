/-!
# Appraisal.Bytes

Byte strings and the fixed-width numbers written in them.

* `ofNatBE w n`, `ofNatLE w n`: the `w` bytes of `n`, most (least) significant byte first.
* `toNatBE`, `toNatLE`: the number that a byte string writes.
* `count w`: how many byte strings of length `w` there are, and so how many numbers they write.
* `toNatBE_ofNatBE`: reading what was written gives the number modulo `count w`.
* `ofNatBE_toNatBE`: writing what was read gives the same bytes.
-/

namespace Appraisal

abbrev Bytes := List UInt8

namespace Bytes

/-- The number that `bs` writes, least significant byte first. -/
def toNatLE : Bytes → Nat
  | [] => 0
  | b :: bs => b.toNat + 256 * toNatLE bs

/-- The number that `bs` writes, most significant byte first. -/
def toNatBE (bs : Bytes) : Nat := toNatLE bs.reverse

/-- The `w` bytes of `n`, least significant first; what does not fit is dropped. -/
def ofNatLE : Nat → Nat → Bytes
  | 0, _ => []
  | w + 1, n => UInt8.ofNat n :: ofNatLE w (n / 256)

/-- The `w` bytes of `n`, most significant first; what does not fit is dropped. -/
def ofNatBE (w n : Nat) : Bytes := (ofNatLE w n).reverse

def count : Nat → Nat
  | 0 => 1
  | w + 1 => 256 * count w

def zeros (n : Nat) : Bytes := List.replicate n 0

@[simp] theorem length_zeros (n : Nat) : (zeros n).length = n := List.length_replicate

@[simp] theorem length_ofNatLE (w n : Nat) : (ofNatLE w n).length = w := by
  induction w generalizing n with
  | zero => rfl
  | succ w ih => simp [ofNatLE, ih]

@[simp] theorem length_ofNatBE (w n : Nat) : (ofNatBE w n).length = w := by
  simp [ofNatBE]

theorem toNatLE_ofNatLE (w n : Nat) : toNatLE (ofNatLE w n) = n % count w := by
  induction w generalizing n with
  | zero => simp [ofNatLE, toNatLE, count, Nat.mod_one]
  | succ w ih =>
    have h : (UInt8.ofNat n).toNat = n % 256 := by simp
    rw [ofNatLE, toNatLE, ih, h, count, Nat.mod_mul]

theorem ofNatLE_toNatLE (bs : Bytes) : ofNatLE bs.length (toNatLE bs) = bs := by
  induction bs with
  | nil => rfl
  | cons b bs ih =>
    have hb := b.toNat_lt
    have h1 : UInt8.ofNat (b.toNat + 256 * toNatLE bs) = b := by
      apply UInt8.toNat_inj.1
      simp only [UInt8.toNat_ofNat']
      omega
    have h2 : (b.toNat + 256 * toNatLE bs) / 256 = toNatLE bs := by omega
    simp [toNatLE, ofNatLE, h1, h2, ih]

theorem toNatLE_lt (bs : Bytes) : toNatLE bs < count bs.length := by
  induction bs with
  | nil => simp [toNatLE, count]
  | cons b bs ih =>
    have hb := b.toNat_lt
    rw [toNatLE, List.length_cons, count]
    omega

theorem toNatBE_ofNatBE (w n : Nat) : toNatBE (ofNatBE w n) = n % count w := by
  simp [toNatBE, ofNatBE, toNatLE_ofNatLE]

theorem ofNatBE_toNatBE (bs : Bytes) : ofNatBE bs.length (toNatBE bs) = bs := by
  have h := ofNatLE_toNatLE bs.reverse
  rw [List.length_reverse] at h
  rw [ofNatBE, toNatBE, h, List.reverse_reverse]

theorem toNatBE_lt (bs : Bytes) : toNatBE bs < count bs.length := by
  have h := toNatLE_lt bs.reverse
  rwa [List.length_reverse] at h

end Bytes
end Appraisal
