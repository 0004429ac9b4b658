import Appraisal.Bytes

/-!
# Appraisal.Wire.ByteOrder

The two layouts of a message. The firmware writes integers least significant byte first and
permutes some wider fields; the service keeps every integer most significant byte first. A field's
`ByteOrder` says how the firmware permutes it.

* `arrange`: the permutation, the same in both directions.
* `admits`: the lengths for which a field can have the order.
* `arrange_arrange`: on an admitted length, permuting twice gives the field back.
-/

namespace Appraisal
namespace Wire

inductive Endpoint where
  | firmware
  | service
deriving DecidableEq, Repr

inductive ByteOrder where
  | kept
  | words32
  | words64
  | integer
deriving DecidableEq, Repr

/-- Reverses each group of `w + 1` bytes, and what is left after the last whole group. -/
def reverseGroups (w : Nat) (bs : Bytes) : Bytes :=
  if bs.length ≤ w then bs.reverse
  else (bs.take (w + 1)).reverse ++ reverseGroups w (bs.drop (w + 1))
termination_by bs.length
decreasing_by simp; omega

namespace ByteOrder

def admits : ByteOrder → Nat → Bool
  | kept, _ => true
  | words32, n => n % 4 == 0
  | words64, n => n % 8 == 0
  | integer, n => n == 2 || n == 4 || n == 8

/-- Takes a field from the service's layout to that of the firmware, or back. -/
def swap : ByteOrder → Bytes → Bytes
  | kept, bs => bs
  | words32, bs => reverseGroups 3 bs
  | words64, bs => reverseGroups 7 bs
  | integer, bs => bs.reverse

/-- Takes a field from the service's layout to that of `e`, or back. -/
def arrange (o : ByteOrder) : Endpoint → Bytes → Bytes
  | .service, bs => bs
  | .firmware, bs => o.swap bs

end ByteOrder

@[simp] theorem length_reverseGroups (w : Nat) (bs : Bytes) :
    (reverseGroups w bs).length = bs.length := by
  fun_induction reverseGroups w bs with
  | case1 bs h => simp
  | case2 bs h ih => simp [ih]; omega

theorem reverseGroups_reverseGroups {w : Nat} {bs : Bytes} (h : bs.length % (w + 1) = 0) :
    reverseGroups w (reverseGroups w bs) = bs := by
  fun_induction reverseGroups w bs with
  | case1 bs hle =>
    have : bs.length = 0 := by rwa [Nat.mod_eq_of_lt (by omega)] at h
    have : bs = [] := List.length_eq_zero_iff.1 this
    subst this
    simp [reverseGroups]
  | case2 bs hgt ih =>
    have hlen : (List.take (w + 1) bs).reverse.length = w + 1 := by simp; omega
    have hrest : (bs.drop (w + 1)).length % (w + 1) = 0 := by
      rw [List.length_drop, ← Nat.mod_eq_sub_mod (by omega)]
      exact h
    rw [reverseGroups, if_neg (by simp; omega), List.take_left' hlen, List.drop_left' hlen,
      List.reverse_reverse, ih hrest, List.take_append_drop]

namespace ByteOrder

@[simp] theorem length_swap (o : ByteOrder) (bs : Bytes) : (o.swap bs).length = bs.length := by
  cases o <;> simp [swap]

@[simp] theorem length_arrange (o : ByteOrder) (e : Endpoint) (bs : Bytes) :
    (o.arrange e bs).length = bs.length := by
  cases e <;> simp [arrange]

theorem swap_swap {o : ByteOrder} {bs : Bytes} (h : o.admits bs.length = true) :
    o.swap (o.swap bs) = bs := by
  cases o with
  | kept => rfl
  | words32 => exact reverseGroups_reverseGroups (by simpa [admits] using h)
  | words64 => exact reverseGroups_reverseGroups (by simpa [admits] using h)
  | integer => exact List.reverse_reverse bs

theorem arrange_arrange {o : ByteOrder} {e : Endpoint} {bs : Bytes}
    (h : o.admits bs.length = true) : o.arrange e (o.arrange e bs) = bs := by
  cases e with
  | service => rfl
  | firmware => exact swap_swap h

end ByteOrder
end Wire
end Appraisal
