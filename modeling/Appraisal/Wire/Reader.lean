import Appraisal.Wire.Error

/-!
# Appraisal.Wire.Reader

Readers of byte strings. A reader takes what it needs from the front and leaves the rest; it never
truncates or pads.

* `take n`, `exactly n`, `rest`: bytes.
* `byte`, `word`, `half`: unsigned integers.
* `field`, `fieldWord`, `fieldHalf`: the same for a part of a message, in an endpoint's layout.
* `take_append`: `take` gives back what was written in front.
* `bind_eq_ok`, `take_eq_ok`, `byte_eq_ok`: what a successful read says about the bytes.
-/

namespace Appraisal
namespace Wire

/-- A reader takes a value from the front of the bytes that are left. -/
abbrev Reader := StateT Bytes (Except Error)

namespace Reader

def take (n : Nat) : Reader Bytes := fun bs =>
  if n ≤ bs.length then .ok (bs.take n, bs.drop n)
  else .error (.bufferUnderflow bs.length n)

/-- The last field of a message: the next `n` bytes, which must be all that is left. -/
def exactly (n : Nat) : Reader Bytes := fun bs =>
  if bs.length = n then .ok (bs, [])
  else .error (.remainingLengthMismatch bs.length n)

def rest : Reader Bytes := fun bs => .ok (bs, [])

def remaining : Reader Nat := fun bs => .ok (bs.length, bs)

def byte : Reader UInt8
  | [] => .error (.bufferUnderflow 0 1)
  | b :: bs => .ok (b, bs)

def field (e : Endpoint) (p : Part) (n : Nat) : Reader Bytes := do
  let bs ← take n
  pure (p.order.arrange e bs)

def fieldWord (e : Endpoint) (p : Part) : Reader UInt32 := do
  let bs ← field e p 4
  pure (UInt32.ofNat (Bytes.toNatBE bs))

def fieldHalf (e : Endpoint) (p : Part) : Reader UInt16 := do
  let bs ← field e p 2
  pure (UInt16.ofNat (Bytes.toNatBE bs))

def value (r : Reader α) (bs : Bytes) : Except Error α :=
  match r bs with
  | .ok (x, _) => .ok x
  | .error err => .error err

theorem bind_eq_ok {r : Reader α} {f : α → Reader β} {bs rest : Bytes} {y : β} :
    (r >>= f) bs = .ok (y, rest) ↔ ∃ x mid, r bs = .ok (x, mid) ∧ f x mid = .ok (y, rest) := by
  simp only [bind, StateT.bind, Except.bind]
  cases h : r bs with
  | error e => simp
  | ok p =>
    constructor
    · intro h'
      exact ⟨p.1, p.2, rfl, h'⟩
    · rintro ⟨x, mid, hp, h'⟩
      cases hp
      exact h'

theorem pure_eq_ok {x y : α} {bs rest : Bytes} :
    (pure x : Reader α) bs = .ok (y, rest) ↔ x = y ∧ bs = rest := by
  constructor
  · intro h
    cases h
    exact ⟨rfl, rfl⟩
  · rintro ⟨rfl, rfl⟩
    rfl

theorem take_append {bs : Bytes} {n : Nat} (h : bs.length = n) (rest : Bytes) :
    take n (bs ++ rest) = .ok (bs, rest) := by
  subst h
  simp [take]

theorem take_eq_ok {n : Nat} {bs x y : Bytes} (h : take n bs = .ok (x, y)) :
    bs = x ++ y ∧ x.length = n := by
  unfold take at h
  split at h
  · cases h
    exact ⟨(List.take_append_drop n bs).symm, by simp; omega⟩
  · cases h

theorem byte_eq_ok {bs rest : Bytes} {b : UInt8} (h : byte bs = .ok (b, rest)) :
    bs = b :: rest := by
  cases bs with
  | nil => cases h
  | cons c cs => cases h; rfl

end Reader
end Wire
end Appraisal
