import Appraisal.Wire.Reader

/-!
# Appraisal.Wire.Cursor

A position in a fixed buffer. Every operation either does all it was asked or fails and leaves the
position where it was.

* `run`: a reader applied to the bytes after the position.
* `seek`, `skip`: moves, checked against the buffer.
* `findFirst`: the distance to a 32-bit sentinel at unknown alignment. Distances that are multiples
  of four come first, then those shifted by one, two and three bytes.
-/

namespace Appraisal
namespace Wire

structure Cursor where
  buffer : Bytes
  position : Nat
  position_le : position ≤ buffer.length := by omega

namespace Cursor

def ofBytes (bs : Bytes) : Cursor := ⟨bs, 0, Nat.zero_le _⟩

def rest (c : Cursor) : Bytes := c.buffer.drop c.position

def remaining (c : Cursor) : Nat := c.buffer.length - c.position

def hasRemaining (c : Cursor) : Bool := 0 < c.remaining

/-- Reads from the position on, and moves behind what was read. -/
def run (c : Cursor) (r : Reader α) : Except Error (α × Cursor) :=
  match r c.rest with
  | .ok (x, left) => .ok (x, ⟨c.buffer, c.buffer.length - left.length, Nat.sub_le _ _⟩)
  | .error err => .error err

def read (c : Cursor) (n : Nat) : Except Error (Bytes × Cursor) := c.run (Reader.take n)

def readByte (c : Cursor) : Except Error (Nat × Cursor) := c.run (Bytes.toNatBE <$> Reader.take 1)

/-- The next `n` bytes as an integer, most significant byte first. -/
def readBE (c : Cursor) (n : Nat) : Except Error (Nat × Cursor) :=
  c.run (Bytes.toNatBE <$> Reader.take n)

/-- The next `n` bytes as an integer, least significant byte first. -/
def readLE (c : Cursor) (n : Nat) : Except Error (Nat × Cursor) :=
  c.run (Bytes.toNatLE <$> Reader.take n)

/-- The last `n` bytes of the buffer, which must be all that is left. -/
def readExactRemaining (c : Cursor) (n : Nat) : Except Error (Bytes × Cursor) :=
  c.run (Reader.exactly n)

def readRest (c : Cursor) : Except Error (Bytes × Cursor) := c.run Reader.rest

def skip (c : Cursor) (n : Nat) : Except Error Cursor :=
  match c.read n with
  | .ok (_, c') => .ok c'
  | .error err => .error err

def seek (c : Cursor) (position : Nat) : Except Error Cursor :=
  if h : position ≤ c.buffer.length then .ok ⟨c.buffer, position, h⟩
  else .error (.invalidPosition c.buffer.length position)

/-- The first distance at or after `offset`, in steps of the needle's length, at which `needle`
stands in `hay`; `hay` is what follows `offset`. -/
def scan (needle : Bytes) (offset : Nat) (hay : Bytes) : Option Nat :=
  if hay.length < needle.length ∨ needle = [] then none
  else if hay.take needle.length = needle then some offset
  else scan needle (offset + needle.length) (hay.drop needle.length)
termination_by hay.length
decreasing_by
  rename_i h _
  have : needle.length ≠ 0 := fun h0 => h (Or.inr (List.length_eq_zero_iff.1 h0))
  simp
  omega

/-- The distance from the position to the sentinel `value`. -/
def findFirst (c : Cursor) (value : UInt32) : Except Error Nat :=
  let needle := Bytes.ofNatBE 4 value.toNat
  match (List.range 4).findSome? fun shift => scan needle shift (c.rest.drop shift) with
  | some offset => .ok offset
  | none => .error (.valueNotFound value)

end Cursor
end Wire
end Appraisal
