import Appraisal.Wire.Reader

/-!
# Appraisal.Wire.Format

How a message type is written. A message is a list of pieces, each with the byte order in which the
firmware writes it, and a list of limits on the sizes of its fields. The whole message, its signed
span and its MACed span are each such a list, so that what is signed is by construction what is
sent.

* `Span.write`: the bytes of a span, if every limit holds; else the first limit that does not.
* `Format.parse`, `Format.build`, `Format.signable`, `Format.macable`: a message from its bytes, its
  bytes, and the bytes under its signature and its MAC, these two as the firmware writes them.
-/

namespace Appraisal
namespace Wire

inductive Piece where
  /-- A part with a byte order of its own. -/
  | part (p : Part) (bytes : Bytes)
  /-- A reserved span, a single byte or an embedded record, the same in both layouts. -/
  | plain (bytes : Bytes)
deriving DecidableEq, Repr

namespace Piece

def order : Piece → ByteOrder
  | part p _ => p.order
  | plain _ => .kept

def bytes : Piece → Bytes
  | part _ bs => bs
  | plain bs => bs

def render (e : Endpoint) (p : Piece) : Bytes := p.order.arrange e p.bytes

def word (p : Part) (w : UInt32) : Piece := part p (Bytes.ofNatBE 4 w.toNat)

def half (p : Part) (n : Nat) : Piece := part p (Bytes.ofNatBE 2 n)

def byte (b : UInt8) : Piece := plain [b]

end Piece

def render (e : Endpoint) (ps : List Piece) : Bytes := ps.flatMap (Piece.render e)

inductive Limit where
  | exactly (field : String) (expected : Nat) (bytes : Bytes)
  | atMost (field : String) (greatest : Nat) (bytes : Bytes)

namespace Limit

def holds : Limit → Bool
  | exactly _ expected bs => bs.length == expected
  | atMost _ greatest bs => bs.length ≤ greatest

def error : Limit → Error
  | exactly field expected bs => .invalidFieldLength field expected bs.length
  | atMost field greatest bs => .invalidFieldLength field greatest bs.length

def check : List Limit → Except Error Unit
  | [] => .ok ()
  | l :: ls => if l.holds then check ls else .error l.error

end Limit

/-- A span of a message type: the limits on its fields, in the order of checking, and its pieces. -/
structure Span (α : Type) where
  limits : α → List Limit
  pieces : α → List Piece

namespace Span

def empty : Span α := ⟨fun _ => [], fun _ => []⟩

def append (s t : Span α) : Span α :=
  ⟨fun m => s.limits m ++ t.limits m, fun m => s.pieces m ++ t.pieces m⟩

def within (s : Span β) (get : α → β) : Span α :=
  ⟨fun m => s.limits (get m), fun m => s.pieces (get m)⟩

def write (s : Span α) (e : Endpoint) (m : α) : Except Error Bytes :=
  match Limit.check (s.limits m) with
  | .ok () => .ok (render e (s.pieces m))
  | .error err => .error err

end Span

structure Format (α : Type) where
  read : Endpoint → Reader α
  whole : Span α
  signed : Span α := Span.empty
  covered : Span α := Span.empty

namespace Format

def parse (f : Format α) (e : Endpoint) (bs : Bytes) : Except Error α := (f.read e).value bs

def build (f : Format α) (e : Endpoint) (m : α) : Except Error Bytes := f.whole.write e m

/-- The bytes that the signature covers, as the firmware writes them. -/
def signable (f : Format α) (m : α) : Except Error Bytes := f.signed.write .firmware m

/-- The bytes that the MAC covers, as the firmware writes them. -/
def macable (f : Format α) (m : α) : Except Error Bytes := f.covered.write .firmware m

end Format
end Wire
end Appraisal
