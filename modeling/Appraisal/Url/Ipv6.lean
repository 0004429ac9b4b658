import Appraisal.Text.Hex
import Appraisal.Text.Split

/-!
# Appraisal.Url.Ipv6

Addresses of eight 16-bit pieces as hosts. Two colons stand once for pieces that are zero, at least
one of them, and the last two pieces may be written as four decimal bytes.

* `parse?`: the pieces of an address.
* `render`: the address with its first longest run of two or more zeros left out.
-/

namespace Appraisal
namespace Ipv6

def piece? (cs : List Char) : Option Nat :=
  if cs.isEmpty || 4 < cs.length then none
  else cs.foldl (fun n c => match n, Hex.digit? c with
    | some n, some d => some (16 * n + d)
    | _, _ => none) (some 0)

def byte? (cs : List Char) : Option Nat :=
  let value := cs.foldl (fun n c => 10 * n + (c.toNat - '0'.toNat)) 0
  if cs.isEmpty || 3 < cs.length || !cs.all Char.isDigit then none
  else if 1 < cs.length && cs.head? == some '0' then none
  else if value < 256 then some value
  else none

def dotted? (cs : List Char) : Option (List Nat) :=
  match (splitWhere (· == '.') cs).mapM byte? with
  | some [a, b, c, d] => some [256 * a + b, 256 * c + d]
  | _ => none

/-- The pieces between colons; only the last may be four decimal bytes, and only where `mayEnd`. -/
def pieces? (mayEnd : Bool) : List (List Char) → Option (List Nat)
  | [] => some []
  | [p] =>
    if mayEnd && p.contains '.' then dotted? p else (piece? p).map fun n => [n]
  | p :: ps =>
    match piece? p, pieces? mayEnd ps with
    | some n, some ns => some (n :: ns)
    | _, _ => none

/-- The pieces of a text between colons, none of an empty text. -/
def side? (mayEnd : Bool) (cs : List Char) : Option (List Nat) :=
  if cs.isEmpty then some [] else pieces? mayEnd (splitWhere (· == ':') cs)

def cutColons : List Char → List Char × Option (List Char)
  | ':' :: ':' :: r => ([], some r)
  | c :: r =>
    match cutColons r with
    | (before, behind) => (c :: before, behind)
  | [] => ([], none)

def parse? (cs : List Char) : Option (List UInt16) :=
  match cutColons cs with
  | (whole, none) =>
    match side? true whole with
    | some ns => if ns.length = 8 then some (ns.map UInt16.ofNat) else none
    | none => none
  | (before, some behind) =>
    match side? false before, side? true behind with
    | some ns, some ms =>
      if ns.length + ms.length < 8 then
        some ((ns ++ List.replicate (8 - ns.length - ms.length) 0 ++ ms).map UInt16.ofNat)
      else none
    | _, _ => none

def zeros (ps : List UInt16) : Nat := (ps.takeWhile (· == 0)).length

/-- The first longest run of zeros at or behind position `start`: where it begins, and its length. -/
def longestRun (start : Nat) : List UInt16 → Nat × Nat
  | [] => (start, 0)
  | p :: ps =>
    let later := longestRun (start + 1) ps
    if later.2 ≤ zeros (p :: ps) then (start, zeros (p :: ps)) else later

def renderPieces (ps : List UInt16) : String :=
  ":".intercalate (ps.map fun p => Hex.ofNat p.toNat)

def render (ps : List UInt16) : String :=
  let (start, length) := longestRun 0 ps
  if length < 2 then renderPieces ps
  else renderPieces (ps.take start) ++ "::" ++ renderPieces (ps.drop (start + length))

end Ipv6
end Appraisal
