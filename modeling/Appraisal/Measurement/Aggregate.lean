import Appraisal.Measurement.Key

/-!
# Appraisal.Measurement.Aggregate

The measurements received from one device, one value for each key, in the order of the keys. All
sources of one verification feed the same aggregate, and may repeat each other.

* `Aggregate.add`: adds records up to the first that contradicts an earlier one.
* `Conflict`: a key with two different values.
-/

namespace Appraisal
namespace Measurement

structure Aggregate where
  entries : List (Key × Value)
deriving DecidableEq, Repr

structure Conflict where
  key : Key
  existing : Value
  new : Value
deriving DecidableEq, Repr

namespace Aggregate

def empty : Aggregate := ⟨[]⟩

def get? (a : Aggregate) (k : Key) : Option Value :=
  (a.entries.find? fun e => e.1 == k).map Prod.snd

def insertEntry (k : Key) (v : Value) : List (Key × Value) → List (Key × Value)
  | [] => [(k, v)]
  | e :: es => if k.compare e.1 = .lt then (k, v) :: e :: es else e :: insertEntry k v es

def insert (a : Aggregate) (k : Key) (v : Value) : Aggregate := ⟨insertEntry k v a.entries⟩

/-- Adds records in order. A record that says nothing and one already present change nothing; the
first that contradicts an earlier one ends the addition, and those before it stay. -/
def add (a : Aggregate) : List Record → Aggregate × Option Conflict
  | [] => (a, none)
  | r :: rs =>
    if r.isEmpty then a.add rs
    else match a.get? r.key with
      | none => (a.insert r.key r.value).add rs
      | some v => if v = r.value then a.add rs else (a, some ⟨r.key, v, r.value⟩)

def size (a : Aggregate) : Nat := a.entries.length

def isEmpty (a : Aggregate) : Bool := a.entries.isEmpty

def render (a : Aggregate) : String :=
  "\x7b\n" ++ String.join (a.entries.map fun e =>
    "\t" ++ e.1.render ++ " = " ++ e.2.debug ++ "\n") ++ "\x7d"

end Aggregate
end Measurement
end Appraisal
