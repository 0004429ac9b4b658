import Appraisal.Cbor.Head
import Appraisal.Text.Utf8

/-!
# Appraisal.Cbor.Value

CBOR values. Arrays, maps and tags may nest to a limited depth, and strings of open length are made
of pieces, which may have open lengths themselves.

* `Value.read?`: the value in front of some bytes, and what follows it.
* `decode?`: the value that bytes write, with nothing behind it.
* `encodeBytes`, `encodeText`, `encodeArray`: the shortest writing of a value.
-/

namespace Appraisal
namespace Cbor

/-- A value. The numbers of floats are not kept; undefined is null. -/
inductive Value where
  | integer (value : Int)
  | bytes (value : Bytes)
  | text (value : String)
  | array (items : List Value)
  | map (entries : List (Value × Value))
  | tag (number : Nat) (value : Value)
  | bool (value : Bool)
  | null
  | float

def maxDepth : Nat := 256

def take? (n : Nat) (bs : Bytes) : Option (Bytes × Bytes) :=
  if n ≤ bs.length then some (bs.take n, bs.drop n) else none

/-- The pieces of a string of open length, inside `depth + 1` open lengths. `length?` is the length in
the head of a piece. -/
def pieces? (length? : Head → Option (Option Nat)) :
    Nat → Nat → Bytes → Option (List Bytes × Bytes)
  | 0, _, _ => none
  | fuel + 1, depth, bs =>
    match Head.read? bs with
    | none => none
    | some (.stop, r) =>
      match depth with
      | 0 => some ([], r)
      | depth + 1 => pieces? length? fuel depth r
    | some (h, r) =>
      match length? h with
      | none => none
      | some none => pieces? length? fuel (depth + 1) r
      | some (some n) =>
        match take? n r with
        | none => none
        | some (piece, r) =>
          match pieces? length? fuel depth r with
          | none => none
          | some (rest, r) => some (piece :: rest, r)

def string? (length? : Head → Option (Option Nat)) (length : Option Nat) (bs : Bytes) :
    Option (List Bytes × Bytes) :=
  match length with
  | none => pieces? length? (bs.length + 1) 0 bs
  | some n => (take? n bs).map fun (piece, r) => ([piece], r)

def bytesLength? : Head → Option (Option Nat)
  | .bytes n => some n
  | _ => none

def textLength? : Head → Option (Option Nat)
  | .text n => some n
  | _ => none

/-- What `read` reads in turn: so many times, or until a stop. -/
def items? (read : Bytes → Option (α × Bytes)) :
    Nat → Option Nat → Bytes → Option (List α × Bytes)
  | 0, _, _ => none
  | _ + 1, some 0, bs => some ([], bs)
  | fuel + 1, some (n + 1), bs =>
    match read bs with
    | none => none
    | some (v, r) =>
      match items? read fuel (some n) r with
      | none => none
      | some (vs, r) => some (v :: vs, r)
  | _ + 1, none, 0xFF :: r => some ([], r)
  | fuel + 1, none, bs =>
    match read bs with
    | none => none
    | some (v, r) =>
      match items? read fuel none r with
      | none => none
      | some (vs, r) => some (v :: vs, r)

def pair? (read : Bytes → Option (α × Bytes)) (bs : Bytes) : Option ((α × α) × Bytes) :=
  match read bs with
  | none => none
  | some (k, r) =>
    match read r with
    | none => none
    | some (v, r) => some ((k, v), r)

namespace Value

/-- The value behind a head. What it holds is read by `inner`, if it may hold values at all. -/
def ofHead? (inner : Option (Bytes → Option (Value × Bytes))) (r : Bytes) :
    Head → Option (Value × Bytes)
  | .unsigned n => some (integer n, r)
  | .negative n => some (integer (-1 - n), r)
  | .bytes n => (string? bytesLength? n r).map fun (ps, r) => (bytes ps.flatten, r)
  | .text n =>
    match string? textLength? n r with
    | none => none
    | some (ps, r) => (ps.mapM Utf8.decode?).map fun ss => (text (String.join ss), r)
  | .array n => do
    let read ← inner
    let (vs, r) ← items? read (r.length + 1) n r
    pure (array vs, r)
  | .map n => do
    let read ← inner
    let (es, r) ← items? (pair? read) (r.length + 1) n r
    pure (map es, r)
  | .tag n => do
    let read ← inner
    let (v, r) ← read r
    pure (tag n v, r)
  | .simple 20 => some (bool false, r)
  | .simple 21 => some (bool true, r)
  | .simple 22 => some (null, r)
  | .simple 23 => some (null, r)
  | .simple _ => none
  | .float => some (float, r)
  | .stop => none

/-- The value in front of some bytes, nested at most `depth` deep, and what follows it. -/
def read? : Nat → Bytes → Option (Value × Bytes)
  | 0, bs =>
    match Head.read? bs with
    | none => none
    | some (h, r) => ofHead? none r h
  | depth + 1, bs =>
    match Head.read? bs with
    | none => none
    | some (h, r) => ofHead? (some (read? depth)) r h

end Value

def decode? (bs : Bytes) : Option Value :=
  match Value.read? maxDepth bs with
  | some (v, []) => some v
  | _ => none

def encodeBytes (bs : Bytes) : Bytes := Head.encode 2 bs.length ++ bs

def encodeText (s : String) : Bytes := Head.encode 3 (Utf8.encode s).length ++ Utf8.encode s

def encodeArray (items : List Bytes) : Bytes := Head.encode 4 items.length ++ items.flatten

end Cbor
end Appraisal
