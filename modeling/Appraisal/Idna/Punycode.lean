/-!
# Appraisal.Idna.Punycode

Labels outside ASCII as letters, digits and hyphens: the ASCII characters first, then behind a hyphen
the others, each by its distance in code point and place from the one before. Distances are written to
the base 36 with the least digits first, and thresholds that follow the distances seen say which digit
is the last.

* `encode`: the text of a label.
* `decode?`: the label of a text.
-/

namespace Appraisal
namespace Punycode

def digit (n : Nat) : Char := if n < 26 then Char.ofNat (0x61 + n) else Char.ofNat (0x30 + (n - 26))

def digit? (c : Char) : Option Nat :=
  if c.isDigit then some (c.toNat - 0x30 + 26)
  else if c.isAlpha then some (c.toLower.toNat - 0x61)
  else none

/-- The threshold of the digit at position `k`: a smaller digit is the last. -/
def threshold (bias k : Nat) : Nat :=
  if k ≤ bias then 1 else if bias + 26 ≤ k then 26 else k - bias

/-- The bias that a distance leaves, once it is scaled down. -/
def settle : Nat → Nat → Nat → Nat
  | 0, delta, k => k + 36 * delta / (delta + 38)
  | fuel + 1, delta, k =>
    if 455 < delta then settle fuel (delta / 35) (k + 36) else k + 36 * delta / (delta + 38)

/-- The bias behind a distance; `count` characters are known then, and the first distance counts
less. -/
def adapt (delta count : Nat) (isFirst : Bool) : Nat :=
  let delta := if isFirst then delta / 700 else delta / 2
  settle delta (delta + delta / count) 0

def initialBias : Nat := 72

def initialCode : Nat := 0x80

/-! ### Writing -/

def digits (bias : Nat) : Nat → Nat → Nat → List Char
  | 0, _, q => [digit q]
  | fuel + 1, k, q =>
    let t := threshold bias k
    if q < t then [digit q]
    else digit (t + (q - t) % (36 - t)) :: digits bias fuel (k + 36) ((q - t) / (36 - t))

/-- How far a label is written: the distance so far, the bias, and how many characters are done. -/
structure State where
  delta : Nat
  bias : Nat
  done : Nat
  isFirst : Bool
deriving DecidableEq, Repr

/-- Passes over the characters of a label for the code point `n`, and writes those that have it. -/
def pass (n : Nat) (s : State) : List Char → State × List Char
  | [] => (s, [])
  | c :: cs =>
    if c.toNat < n then pass n { s with delta := s.delta + 1 } cs
    else if c.toNat = n then
      let here := digits s.bias s.delta 36 s.delta
      let next : State := ⟨0, adapt s.delta (s.done + 1) s.isFirst, s.done + 1, false⟩
      let (s, rest) := pass n next cs
      (s, here ++ rest)
    else pass n s cs

/-- Writes the characters with the given code points; `n` is the least one not yet passed. -/
def passes (label : List Char) : Nat → State → List Nat → List Char
  | _, _, [] => []
  | n, s, m :: ms =>
    let (s, here) := pass m { s with delta := s.delta + (m - n) * (s.done + 1) } label
    here ++ passes label (m + 1) { s with delta := s.delta + 1 } ms

def encode (label : List Char) : List Char :=
  let basic := label.filter fun c => c.toNat < initialCode
  let others := (label.map Char.toNat).filter fun n => initialCode ≤ n
  let codes := (others.mergeSort (fun a b => decide (a ≤ b))).eraseDups
  let start : State := ⟨0, initialBias, basic.length, true⟩
  (if basic.isEmpty then [] else basic ++ ['-']) ++ passes label initialCode start codes

/-! ### Reading -/

def weightLimit : Nat := 0x100000000

/-- A distance and what follows its digits: `k` is the position of the next digit and `weight` its
weight. -/
def distance? (bias k weight value : Nat) : List Char → Option (Nat × List Char)
  | [] => none
  | c :: cs =>
    match digit? c with
    | none => none
    | some d =>
      let t := threshold bias k
      let value := value + d * weight
      let next := weight * (36 - t)
      if d < t then some (value, cs)
      else if next < weightLimit then distance? bias (k + 36) next value cs
      else none

/-- Puts the characters that digits write into a label: `place` is where the latest one stands, and `n`
its code point. -/
def insertAll : Nat → (n place bias : Nat) → Bool → List Char → List Char → Option (List Char)
  | _, _, _, _, _, label, [] => some label
  | 0, _, _, _, _, _, _ => none
  | fuel + 1, n, place, bias, isFirst, label, c :: cs =>
    match distance? bias 36 1 0 (c :: cs) with
    | none => none
    | some (delta, rest) =>
      let size := label.length + 1
      let n := n + (place + delta) / size
      let place := (place + delta) % size
      if h : n.isValidChar then
        let label := label.take place ++ [Char.ofNatAux n h] ++ label.drop place
        insertAll fuel n (place + 1) (adapt delta size isFirst) false label rest
      else none

def decode? (text : List Char) : Option (List Char) :=
  let tail := (text.reverse.takeWhile (· != '-')).reverse
  let basic := text.take (text.length - tail.length - 1)
  if basic.isEmpty then insertAll text.length initialCode 0 initialBias true [] text
  else insertAll tail.length initialCode 0 initialBias true basic tail

end Punycode
end Appraisal
