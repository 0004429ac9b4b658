import Appraisal.Bytes

/-!
# Appraisal.Text.Base64

Base64 text: four digits for three bytes. The last group is filled up with `=`, and the bits of its
last digit that belong to no byte are zero, so each byte string has one text.

* `decode?`: the bytes of a text.
-/

namespace Appraisal
namespace Base64

def digit? (c : Char) : Option Nat :=
  if 'A' ≤ c ∧ c ≤ 'Z' then some (c.toNat - 'A'.toNat)
  else if 'a' ≤ c ∧ c ≤ 'z' then some (c.toNat - 'a'.toNat + 26)
  else if '0' ≤ c ∧ c ≤ '9' then some (c.toNat - '0'.toNat + 52)
  else if c = '+' then some 62
  else if c = '/' then some 63
  else none

def decodeDigits? : List Char → Option Bytes
  | [] => some []
  | [a, b, '=', '='] => do
    let n := (← digit? a) * 64 + (← digit? b)
    if n % 16 = 0 then some (Bytes.ofNatBE 1 (n / 16)) else none
  | [a, b, c, '='] => do
    let n := ((← digit? a) * 64 + (← digit? b)) * 64 + (← digit? c)
    if n % 4 = 0 then some (Bytes.ofNatBE 2 (n / 4)) else none
  | a :: b :: c :: d :: r => do
    let n := (((← digit? a) * 64 + (← digit? b)) * 64 + (← digit? c)) * 64 + (← digit? d)
    let rest ← decodeDigits? r
    pure (Bytes.ofNatBE 3 n ++ rest)
  | _ => none

def decode? (s : String) : Option Bytes := decodeDigits? s.toList

end Base64
end Appraisal
