import Appraisal.Bytes

/-!
# Appraisal.Text.Hex

Hexadecimal text. Digits are read in either case; bytes are written with two digits each, in the
case that the caller asks for.

* `digit?`, `lowerDigit`, `upperDigit`: one digit, read and written.
* `lower`, `upper`: the text of a byte string.
* `decode?`: the byte string of a text with an even number of digits.
-/

namespace Appraisal
namespace Hex

def digit? (c : Char) : Option Nat :=
  if '0' ≤ c ∧ c ≤ '9' then some (c.toNat - '0'.toNat)
  else if 'a' ≤ c ∧ c ≤ 'f' then some (c.toNat - 'a'.toNat + 10)
  else if 'A' ≤ c ∧ c ≤ 'F' then some (c.toNat - 'A'.toNat + 10)
  else none

def isDigit (c : Char) : Bool := (digit? c).isSome

def lowerDigit (n : Nat) : Char :=
  if n < 10 then Char.ofNat ('0'.toNat + n) else Char.ofNat ('a'.toNat + (n - 10))

def upperDigit (n : Nat) : Char :=
  if n < 10 then Char.ofNat ('0'.toNat + n) else Char.ofNat ('A'.toNat + (n - 10))

/-- The digits of `bs`, two for each byte, each written by `digit`. -/
def digits (digit : Nat → Char) (bs : Bytes) : List Char :=
  bs.flatMap fun b => [digit (b.toNat / 16), digit (b.toNat % 16)]

def lower (bs : Bytes) : String := String.ofList (digits lowerDigit bs)

def upper (bs : Bytes) : String := String.ofList (digits upperDigit bs)

def ofNat (n : Nat) : String := String.ofList (Nat.toDigits 16 n)

def word (w : UInt32) : String := "0x" ++ lower (Bytes.ofNatBE 4 w.toNat)

/-- The bytes that a list of digits writes, two digits each. -/
def decodeDigits? : List Char → Option Bytes
  | [] => some []
  | [_] => none
  | h :: l :: r => do
    let hi ← digit? h
    let lo ← digit? l
    let bs ← decodeDigits? r
    pure (UInt8.ofNat (16 * hi + lo) :: bs)

/-- The bytes that a text writes; none unless it holds an even number of digits and nothing else. -/
def decode? (s : String) : Option Bytes := decodeDigits? s.toList

@[simp] theorem length_digits (digit : Nat → Char) (bs : Bytes) :
    (digits digit bs).length = 2 * bs.length := by
  induction bs with
  | nil => rfl
  | cons b bs ih =>
    simp only [digits, List.flatMap_cons, List.length_append, List.length_cons,
      List.length_nil] at ih ⊢
    omega

theorem digit?_lowerDigit {n : Nat} (h : n < 16) : digit? (lowerDigit n) = some n := by
  have : ∀ n : Fin 16, digit? (lowerDigit n.val) = some n.val := by decide
  exact this ⟨n, h⟩

theorem digit?_upperDigit {n : Nat} (h : n < 16) : digit? (upperDigit n) = some n := by
  have : ∀ n : Fin 16, digit? (upperDigit n.val) = some n.val := by decide
  exact this ⟨n, h⟩

/-- What is written in either case is read back. -/
theorem decodeDigits?_digits {digit : Nat → Char}
    (h : ∀ n, n < 16 → digit? (digit n) = some n) (bs : Bytes) :
    decodeDigits? (digits digit bs) = some bs := by
  induction bs with
  | nil => rfl
  | cons b bs ih =>
    have hb := b.toNat_lt
    have hval : UInt8.ofNat (16 * (b.toNat / 16) + b.toNat % 16) = b := by
      rw [Nat.div_add_mod, UInt8.ofNat_toNat]
    have hstep : digits digit (b :: bs) =
        digit (b.toNat / 16) :: digit (b.toNat % 16) :: digits digit bs := by
      simp [digits]
    rw [hstep, decodeDigits?, h _ (by omega), h _ (by omega), ih]
    exact congrArg (fun x => some (x :: bs)) hval

end Hex
end Appraisal
