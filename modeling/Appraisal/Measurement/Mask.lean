import Appraisal.Text.Ascii
import Appraisal.Text.Quoted

/-!
# Appraisal.Measurement.Mask

Hexadecimal text under a mask. A value is aligned to the length of the mask, further digits dropped
and missing ones taken as zero, and ANDed with it digit by digit.

* `applyMask`: the masked value, as long as the mask, in upper case.
* `MaskError`: the first compared character that is no digit; of two at one position, the value's.
-/

namespace Appraisal
namespace Measurement

/-- A compared character that is no hexadecimal digit, and its position. -/
structure MaskError where
  char : Char
  index : Nat
deriving DecidableEq, Repr

def MaskError.message (e : MaskError) : String :=
  s!"Invalid character {Quoted.quoteChar e.char} at position {e.index}"

/-- Masks the digits of a value from the position `index` on. -/
def maskDigits (index : Nat) : List Char → List Char → Except MaskError (List Char)
  | _, [] => .ok []
  | value, m :: mask =>
    let v := value.headD '0'
    match Hex.digit? v, Hex.digit? m with
    | none, _ => .error ⟨v, index⟩
    | some _, none => .error ⟨m, index⟩
    | some a, some b =>
      match maskDigits (index + 1) value.tail mask with
      | .ok ds => .ok (Hex.upperDigit (a &&& b) :: ds)
      | .error e => .error e

def applyMask (value mask : String) : Except MaskError String :=
  match maskDigits 0 value.toList mask.toList with
  | .ok ds => .ok (String.ofList ds)
  | .error e => .error e

end Measurement
end Appraisal
