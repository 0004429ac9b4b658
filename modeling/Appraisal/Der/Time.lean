import Appraisal.Bytes

/-!
# Appraisal.Der.Time

The two forms of a point in time in a certificate. Only their form is checked here.

* `isUtcTime`: year in two digits, seconds optional, a time zone required.
* `isGeneralizedTime`: year in four digits, minutes, seconds, up to three places of a second and the
  time zone optional.
-/

namespace Appraisal
namespace Der

def decimalDigit? (b : UInt8) : Option Nat :=
  if 0x30 ≤ b ∧ b ≤ 0x39 then some (b.toNat - 0x30) else none

def twoDigits? : Bytes → Option (Nat × Bytes)
  | a :: b :: r =>
    match decimalDigit? a, decimalDigit? b with
    | some x, some y => some (10 * x + y, r)
    | _, _ => none
  | _ => none

/-- Two digits if anything but a lone byte follows, else zero. -/
def optionalTwoDigits? (bs : Bytes) : Option (Nat × Bytes) :=
  if bs.length < 2 then some (0, bs) else twoDigits? bs

def daysInMonth (year month : Nat) : Nat :=
  if month = 2 then
    if year % 4 = 0 ∧ (year % 100 ≠ 0 ∨ year % 400 = 0) then 29 else 28
  else if month = 4 ∨ month = 6 ∨ month = 9 ∨ month = 11 then 30
  else 31

def isPointInTime (year month day hour minute second : Nat) : Bool :=
  1 ≤ month && month ≤ 12 && 1 ≤ day && day ≤ daysInMonth year month && hour ≤ 23 &&
    minute ≤ 59 && second ≤ 59

/-- Whether a time zone is written: `Z`, or a sign and an offset in hours and minutes. -/
def isTimeZone : Bytes → Bool
  | [b] => b == 0x5A
  | [s, a, b, c, d] =>
    (s == 0x2B || s == 0x2D) &&
      match twoDigits? [a, b], twoDigits? [c, d] with
      | some (hours, _), some (minutes, _) => hours ≤ 25 && minutes ≤ 59
      | _, _ => false
  | _ => false

def isUtcTime (bs : Bytes) : Bool :=
  let parts := do
    let (year, r) ← twoDigits? bs
    let (month, r) ← twoDigits? r
    let (day, r) ← twoDigits? r
    let (hour, r) ← twoDigits? r
    let (minute, r) ← twoDigits? r
    let (second, r) ← optionalTwoDigits? r
    let century := if 50 ≤ year then 1900 else 2000
    pure (isPointInTime (century + year) month day hour minute second && isTimeZone r)
  parts.getD false

/-- What follows up to three places of a second, if any place is written. -/
def skipPlaces? : Bytes → Option Bytes
  | b :: r =>
    if b = 0x2E ∨ b = 0x2C then
      let places := r.takeWhile fun d => (decimalDigit? d).isSome
      if 1 ≤ places.length ∧ places.length ≤ 3 then some (r.drop places.length) else none
    else some (b :: r)
  | [] => some []

/-- Whether `bs` is a point in time with a four-digit year. -/
def isGeneralizedTime (bs : Bytes) : Bool :=
  let parts := do
    let (century, r) ← twoDigits? bs
    let (year, r) ← twoDigits? r
    let (month, r) ← twoDigits? r
    let (day, r) ← twoDigits? r
    let (hour, r) ← twoDigits? r
    let (minute, r) ← optionalTwoDigits? r
    let (second, r) ← optionalTwoDigits? r
    let r ← skipPlaces? r
    pure (isPointInTime (100 * century + year) month day hour minute second &&
      (r.isEmpty || isTimeZone r))
  parts.getD false

end Der
end Appraisal
