/-!
# Appraisal.Text.Split

Lists cut into parts at separators.

* `splitWhere`: the parts between the separators, of which there is one more than separators.
* `cutAt`: what stands before and behind the first separator.
-/

namespace Appraisal

/-- The parts of a list between the elements that satisfy `p`. -/
def splitWhere (p : α → Bool) : List α → List (List α)
  | [] => [[]]
  | x :: xs =>
    if p x then [] :: splitWhere p xs
    else match splitWhere p xs with
      | [] => [[x]]
      | part :: parts => (x :: part) :: parts

/-- What stands before the first `x` of a list, and what stands behind it if there is one. -/
def cutAt [BEq α] (x : α) (xs : List α) : List α × Option (List α) :=
  match xs.dropWhile (· != x) with
  | [] => (xs, none)
  | _ :: r => (xs.takeWhile (· != x), some r)

end Appraisal
