import Appraisal.Idna.ContextTable
import Appraisal.Text.Composition

/-!
# Appraisal.Idna.Label

What a label outside ASCII must keep to: it begins with no mark, characters that join others stand
where there is something to join, and the directions of a name's characters leave no doubt about their
order.

* `isLabel`: whether the characters of a label may stand beside each other.
* `keepsDirection`: whether a label keeps to one direction.
-/

namespace Appraisal
namespace Idna

def marks : CodeTable := CodeTable.ofRows markRows

def joinings : CodeTable := CodeTable.ofRows joiningRows

def directions : CodeTable := CodeTable.ofRows directionRows

def isMark (c : Char) : Bool := (marks.lookup? c).isSome

/-- How a character joins its neighbours; `U` if it does not. -/
def joining (c : Char) : String :=
  match joinings.lookup? c with
  | some e => String.ofList e.note
  | none => "U"

/-- The direction of a character; `L` if it goes from left to right. -/
def direction (c : Char) : String :=
  match directions.lookup? c with
  | some e => String.ofList e.note
  | none => "L"

/-! ### Joiners -/

def suppressingClass : Nat := 9

/-- Whether the character before, the first of `before`, suppresses its vowel. -/
def followsSuppressed (before : List Char) : Bool :=
  before.head?.any fun c => Composition.combiningClass c == suppressingClass

/-- Whether the nearest character that is not transparent joins as one of `kinds`. -/
def joinsAs (kinds : List String) (cs : List Char) : Bool :=
  (cs.dropWhile fun c => joining c == "T").head?.any fun c => kinds.contains (joining c)

/-- Whether each joiner of a label has something to join; `before` are the characters before, last
first. -/
def joinersFit (before : List Char) : List Char → Bool
  | [] => true
  | c :: cs =>
    let fits :=
      if c = '\u200d' then followsSuppressed before
      else if c = '\u200c' then
        followsSuppressed before || (joinsAs ["L", "D"] before && joinsAs ["R", "D"] cs)
      else true
    fits && joinersFit (c :: before) cs

/-- Whether the characters of a label may stand beside each other. -/
def isLabel (label : List Char) : Bool := !label.head?.any isMark && joinersFit [] label

/-! ### Directions -/

/-- Whether a character is written from right to left, or is a number in such a script. -/
def isRightToLeft (c : Char) : Bool := ["R", "AL", "AN"].contains (direction c)

/-- Whether all characters have one of `allowed` directions, and the last that is not transparent one
of `final`. -/
def hasDirections (allowed final : List String) (label : List Char) : Bool :=
  label.all (fun c => allowed.contains (direction c)) &&
  (label.reverse.dropWhile fun c => direction c == "NSM").head?.any fun c =>
    final.contains (direction c)

/-- Whether a label of a name with characters from right to left keeps to one direction. -/
def keepsDirection (label : List Char) : Bool :=
  match label with
  | [] => true
  | c :: _ =>
    if direction c = "L" then
      hasDirections ["L", "EN", "ES", "CS", "ET", "ON", "BN", "NSM"] ["L", "EN"] label
    else if direction c = "R" ∨ direction c = "AL" then
      hasDirections ["R", "AL", "AN", "EN", "ES", "CS", "ET", "ON", "BN", "NSM"]
        ["R", "AL", "EN", "AN"] label &&
      !(label.any (direction · == "EN") && label.any (direction · == "AN"))
    else false

end Idna
end Appraisal
