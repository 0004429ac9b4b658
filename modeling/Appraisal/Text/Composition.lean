import Appraisal.Text.CodeTable
import Appraisal.Text.CompositionTable

/-!
# Appraisal.Text.Composition

One form for text that can be written with a character or with its parts: marks stand in the order of
their classes, and what can be made of parts is (normalization form C).

* `decompose`: a text with all characters taken apart, and marks in order.
* `compose`: the parts put together again.
* `normalize`: both.
-/

namespace Appraisal
namespace Composition

def decompositions : CodeTable := CodeTable.ofRows decompositionRows

def combiningClasses : CodeTable := CodeTable.ofRows combiningRows

/-- The class of a mark; zero for all other characters. -/
def combiningClass (c : Char) : Nat :=
  match combiningClasses.lookup? c with
  | some e => CodeTable.number e.note
  | none => 0

/-! ### Hangul -/

/-- A syllable is a leading consonant, a vowel and perhaps a trailing consonant. -/
def syllableBase : Nat := 0xAC00
def leadingBase : Nat := 0x1100
def vowelBase : Nat := 0x1161
def trailingBase : Nat := 0x11A7
def leadingCount : Nat := 19
def vowelCount : Nat := 21
def trailingCount : Nat := 28

def letters? (c : Char) : Option (List Char) :=
  let n := c.toNat - syllableBase
  if c.toNat < syllableBase ∨ leadingCount * vowelCount * trailingCount ≤ n then none
  else
    let leading := Char.ofNat (leadingBase + n / (vowelCount * trailingCount))
    let vowel := Char.ofNat (vowelBase + n / trailingCount % vowelCount)
    if n % trailingCount = 0 then some [leading, vowel]
    else some [leading, vowel, Char.ofNat (trailingBase + n % trailingCount)]

/-- The syllable of two letters, or of a syllable and a trailing consonant. -/
def syllable? (a b : Char) : Option Char :=
  let l := a.toNat - leadingBase
  let v := b.toNat - vowelBase
  let s := a.toNat - syllableBase
  let t := b.toNat - trailingBase
  if leadingBase ≤ a.toNat ∧ l < leadingCount ∧ vowelBase ≤ b.toNat ∧ v < vowelCount then
    some (Char.ofNat (syllableBase + (l * vowelCount + v) * trailingCount))
  else if syllableBase ≤ a.toNat ∧ s < leadingCount * vowelCount * trailingCount ∧
      s % trailingCount = 0 ∧ trailingBase < b.toNat ∧ t < trailingCount then
    some (Char.ofNat (a.toNat + t))
  else none

/-! ### Taking apart -/

def parts (note : List Char) : List Char := (CodeTable.numbers note.tail).map Char.ofNat

/-- A character taken apart, its parts too: `depth` bounds how often that goes on. -/
def decomposeChar : Nat → Char → List Char
  | 0, c => [c]
  | depth + 1, c =>
    match letters? c, decompositions.lookup? c with
    | some ls, _ => ls
    | none, some e => (parts e.note).flatMap (decomposeChar depth)
    | none, none => [c]

def maxNesting : Nat := 8

/-- Puts a character before others, behind the marks among them that go first. -/
def place (c : Char) : List Char → List Char
  | [] => [c]
  | d :: ds =>
    if 0 < combiningClass d ∧ combiningClass d < combiningClass c then d :: place c ds
    else c :: d :: ds

def decompose (cs : List Char) : List Char := (cs.flatMap (decomposeChar maxNesting)).foldr place []

/-! ### Putting together -/

/-- The characters that parts make again, behind their parts. -/
def compositions : List (List Char × Char) :=
  (decompositions.filter fun e => e.note.head? == some '~').map fun e =>
    (parts e.note, Char.ofNat e.first)

def pair? (a b : Char) : Option Char :=
  match syllable? a b with
  | some c => some c
  | none => (compositions.find? fun p => p.1 == [a, b]).map Prod.snd

/-- Whether a mark between two characters keeps them apart: `last` is the latest mark between them, and
`c` the second one. -/
def isBlocked (last : Option Char) (c : Char) : Bool :=
  last.any fun m => combiningClass c ≤ combiningClass m

/-- Puts parts together; `base` is the latest character that is no mark, and `marks` those behind it
that stay, last first. -/
def join (base : Option Char) (marks : List Char) : List Char → List Char
  | [] => base.toList ++ marks.reverse
  | c :: cs =>
    let joined := if isBlocked marks.head? c then none else base.bind fun b => pair? b c
    match joined with
    | some p => join (some p) marks cs
    | none =>
      if combiningClass c = 0 then base.toList ++ marks.reverse ++ join (some c) [] cs
      else join base (c :: marks) cs

def compose (cs : List Char) : List Char := join none [] cs

def normalize (cs : List Char) : List Char := compose (decompose cs)

end Composition
end Appraisal
