import Appraisal.Cbor.Value
import Appraisal.Cose.Registry
import Appraisal.Text.Blank

/-!
# Appraisal.Cose.Header

The headers of signed documents: parameters under labels, each label once. The parameters with a
known meaning must be well formed, even where nothing here uses them.

* `Header.ofValue?`: the header that a CBOR map writes.
* `Header.get?`: the parameter under a label.
-/

namespace Appraisal
namespace Cose

inductive Label where
  | number (value : Int)
  | text (value : String)
deriving DecidableEq, Repr

structure Header where
  parameters : List (Label × Cbor.Value) := []

namespace Label

def algorithm : Label := .number 1
def critical : Label := .number 2
def contentType : Label := .number 3
def keyId : Label := .number 4
def iv : Label := .number 5
def partialIv : Label := .number 6
def counterSignature : Label := .number 7
def certificateChain : Label := .number 33

def fits (n : Int) : Bool := -0x8000000000000000 ≤ n && n < 0x8000000000000000

def ofValue? : Cbor.Value → Option Label
  | .integer n => if fits n then some (.number n) else none
  | .text s => some (.text s)
  | _ => none

end Label

/-- Whether a value is text or a number that `registered` knows. -/
def isRegistered (registered : Int → Bool) : Cbor.Value → Bool
  | .integer n => Label.fits n && registered n
  | .text _ => true
  | _ => false

/-- Whether a value is a list of parameters that a reader must understand. -/
def isCritical : Cbor.Value → Bool
  | .array [] => false
  | .array vs => vs.all (isRegistered isHeaderParameter)
  | _ => false

/-- Whether a value is a content type: a registered number, or a type and a subtype with one slash
between them and no blanks around them. -/
def isContentType : Cbor.Value → Bool
  | .text s => isTrimmed s && s.toList.count '/' == 1
  | v => isRegistered isContentFormat v

def isNonEmptyBytes : Cbor.Value → Bool
  | .bytes bs => !bs.isEmpty
  | _ => false

/-- Whether a value is a signature: a header in bytes, a header and bytes. -/
def isSignature (isHeader : Cbor.Value → Bool) : Cbor.Value → Bool
  | .array [.bytes signed, header, .bytes _] =>
    isHeader header && (signed.isEmpty || (Cbor.decode? signed).any isHeader)
  | _ => false

/-- Whether a value is a signature or a list of signatures. -/
def isCounterSignature (isHeader : Cbor.Value → Bool) : Cbor.Value → Bool
  | .array (.bytes bs :: vs) => isSignature isHeader (.array (.bytes bs :: vs))
  | .array (.array ws :: vs) => (Cbor.Value.array ws :: vs).all (isSignature isHeader)
  | _ => false

def isParameter (isHeader : Cbor.Value → Bool) (label : Label) (v : Cbor.Value) : Bool :=
  if label = Label.algorithm then isRegistered isAlgorithm v
  else if label = Label.critical then isCritical v
  else if label = Label.contentType then isContentType v
  else if label = Label.keyId ∨ label = Label.iv ∨ label = Label.partialIv then isNonEmptyBytes v
  else if label = Label.counterSignature then isCounterSignature isHeader v
  else true

def labelled? : List (Cbor.Value × Cbor.Value) → Option (List (Label × Cbor.Value))
  | [] => some []
  | (k, v) :: es =>
    match Label.ofValue? k, labelled? es with
    | some label, some ps => some ((label, v) :: ps)
    | _, _ => none

namespace Header

def has (h : Header) (label : Label) : Bool := h.parameters.any fun p => p.1 == label

def get? (h : Header) (label : Label) : Option Cbor.Value :=
  (h.parameters.find? fun p => p.1 == label).map Prod.snd

/-- Whether the labels of a header are all different, its parameters well formed, and at most one of
its initialization vectors is there. -/
def isWellFormed (isHeader : Cbor.Value → Bool) (h : Header) : Bool :=
  let labels := h.parameters.map Prod.fst
  labels.length == labels.eraseDups.length &&
  h.parameters.all (fun p => isParameter isHeader p.1 p.2) &&
  !(h.has Label.iv && h.has Label.partialIv)

/-- The header that a value writes. Headers of signatures inside it are at most `depth` deep. -/
def ofValue? : Nat → Cbor.Value → Option Header
  | 0, _ => none
  | depth + 1, .map es =>
    match labelled? es with
    | none => none
    | some ps =>
      if isWellFormed (fun v => (ofValue? depth v).isSome) ⟨ps⟩ then some ⟨ps⟩ else none
  | _ + 1, _ => none

end Header
end Cose
end Appraisal
