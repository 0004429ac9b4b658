import Appraisal.Idna.Label
import Appraisal.Idna.MappingTable
import Appraisal.Idna.Punycode

/-!
# Appraisal.Idna.Domain

Domain names in ASCII. The characters of a name are brought into one form first, and a label that is
not ASCII then is written with a prefix that says so. Labels that have the prefix already must be
what they would be written as.

* `mapName?`: a name with all characters in one form.
* `toAscii?`: a name in ASCII.
-/

namespace Appraisal
namespace Idna

def mappings : CodeTable := CodeTable.ofRows mappingRows

/-- What becomes of a character; none if it is in no name. -/
def mapChar? (c : Char) : Option (List Char) :=
  match mappings.lookup? c with
  | none => some [c]
  | some e =>
    match e.note with
    | '+' :: distance => some [Char.ofNat (c.toNat + CodeTable.number distance)]
    | '-' :: distance => some [Char.ofNat (c.toNat - CodeTable.number distance)]
    | '*' :: _ =>
      if (c.toNat - e.first) % 2 = 0 then some [Char.ofNat (c.toNat + 1)] else some [c]
    | '=' :: codes => some ((CodeTable.numbers codes).map Char.ofNat)
    | '_' :: _ => some []
    | _ => none

def mapName? (name : List Char) : Option (List Char) :=
  (name.mapM mapChar?).map fun parts => Composition.normalize parts.flatten

def isAscii (cs : List Char) : Bool := cs.all fun c => c.toNat < 0x80

/-- What a label in ASCII begins with if it stands for one that is not. -/
def asciiMark : List Char := ['x', 'n', '-', '-']

/-- How many characters a label outside ASCII has at most; what it is written as grows with the square
of that. -/
def maxLabelLength : Nat := 1000

/-- How many characters stand behind the prefix of a label at most. -/
def maxWrittenLength : Nat := 2000

def unicodeLabel? (label : List Char) : Option (List Char) :=
  if asciiMark.isPrefixOf label then
    let written := label.drop asciiMark.length
    if maxWrittenLength < written.length then none
    else
      match Punycode.decode? written with
      | none => none
      | some decoded =>
        if isAscii label && !isAscii decoded && mapName? decoded == some decoded then some decoded
        else none
  else some label

def isWritable (label : List Char) : Bool := isAscii label || label.length ≤ maxLabelLength

def asciiLabel (label : List Char) : List Char :=
  if isAscii label then label else asciiMark ++ Punycode.encode label

def toAscii? (name : List Char) : Option (List Char) :=
  match mapName? name with
  | none => none
  | some mapped =>
    match (splitWhere (· == '.') mapped).mapM unicodeLabel? with
    | none => none
    | some labels =>
      let keeps := !labels.any (·.any isRightToLeft) || labels.all keepsDirection
      if labels.all (fun label => isLabel label && isWritable label) && keeps then
        some (['.'].intercalate (labels.map asciiLabel))
      else none

end Idna
end Appraisal
