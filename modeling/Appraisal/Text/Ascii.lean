/-!
# Appraisal.Text.Ascii

Letter case. Only the letters of ASCII have two cases here; every other character is its own.

* `upper`, `lower`: a text in one case.
* `eqIgnoringCase`: equality up to case.
-/

namespace Appraisal
namespace Ascii

def upper (s : String) : String := String.ofList (s.toList.map Char.toUpper)

def lower (s : String) : String := String.ofList (s.toList.map Char.toLower)

def eqIgnoringCase (s t : String) : Bool := lower s == lower t

end Ascii
end Appraisal
