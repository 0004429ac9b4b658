import Appraisal.Text.GraphemeExtend
import Appraisal.Text.Hex
import Appraisal.Text.Unprintable

/-!
# Appraisal.Text.Quoted

Quoted text for diagnostics. What does not show, or would not show as it is, is escaped: a backslash
and a letter for five common characters, and a code point in braces for the others.

* `quote`: a text between double quotes.
* `quoteChar`: a character between single quotes.
-/

namespace Appraisal
namespace Quoted

def escape (mark c : Char) : List Char :=
  if c = '\x00' then ['\\', '0']
  else if c = '\t' then ['\\', 't']
  else if c = '\r' then ['\\', 'r']
  else if c = '\n' then ['\\', 'n']
  else if c = '\\' ∨ c = mark then ['\\', c]
  else if extendsGrapheme c ∨ isUnprintable c then
    ['\\', 'u', '\x7b'] ++ (Hex.ofNat c.toNat).toList ++ ['\x7d']
  else [c]

def quote (s : String) : String :=
  String.ofList ('"' :: s.toList.flatMap (escape '"') ++ ['"'])

def quoteChar (c : Char) : String := String.ofList ('\'' :: escape '\'' c ++ ['\''])

end Quoted
end Appraisal
