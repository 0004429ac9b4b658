import Appraisal.Idna.Domain
import Appraisal.Url.Ipv4
import Appraisal.Url.Ipv6
import Appraisal.Url.Percent

/-!
# Appraisal.Url.Host

The hosts of URLs: addresses, and names. Schemes with known rules read a name as a domain, whose case
does not matter and which may be an address; other schemes keep a name as it is written.

* `Host.parse?`: a host where domains are known; `Host.parseName?`: a host of any other scheme.
* `Host.render`: a host as text.
-/

namespace Appraisal

inductive Host where
  | domain (name : String)
  | ipv4 (address : UInt32)
  | ipv6 (pieces : List UInt16)
deriving DecidableEq, Repr

namespace Host

/-- The characters that end or divide a host, and so are in none. -/
def isForbidden (c : Char) : Bool :=
  ['\x00', '\t', '\n', '\r', ' ', '#', '/', ':', '<', '>', '?', '@', '[', '\\', ']', '^', '|'].contains c

def isForbiddenInDomain (c : Char) : Bool := isForbidden c || Percent.isControl c || c == '%'

def bracketed? (cs : List Char) : Option Host :=
  if cs.getLast? = some ']' then (Ipv6.parse? cs.dropLast).map ipv6 else none

def asciiName? (cs : List Char) : Option (List Char) :=
  match Utf8.decodeChars? (Percent.decode (cs.flatMap Utf8.encodeChar)) with
  | some cs => Idna.toAscii? cs
  | none => none

def parse? : List Char → Option Host
  | '[' :: r => bracketed? r
  | cs =>
    match asciiName? cs with
    | none => none
    | some name =>
      if name.isEmpty || name.any isForbiddenInDomain then none
      else if Ipv4.endsInNumber name then (Ipv4.parse? name).map ipv4
      else some (domain (String.ofList name))

/-- The host of any other scheme; the text may be empty. -/
def parseName? : List Char → Option Host
  | '[' :: r => bracketed? r
  | cs =>
    if cs.any isForbidden then none else some (domain (Percent.encode Percent.inWhole cs))

def render : Host → String
  | domain name => name
  | ipv4 address => Ipv4.render address
  | ipv6 pieces => "[" ++ Ipv6.render pieces ++ "]"

end Host
end Appraisal
