import Appraisal.Bytes

/-!
# Appraisal.Json.Token

The tokens of JSON text. A string stays as it is written between its quotes, escapes included: only
the form of the escapes is checked here, so that a string nobody reads need not be text. Of a number
only its value as an integer is kept.

* `Token.scan?`: the tokens of a text, if it is made of tokens.
-/

namespace Appraisal
namespace Json

inductive Token where
  | openObject
  | closeObject
  | openArray
  | closeArray
  | comma
  | colon
  | null
  | bool (value : Bool)
  /-- A number; its value if it is written as an integer, which `-0` is not. -/
  | number (integer : Option Int)
  | string (raw : Bytes)
deriving DecidableEq, Repr

def ascii (s : String) : Bytes := s.toList.map fun c => UInt8.ofNat c.toNat

def isBlank (b : UInt8) : Bool := b == 0x20 || b == 0x09 || b == 0x0A || b == 0x0D

def isDigit (b : UInt8) : Bool := 0x30 ≤ b && b ≤ 0x39

def isHexDigit (b : UInt8) : Bool :=
  isDigit b || (0x61 ≤ b && b ≤ 0x66) || (0x41 ≤ b && b ≤ 0x46)

def isSimpleEscape (b : UInt8) : Bool := (ascii "\"\\/bfnrt").contains b

/-- The rest of a string up to its closing quote, and what follows it. -/
def string? : Bytes → Option (Bytes × Bytes)
  | [] => none
  | 0x22 :: r => some ([], r)
  | 0x5C :: 0x75 :: a :: b :: c :: d :: r =>
    if isHexDigit a && isHexDigit b && isHexDigit c && isHexDigit d then
      (string? r).map fun p => (0x5C :: 0x75 :: a :: b :: c :: d :: p.1, p.2)
    else none
  | 0x5C :: e :: r =>
    if isSimpleEscape e then (string? r).map fun p => (0x5C :: e :: p.1, p.2) else none
  | b :: r =>
    if b < 0x20 ∨ b = 0x5C then none else (string? r).map fun p => (b :: p.1, p.2)

def digits (bs : Bytes) : Bytes × Bytes := (bs.takeWhile isDigit, bs.dropWhile isDigit)

def decimal (ds : Bytes) : Nat := ds.foldl (fun n d => 10 * n + (d.toNat - 0x30)) 0

/-- The whole part of a number: a lone zero, or digits that start with another. -/
def whole? : Bytes → Option (Nat × Bytes)
  | [] => none
  | b :: r =>
    if b = 0x30 then some (0, r)
    else if isDigit b then
      let (ds, r) := digits (b :: r)
      some (decimal ds, r)
    else none

def skipDigits? (bs : Bytes) : Option Bytes :=
  let (ds, r) := digits bs
  if ds = [] then none else some r

/-- The fraction of a number, if one follows; whether one does, and what follows it. -/
def fraction? : Bytes → Option (Bool × Bytes)
  | 0x2E :: r => (skipDigits? r).map fun r => (true, r)
  | bs => some (false, bs)

/-- The exponent of a number, if one follows; whether one does, and what follows it. -/
def exponent? : Bytes → Option (Bool × Bytes)
  | [] => some (false, [])
  | b :: r =>
    if b = 0x65 ∨ b = 0x45 then
      match r with
      | s :: r' =>
        if s = 0x2B ∨ s = 0x2D then (skipDigits? r').map fun r => (true, r)
        else (skipDigits? (s :: r')).map fun r => (true, r)
      | [] => none
    else some (false, b :: r)

def unsigned? (negative : Bool) (bs : Bytes) : Option (Option Int × Bytes) :=
  match whole? bs with
  | none => none
  | some (n, r) =>
    match fraction? r with
    | none => none
    | some (hasFraction, r) =>
      match exponent? r with
      | none => none
      | some (hasExponent, r) =>
        if hasFraction || hasExponent || (negative && n == 0) then some (none, r)
        else some (some (if negative then -(n : Int) else n), r)

def after? (word : String) (bs : Bytes) : Option Bytes :=
  let w := ascii word
  if bs.take w.length = w then some (bs.drop w.length) else none

namespace Token

/-- The token that starts with `b`, and what follows it in `r`. -/
def next? (b : UInt8) (r : Bytes) : Option (Token × Bytes) :=
  if b = 0x7B then some (openObject, r)
  else if b = 0x7D then some (closeObject, r)
  else if b = 0x5B then some (openArray, r)
  else if b = 0x5D then some (closeArray, r)
  else if b = 0x2C then some (comma, r)
  else if b = 0x3A then some (colon, r)
  else if b = 0x22 then (string? r).map fun p => (string p.1, p.2)
  else if b = 0x6E then (after? "ull" r).map fun r => (null, r)
  else if b = 0x74 then (after? "rue" r).map fun r => (bool true, r)
  else if b = 0x66 then (after? "alse" r).map fun r => (bool false, r)
  else if b = 0x2D then (unsigned? true r).map fun p => (number p.1, p.2)
  else (unsigned? false (b :: r)).map fun p => (number p.1, p.2)

def scanWithin? : Nat → Bytes → Option (List Token)
  | 0, _ => none
  | fuel + 1, bs =>
    match bs.dropWhile isBlank with
    | [] => some []
    | b :: r =>
      match next? b r with
      | none => none
      | some (t, r) => (scanWithin? fuel r).map (t :: ·)

/-- The tokens of `bs`. A token takes at least one byte, so there are no more tokens than bytes. -/
def scan? (bs : Bytes) : Option (List Token) := scanWithin? (bs.length + 1) bs

end Token
end Json
end Appraisal
