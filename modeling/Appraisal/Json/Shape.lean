import Appraisal.Json.Value
import Appraisal.Text.Hex
import Appraisal.Text.Utf8

/-!
# Appraisal.Json.Shape

JSON values read as data of a known shape: text, integers, lists and records. A record is written as
an object, or as an array of its members in their order. An object may hold members that the record
does not know; a known member twice is an error.

* `text?`, `int?`, `listOf?`, `optional?`: values of one shape.
* `Value.slots?`: the members of a record.
-/

namespace Appraisal
namespace Json

/-- The characters of a string with escapes. Half of a surrogate pair is no character. -/
def unescape? : List Char → Option (List Char)
  | [] => some []
  | '\\' :: 'u' :: a :: b :: c :: d :: r =>
    match Hex.decodeDigits? [a, b, c, d] with
    | none => none
    | some bs =>
      let n := Bytes.toNatBE bs
      if 0xD800 ≤ n ∧ n ≤ 0xDBFF then
        match r with
        | '\\' :: 'u' :: e :: f :: g :: h :: r =>
          match Hex.decodeDigits? [e, f, g, h] with
          | none => none
          | some bs =>
            let m := Bytes.toNatBE bs
            if 0xDC00 ≤ m ∧ m ≤ 0xDFFF then
              (unescape? r).map
                (Char.ofNat (0x10000 + (n - 0xD800) * 0x400 + (m - 0xDC00)) :: ·)
            else none
        | _ => none
      else if 0xDC00 ≤ n ∧ n ≤ 0xDFFF then none
      else (unescape? r).map (Char.ofNat n :: ·)
  | '\\' :: e :: r =>
    match e with
    | '"' | '\\' | '/' => (unescape? r).map (e :: ·)
    | 'b' => (unescape? r).map ('\x08' :: ·)
    | 'f' => (unescape? r).map ('\x0c' :: ·)
    | 'n' => (unescape? r).map ('\n' :: ·)
    | 'r' => (unescape? r).map ('\r' :: ·)
    | 't' => (unescape? r).map ('\t' :: ·)
    | _ => none
  | c :: r => (unescape? r).map (c :: ·)

/-- The text of a string as it is written between its quotes. -/
def unquote? (raw : Bytes) : Option String :=
  match Utf8.decodeChars? raw with
  | some cs => (unescape? cs).map String.ofList
  | none => none

def text? : Value → Option String
  | .string raw => unquote? raw
  | _ => none

def int? : Value → Option Int
  | .number (some n) => if -0x8000000000000000 ≤ n ∧ n < 0x8000000000000000 then some n else none
  | _ => none

def all? (read : Value → Option α) : List Value → Option (List α)
  | [] => some []
  | v :: vs =>
    match read v, all? read vs with
    | some x, some xs => some (x :: xs)
    | _, _ => none

def listOf? (read : Value → Option α) : Value → Option (List α)
  | .array vs => all? read vs
  | _ => none

def optional? (read : Value → Option α) : Option Value → Option (Option α)
  | none => some none
  | some .null => some none
  | some v => (read v).map some

def required? (read : Value → Option α) : Option Value → Option α
  | none => none
  | some v => read v

def withDefault? (d : α) (read : Value → Option α) : Option Value → Option α
  | none => some d
  | some v => read v

/-- A member of a record: its name, and whether an array may end before it. -/
structure Slot where
  name : String
  mayEnd : Bool
deriving DecidableEq, Repr

def named? : List (Bytes × Value) → Option (List (String × Value))
  | [] => some []
  | (k, v) :: ms =>
    match unquote? k, named? ms with
    | some name, some rest => some ((name, v) :: rest)
    | _, _ => none

/-- The value of the one member with a name, or none; two such members are an error. -/
def member? (ms : List (String × Value)) (name : String) : Option (Option Value) :=
  match ms.filter fun m => m.1 == name with
  | [] => some none
  | [m] => some (some m.2)
  | _ => none

def objectSlots? (ms : List (String × Value)) : List Slot → Option (List (Option Value))
  | [] => some []
  | s :: ss =>
    match member? ms s.name, objectSlots? ms ss with
    | some v, some vs => some (v :: vs)
    | _, _ => none

def arraySlots? : List Value → List Slot → Option (List (Option Value))
  | [], [] => some []
  | _ :: _, [] => none
  | v :: vs, _ :: ss => (arraySlots? vs ss).map (some v :: ·)
  | [], s :: ss => if s.mayEnd then (arraySlots? [] ss).map (none :: ·) else none

def Value.slots? (shape : List Slot) : Value → Option (List (Option Value))
  | .object ms =>
    match named? ms with
    | some ms => objectSlots? ms shape
    | none => none
  | .array vs => arraySlots? vs shape
  | _ => none

end Json
end Appraisal
