import Appraisal.Bytes

/-!
# Appraisal.Text.Utf8

Text as bytes. Only the shortest form of a character is read, and no surrogate is.

* `decode?`: the text that bytes encode, if they encode one.
* `encode`: the bytes of a text.
-/

namespace Appraisal
namespace Utf8

def tailBits? (b : UInt8) : Option Nat :=
  if 0x80 ≤ b ∧ b ≤ 0xBF then some (b.toNat - 0x80) else none

/-- The character of a code point of at least `least`, which is the first that needs so many bytes. -/
def char? (least n : Nat) : Option Char :=
  if h : n.isValidChar ∧ least ≤ n then some (Char.ofNatAux n h.1) else none

def decodeChars? : Bytes → Option (List Char)
  | [] => some []
  | a :: r =>
    if a < 0x80 then (decodeChars? r).map (Char.ofNat a.toNat :: ·)
    else match r with
      | [] => none
      | b :: r =>
        match tailBits? b with
        | none => none
        | some y =>
          if 0xC0 ≤ a ∧ a ≤ 0xDF then
            match char? 0x80 ((a.toNat - 0xC0) * 64 + y), decodeChars? r with
            | some ch, some cs => some (ch :: cs)
            | _, _ => none
          else match r with
            | [] => none
            | c :: r =>
              match tailBits? c with
              | none => none
              | some z =>
                if 0xE0 ≤ a ∧ a ≤ 0xEF then
                  match char? 0x800 (((a.toNat - 0xE0) * 64 + y) * 64 + z), decodeChars? r with
                  | some ch, some cs => some (ch :: cs)
                  | _, _ => none
                else match r with
                  | [] => none
                  | d :: r =>
                    match tailBits? d with
                    | none => none
                    | some w =>
                      if 0xF0 ≤ a ∧ a ≤ 0xF7 then
                        match char? 0x10000
                            ((((a.toNat - 0xF0) * 64 + y) * 64 + z) * 64 + w),
                          decodeChars? r with
                        | some ch, some cs => some (ch :: cs)
                        | _, _ => none
                      else none

def decode? (bs : Bytes) : Option String := (decodeChars? bs).map String.ofList

def encodeChar (ch : Char) : Bytes :=
  let n := ch.toNat
  let tail (bits : Nat) : UInt8 := UInt8.ofNat (0x80 + bits % 64)
  if n < 0x80 then [UInt8.ofNat n]
  else if n < 0x800 then [UInt8.ofNat (0xC0 + n / 64), tail n]
  else if n < 0x10000 then [UInt8.ofNat (0xE0 + n / 4096), tail (n / 64), tail n]
  else [UInt8.ofNat (0xF0 + n / 262144), tail (n / 4096), tail (n / 64), tail n]

def encode (s : String) : Bytes := s.toList.flatMap encodeChar

end Utf8
end Appraisal
