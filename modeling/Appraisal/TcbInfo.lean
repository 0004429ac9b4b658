import Appraisal.Der.Primitive

/-!
# Appraisal.TcbInfo

The DICE TCB info extensions of a certificate. A TCB info is a sequence of fields told apart by their
context tags; the last field of a tag counts, and unknown fields are passed over.

* `TcbInfo.record`: the record of one TCB info.
* `TcbInfo.ofExtension`: the records of a certificate extension, one for a TCB info and one for each
  member of a multiple one.
-/

namespace Appraisal
namespace TcbInfo

open Measurement Der

def singleOid : String := "2.23.133.5.4.1"

def multipleOid : String := "2.23.133.5.4.5"

def elements (bs : Bytes) : Except Error (List Element) :=
  match elements? bs with
  | some es => .ok es
  | none => .error .der

def whole (bs : Bytes) : Except Error Element :=
  match Element.read? bs with
  | none => .error .der
  | some (e, r) =>
    if r.isEmpty then .ok e else .error (.invalidTcbInfo (.trailingBytes r.length))

def expectTag (e : Element) (tag : Nat) : Except Error Unit :=
  if e.tagClass = .universal ∧ e.tag = tag then .ok ()
  else .error (.invalidTcbInfo (.unexpectedTag tag e.tag))

def primitive (e : Element) (read : Bytes → Except DerValueFault α) : Except Error α :=
  if e.constructed then .error (.derValue .constructed)
  else match read e.content with
    | .ok x => .ok x
    | .error fault => .error (.derValue fault)

def fwid (field : Element) : Except Error (Option Fwid) := do
  if ¬ field.constructed then throw (.invalidTcbInfo .fwidsNotConstructed)
  match ← elements field.content with
  | [] => pure none
  | [e] => do
    expectTag e Tag.sequence
    match ← elements e.content with
    | [alg, digest] => do
      expectTag alg Tag.objectId
      expectTag digest Tag.octetString
      pure (some (Fwid.ofDigest (objectId alg.content) (Hex.lower digest.content)))
    | es => throw (.invalidTcbInfo (.fwidElements es.length))
  | _ => throw (.invalidTcbInfo .severalFwids)

/-- The flags in a bit string, without the byte that counts its unused bits. -/
def flags (field : Element) : Except Error String :=
  match field.content with
  | [] => .error (.invalidTcbInfo .emptyFlags)
  | _ :: bits => .ok (Hex.upper bits)

def addField (r : Record) (field : Element) : Except Error Record := do
  if field.tagClass ≠ .contextSpecific then pure r
  else match field.tag with
    | 0 => do
      let s ← primitive field text
      pure { r with key := { r.key with vendor := s } }
    | 1 => do
      let s ← primitive field text
      pure { r with key := { r.key with model := some s } }
    | 2 => do
      let s ← primitive field text
      pure { r with value := { r.value with version := some s } }
    | 3 => do
      let n ← primitive field int64
      pure { r with value := { r.value with svn := some n } }
    | 4 => do
      let n ← primitive field int64
      pure { r with key := { r.key with layer := n } }
    | 5 => do
      let n ← primitive field int64
      pure { r with key := { r.key with index := n } }
    | 6 => do
      let f ← fwid field
      pure { r with value := { r.value with fwid := f } }
    | 7 => do
      let s ← flags field
      pure { r with value := { r.value with flags := some s } }
    | 8 =>
      let info := VendorInfo.ofText (Hex.upper field.content) none
      pure { r with value := { r.value with vendorInfo := some info } }
    | 9 => do
      let s ← primitive field fun bs => .ok (objectId bs)
      pure { r with key := { r.key with measurementType := some s } }
    | _ => pure r

def addFields (r : Record) : List Element → Except Error Record
  | [] => .ok r
  | field :: fields =>
    match addField r field with
    | .ok r => addFields r fields
    | .error e => .error e

def record (e : Element) : Except Error Record := do
  expectTag e Tag.sequence
  let fields ← elements e.content
  addFields ⟨{}, {}⟩ fields

/-- The records of several TCB infos, up to the first malformed one. -/
def records : List Element → Except Error (List Record)
  | [] => .ok []
  | e :: es =>
    match record e with
    | .error err => .error err
    | .ok r =>
      match records es with
      | .error err => .error err
      | .ok rs => .ok (r :: rs)

/-- The records of the extension `oid` of a certificate. Other extensions hold none. -/
def ofExtension (oid : String) (value : Bytes) : Except Error (List Record) := do
  if oid = singleOid then do
    let e ← whole value
    let r ← record e
    pure [r]
  else if oid = multipleOid then do
    let e ← whole value
    expectTag e Tag.sequence
    let es ← elements e.content
    records es
  else pure []

end TcbInfo
end Appraisal
