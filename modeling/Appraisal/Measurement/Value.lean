import Appraisal.Measurement.Mask

/-!
# Appraisal.Measurement.Value

What was measured: a version, a security version number, a firmware digest, flags and vendor
information, each of which a source may leave out.

* `Fwid.agrees`, `VendorInfo.agrees`: how a reference agrees with what was received.
* `Value.firstMismatch`: the first field set in a reference that the received value lacks or that
  differs there. A field that the reference leaves out is not checked.
-/

namespace Appraisal
namespace Measurement

def debugOption (shown : α → String) : Option α → String
  | none => "None"
  | some x => "Some(" ++ shown x ++ ")"

/-- A digest of firmware and the object identifier of the hash that made it. -/
structure Fwid where
  hashAlg : String
  digest : String
deriving DecidableEq, Repr

namespace Fwid

def ofDigest (hashAlg digest : String) : Fwid := ⟨hashAlg, Ascii.upper digest⟩

/-- Whether the hashes are the same and the digests differ in case only. -/
def agrees (expected actual : Fwid) : Bool :=
  expected.hashAlg == actual.hashAlg && Ascii.eqIgnoringCase expected.digest actual.digest

def debug (f : Fwid) : String :=
  "Fwid \x7b hash_alg: " ++ Quoted.quote f.hashAlg ++ ", digest: " ++ Quoted.quote f.digest
    ++ " \x7d"

end Fwid

/-- Vendor information and the mask of the digits that are checked. -/
structure VendorInfo where
  value : String
  mask : String
deriving DecidableEq, Repr

namespace VendorInfo

/-- Vendor information in upper case. A given mask is applied to the value right away, unless one of
the two is no hexadecimal text; without one the mask has an `F` for every byte of the value. -/
def ofText (value : String) (mask : Option String) : VendorInfo :=
  let value := Ascii.upper value
  match mask with
  | none => ⟨value, String.ofList (List.replicate value.utf8ByteSize 'F')⟩
  | some mask =>
    let mask := Ascii.upper mask
    match applyMask value mask with
    | .ok masked => ⟨masked, mask⟩
    | .error _ => ⟨value, mask⟩

/-- Whether what was received agrees with the reference under the mask of the reference. Text that
is not hexadecimal never does. -/
def agrees (expected actual : VendorInfo) : Bool :=
  match applyMask actual.value expected.mask with
  | .ok masked => masked == expected.value
  | .error _ => false

def debug (v : VendorInfo) : String :=
  "MaskedVendorInfo \x7b value: " ++ Quoted.quote v.value ++ ", mask: " ++ Quoted.quote v.mask
    ++ " \x7d"

end VendorInfo

structure Value where
  version : Option String := none
  svn : Option Int := none
  fwid : Option Fwid := none
  flags : Option String := none
  vendorInfo : Option VendorInfo := none
deriving DecidableEq, Repr

/-- A field of a reference that what was received does not satisfy. -/
structure Mismatch where
  field : String
  expected : String
  actual : String
deriving DecidableEq, Repr

namespace Value

def isEmpty (v : Value) : Bool :=
  v.version.isNone && v.svn.isNone && v.fwid.isNone && v.flags.isNone && v.vendorInfo.isNone

def absent : String := "<absent>"

/-- The mismatch of one field: the reference sets it, and what was received does not agree. -/
def fieldMismatch (field : String) (agrees : α → α → Bool) (showExpected showActual : α → String)
    (expected actual : Option α) : Option Mismatch :=
  match expected with
  | none => none
  | some e =>
    if actual.any (agrees e) then none
    else some ⟨field, showExpected e, (actual.map showActual).getD absent⟩

/-- The first field of `expected` that `actual` lacks or that differs there. -/
def firstMismatch (expected actual : Value) : Option Mismatch :=
  (fieldMismatch "version" (· == ·) id id expected.version actual.version).or <|
  (fieldMismatch "svn" (· == ·) toString toString expected.svn actual.svn).or <|
  (fieldMismatch "fwid" Fwid.agrees Fwid.digest Fwid.digest expected.fwid actual.fwid).or <|
  (fieldMismatch "flags" Ascii.eqIgnoringCase id id expected.flags actual.flags).or <|
  fieldMismatch "vendor_info" VendorInfo.agrees
    (fun v => v.value ++ " (mask " ++ v.mask ++ ")") VendorInfo.value
    expected.vendorInfo actual.vendorInfo

def debug (v : Value) : String :=
  "MeasurementValue \x7b version: " ++ debugOption Quoted.quote v.version
    ++ ", svn: " ++ debugOption toString v.svn
    ++ ", fwid: " ++ debugOption Fwid.debug v.fwid
    ++ ", flags: " ++ debugOption Quoted.quote v.flags
    ++ ", masked_vendor_info: " ++ debugOption VendorInfo.debug v.vendorInfo ++ " \x7d"

end Value
end Measurement
end Appraisal
