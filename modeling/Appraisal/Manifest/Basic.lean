import Appraisal.Error
import Appraisal.Manifest.Document

/-!
# Appraisal.Manifest.Basic

Reference manifests: the measurements that a device is expected to report, and those that the vendor
endorses. Expected measurements are compared; endorsed ones are only reported.

* `Triple.record`: the record of one triple, whose text must not be empty and whose values must be
  hexadecimal.
* `Manifest.parse`: the manifest in a document, without what its locators point to.
-/

namespace Appraisal

open Measurement

namespace Manifest

def nonEmpty (field value : String) : Except Error String :=
  if value.isEmpty then .error (.invalidManifest (.emptyText field)) else .ok value

def hexValue (field value : String) : Except Error String := do
  let value ← nonEmpty field value
  match Hex.decode? value with
  | some _ => pure (Ascii.upper value)
  | none => throw .hex

/-- The upper-case text of any number of hexadecimal digits. -/
def hexDigits (field value : String) : Except Error String := do
  let value ← nonEmpty field value
  if value.toList.all Hex.isDigit then pure (Ascii.upper value) else throw .hex

/-- The text of a field that may be left out, checked if it is there. -/
def checked (check : String → String → Except Error String) (field : String) :
    Option String → Except Error (Option String)
  | none => .ok none
  | some value => some <$> check field value

/-- The key of an environment. What is left out of it is empty or zero. -/
def Environment.key (e : Environment) : Except Error Key := do
  let vendor ← checked nonEmpty "vendor" e.vendor
  let model ← checked nonEmpty "model" e.model
  let type ← checked nonEmpty "type" e.type
  pure { vendor := vendor.getD "", model, layer := e.layer.getD 0, index := e.index.getD 0,
         measurementType := type }

def fwid : List Digest → Except Error (Option Fwid)
  | [] => .ok none
  | [d] => do
    let alg ← nonEmpty "digests.alg" d.alg
    let value ← hexValue "digests.value" d.value
    pure (some (Fwid.ofDigest alg value))
  | ds => .error (.invalidManifest (.severalDigests ds.length))

/-- Vendor information with its mask. A mask needs a value. -/
def vendorInfo (value mask : Option String) : Except Error (Option VendorInfo) :=
  match value, mask with
  | some value, mask => do
    let value ← hexDigits "raw-value" value
    let mask ← checked hexDigits "raw-value-mask" mask
    pure (some (VendorInfo.ofText value mask))
  | none, some _ => .error (.invalidManifest .maskWithoutValue)
  | none, none => .ok none

def Reference.value (r : Reference) : Except Error Measurement.Value := do
  let fwid ← fwid r.digests
  let vendorInfo ← vendorInfo r.rawValue r.rawValueMask
  let version ← checked nonEmpty "version" r.version
  let flags ← checked hexValue "flags" r.flags
  pure { version, svn := r.svn, fwid, flags, vendorInfo }

def Triple.record (t : Triple) : Except Error Record := do
  let key ← t.environment.key
  let value ← t.measurement.value
  pure ⟨key, value⟩

/-- The records of triples, up to the first that makes none. -/
def recordsOf : List Triple → Except Error (List Record)
  | [] => .ok []
  | t :: ts => do
    let r ← t.record
    let rs ← recordsOf ts
    pure (r :: rs)

end Manifest

/-- Expected and endorsed measurements, in the order of the documents. -/
structure Manifest where
  manifestId : Option String := none
  records : List Record := []
  endorsed : List Record := []
deriving DecidableEq, Repr

namespace Manifest

def isEmpty (m : Manifest) : Bool := m.records.isEmpty

structure Parsed where
  manifest : Manifest
  locators : List String
  revocationLocator : Option String
deriving DecidableEq, Repr

def ofDocument (d : Document) : Except Error Parsed := do
  let manifestId ← checked nonEmpty "manifest-id" d.manifestId
  let expected ← recordsOf d.referenceTriples
  let endorsed ← recordsOf d.endorsedTriples
  pure { manifest := { manifestId, records := expected, endorsed }, locators := d.locators,
         revocationLocator := d.revocationLocator }

/-- The manifest and the locators in the text of a document. -/
def parseDocument (bs : Bytes) : Except Error Parsed :=
  match Document.parse? bs with
  | some d => ofDocument d
  | none => .error .json

/-- The manifest in the text of a document, without what its locators point to. -/
def parse (bs : Bytes) : Except Error Manifest :=
  match parseDocument bs with
  | .ok p => .ok p.manifest
  | .error e => .error e

end Manifest
end Appraisal
