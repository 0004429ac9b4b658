import Appraisal.Json.Shape

/-!
# Appraisal.Manifest.Document

The JSON documents that reference values travel in, as they are written: a manifest of reference
triples with its locators, and a list of denied manifests. Nothing is checked here but the shape.

* `Document.parse?`: a manifest document.
* `RevocationList.parse?`: a list of denied manifests.
-/

namespace Appraisal
namespace Manifest

open Json

structure Environment where
  vendor : Option String := none
  model : Option String := none
  layer : Option Int := none
  index : Option Int := none
  type : Option String := none
deriving DecidableEq, Repr

structure Digest where
  alg : String
  value : String
deriving DecidableEq, Repr

structure Reference where
  version : Option String := none
  svn : Option Int := none
  digests : List Digest := []
  rawValue : Option String := none
  rawValueMask : Option String := none
  flags : Option String := none
deriving DecidableEq, Repr

structure Triple where
  environment : Environment
  measurement : Reference := {}
deriving DecidableEq, Repr

structure Document where
  manifestId : Option String := none
  locators : List String := []
  revocationLocator : Option String := none
  referenceTriples : List Triple := []
  endorsedTriples : List Triple := []
deriving DecidableEq, Repr

def Environment.ofJson? (v : Value) : Option Environment :=
  match v.slots? [⟨"vendor", false⟩, ⟨"model", false⟩, ⟨"layer", false⟩, ⟨"index", false⟩,
    ⟨"type", false⟩] with
  | some [vendor, model, layer, index, type] => do
    let vendor ← optional? text? vendor
    let model ← optional? text? model
    let layer ← optional? int? layer
    let index ← optional? int? index
    let type ← optional? text? type
    pure { vendor, model, layer, index, type }
  | _ => none

def Digest.ofJson? (v : Value) : Option Digest :=
  match v.slots? [⟨"alg", false⟩, ⟨"value", false⟩] with
  | some [alg, value] => do
    let alg ← required? text? alg
    let value ← required? text? value
    pure { alg, value }
  | _ => none

def Reference.ofJson? (v : Value) : Option Reference :=
  match v.slots? [⟨"version", false⟩, ⟨"svn", false⟩, ⟨"digests", true⟩, ⟨"raw-value", false⟩,
    ⟨"raw-value-mask", false⟩, ⟨"flags", false⟩] with
  | some [version, svn, digests, rawValue, rawValueMask, flags] => do
    let version ← optional? text? version
    let svn ← optional? int? svn
    let digests ← withDefault? [] (listOf? Digest.ofJson?) digests
    let rawValue ← optional? text? rawValue
    let rawValueMask ← optional? text? rawValueMask
    let flags ← optional? text? flags
    pure { version, svn, digests, rawValue, rawValueMask, flags }
  | _ => none

def Triple.ofJson? (v : Value) : Option Triple :=
  match v.slots? [⟨"environment", false⟩, ⟨"measurement", true⟩] with
  | some [environment, measurement] => do
    let environment ← required? Environment.ofJson? environment
    let measurement ← withDefault? {} Reference.ofJson? measurement
    pure { environment, measurement }
  | _ => none

def Document.ofJson? (v : Value) : Option Document :=
  match v.slots? [⟨"manifest-id", false⟩, ⟨"locators", true⟩, ⟨"revocation-locator", false⟩,
    ⟨"reference-triples", true⟩, ⟨"endorsed-triples", true⟩] with
  | some [manifestId, locators, revocationLocator, referenceTriples, endorsedTriples] => do
    let manifestId ← optional? text? manifestId
    let locators ← withDefault? [] (listOf? text?) locators
    let revocationLocator ← optional? text? revocationLocator
    let referenceTriples ← withDefault? [] (listOf? Triple.ofJson?) referenceTriples
    let endorsedTriples ← withDefault? [] (listOf? Triple.ofJson?) endorsedTriples
    pure { manifestId, locators, revocationLocator, referenceTriples, endorsedTriples }
  | _ => none

def Document.parse? (bs : Bytes) : Option Document :=
  match Json.parse? bs with
  | some v => Document.ofJson? v
  | none => none

structure RevocationList where
  deniedManifestIds : List String
deriving DecidableEq, Repr

def RevocationList.ofJson? (v : Value) : Option RevocationList :=
  match v.slots? [⟨"denied-manifest-ids", true⟩] with
  | some [ids] => do
    let deniedManifestIds ← withDefault? [] (listOf? text?) ids
    pure { deniedManifestIds }
  | _ => none

def RevocationList.parse? (bs : Bytes) : Option RevocationList :=
  match Json.parse? bs with
  | some v => RevocationList.ofJson? v
  | none => none

end Manifest
end Appraisal
