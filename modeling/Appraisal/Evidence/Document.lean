import Appraisal.Json.Shape

/-!
# Appraisal.Evidence.Document

The JSON document that evidence travels in: a response of the device and its certificates, leaf first,
each as base64 text. The text is kept as it is written.

* `Evidence.parse?`: the evidence in a document.
-/

namespace Appraisal

open Json

structure Evidence where
  measurementResponse : String
  certificateChain : List String
deriving DecidableEq, Repr

namespace Evidence

def ofJson? (v : Value) : Option Evidence :=
  match v.slots? [⟨"measurement_response", false⟩, ⟨"certificate_chain", false⟩] with
  | some [response, chain] => do
    let measurementResponse ← required? text? response
    let certificateChain ← required? (listOf? text?) chain
    pure { measurementResponse, certificateChain }
  | _ => none

def parse? (bs : Bytes) : Option Evidence := (Json.parse? bs).bind ofJson?

end Evidence
end Appraisal
