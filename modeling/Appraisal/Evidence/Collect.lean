import Appraisal.Certificate
import Appraisal.Dialogue
import Appraisal.Evidence.Document
import Appraisal.Report.Device
import Appraisal.Text.Base64

/-!
# Appraisal.Evidence.Collect

The measurements that evidence carries, once it is authentic: the chain is trusted, the response is
signed by its leaf, and where a session is known, its authentication code and the verifier's own key
are right. Nothing of the response is used before.

* `Settings`: what a verifier is set up with.
* `measurements`: what an authentic response and its chain say.
* `collect`: the measurements of evidence, after all checks.
-/

namespace Appraisal

open Measurement

structure Settings where
  /-- Whether there is a service for authentication codes; without one they are not checked. -/
  hasMac : Bool := false
  hasDecryptor : Bool := false
  expectedVerifierKey : Option Bytes := none
  acceptUnsigned : Bool := false
deriving DecidableEq, Repr

namespace Evidence

def decodeText (s : String) : Except Error Bytes :=
  match Base64.decode? s with
  | some bs => .ok bs
  | none => .error .base64

/-- The bytes of base64 texts, up to the first that is none. -/
def decodeTexts : List String → Except Error (List Bytes)
  | [] => .ok []
  | s :: ss => do
    let bs ← decodeText s
    let bss ← decodeTexts ss
    pure (bs :: bss)

/-- An aggregate with further records; a conflict is an error. -/
def addRecords (a : Aggregate) (rs : List Record) : Except Error Aggregate :=
  match a.add rs with
  | (a, none) => .ok a
  | (_, some conflict) => .error (.aggregationConflict conflict)

/-- An aggregate with the records of certificates, in their order. -/
def addCertificates (a : Aggregate) : List Bytes → Except Error Aggregate
  | [] => .ok a
  | c :: cs => do
    let rs ← tcbRecords c
    let a ← addRecords a rs
    addCertificates a cs

/-- What a response and a chain say: the device's report first, then the certificates. -/
def measurements (response : Wire.GetMeasurement) (chain : List Bytes) : Except Error Aggregate := do
  let rs ← DeviceReport.ofResponse response
  let a ← addRecords .empty rs
  addCertificates a chain

/-- What a wire operation gives, with its error as an error of the verifier. -/
def ofWire : Except Wire.Error α → Except Error α
  | .ok a => .ok a
  | .error e => .error (.wire e)

def checkMac (data mac : Bytes) : Dialogue Unit := do
  let computed ← Dialogue.computeMac data
  if computed = mac then pure () else .fail .macVerificationFailed

/-- Checks that a response is signed with the key of a certificate. -/
def checkSignature (leaf : Bytes) (response : Wire.GetMeasurement) : Dialogue Unit := do
  let certificate ← Certificate.read leaf
  let signed ← ofWire (Wire.GetMeasurement.format.signable response)
  let valid ← Dialogue.checkSignature certificate.publicKeyInfo signed response.signature.raw
  if valid then pure () else .fail .signatureVerificationFailed

/-- Checks the authentication code of a response, if there is a service for it. -/
def checkSession (s : Settings) (response : Wire.GetMeasurement) : Dialogue Unit :=
  if s.hasMac then do
    let covered ← ofWire (Wire.GetMeasurement.format.macable response)
    checkMac covered response.mac
  else pure ()

/-- Checks that a response echoes the verifier's key, if one is expected. -/
def checkVerifierKey (s : Settings) (response : Wire.GetMeasurement) : Except Error Unit :=
  match s.expectedVerifierKey with
  | none => .ok ()
  | some key =>
    if key = response.verifierDhPubKey then .ok ()
    else .error (.verifierKeyMismatch key response.verifierDhPubKey)

def collect (s : Settings) (e : Evidence) : Dialogue Aggregate := do
  let bytes ← decodeText e.measurementResponse
  let chain ← decodeTexts e.certificateChain
  match chain with
  | [] => .fail .emptyCertificateChain
  | leaf :: issuers => do
    let trusted ← Dialogue.isTrusted (leaf :: issuers)
    if trusted then do
      let response ← ofWire (Wire.GetMeasurement.format.parse .firmware bytes)
      checkSignature leaf response
      checkSession s response
      checkVerifierKey s response
      measurements response (leaf :: issuers)
    else .fail .untrustedCertificateChain

end Evidence
end Appraisal
