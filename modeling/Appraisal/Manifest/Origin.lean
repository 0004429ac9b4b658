import Appraisal.Certificate
import Appraisal.Cose.Sign1
import Appraisal.Dialogue

/-!
# Appraisal.Manifest.Origin

Who wrote a document. A signed one carries its signer's certificate chain and is checked with the key
of the leaf; bytes that are no signed document are an unsigned one, which is used only where unsigned
documents are accepted.

* `openManifest`: the payload of a reference manifest, and the key that signed it.
* `openRevocationList`: the payload of a list that the signer of a manifest must have signed too.
-/

namespace Appraisal
namespace Manifest

open Cose

structure Opened where
  payload : Bytes
  /-- The public key of the signer; none for an unsigned document. -/
  signerKey : Option Bytes
deriving DecidableEq, Repr

def certificates : List Cbor.Value → Except Error (List Bytes)
  | [] => .ok []
  | .bytes bs :: vs =>
    match certificates vs with
    | .ok bss => .ok (bs :: bss)
    | .error e => .error e
  | _ :: _ => .error (.invalidManifest .chainEntryNotBytes)

/-- The chain of a signer, which is one certificate or a list of them. -/
def chainOf : Option Cbor.Value → Except Error (List Bytes)
  | some (.bytes bs) => .ok [bs]
  | some (.array vs) => certificates vs
  | some _ => .error (.invalidManifest .malformedChain)
  | none => .error (.invalidManifest .missingChain)

/-- The leaf of the chain in a signed document, and the certificates behind it. -/
def signerChain (d : Sign1) : Except Error (Bytes × List Bytes) :=
  match chainOf (d.get? Label.certificateChain) with
  | .ok [] => .error .emptyCertificateChain
  | .ok (leaf :: issuers) => .ok (leaf, issuers)
  | .error e => .error e

/-- The payload of a signed document whose signature is one under `key`. -/
def checkedPayload (kind : DocumentKind) (d : Sign1) (key : Bytes) : Dialogue Bytes :=
  match d.payload with
  | none => .fail (.invalidManifest (.detachedPayload kind))
  | some payload => do
    let valid ← Dialogue.checkSignature key (d.signedBytes payload) d.signature
    if valid then pure payload else .fail (.signatureInvalid kind)

def unsigned (acceptUnsigned : Bool) (kind : DocumentKind) (document : Bytes) : Dialogue Bytes :=
  if acceptUnsigned then pure document else .fail (.unsigned kind)

/-- The payload of a reference manifest and the key that signed it. -/
def openManifest (acceptUnsigned : Bool) (document : Bytes) : Dialogue Opened :=
  match Sign1.decode? document with
  | none => do
    let payload ← unsigned acceptUnsigned .referenceManifest document
    pure { payload, signerKey := none }
  | some d => do
    let (leaf, issuers) ← signerChain d
    let trusted ← Dialogue.isTrusted (leaf :: issuers)
    if trusted then do
      let certificate ← Certificate.read leaf
      let key := certificate.publicKeyInfo
      let payload ← checkedPayload .referenceManifest d key
      pure { payload, signerKey := some key }
    else .fail .untrustedSigner

/-- The payload of a revocation list. A signed one needs a signed manifest, whose key it is checked
with. -/
def openRevocationList (acceptUnsigned : Bool) (document : Bytes) (signerKey : Option Bytes) :
    Dialogue Bytes :=
  match Sign1.decode? document, signerKey with
  | none, _ => unsigned acceptUnsigned .revocationList document
  | some _, none => .fail (.signatureInvalid .revocationList)
  | some d, some key => checkedPayload .revocationList d key

end Manifest
end Appraisal
