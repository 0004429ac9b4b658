import Appraisal.Measurement.Aggregate
import Appraisal.Wire.Error

/-!
# Appraisal.Error

Why evidence or a reference manifest is refused. Each error is a cause; its wording is in one place.

* `TcbInfoFault`, `ManifestFault`: what is wrong inside a TCB info extension, inside a manifest.
* `Error.message`: the text of a diagnostic. Of the formats that a document is written in, it only
  names the one that the document breaks.
-/

namespace Appraisal

inductive DocumentKind where
  | referenceManifest
  | revocationList
deriving DecidableEq, Repr

def DocumentKind.name : DocumentKind → String
  | referenceManifest => "reference manifest"
  | revocationList => "revocation list"

/-- What is wrong with the content of a primitive DER value. -/
inductive DerValueFault where
  | integerTooLarge
  | invalidText
  | constructed
deriving DecidableEq, Repr

def DerValueFault.message : DerValueFault → String
  | integerTooLarge => "Integer too large to fit requested type"
  | invalidText => "Invalid encoding or forbidden characters in string"
  | constructed => "DER object was expected to be primitive (and found to be constructed)"

inductive TcbInfoFault where
  | trailingBytes (count : Nat)
  | unexpectedTag (expected actual : Nat)
  | fwidsNotConstructed
  | severalFwids
  | fwidElements (count : Nat)
  | emptyFlags
deriving DecidableEq, Repr

def TcbInfoFault.message : TcbInfoFault → String
  | trailingBytes count => s!"{count} trailing bytes"
  | unexpectedTag expected actual => s!"expected Tag({expected}), got Tag({actual})"
  | fwidsNotConstructed => "FWID list is not a sequence"
  | severalFwids => "more than one FWID"
  | fwidElements count => s!"FWID holds {count} elements"
  | emptyFlags => "empty flags"

inductive ManifestFault where
  | emptyText (field : String)
  | severalDigests (count : Nat)
  | maskWithoutValue
  | detachedPayload (document : DocumentKind)
  | chainEntryNotBytes
  | malformedChain
  | missingChain
deriving DecidableEq, Repr

def ManifestFault.message : ManifestFault → String
  | emptyText field => s!"empty value for {field}"
  | severalDigests count => s!"expected at most one digest, got {count}"
  | maskWithoutValue => "raw-value-mask without raw-value"
  | detachedPayload document => s!"{document.name} has no payload"
  | chainEntryNotBytes => "x5chain entry is not a byte string"
  | malformedChain => "malformed x5chain header"
  | missingChain => "missing x5chain header"

inductive Error where
  | wire (cause : Wire.Error)
  | json
  | url
  | base64
  | hex
  | file
  | certificate
  | der
  | derValue (cause : DerValueFault)
  | locatorFetchFailed (message target : String)
  | excessPadding (padding length : Nat)
  | invalidDigestSize (actual : Nat)
  | invalidBlockSize (expected actual : Nat)
  | trailingMeasurementData (remaining : Nat)
  | invalidTcbInfo (cause : TcbInfoFault)
  | invalidManifest (cause : ManifestFault)
  | aggregationConflict (conflict : Measurement.Conflict)
  | untrustedCertificateChain
  | emptyCertificateChain
  | signatureVerificationFailed
  | macVerificationFailed
  | verifierKeyMismatch (expected actual : Bytes)
  | unsigned (document : DocumentKind)
  | signatureInvalid (document : DocumentKind)
  | untrustedSigner
  | manifestRevoked (manifestId : String)
  | missingRevocationLocator
  | collaborator (message : String)
deriving DecidableEq, Repr

def Error.message : Error → String
  | wire cause => s!"Failed to parse device message: {cause.message}"
  | json => "Failed to parse reference manifest"
  | url => "Failed to parse locator URL"
  | base64 => "Failed to decode evidence"
  | hex => "Failed to decode hex value"
  | file => "Failed to read locator file"
  | certificate => "Failed to parse certificate"
  | der => "Failed to read DER value"
  | derValue cause => s!"Invalid ASN.1 value: {cause.message}"
  | locatorFetchFailed message target => s!"Locator fetch failed: {message}, url: {target}"
  | excessPadding padding length =>
    s!"Invalid measurement: padding of {padding} bytes exceeds payload of {length} bytes"
  | invalidDigestSize actual =>
    s!"Invalid digest size: expected 48 or 64 bytes, got {actual} bytes"
  | invalidBlockSize expected actual =>
    s!"Invalid measurement block size: expected at least {expected} bytes, got {actual} bytes"
  | trailingMeasurementData remaining =>
    s!"Measurement record not fully consumed: {remaining} bytes left"
  | invalidTcbInfo cause => s!"Invalid TCB info: {cause.message}"
  | invalidManifest cause => s!"Invalid reference manifest: {cause.message}"
  | aggregationConflict c =>
    s!"Conflicting measurement for key {c.key.debug}: existing {c.existing.debug}, " ++
      s!"new {c.new.debug}"
  | untrustedCertificateChain => "Certificate chain is not trusted"
  | emptyCertificateChain => "Certificate chain is empty"
  | signatureVerificationFailed => "Device signature verification failed"
  | macVerificationFailed => "Device MAC verification failed"
  | verifierKeyMismatch expected actual =>
    s!"Verifier DH public key mismatch: expected {Hex.lower expected}, got {Hex.lower actual}"
  | unsigned document => s!"Unsigned {document.name} is not accepted"
  | signatureInvalid document => s!"Signature verification failed for {document.name}"
  | untrustedSigner => "Reference manifest signer is not trusted"
  | manifestRevoked manifestId => s!"Reference manifest {manifestId} is revoked"
  | missingRevocationLocator => "Reference manifest has no revocation list locator"
  | collaborator message => s!"Collaborator failure: {message}"

end Appraisal
