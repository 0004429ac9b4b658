import Appraisal.Evidence.Collect
import Appraisal.Wire.SigmaEnc

/-!
# Appraisal.Evidence.Encrypted

Encrypted responses of a session. One is decrypted only after its authentication code is right.

* `plaintext?`: the plaintext of a response without its padding; none for a bare header.
-/

namespace Appraisal
namespace Evidence

def dropPadding (padding : Nat) (plaintext : Bytes) : Except Error Bytes :=
  if padding ≤ plaintext.length then .ok (plaintext.take (plaintext.length - padding))
  else .error (.excessPadding padding plaintext.length)

/-- Checks the authentication code of a message, if there is a service for it. -/
def checkCovered (s : Settings) (m : Wire.SigmaEnc) : Dialogue Unit :=
  if s.hasMac then do
    let covered ← ofWire (Wire.SigmaEnc.format.macable m)
    checkMac covered m.mac
  else pure ()

def plaintext? (s : Settings) : Wire.SigmaEncResponse → Dialogue (Option Bytes)
  | .headerOnly _ => pure none
  | .encrypted m =>
    if s.hasDecryptor then do
      checkCovered s m
      let plaintext ← Dialogue.decrypt m.initialIv m.encryptedPayload
      let plain ← dropPadding m.numberOfPaddingBytes.toNat plaintext
      pure (some plain)
    else .fail (.collaborator "no decryptor configured")

end Evidence
end Appraisal
