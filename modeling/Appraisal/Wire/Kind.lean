import Appraisal.Wire.GetMeasurement
import Appraisal.Wire.Sigma
import Appraisal.Wire.SigmaEnc
import Appraisal.Wire.SpdmCertificate

/-!
# Appraisal.Wire.Kind

The eight message types, as one family.

* `Kind.Body`: the messages of a type.
* `Kind.format`: how they are read and written, for statements about all types at once.
-/

namespace Appraisal
namespace Wire

inductive Kind where
  | getMeasurement
  | sigmaM1
  | sigmaM2
  | sigmaM3
  | sigmaEnc
  | sigmaEncResponse
  | psgSignature
  | spdmCertificate
deriving DecidableEq, Repr

namespace Kind

def Body : Kind → Type
  | getMeasurement => GetMeasurement
  | sigmaM1 => SigmaM1
  | sigmaM2 => SigmaM2
  | sigmaM3 => SigmaM3
  | sigmaEnc => SigmaEnc
  | sigmaEncResponse => SigmaEncResponse
  | psgSignature => Signature
  | spdmCertificate => SpdmCertificate

instance (k : Kind) : DecidableEq k.Body := by
  cases k <;> (unfold Body; infer_instance)

def format : (k : Kind) → Format k.Body
  | getMeasurement => GetMeasurement.format
  | sigmaM1 => SigmaM1.format
  | sigmaM2 => SigmaM2.format
  | sigmaM3 => SigmaM3.format
  | sigmaEnc => SigmaEnc.format
  | sigmaEncResponse => SigmaEncResponse.format
  | psgSignature => Signature.format
  | spdmCertificate => SpdmCertificate.format

def name : Kind → String
  | getMeasurement => "get_measurement"
  | sigmaM1 => "sigma_m1"
  | sigmaM2 => "sigma_m2"
  | sigmaM3 => "sigma_m3"
  | sigmaEnc => "sigma_enc"
  | sigmaEncResponse => "sigma_enc_response"
  | psgSignature => "psg_signature"
  | spdmCertificate => "spdm_certificate"

def all : List Kind :=
  [getMeasurement, sigmaM1, sigmaM2, sigmaM3, sigmaEnc, sigmaEncResponse, psgSignature,
    spdmCertificate]

def ofName? (s : String) : Option Kind := all.find? fun k => k.name == s

end Kind
end Wire
end Appraisal
