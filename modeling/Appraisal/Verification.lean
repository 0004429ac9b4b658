import Appraisal.Evidence.Collect
import Appraisal.Manifest.Resolve
import Appraisal.Verdict

/-!
# Appraisal.Verification

Evidence and received measurements checked against a reference document.

* `verify`: the outcome for received measurements. A document that makes no manifest is a failure of
  its own, so there always is an outcome.
* `attest`: the verdict on evidence.
-/

namespace Appraisal

open Measurement

/-- The outcome of checking received measurements against a reference document. -/
def verify (acceptUnsigned : Bool) (received : Aggregate) (document : Bytes) : Dialogue Outcome := do
  match ← (Manifest.resolve acceptUnsigned document).attempt with
  | .ok m => pure (compare received m)
  | .error e => pure ⟨some (.invalidManifest e)⟩

/-- The verdict on evidence. Evidence that fails a check is an error, and no document is looked at. -/
def attest (s : Settings) (e : Evidence) (document : Bytes) : Dialogue Verdict := do
  match ← (e.collect s).attempt with
  | .ok received => do
    let outcome ← verify s.acceptUnsigned received document
    pure outcome.verdict
  | .error _ => pure .error

end Appraisal
