import Appraisal.Manifest.Basic

/-!
# Appraisal.Verdict

What is concluded about a device: every expected measurement was received and agrees, one does not,
or there is nothing to compare with.

* `Record.failure?`: why received measurements do not satisfy one expected record.
* `compare`: the first such failure in the order of the manifest. A manifest that expects nothing
  accepts every device.
-/

namespace Appraisal

open Measurement

inductive Verdict where
  | ok
  | fail
  | error
deriving DecidableEq, Repr

def Verdict.name : Verdict → String
  | ok => "OK"
  | fail => "FAIL"
  | error => "ERROR"

inductive Failure where
  | missingMeasurement (key : Key)
  | mismatch (key : Key) (difference : Mismatch)
  | invalidManifest (cause : Error)
deriving DecidableEq, Repr

/-- The verdict of a failure. Only an unusable manifest is an error. -/
def Failure.verdict : Failure → Verdict
  | missingMeasurement _ => .fail
  | mismatch _ _ => .fail
  | invalidManifest _ => .error

structure Outcome where
  failure : Option Failure := none
deriving DecidableEq, Repr

def Outcome.verdict (o : Outcome) : Verdict :=
  match o.failure with
  | none => .ok
  | some f => f.verdict

/-- Why received measurements do not satisfy an expected record. -/
def Measurement.Record.failure? (received : Aggregate) (expected : Record) : Option Failure :=
  match received.get? expected.key with
  | none => some (.missingMeasurement expected.key)
  | some actual => (expected.value.firstMismatch actual).map (.mismatch expected.key)

/-- Checks received measurements against the records of a manifest, in their order. -/
def compare (received : Aggregate) (m : Manifest) : Outcome :=
  ⟨m.records.findSome? (Record.failure? received)⟩

end Appraisal
