import Appraisal.Proofs.Evidence.Acceptance
import Appraisal.Proofs.Manifest.Authenticity
import Appraisal.Proofs.Measurement.Satisfaction
import Appraisal.Verification

/-!
# Appraisal.Proofs.Attestation

What a verdict says. There always is one, and one that accepts a device stands on authentic evidence
and on a manifest that it satisfies.

* `verify_runs`, `attest_runs`: the verdict in terms of what was collected and resolved.
* `Attested`: all that stands behind a verdict that accepts a device.
* `attest_sound`: attestation never fails, and accepts no device without that.
-/

namespace Appraisal

open Measurement

section Runs

variable {t : Transcript}

/-- There is an outcome whether or not the document makes a manifest. -/
theorem verify_runs {acceptUnsigned : Bool} {received : Aggregate} {document : Bytes}
    {r : Except Error Outcome} (h : (verify acceptUnsigned received document).Runs t r) :
    (∃ m, (Manifest.resolve acceptUnsigned document).Runs t (.ok m) ∧
      r = .ok (compare received m)) ∨
    (∃ e, (Manifest.resolve acceptUnsigned document).Runs t (.error e) ∧
      r = .ok ⟨some (.invalidManifest e)⟩) := by
  obtain ⟨x, t₁, t₂, rfl, hattempt, hend⟩ | ⟨e, he, -⟩ := Dialogue.runs_bind.mp h
  · obtain ⟨y, hy, hresolve⟩ := Dialogue.runs_attempt.mp hattempt
    cases hy
    cases x with
    | ok m =>
      obtain ⟨rfl, rfl⟩ := Dialogue.runs_pure.mp hend
      exact .inl ⟨m, by simpa using hresolve, rfl⟩
    | error e =>
      obtain ⟨rfl, rfl⟩ := Dialogue.runs_pure.mp hend
      exact .inr ⟨e, by simpa using hresolve, rfl⟩
  · obtain ⟨x, hx, -⟩ := Dialogue.runs_attempt.mp he
    cases hx

theorem attest_runs {s : Settings} {e : Evidence} {document : Bytes} {r : Except Error Verdict}
    (h : (attest s e document).Runs t r) :
    (∃ received outcome first rest, t = first ++ rest ∧ (e.collect s).Runs first (.ok received) ∧
      (verify s.acceptUnsigned received document).Runs rest (.ok outcome) ∧
      r = .ok outcome.verdict) ∨
    (∃ err, (e.collect s).Runs t (.error err) ∧ r = .ok .error) := by
  obtain ⟨x, t₁, t₂, rfl, hattempt, hend⟩ | ⟨err, herr, -⟩ := Dialogue.runs_bind.mp h
  · obtain ⟨y, hy, hcollect⟩ := Dialogue.runs_attempt.mp hattempt
    cases hy
    cases x with
    | ok received =>
      obtain ⟨outcome, t₃, t₄, rfl, hverify, hr⟩ | ⟨err, herr, -⟩ := Dialogue.runs_bind.mp hend
      · obtain ⟨rfl, rfl⟩ := Dialogue.runs_pure.mp hr
        exact .inl ⟨received, outcome, t₁, t₃, by simp, hcollect, hverify, rfl⟩
      · obtain ⟨m, -, hm⟩ | ⟨e', -, he'⟩ := verify_runs herr
        · cases hm
        · cases he'
    | error err =>
      obtain ⟨rfl, rfl⟩ := Dialogue.runs_pure.mp hend
      exact .inr ⟨err, by simpa using hcollect, rfl⟩
  · obtain ⟨x, hx, -⟩ := Dialogue.runs_attempt.mp herr
    cases hx

end Runs

/-- All that stands behind a verdict that accepts a device. -/
structure Attested (s : Settings) (e : Evidence) (document : Bytes) (t : Transcript)
    extends Evidence.Acceptance s e where
  resolution : Transcript
  manifest : Manifest
  reported : List Record
  certified : List (List Record)
  received : Aggregate
  /-- The evidence was checked, and then the document was resolved. -/
  asked : t = toAcceptance.checks ++ resolution
  resolves : (Manifest.resolve s.acceptUnsigned document).Runs resolution (.ok manifest)
  reports : DeviceReport.ofResponse response = .ok reported
  certifies : (leaf :: issuers).mapM tcbRecords = .ok certified
  merges : received.Merges (reported ++ certified.flatten)
  satisfied : ∀ r ∈ manifest.records, r.SatisfiedBy received

theorem attested_of_runs {s : Settings} {e : Evidence} {document : Bytes} {t : Transcript}
    (h : (attest s e document).Runs t (.ok .ok)) : Nonempty (Attested s e document t) := by
  obtain ⟨received, outcome, first, rest, rfl, hcollect, hverify, hr⟩ | ⟨err, -, hr⟩ := attest_runs h
  · obtain ⟨o, rfl, hreceived⟩ := Evidence.collect_runs_ok.mp hcollect
    obtain ⟨reported, certified, hreports, hcertifies, hmerges⟩ :=
      Evidence.merges_of_measurements hreceived
    have hverdict : outcome.verdict = .ok := (Except.ok.inj hr).symm
    obtain ⟨m, hresolve, hm⟩ | ⟨err, -, hm⟩ := verify_runs hverify
    · cases hm
      exact ⟨⟨o, rest, m, reported, certified, received, rfl, hresolve, hreports, hcertifies, hmerges,
        compare_eq_ok_iff.mp hverdict⟩⟩
    · cases hm
      cases hverdict
  · cases hr

/-- With any services, attestation ends in a verdict; and a verdict that accepts the device stands
on what the services were asked and answered. -/
theorem attest_sound {σ : Type} (answer : (q : Query) → StateM σ q.Reply) (start : σ)
    (s : Settings) (e : Evidence) (document : Bytes) :
    ∃ v t final, (attest s e document).run answer start = (.ok v, final) ∧
      Dialogue.Heard answer t start final ∧
      (v = .ok → Nonempty (Attested s e document t)) := by
  obtain ⟨t, hrun, hheard⟩ := Dialogue.run_eq_iff.mp
    (rfl : (attest s e document).run answer start = (_, _))
  have hv : ∃ v, ((attest s e document).run answer start).1 = .ok v := by
    obtain ⟨_, outcome, _, _, _, _, _, hr⟩ | ⟨_, _, hr⟩ := attest_runs hrun
    · exact ⟨_, hr⟩
    · exact ⟨_, hr⟩
  obtain ⟨v, hv⟩ := hv
  refine ⟨v, t, _, Prod.ext hv rfl, hheard, ?_⟩
  rintro rfl
  rw [hv] at hrun
  exact attested_of_runs hrun

namespace Sample

/-- The digits of a response that reports the state of the device as one byte. -/
@[irreducible] def digits : List Char :=
  "AAAAADUab4w".toList ++ List.replicate 747 'A' ++
    "EACQABAAAJAAAAAKsgFYh0AAAAAAAAAAAwMnFU".toList ++ List.replicate 192 'A'

/-- The response over a certificate that has nothing but what it needs. -/
@[irreducible] def evidence : Evidence where
  measurementResponse := String.ofList digits
  certificateChain :=
    ["MEAwNgIBATADBgEqMAAwHhcNMjEwMTAxMDAwMDAwWhcNMjEwMTAxMDAwMDAwWjAAMAgwAwYBKgMBADADBgEqAwEA"]

/-- A document that expects this state. -/
def reference : Bytes :=
  Utf8.encode ("\x7b\"reference-triples\":[\x7b\"environment\":\x7b\"vendor\":\"intel.com\","
    ++ "\"layer\":2,\"type\":\"2.16.840.1.113741.1.15.4.1\"\x7d,"
    ++ "\"measurement\":\x7b\"raw-value\":\"ab\"\x7d\x7d]\x7d")

def settings : Settings :=
  { hasMac := true, expectedVerifierKey := some (Bytes.zeros 96), acceptUnsigned := true }

/-- Services that trust everyone, and whose authentication codes are zero. -/
def session : (q : Query) → StateM Unit q.Reply
  | .isTrusted _ => pure true
  | .checkSignature _ _ _ => pure (.ok true)
  | .fetch _ => pure (.error .json)
  | .computeMac _ => pure (.ok (Bytes.zeros 48))
  | .decrypt _ _ => pure (.error .json)

theorem attest_evidence :
    ((attest settings evidence reference).run session ()).1.toOption = some .ok := by
  have hdecode : Base64.decode? evidence.measurementResponse = Base64.decodeDigits? digits := by
    rw [evidence, Base64.decode?, String.toList_ofList]
  rw [attest, Evidence.collect, Evidence.decodeText, hdecode]
  decide +kernel

end Sample

/-- There is evidence that is accepted. -/
theorem attest_sound_sample :
    ∃ t, Nonempty (Attested Sample.settings Sample.evidence Sample.reference t) := by
  obtain ⟨v, t, final, hrun, -, hok⟩ :=
    attest_sound Sample.session () Sample.settings Sample.evidence Sample.reference
  have hv := Sample.attest_evidence
  rw [hrun] at hv
  exact ⟨t, hok (Option.some.inj hv)⟩

end Appraisal
