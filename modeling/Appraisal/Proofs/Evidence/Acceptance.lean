import Appraisal.Evidence.Collect
import Appraisal.Proofs.Measurement.Merge
import Appraisal.Proofs.Transcript
import Appraisal.Proofs.Wire.Coverage

/-!
# Appraisal.Proofs.Evidence.Acceptance

When evidence is accepted: what it decodes to, and what is asked about it with which answers.

* `Acceptance`: evidence in its parts, with the checks that need no service.
* `collect_runs_ok`: measurements are collected exactly when evidence can be accepted and the services
  answer so. They are those of the response and of the chain.
* `measurements_eq_ok_iff`: when the records of a response and of a chain go together.
* `merges_of_measurements`: the collected aggregate is the merge of the device's records and those of
  the certificates.
-/

namespace Appraisal

open Measurement Wire

namespace Evidence

/-- Evidence that can be accepted, in its parts. -/
structure Acceptance (s : Settings) (e : Evidence) where
  bytes : Bytes
  leaf : Bytes
  issuers : List Bytes
  response : GetMeasurement
  certificate : Certificate
  decodes : Base64.decode? e.measurementResponse = some bytes
  chain : e.certificateChain.mapM Base64.decode? = some (leaf :: issuers)
  parses : GetMeasurement.format.parse .firmware bytes = .ok response
  reads : Certificate.read leaf = .ok certificate
  echoes : ∀ key ∈ s.expectedVerifierKey, key = response.verifierDhPubKey

namespace Acceptance

variable {s : Settings} {e : Evidence}

/-- The received bytes under the signature: all behind the reserved header and in front of the
signature block. -/
def signed (o : Acceptance s e) : Bytes :=
  o.bytes.extract 4 (o.bytes.length - (o.response.signature.encodedLength + 48))

/-- The received bytes under the authentication code. -/
def covered (o : Acceptance s e) : Bytes := o.bytes.extract 4 (o.bytes.length - 48)

/-- What is asked about evidence, with the answers for evidence that is accepted. -/
def checks (o : Acceptance s e) : Transcript :=
  [⟨.isTrusted (o.leaf :: o.issuers), true⟩,
   ⟨.checkSignature o.certificate.publicKeyInfo o.signed
      (o.response.signature.r ++ o.response.signature.s), .ok true⟩] ++
  if s.hasMac then [⟨.computeMac o.covered, .ok (o.bytes.drop (o.bytes.length - 48))⟩] else []

theorem checks_eq (o : Acceptance s e) :
    o.checks = ⟨.isTrusted (o.leaf :: o.issuers), true⟩ ::
      ([⟨.checkSignature o.certificate.publicKeyInfo o.signed o.response.signature.raw, .ok true⟩] ++
        if s.hasMac then [⟨.computeMac o.covered, .ok o.response.mac⟩] else []) := by
  rw [checks, GetMeasurement.mac_of_parse o.parses]
  rfl

end Acceptance

section Steps

variable {s : Settings} {t : Transcript}

theorem decodeText_eq_ok_iff {text : String} {bs : Bytes} :
    decodeText text = .ok bs ↔ Base64.decode? text = some bs := by
  unfold decodeText
  split <;> rename_i h <;> simp [h]

theorem decodeTexts_eq_ok_iff {texts : List String} {bss : List Bytes} :
    decodeTexts texts = .ok bss ↔ texts.mapM Base64.decode? = some bss := by
  induction texts generalizing bss with
  | nil => simp [decodeTexts, eq_comm]
  | cons text texts ih =>
    simp only [decodeTexts, except_bind_eq_ok_iff, decodeText_eq_ok_iff, ih, List.mapM_cons,
      Option.bind_eq_bind, Option.bind_eq_some_iff]
    constructor
    · intro h
      obtain ⟨bs, hbs, bss', hbss, hpure⟩ := h
      cases hpure
      exact ⟨bs, hbs, bss', hbss, rfl⟩
    · intro h
      obtain ⟨bs, hbs, bss', hbss, hpure⟩ := h
      cases hpure
      exact ⟨bs, hbs, bss', hbss, rfl⟩

theorem ofWire_eq_ok_iff {α : Type} {x : Except Wire.Error α} {a : α} :
    ofWire x = .ok a ↔ x = .ok a := by
  cases x <;> simp [ofWire]

theorem checkMac_runs_ok {data mac : Bytes} :
    (checkMac data mac).Runs t (.ok ()) ↔ t = [⟨.computeMac data, .ok mac⟩] := by
  unfold checkMac
  simp only [Dialogue.runs_computeMac_bind_ok, Dialogue.runs_guard_ok, Dialogue.runs_pure]
  constructor
  · intro h
    obtain ⟨computed, rest, rfl, rfl, rfl, -⟩ := h
    rfl
  · rintro rfl
    exact ⟨mac, [], rfl, rfl, rfl, trivial⟩

theorem checkSession_runs_ok {response : GetMeasurement} {covered : Bytes}
    (h : GetMeasurement.format.macable response = .ok covered) :
    (checkSession s response).Runs t (.ok ()) ↔
      t = if s.hasMac then [⟨.computeMac covered, .ok response.mac⟩] else [] := by
  unfold checkSession
  split
  · simp [Dialogue.runs_lift_bind_ok, ofWire_eq_ok_iff, h, checkMac_runs_ok]
  · simp

theorem checkSignature_runs_ok {leaf signed : Bytes} {response : GetMeasurement}
    (h : GetMeasurement.format.signable response = .ok signed) :
    (checkSignature leaf response).Runs t (.ok ()) ↔
      ∃ certificate, Certificate.read leaf = .ok certificate ∧
        t = [⟨.checkSignature certificate.publicKeyInfo signed response.signature.raw, .ok true⟩] := by
  unfold checkSignature
  simp only [Dialogue.runs_lift_bind_ok, Dialogue.runs_checkSignature_bind_ok,
    Dialogue.runs_guard_ok, Dialogue.runs_pure, ofWire_eq_ok_iff, h]
  constructor
  · intro h
    obtain ⟨certificate, hread, _, hsigned, valid, rest, rfl, rfl, rfl, -⟩ := h
    cases hsigned
    exact ⟨certificate, hread, rfl⟩
  · intro h
    obtain ⟨certificate, hread, rfl⟩ := h
    exact ⟨certificate, hread, signed, rfl, true, [], rfl, rfl, rfl, trivial⟩

theorem checkVerifierKey_eq_ok_iff {response : GetMeasurement} :
    checkVerifierKey s response = .ok () ↔
      ∀ key ∈ s.expectedVerifierKey, key = response.verifierDhPubKey := by
  unfold checkVerifierKey
  split
  · rename_i h
    simp [h]
  · rename_i key h
    simp [h]

end Steps

/-- Measurements are collected from evidence that can be accepted, if the services answer so. -/
theorem collect_runs_ok {s : Settings} {e : Evidence} {t : Transcript} {a : Aggregate} :
    (e.collect s).Runs t (.ok a) ↔
      ∃ o : Acceptance s e, t = o.checks ∧
        measurements o.response (o.leaf :: o.issuers) = .ok a := by
  unfold collect
  simp only [Dialogue.runs_lift_bind_ok, decodeText_eq_ok_iff, decodeTexts_eq_ok_iff]
  constructor
  · intro h
    obtain ⟨bytes, hdecodes, chain, hchain, h⟩ := h
    split at h
    · simp at h
    · rename_i leaf issuers
      simp only [Dialogue.runs_isTrusted_bind_ok, Dialogue.runs_guard_ok,
        Dialogue.runs_lift_bind_ok, ofWire_eq_ok_iff] at h
      obtain ⟨trusted, rest, rfl, rfl, response, hparses, hchecks⟩ := h
      obtain ⟨⟨⟩, t₁, t₂, rfl, hsignature, hlater⟩ := Dialogue.runs_bind_ok.mp hchecks
      obtain ⟨⟨⟩, t₃, t₄, rfl, hsession, hend⟩ := Dialogue.runs_bind_ok.mp hlater
      simp only [Dialogue.runs_lift_bind_ok, Dialogue.runs_lift] at hend
      obtain ⟨⟨⟩, hkey, rfl, ha⟩ := hend
      have hsigned := GetMeasurement.signable_of_parse hparses
      have hcovered := GetMeasurement.macable_of_parse hparses
      obtain ⟨certificate, hreads, rfl⟩ := (checkSignature_runs_ok hsigned).mp hsignature
      obtain rfl := (checkSession_runs_ok hcovered).mp hsession
      let o : Acceptance s e := ⟨bytes, leaf, issuers, response, certificate, hdecodes, hchain,
        hparses, hreads, checkVerifierKey_eq_ok_iff.mp hkey⟩
      refine ⟨o, ?_, ha.symm⟩
      rw [o.checks_eq, List.append_nil]
      rfl
  · intro h
    obtain ⟨o, rfl, ha⟩ := h
    refine ⟨o.bytes, o.decodes, o.leaf :: o.issuers, o.chain, ?_⟩
    simp only [Dialogue.runs_isTrusted_bind_ok, Dialogue.runs_guard_ok,
      Dialogue.runs_lift_bind_ok, ofWire_eq_ok_iff, o.checks_eq]
    refine ⟨true, _, rfl, rfl, o.response, o.parses, ?_⟩
    have hsigned := GetMeasurement.signable_of_parse o.parses
    have hcovered := GetMeasurement.macable_of_parse o.parses
    refine Dialogue.runs_bind_ok.mpr ⟨(), _, _, rfl, ?_, ?_⟩
    · exact (checkSignature_runs_ok hsigned).mpr ⟨o.certificate, o.reads, rfl⟩
    refine Dialogue.runs_bind_ok.mpr ⟨(), _, [], (List.append_nil _).symm, ?_, ?_⟩
    · exact (checkSession_runs_ok hcovered).mpr rfl
    simp only [Dialogue.runs_lift_bind_ok, Dialogue.runs_lift]
    exact ⟨(), checkVerifierKey_eq_ok_iff.mpr o.echoes, trivial, ha.symm⟩

theorem addRecords_eq_ok_iff {a b : Aggregate} {rs : List Record} :
    addRecords a rs = .ok b ↔ a.add rs = (b, none) := by
  unfold addRecords
  split
  · rename_i hadd
    simp [hadd]
  · rename_i hadd
    simp [hadd]

/-- The records of certificates, one list for each. -/
theorem addCertificates_eq_ok_iff {a b : Aggregate} {chain : List Bytes} :
    addCertificates a chain = .ok b ↔
      ∃ rss, chain.mapM tcbRecords = .ok rss ∧ a.add rss.flatten = (b, none) := by
  induction chain generalizing a with
  | nil => simp [addCertificates, Aggregate.add, pure, Except.pure]
  | cons c cs ih =>
    simp only [addCertificates, except_bind_eq_ok_iff, addRecords_eq_ok_iff, ih, List.mapM_cons]
    constructor
    · intro h
      obtain ⟨rs, hrs, a', hadd, rss, hrss, hb⟩ := h
      refine ⟨rs :: rss, ⟨rs, hrs, rss, hrss, rfl⟩, ?_⟩
      rw [List.flatten_cons]
      exact Aggregate.add_append_eq_none_iff.mpr ⟨a', hadd, hb⟩
    · intro h
      obtain ⟨_, ⟨rs, hrs, rss, hrss, hpure⟩, hb⟩ := h
      cases hpure
      rw [List.flatten_cons] at hb
      obtain ⟨a', hadd, hb⟩ := Aggregate.add_append_eq_none_iff.mp hb
      exact ⟨rs, hrs, a', hadd, rss, hrss, hb⟩

/-- What is collected is what adding the device's records and then those of the certificates gives,
if they do not contradict each other. -/
theorem measurements_eq_ok_iff {response : GetMeasurement} {chain : List Bytes} {a : Aggregate} :
    measurements response chain = .ok a ↔
      ∃ rs rss, DeviceReport.ofResponse response = .ok rs ∧ chain.mapM tcbRecords = .ok rss ∧
        Aggregate.empty.add (rs ++ rss.flatten) = (a, none) := by
  unfold measurements
  simp only [except_bind_eq_ok_iff, addRecords_eq_ok_iff, addCertificates_eq_ok_iff,
    Aggregate.add_append_eq_none_iff]
  constructor
  · intro h
    obtain ⟨rs, hrs, a', hadd, rss, hrss, ha⟩ := h
    exact ⟨rs, rss, hrs, hrss, a', hadd, ha⟩
  · intro h
    obtain ⟨rs, rss, hrs, hrss, a', hadd, ha⟩ := h
    exact ⟨rs, hrs, a', hadd, rss, hrss, ha⟩

/-- What is collected is the merge of the device's records and those of the certificates. -/
theorem merges_of_measurements {response : GetMeasurement} {chain : List Bytes} {a : Aggregate}
    (h : measurements response chain = .ok a) :
    ∃ rs rss, DeviceReport.ofResponse response = .ok rs ∧ chain.mapM tcbRecords = .ok rss ∧
      a.Merges (rs ++ rss.flatten) := by
  obtain ⟨rs, rss, hrs, hrss, ha⟩ := measurements_eq_ok_iff.mp h
  have hmerges := Aggregate.merges_of_add Aggregate.merges_empty ha
  rw [List.nil_append] at hmerges
  exact ⟨rs, rss, hrs, hrss, hmerges⟩

end Evidence
end Appraisal
