import Appraisal.Proofs.Evidence.Determinacy

/-!
# Appraisal.Proofs.Evidence.Gates

The order of the checks on evidence. Each service is asked once at most, and only when what came before
it went well; the first that does not answer so is the last that is asked.

* `Gate`: what may be asked behind what was answered, with the answer that lets the collection go on.
* `gated_collect`: the questions of the collection pass their gates, whatever is answered.
* `collect_gated`: so they do with any services, and what is collected is the merge of what the
  evidence says, exactly when all checks pass.
-/

namespace Appraisal

open Measurement Wire

/-- The services that a verifier relies on. -/
inductive Service where
  | chains
  | signatures
  | documents
  | codes
  | decryption
deriving DecidableEq, Repr

/-- The service that answers a question. -/
def Query.service : Query → Service
  | isTrusted _ => .chains
  | checkSignature _ _ _ => .signatures
  | fetch _ => .documents
  | computeMac _ => .codes
  | decrypt _ _ => .decryption

namespace Evidence

/-- What may be asked about evidence behind what was said before, with the answer that lets the
collection go on. -/
inductive Gate (s : Settings) (e : Evidence) : Transcript → Exchange → Prop
  /-- All texts are decoded, and the chain has a leaf. -/
  | trust {bytes leaf : Bytes} {issuers : List Bytes}
      (decodes : Base64.decode? e.measurementResponse = some bytes)
      (chain : e.certificateChain.mapM Base64.decode? = some (leaf :: issuers)) :
      Gate s e [] ⟨.isTrusted (leaf :: issuers), true⟩
  /-- The chain is trusted, and the response is parsed. -/
  | signature {leaf : Bytes} {issuers : List Bytes} {response : GetMeasurement}
      {certificate : Certificate} {signed : Bytes}
      (carries : e.Carries (leaf :: issuers) response)
      (reads : Certificate.read leaf = .ok certificate)
      (signable : GetMeasurement.format.signable response = .ok signed) :
      Gate s e [⟨.isTrusted (leaf :: issuers), true⟩]
        ⟨.checkSignature certificate.publicKeyInfo signed response.signature.raw, .ok true⟩
  /-- The signature is valid. -/
  | session {leaf : Bytes} {issuers : List Bytes} {response : GetMeasurement}
      {certificate : Certificate} {signed covered : Bytes}
      (carries : e.Carries (leaf :: issuers) response)
      (reads : Certificate.read leaf = .ok certificate)
      (signable : GetMeasurement.format.signable response = .ok signed)
      (hasMac : s.hasMac = true)
      (macable : GetMeasurement.format.macable response = .ok covered) :
      Gate s e
        [⟨.isTrusted (leaf :: issuers), true⟩,
          ⟨.checkSignature certificate.publicKeyInfo signed response.signature.raw, .ok true⟩]
        ⟨.computeMac covered, .ok response.mac⟩

section Steps

variable {gate : Transcript → Exchange → Prop} {before : Transcript} {s : Settings}
  {response : GetMeasurement}

theorem gated_checkMac {data mac : Bytes} (h : gate before ⟨.computeMac data, .ok mac⟩) :
    (checkMac data mac).Gated gate before := by
  refine ⟨.ok mac, h, ?_, ?_⟩
  · show (if mac = mac then pure () else Dialogue.fail _ : Dialogue Unit).Gated gate _
    rw [if_pos rfl]
    trivial
  · intro reply hne
    cases reply with
    | error err => exact ⟨err, rfl⟩
    | ok computed =>
      have hmac : computed ≠ mac := fun heq => hne (congrArg Except.ok heq)
      exact ⟨.macVerificationFailed, if_neg hmac⟩

theorem gated_checkSession
    (h : ∀ covered, s.hasMac = true → GetMeasurement.format.macable response = .ok covered →
      gate before ⟨.computeMac covered, .ok response.mac⟩) :
    (checkSession s response).Gated gate before := by
  unfold checkSession
  split
  · rename_i hmac
    apply Dialogue.gated_lift_bind
    intro covered hcovered
    exact gated_checkMac (h covered hmac (ofWire_eq_ok_iff.mp hcovered))
  · trivial

theorem gated_checkSignature {leaf : Bytes}
    (h : ∀ certificate signed, Certificate.read leaf = .ok certificate →
      GetMeasurement.format.signable response = .ok signed →
      gate before
        ⟨.checkSignature certificate.publicKeyInfo signed response.signature.raw, .ok true⟩) :
    (checkSignature leaf response).Gated gate before := by
  apply Dialogue.gated_lift_bind
  intro certificate hreads
  apply Dialogue.gated_lift_bind
  intro signed hsigned
  refine ⟨.ok true, h certificate signed hreads (ofWire_eq_ok_iff.mp hsigned), trivial, ?_⟩
  intro reply hne
  match reply with
  | .error err => exact ⟨err, rfl⟩
  | .ok false => exact ⟨.signatureVerificationFailed, rfl⟩
  | .ok true => exact absurd rfl hne

end Steps

variable {s : Settings} {e : Evidence}

/-- Whatever is answered, each question of the collection passes its gate. -/
theorem gated_collect : (e.collect s).Gated (Gate s e) [] := by
  apply Dialogue.gated_lift_bind
  intro bytes hbytes
  have hdecodes := decodeText_eq_ok_iff.mp hbytes
  apply Dialogue.gated_lift_bind
  intro chain htexts
  have hchain := decodeTexts_eq_ok_iff.mp htexts
  cases chain with
  | nil => trivial
  | cons leaf issuers =>
    refine Dialogue.gated_isTrusted_bind (.trust hdecodes hchain) ?_
      ⟨_, if_neg Bool.false_ne_true⟩
    rw [if_pos rfl]
    apply Dialogue.gated_lift_bind
    intro response hresponse
    have hparses := ofWire_eq_ok_iff.mp hresponse
    have hcarries : e.Carries (leaf :: issuers) response := ⟨hchain, bytes, hdecodes, hparses⟩
    refine (gated_checkSignature fun _ _ => .signature hcarries).bind ?_
    intro t _ hsignature
    have hsigned := GetMeasurement.signable_of_parse hparses
    obtain ⟨certificate, hreads, rfl⟩ := (checkSignature_runs_ok hsigned).mp hsignature
    refine (gated_checkSession fun _ => .session hcarries hreads hsigned).bind ?_
    intro _ _ _
    -- Behind the session nothing is asked.
    apply Dialogue.gated_lift_bind
    intro _ _
    trivial

/-- What was asked before a gate tells which service is behind it. -/
theorem Gate.services {before : Transcript} {x : Exchange} (h : Gate s e before x) :
    (before ++ [x]).map (·.query.service) <+: [.chains, .signatures, .codes] := by
  cases h with
  | trust | signature | session => exact ⟨_, rfl⟩

theorem services_of_runs {t : Transcript} {r : Except Error Aggregate}
    (h : (e.collect s).Runs t r) :
    t.map (·.query.service) <+: [.chains, .signatures, .codes] := by
  rcases List.eq_nil_or_concat t with rfl | ⟨mid, x, ht⟩
  · exact List.nil_prefix
  · rw [List.concat_eq_append] at ht
    obtain ⟨pass, hgate, -⟩ := gated_collect.of_runs h ht
    simpa [ht] using hgate.services

end Evidence

/-- With any services, evidence is checked in one order: each service is asked once at most, and
behind its gate, where any answer but one is the end of it. There is a result exactly when the evidence
can be accepted, the services answer so and its records do not contradict each other, and it is what
adding them gives, those of the device first. -/
theorem collect_gated {σ : Type} (answer : (q : Query) → StateM σ q.Reply) (start : σ)
    (s : Settings) (e : Evidence) :
    ∃ r t final, (e.collect s).run answer start = (r, final) ∧
      Dialogue.Heard answer t start final ∧
      t.map (·.query.service) <+: [.chains, .signatures, .codes] ∧
      (∀ before x after, t = before ++ x :: after →
        ∃ pass, Evidence.Gate s e before ⟨x.query, pass⟩ ∧
          (x.reply ≠ pass → after = [] ∧ ∃ err, r = .error err)) ∧
      ∀ a, r = .ok a ↔ ∃ o : Evidence.Acceptance s e, Dialogue.Heard answer o.checks start final ∧
        ∃ reported certified, DeviceReport.ofResponse o.response = .ok reported ∧
          (o.leaf :: o.issuers).mapM tcbRecords = .ok certified ∧
          Aggregate.empty.add (reported ++ certified.flatten) = (a, none) := by
  obtain ⟨t, hrun, hheard⟩ := Dialogue.run_eq_iff.mp
    (rfl : (e.collect s).run answer start = (_, _))
  refine ⟨_, t, _, rfl, hheard, Evidence.services_of_runs hrun, ?_, ?_⟩
  · intro before x after ht
    exact Evidence.gated_collect.of_runs hrun ht
  · intro a
    simp only [← Evidence.measurements_eq_ok_iff]
    constructor
    · intro h
      rw [h] at hrun
      obtain ⟨o, rfl, ha⟩ := Evidence.collect_runs_ok.mp hrun
      exact ⟨o, hheard, ha⟩
    · intro h
      obtain ⟨o, ho, ha⟩ := h
      have hok := Dialogue.run_eq_iff.mpr ⟨_, Evidence.collect_runs_ok.mpr ⟨o, rfl, ha⟩, ho⟩
      exact congrArg Prod.fst hok

end Appraisal
