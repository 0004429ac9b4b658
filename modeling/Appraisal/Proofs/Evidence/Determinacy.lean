import Appraisal.Proofs.Attestation
import Appraisal.Proofs.Wire.Binding

/-!
# Appraisal.Proofs.Evidence.Determinacy

What is collected from evidence depends on the signed bytes and on the certificate chain alone. All
else of a response, what the verifier is set up with and what its services answer decide at most
whether anything is collected.

* `Evidence.Carries`: what evidence decodes to, authentic or not.
* `measurements_of_collect`: what is collected is what the response and the chain say.
* `collect_determined`: two verifiers that collect from evidence with the same chain and the same
  signed bytes collect the same.
-/

namespace Appraisal

open Measurement Wire

/-- What a signature leaves out does not change what it covers. -/
theorem Wire.GetMeasurement.signable_withUnsignedOf (x y : GetMeasurement) :
    GetMeasurement.format.signable (x.withUnsignedOf y) = GetMeasurement.format.signable x := rfl

namespace Evidence

/-- The chain and the response that evidence decodes to. -/
structure Carries (e : Evidence) (chain : List Bytes) (response : GetMeasurement) : Prop where
  chain : e.certificateChain.mapM Base64.decode? = some chain
  response : ∃ bytes, Base64.decode? e.measurementResponse = some bytes ∧
    GetMeasurement.format.parse .firmware bytes = .ok response

/-- What is reported is under the signature. -/
theorem measurements_withUnsignedOf (x y : GetMeasurement) (chain : List Bytes) :
    measurements (x.withUnsignedOf y) chain = measurements x chain := rfl

section Collect

variable {σ : Type} {answer : (q : Query) → StateM σ q.Reply} {start : σ} {s : Settings} {e : Evidence}
  {chain : List Bytes} {response : GetMeasurement} {a : Aggregate}

theorem Acceptance.carries (o : Acceptance s e) : e.Carries (o.leaf :: o.issuers) o.response :=
  ⟨o.chain, o.bytes, o.decodes, o.parses⟩

theorem Carries.unique {chain' : List Bytes} {response' : GetMeasurement}
    (h : e.Carries chain response) (h' : e.Carries chain' response') :
    chain = chain' ∧ response = response' := by
  obtain ⟨bytes, hbytes, hparse⟩ := h.response
  obtain ⟨bytes', hbytes', hparse'⟩ := h'.response
  obtain rfl : bytes = bytes' := Option.some.inj (hbytes.symm.trans hbytes')
  exact ⟨Option.some.inj (h.chain.symm.trans h'.chain), Except.ok.inj (hparse.symm.trans hparse')⟩

theorem exists_carries (h : ((e.collect s).run answer start).1 = .ok a) :
    ∃ chain response, e.Carries chain response ∧ measurements response chain = .ok a := by
  obtain ⟨t, hrun⟩ := Dialogue.runs_run answer (e.collect s) start
  rw [h] at hrun
  obtain ⟨o, -, ha⟩ := collect_runs_ok.mp hrun
  exact ⟨_, _, o.carries, ha⟩

theorem measurements_of_collect (he : e.Carries chain response)
    (h : ((e.collect s).run answer start).1 = .ok a) : measurements response chain = .ok a := by
  obtain ⟨chain', response', he', ha⟩ := exists_carries h
  obtain ⟨rfl, rfl⟩ := he.unique he'
  exact ha

end Collect
end Evidence

/-- Evidence with the same chain and the same signed bytes leads to the same measurements, whichever
verifiers collect them with whatever services. -/
theorem collect_determined {e e' : Evidence} {chain : List Bytes} {x y : GetMeasurement}
    (he : e.Carries chain x) (he' : e'.Carries chain y)
    (hsigned : GetMeasurement.format.signable x = GetMeasurement.format.signable y)
    {σ σ' : Type} {answer : (q : Query) → StateM σ q.Reply} {start : σ}
    {answer' : (q : Query) → StateM σ' q.Reply} {start' : σ'} {s s' : Settings} {a a' : Aggregate}
    (ha : ((e.collect s).run answer start).1 = .ok a)
    (ha' : ((e'.collect s').run answer' start').1 = .ok a') : a = a' := by
  obtain ⟨bytes, -, hparse⟩ := he.response
  have hx := GetMeasurement.signable_of_parse hparse
  have hy := hsigned.symm.trans hx
  have hsame : x.withUnsignedOf y = y := Kind.withUnsignedOf_eq (k := .getMeasurement) hx hy
  have hmeasured := Evidence.measurements_of_collect he ha
  rw [← Evidence.measurements_withUnsignedOf x y, hsame] at hmeasured
  exact Except.ok.inj (hmeasured.symm.trans (Evidence.measurements_of_collect he' ha'))

namespace Sample

/-- The response that reports the state of the device as one byte. -/
def response : GetMeasurement :=
  { GetMeasurement.zero with
    numberOfMeasurementBlocks := 1, measurementRecord := [1, 0, 0, 9, 0, 0, 0, 0, 0xAB] }

/-- The same response with all that is not signed changed. -/
def altered : GetMeasurement :=
  { response with
    header.reservedHeader := [4, 0, 0, 0]
    signature := { Signature.zero .secp384r1 with r := 4 :: Bytes.zeros 47 }
    mac := Bytes.zeros 47 ++ [1] }

@[irreducible] def alteredDigits : List Char :=
  "BAAAADUab4w".toList ++ List.replicate 747 'A' ++
    "EACQABAAAJAAAAAKsgFYh0AAAAAAAAAAAwMnFU".toList ++ 'B' :: List.replicate 190 'A' ++ ['B']

@[irreducible] def alteredEvidence : Evidence :=
  ⟨String.ofList alteredDigits, evidence.certificateChain⟩

theorem decode_evidence :
    Base64.decode? evidence.measurementResponse = Base64.decodeDigits? digits := by
  rw [evidence, Base64.decode?, String.toList_ofList]

theorem decode_alteredEvidence :
    Base64.decode? alteredEvidence.measurementResponse = Base64.decodeDigits? alteredDigits := by
  rw [alteredEvidence, Base64.decode?, String.toList_ofList]

/-- The message in the digits of a response. -/
def parse (digits : List Char) : Option GetMeasurement :=
  (Base64.decodeDigits? digits).bind fun bytes =>
    (GetMeasurement.format.parse .firmware bytes).toOption

theorem parse_digits : parse digits = some response := by decide +kernel

theorem parse_alteredDigits : parse alteredDigits = some altered := by decide +kernel

/-- Evidence carries what its digits parse to. -/
theorem carries_of_parse {e : Evidence} {digits : List Char} {chain : List Bytes}
    {m : GetMeasurement} (hchain : e.certificateChain.mapM Base64.decode? = some chain)
    (hdecode : Base64.decode? e.measurementResponse = Base64.decodeDigits? digits)
    (h : parse digits = some m) : e.Carries chain m := by
  obtain ⟨bytes, hbytes, hparse⟩ := Option.bind_eq_some_iff.mp h
  exact ⟨hchain, bytes, hdecode.trans hbytes, except_eq_ok_of_toOption hparse⟩

theorem exists_eq_ok {α : Type} {x : Except Error α} (h : x.isOk = true) : ∃ a, x = .ok a := by
  cases x with
  | error e => cases h
  | ok a => exact ⟨a, rfl⟩

theorem collect_evidence : ∃ a, ((evidence.collect settings).run session ()).1 = .ok a := by
  apply exists_eq_ok
  rw [Evidence.collect, Evidence.decodeText, decode_evidence]
  decide +kernel

theorem collect_alteredEvidence :
    ∃ a, ((alteredEvidence.collect {}).run session ()).1 = .ok a := by
  apply exists_eq_ok
  rw [Evidence.collect, Evidence.decodeText, decode_alteredEvidence]
  decide +kernel

end Sample

/-- Two responses that differ in all that is not signed, one of them under an authentication code. -/
theorem collect_determined_altered :
    ∃ chain a, Sample.evidence.Carries chain Sample.response ∧
      Sample.alteredEvidence.Carries chain Sample.altered ∧
      GetMeasurement.format.signable Sample.response =
        GetMeasurement.format.signable Sample.altered ∧
      ((Sample.evidence.collect Sample.settings).run Sample.session ()).1 = .ok a ∧
      ((Sample.alteredEvidence.collect {}).run Sample.session ()).1 = .ok a := by
  obtain ⟨a, ha⟩ := Sample.collect_evidence
  obtain ⟨a', ha'⟩ := Sample.collect_alteredEvidence
  obtain ⟨chain, _, hcarries, -⟩ := Evidence.exists_carries ha
  have hchain : Sample.alteredEvidence.certificateChain.mapM Base64.decode? = some chain := by
    rw [Sample.alteredEvidence]
    exact hcarries.chain
  have he : Sample.evidence.Carries chain Sample.response :=
    Sample.carries_of_parse hcarries.chain Sample.decode_evidence Sample.parse_digits
  have he' : Sample.alteredEvidence.Carries chain Sample.altered :=
    Sample.carries_of_parse hchain Sample.decode_alteredEvidence Sample.parse_alteredDigits
  have hsigned : GetMeasurement.format.signable Sample.response =
      GetMeasurement.format.signable Sample.altered :=
    (Sample.response.signable_withUnsignedOf Sample.altered).symm
  obtain rfl := collect_determined he he' hsigned ha ha'
  exact ⟨chain, a, he, he', hsigned, ha, ha'⟩

end Appraisal
