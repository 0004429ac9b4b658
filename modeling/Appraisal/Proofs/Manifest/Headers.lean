import Appraisal.Proofs.Cose.SignedBytes
import Appraisal.Proofs.Evidence.Gates
import Appraisal.Proofs.Manifest.Authenticity
import Appraisal.Verification

/-!
# Appraisal.Proofs.Manifest.Headers

Headers that no signature covers. A signed document is checked by what its signature covers: as long as the
covered header names the chain, the other header decides nothing, nor does the way in which the document is
written.

* `SameCovered`: signed documents that differ in what no signature covers at most.
* `SameCovered.of_signedBytes`: documents with one signature over the same signed bytes are such.
* `SameCovered.covered`: their covered headers are the same, however deep either of them was read.
* `asks_attest`: what holds of chains with a leaf and of all other questions holds of all that is asked.
* `openManifest_eq_of_covered`: such documents are opened in the same way, whatever the services answer.
-/

namespace Appraisal
namespace Cose

/-- The covered bytes, the payload and the signature of two documents are the same. -/
structure SameCovered (d d' : Sign1) : Prop where
  coveredBytes : d'.coveredBytes = d.coveredBytes
  payload : d'.payload = d.payload
  signature : d'.signature = d.signature

/-- One signature over the same signed bytes leaves no more than that to differ in. -/
theorem SameCovered.of_signedBytes {d d' : Sign1} {payload payload' : Bytes}
    (hcovered : d.coveredBytes.length < Bytes.count 8) (hsize : payload.length < Bytes.count 8)
    (hcovered' : d'.coveredBytes.length < Bytes.count 8) (hsize' : payload'.length < Bytes.count 8)
    (hpayload : d.payload = some payload) (hpayload' : d'.payload = some payload')
    (hbytes : d'.signedBytes payload' = d.signedBytes payload) (hsignature : d'.signature = d.signature) :
    SameCovered d d' := by
  obtain ⟨hheader, rfl⟩ := Sign1.signedBytes_inj hcovered' hsize' hcovered hsize hbytes
  exact ⟨hheader, hpayload'.trans hpayload.symm, hsignature⟩

section Headers

variable {m n : Nat} {v : Cbor.Value} {h h' : Header} {bs bs' : Bytes} {d d' : Sign1} {label : Label}

/-- The parameters of a header are the entries of its map. -/
theorem Header.entries_of_ofValue? (hv : Header.ofValue? n v = some h) :
    ∃ es, v = .map es ∧ labelled? es = some h.parameters := by
  unfold ofValue? at hv
  split at hv
  · cases hv
  · split at hv
    · cases hv
    · rename_i ps hps
      split at hv
      · cases hv
        exact ⟨_, rfl, hps⟩
      · cases hv
  · cases hv

/-- The depth to which a header is read has no influence on what is read. -/
theorem Header.ofValue?_unique (hm : Header.ofValue? m v = some h) (hn : Header.ofValue? n v = some h') :
    h = h' := by
  obtain ⟨es, rfl, hes⟩ := entries_of_ofValue? hm
  obtain ⟨_, heq, hes'⟩ := entries_of_ofValue? hn
  cases heq
  obtain ⟨ps⟩ := h
  obtain ⟨ps'⟩ := h'
  cases hes.symm.trans hes'
  rfl

theorem Sign1.headerOfBytes?_unique (hm : headerOfBytes? m bs = some h)
    (hn : headerOfBytes? n bs = some h') : h = h' := by
  unfold headerOfBytes? at hm hn
  split at hm
  · rename_i hempty
    rw [if_pos hempty] at hn
    cases hm
    cases hn
    rfl
  · rename_i hempty
    rw [if_neg hempty] at hn
    obtain ⟨v, hv, hm⟩ := Option.bind_eq_some_iff.mp hm
    obtain ⟨v', hv', hn⟩ := Option.bind_eq_some_iff.mp hn
    cases hv.symm.trans hv'
    exact Header.ofValue?_unique hm hn

theorem Sign1.covered_of_ofValue? (hv : Sign1.ofValue? n v = some d) :
    headerOfBytes? n d.coveredBytes = some d.covered := by
  unfold ofValue? at hv
  split at hv
  · simp only [Option.bind_eq_bind, Option.bind_eq_some_iff] at hv
    obtain ⟨payload, -, uncovered, -, covered, hcovered, hd⟩ := hv
    cases hd
    exact hcovered
  · cases hv

theorem Sign1.covered_of_decode? (hd : Sign1.decode? bs = some d) :
    headerOfBytes? bs.length d.coveredBytes = some d.covered := by
  unfold decode? at hd
  split at hd
  · split at hd
    · exact covered_of_ofValue? hd
    · cases hd
  · exact covered_of_ofValue? hd
  · cases hd

theorem SameCovered.covered (hsame : SameCovered d d') (hd : Sign1.decode? bs = some d)
    (hd' : Sign1.decode? bs' = some d') : d'.covered = d.covered := by
  have hcovered := Sign1.covered_of_decode? hd'
  rw [hsame.coveredBytes] at hcovered
  exact Sign1.headerOfBytes?_unique hcovered (Sign1.covered_of_decode? hd)

theorem Sign1.get?_of_has (hlabel : d.covered.has label = true) : d.get? label = d.covered.get? label := by
  rw [Header.has, List.any_eq_true, ← List.find?_isSome] at hlabel
  obtain ⟨p, hp⟩ := Option.isSome_iff_exists.mp hlabel
  rw [get?, Header.get?, hp]
  rfl

end Headers
end Cose

namespace Manifest

open Cose

section Documents

variable {acceptUnsigned : Bool} {document document' : Bytes} {d d' : Sign1}

theorem checkedPayload_eq_of_same (hsame : SameCovered d d') (kind : DocumentKind) (key : Bytes) :
    checkedPayload kind d' key = checkedPayload kind d key := by
  simp only [checkedPayload, Sign1.signedBytes, hsame.payload, hsame.signature, hsame.coveredBytes]

theorem signerChain_eq_of_covered (hcovered : d'.covered = d.covered)
    (hchain : d.covered.has Label.certificateChain = true) : signerChain d' = signerChain d := by
  have hchain' : d'.covered.has Label.certificateChain = true := by rwa [hcovered]
  rw [signerChain, signerChain, Sign1.get?_of_has hchain, Sign1.get?_of_has hchain', hcovered]

theorem openManifest_eq_of_same (hd : Sign1.decode? document = some d)
    (hd' : Sign1.decode? document' = some d') (hsame : SameCovered d d')
    (hchain : d.covered.has Label.certificateChain = true) :
    openManifest acceptUnsigned document' = openManifest acceptUnsigned document := by
  rw [openManifest, openManifest, hd, hd']
  simp only [signerChain_eq_of_covered (hsame.covered hd hd') hchain, checkedPayload_eq_of_same hsame]

theorem openRevocationList_eq_of_same (hd : Sign1.decode? document = some d)
    (hd' : Sign1.decode? document' = some d') (hsame : SameCovered d d') (signerKey : Option Bytes) :
    openRevocationList acceptUnsigned document' signerKey =
      openRevocationList acceptUnsigned document signerKey := by
  unfold openRevocationList
  rw [hd, hd']
  cases signerKey with
  | none => rfl
  | some key => exact checkedPayload_eq_of_same hsame .revocationList key

end Documents
end Manifest

/-- A chain that is asked about has a leaf. -/
def Query.HasLeaf (q : Query) : Prop := ∀ chain, q = .isTrusted chain → chain ≠ []

section Questions

variable {P : Query → Prop} (hchain : ∀ leaf issuers, P (.isTrusted (leaf :: issuers)))
  (hsignature : ∀ key data signature, P (.checkSignature key data signature))
  (hfetch : ∀ url, P (.fetch url)) (hmac : ∀ data, P (.computeMac data))

include hchain hsignature hmac in
theorem Evidence.asks_collect {s : Settings} {e : Evidence} : (e.collect s).Asks P := by
  refine gated_collect.asks ?_
  intro said x hgate
  cases hgate with
  | trust => exact hchain _ _
  | signature => exact hsignature _ _ _
  | session => exact hmac _

include hchain hsignature hfetch in
theorem asks_verify {acceptUnsigned : Bool} {received : Measurement.Aggregate} {document : Bytes} :
    (verify acceptUnsigned received document).Asks P := by
  refine (Manifest.asks_resolve hsignature hchain hfetch).attempt.bind ?_
  intro resolved
  cases resolved with
  | ok m => trivial
  | error e => trivial

include hchain hsignature hfetch hmac in
/-- All that is asked to reach a verdict on evidence. -/
theorem asks_attest {s : Settings} {e : Evidence} {document : Bytes} : (attest s e document).Asks P := by
  refine (Evidence.asks_collect hchain hsignature hmac).attempt.bind ?_
  intro collected
  cases collected with
  | ok received => exact (asks_verify hchain hsignature hfetch).bind fun _ => trivial
  | error err => trivial

end Questions

namespace Manifest

open Cose

/-- Two signed documents with the same covered bytes, payload and signature are opened by the same questions, with
the same results, if their covered header names the chain. So nothing in the other header has an influence, nor
has the tag; and lists of revoked manifests are opened in the same way in any case, as no chain is looked up
for them. A chain that is asked about always has a leaf. -/
theorem openManifest_eq_of_covered (acceptUnsigned : Bool) :
    (∀ document document' d d', Sign1.decode? document = some d → Sign1.decode? document' = some d' →
      SameCovered d d' →
      (d.covered.has Label.certificateChain = true →
        openManifest acceptUnsigned document' = openManifest acceptUnsigned document) ∧
      ∀ signerKey, openRevocationList acceptUnsigned document' signerKey =
        openRevocationList acceptUnsigned document signerKey) ∧
    (∀ document, (openManifest acceptUnsigned document).Asks Query.HasLeaf ∧
      ∀ signerKey, (openRevocationList acceptUnsigned document signerKey).Asks Query.HasLeaf) ∧
    ∀ s e document, (attest s e document).Asks Query.HasLeaf := by
  have hchain : ∀ leaf issuers, Query.HasLeaf (.isTrusted (leaf :: issuers)) := by
    intro leaf issuers chain h
    cases h
    exact List.cons_ne_nil leaf issuers
  have hsignature : ∀ key data signature, Query.HasLeaf (.checkSignature key data signature) :=
    fun _ _ _ _ => nofun
  refine ⟨?_, ?_, ?_⟩
  · intro document document' d d' hd hd' hsame
    exact ⟨openManifest_eq_of_same hd hd' hsame, openRevocationList_eq_of_same hd hd' hsame⟩
  · intro document
    exact ⟨asks_openManifest hsignature hchain, fun _ => asks_openRevocationList hsignature⟩
  · intro s e document
    exact asks_attest hchain hsignature (fun _ _ => nofun) (fun _ _ => nofun)

namespace Sample

open Cbor

/-- The parts of a document with the given headers. -/
def parts (covered uncovered : Bytes) (payload : String) : Bytes :=
  encodeArray [encodeBytes covered, uncovered, encodeBytes (Utf8.encode payload), encodeBytes [0]]

/-- A header that names a chain of one certificate. -/
def naming (certificate : Bytes) : Bytes :=
  Head.encode 5 1 ++ Head.encode 0 33 ++ encodeBytes certificate

end Sample

/-- A tagged document with another chain in the header that is not covered. -/
theorem openManifest_eq_of_covered_tagged :
    let document := Sample.parts (Sample.naming Sample.certificate) (Cbor.Head.encode 5 0) "\x7b\x7d"
    let document' :=
      Cbor.Head.encode 6 18 ++ Sample.parts (Sample.naming Sample.certificate) (Sample.naming [0]) "\x7b\x7d"
    (∃ d d', Sign1.decode? document = some d ∧ Sign1.decode? document' = some d' ∧ SameCovered d d' ∧
      d.covered.has Label.certificateChain = true ∧ d'.uncovered.has Label.certificateChain = true) ∧
      openManifest false document' = openManifest false document ∧
      (((openManifest false document').result Sample.services).toOption.map (·.payload)) =
        some (Utf8.encode "\x7b\x7d") := by
  intro document document'
  have hfields : (Sign1.decode? document).map (fun d => (d.coveredBytes, d.payload, d.signature,
      d.covered.has Label.certificateChain)) =
      some (Sample.naming Sample.certificate, some (Utf8.encode "\x7b\x7d"), [0], true) := by
    decide +kernel
  have hfields' : (Sign1.decode? document').map (fun d => (d.coveredBytes, d.payload, d.signature,
      d.uncovered.has Label.certificateChain)) =
      some (Sample.naming Sample.certificate, some (Utf8.encode "\x7b\x7d"), [0], true) := by
    decide +kernel
  obtain ⟨d, hd, hparts⟩ := Option.map_eq_some_iff.mp hfields
  obtain ⟨d', hd', hparts'⟩ := Option.map_eq_some_iff.mp hfields'
  simp only [Prod.mk.injEq] at hparts hparts'
  obtain ⟨hcovered, hpayload, hsignature, hchain⟩ := hparts
  obtain ⟨hcovered', hpayload', hsignature', hchain'⟩ := hparts'
  have hsame : SameCovered d d' :=
    ⟨hcovered'.trans hcovered.symm, hpayload'.trans hpayload.symm, hsignature'.trans hsignature.symm⟩
  obtain ⟨hopens, -⟩ := openManifest_eq_of_covered false
  exact ⟨⟨d, d', hd, hd', hsame, hchain, hchain'⟩, (hopens document document' d d' hd hd' hsame).1 hchain,
    by decide +kernel⟩

/-- Where the covered header names no chain, the other one decides. -/
example :
    let opened (uncovered : Bytes) :=
      (openManifest false (Sample.parts [] uncovered "\x7b\x7d")).result Sample.services
    (opened (Sample.naming Sample.certificate)).toOption.isSome = true ∧
      (opened (Sample.naming [0])).toOption = none := by
  decide +kernel

end Manifest
end Appraisal
