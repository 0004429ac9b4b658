import Appraisal.Proofs.Manifest.Authenticity
import Appraisal.Verification

/-!
# Appraisal.Proofs.Manifest.Revocation

Lists of revoked manifests count in every mode: where unsigned documents are accepted, a document may
do without a list, but the list that it names must be there, be opened and not deny it.

* `ListOpened`: a list whose word counts, for an unsigned document or for one with a signer.
* `Spared`, `Cleared`: what was asked about a document that may contribute.
* `openDocument_runs_ok_iff`: a document is opened exactly when it is cleared.
* `revocation_enforced`: only cleared documents contribute to a resolved manifest. A nested one that
  is not cleared is left out, and a top-level one that is not makes the outcome an error.
-/

namespace Appraisal
namespace Manifest

open Cose

/-- A list whose payload counts, and what was asked about it. A signed list is one of the signer of its
document, so the document is signed too. An unsigned list counts only where unsigned documents are
accepted. -/
inductive ListOpened (acceptUnsigned : Bool) (signerKey : Option Bytes) (list : Bytes) :
    (payload : Bytes) → Transcript → Prop
  | signed {d : Sign1} {key payload : Bytes} (decodes : Sign1.decode? list = some d)
      (signer : signerKey = some key) (attached : d.payload = some payload) :
      ListOpened acceptUnsigned signerKey list payload
        [⟨.checkSignature key (d.signedBytes payload) d.signature, .ok true⟩]
  | unsigned (plain : Sign1.decode? list = none) (accepted : acceptUnsigned = true) :
      ListOpened acceptUnsigned signerKey list list []

/-- What was asked about the revocation of a document that is not denied: the list that it names was
fetched, opened and read, and does not hold its id. -/
inductive Spared (acceptUnsigned : Bool) (signerKey : Option Bytes) (p : Parsed) : Transcript → Prop
  | unnamed (names : p.revocationLocator = none) (accepted : acceptUnsigned = true) :
      Spared acceptUnsigned signerKey p []
  | listed {locator : String} {url : Url} {document payload : Bytes} {list : RevocationList}
      {check : Transcript} (names : p.revocationLocator = some locator)
      (locates : Url.parse? locator = some url)
      (opened : ListOpened acceptUnsigned signerKey document payload check)
      (reads : RevocationList.parse? payload = some list)
      (spares : ∀ id ∈ p.manifest.manifestId, id ∉ list.deniedManifestIds) :
      Spared acceptUnsigned signerKey p (⟨.fetch url, .ok document⟩ :: check)

/-- What was asked about a document that may contribute what `p` holds. The key for its list is the one
that signed this very document. -/
inductive Cleared (acceptUnsigned : Bool) (document : Bytes) (p : Parsed) : Transcript → Prop
  | signed (o : Provenance document) {t : Transcript} (parses : parseDocument o.payload = .ok p)
      (spared : Spared acceptUnsigned (some o.key) p t) :
      Cleared acceptUnsigned document p (o.checks ++ t)
  | unsigned {t : Transcript} (plain : Sign1.decode? document = none)
      (accepted : acceptUnsigned = true) (parses : parseDocument document = .ok p)
      (spared : Spared acceptUnsigned none p t) : Cleared acceptUnsigned document p t

section Documents

variable {acceptUnsigned : Bool} {document : Bytes} {signerKey : Option Bytes} {p : Parsed}
  {t : Transcript}

theorem openRevocationList_runs_ok {list payload : Bytes} :
    (openRevocationList acceptUnsigned list signerKey).Runs t (.ok payload) ↔
      ListOpened acceptUnsigned signerKey list payload t := by
  unfold openRevocationList
  split
  · rename_i plain
    rw [unsigned_runs_ok]
    constructor
    · intro h
      obtain ⟨accepted, rfl, rfl⟩ := h
      exact .unsigned plain accepted
    · intro h
      cases h with
      | signed decodes => cases plain.symm.trans decodes
      | unsigned plain accepted => exact ⟨accepted, rfl, rfl⟩
  · rename_i d hd
    rw [Dialogue.runs_fail]
    constructor
    · intro h
      cases h.2
    · intro h
      cases h with
      | signed decodes signer attached => cases signer
      | unsigned plain accepted => cases plain.symm.trans hd
  · rename_i d key hd
    rw [checkedPayload_runs_ok]
    constructor
    · intro h
      obtain ⟨attached, rfl⟩ := h
      exact .signed hd rfl attached
    · intro h
      cases h with
      | signed decodes signer attached =>
        cases decodes.symm.trans hd
        cases signer
        exact ⟨attached, rfl⟩
      | unsigned plain accepted => cases plain.symm.trans hd

theorem spared_of_checkRevocation
    (h : (checkRevocation acceptUnsigned p signerKey).Runs t (.ok ())) :
    Spared acceptUnsigned signerKey p t := by
  unfold checkRevocation at h
  split at h
  · rename_i names
    obtain ⟨accepted, hend⟩ := Dialogue.runs_guard_ok.mp h
    obtain ⟨rfl, -⟩ := Dialogue.runs_pure.mp hend
    exact .unnamed names accepted
  · rename_i locator names
    split at h
    · cases (Dialogue.runs_fail.mp h).2
    · rename_i url locates
      obtain ⟨document, rest, rfl, hrest⟩ := Dialogue.runs_fetch_bind_ok.mp h
      obtain ⟨payload, check, last, rfl, hopen, hend⟩ := Dialogue.runs_bind_ok.mp hrest
      have opened := openRevocationList_runs_ok.mp hopen
      split at hend
      · cases (Dialogue.runs_fail.mp hend).2
      · rename_i list reads hid
        obtain ⟨rfl, -⟩ := Dialogue.runs_pure.mp hend
        rw [List.append_nil]
        exact .listed names locates opened reads (by simp [hid])
      · rename_i list id reads hid
        split at hend
        · cases (Dialogue.runs_fail.mp hend).2
        · rename_i hdenied
          obtain ⟨rfl, -⟩ := Dialogue.runs_pure.mp hend
          rw [List.append_nil]
          exact .listed names locates opened reads (by simpa [hid] using hdenied)

theorem checkRevocation_of_spared (h : Spared acceptUnsigned signerKey p t) :
    (checkRevocation acceptUnsigned p signerKey).Runs t (.ok ()) := by
  unfold checkRevocation
  cases h with
  | unnamed names accepted => simp [names, accepted]
  | listed names locates opened reads spares =>
    simp only [names, locates]
    refine Dialogue.runs_fetch_bind_ok.mpr ⟨_, _, rfl, Dialogue.runs_bind_ok.mpr ?_⟩
    refine ⟨_, _, [], (List.append_nil _).symm, openRevocationList_runs_ok.mpr opened, ?_⟩
    cases hid : p.manifest.manifestId with
    | none => simp [reads]
    | some id => simp [reads, spares id hid]

/-- A document is opened exactly when it is cleared. -/
theorem openDocument_runs_ok_iff :
    (openDocument acceptUnsigned document).Runs t (.ok p) ↔ Cleared acceptUnsigned document p t := by
  rw [openDocument_runs_ok]
  constructor
  · intro h
    obtain ⟨x, t₁, t₂, rfl, hopen, parses, hcheck⟩ := h
    have spared := spared_of_checkRevocation hcheck
    obtain ⟨o, rfl, rfl⟩ | ⟨accepted, plain, rfl, rfl⟩ := openManifest_runs_ok.mp hopen
    · exact .signed o parses spared
    · exact .unsigned plain accepted parses spared
  · intro h
    cases h with
    | signed o parses spared =>
      exact ⟨_, _, _, rfl, openManifest_runs_ok.mpr (.inl ⟨o, rfl, rfl⟩), parses,
        checkRevocation_of_spared spared⟩
    | unsigned plain accepted parses spared =>
      exact ⟨_, _, _, rfl, openManifest_runs_ok.mpr (.inr ⟨accepted, plain, rfl, rfl⟩), parses,
        checkRevocation_of_spared spared⟩

theorem fetchDocument_runs_ok_iff {url : Url} :
    (fetchDocument acceptUnsigned url).Runs t (.ok p) ↔
      ∃ document rest, t = ⟨.fetch url, .ok document⟩ :: rest ∧
        Cleared acceptUnsigned document p rest := by
  simp only [fetchDocument, Dialogue.runs_fetch_bind_ok, openDocument_runs_ok_iff]

end Documents

/-- A manifest resolved from a document that was cleared, and how it was put together. The visits go to
the locators of what was cleared, and what was not only leaves its place. -/
structure Resolved (acceptUnsigned : Bool) (document : Bytes) (t : Transcript) (m : Manifest) where
  top : Parsed
  opening : Transcript
  visits : List Visit
  asked : t = opening ++ visits.flatMap (·.asked)
  cleared : Cleared acceptUnsigned document top opening
  follows : Follows maxLevels maxLocators top.locators visits
  gathers : m = gather top.manifest (opened visits)
  contributes : ∀ v ∈ visits, ∀ p, v.found = .ok p ↔
    ∃ nested rest, v.asked = ⟨.fetch v.url, .ok nested⟩ :: rest ∧
      Cleared acceptUnsigned nested p rest

section Resolution

variable {acceptUnsigned : Bool} {document : Bytes} {t : Transcript}

theorem resolved_of_runs {m : Manifest} (h : (resolve acceptUnsigned document).Runs t (.ok m)) :
    Nonempty (Resolved acceptUnsigned document t m) := by
  obtain ⟨top, first, rest, visits, rfl, htop, hmade, hfollows, rfl⟩ := resolve_runs_ok h
  have contributes : ∀ v ∈ visits, ∀ p, v.found = .ok p ↔
      ∃ nested rest, v.asked = ⟨.fetch v.url, .ok nested⟩ :: rest ∧
        Cleared acceptUnsigned nested p rest := by
    intro v hv p
    rw [← fetchDocument_runs_ok_iff]
    constructor
    · intro hfound
      exact hfound ▸ hmade.runs v hv
    · intro hp
      -- Two runs on the same answers are the same run.
      exact ((hmade.runs v hv).eq_of_isPrefix hp List.prefix_rfl List.prefix_rfl).2
  exact ⟨{
    top, opening := first, visits, contributes
    asked := by rw [hmade.asked]
    cleared := openDocument_runs_ok_iff.mp htop
    follows := hfollows
    gathers := rfl }⟩

/-- Resolution fails if the document is not cleared. -/
theorem not_cleared_of_runs {e : Error} (h : (resolve acceptUnsigned document).Runs t (.error e)) :
    ¬ ∃ top opening, opening <+: t ∧ Cleared acceptUnsigned document top opening := by
  intro hcleared
  obtain ⟨top, opening, hprefix, hcleared⟩ := hcleared
  obtain ⟨_, _, _, _, _, _, _, _, hr⟩ | ⟨e', he, -⟩ := resolve_runs h
  · cases hr
  · have htop := openDocument_runs_ok_iff.mpr hcleared
    cases (he.eq_of_isPrefix htop List.prefix_rfl hprefix).2

theorem verify_runs_of_error {received : Measurement.Aggregate} {e : Error}
    (h : (resolve acceptUnsigned document).Runs t (.error e)) :
    (verify acceptUnsigned received document).Runs t (.ok ⟨some (.invalidManifest e)⟩) := by
  refine Dialogue.runs_bind_ok.mpr ⟨.error e, t, [], (List.append_nil _).symm, ?_, ?_⟩
  · exact Dialogue.runs_attempt.mpr ⟨_, rfl, h⟩
  · exact Dialogue.runs_pure.mpr ⟨rfl, rfl⟩

end Resolution

/-- Revocation is enforced in every mode and with any services. Either the document is cleared, and the
manifest holds what it and the cleared documents behind its locators say; or it is not, and then there
is no manifest and the outcome is an error whatever was received. -/
theorem revocation_enforced (acceptUnsigned : Bool) (document : Bytes) {σ : Type}
    (answer : (q : Query) → StateM σ q.Reply) (start : σ) :
    ∃ r final t, (resolve acceptUnsigned document).run answer start = (r, final) ∧
      (resolve acceptUnsigned document).Runs t r ∧ Dialogue.Heard answer t start final ∧
      match r with
      | .ok m => Nonempty (Resolved acceptUnsigned document t m)
      | .error _ =>
        (¬ ∃ top opening, opening <+: t ∧ Cleared acceptUnsigned document top opening) ∧
        ∀ received, ∃ o, (verify acceptUnsigned received document).run answer start = (.ok o, final) ∧
          o.verdict = .error := by
  obtain ⟨t, hrun, hheard⟩ := Dialogue.run_eq_iff.mp
    (rfl : (resolve acceptUnsigned document).run answer start = (_, _))
  refine ⟨_, _, t, rfl, hrun, hheard, ?_⟩
  split
  · rename_i m hm
    exact resolved_of_runs (hm ▸ hrun)
  · rename_i e he
    rw [he] at hrun
    refine ⟨not_cleared_of_runs hrun, ?_⟩
    intro received
    exact ⟨_, Dialogue.run_eq_iff.mpr ⟨t, verify_runs_of_error hrun, hheard⟩, rfl⟩

/-- A list denies its document also where unsigned ones are accepted. -/
example :
    let services : (q : Query) → q.Reply
      | .isTrusted _ => false
      | .fetch _ => .ok (Utf8.encode "\x7b\"denied-manifest-ids\":[\"m\"]\x7d")
      | .checkSignature _ _ _ | .computeMac _ | .decrypt _ _ => .error .json
    let document := Utf8.encode "\x7b\"manifest-id\":\"m\",\"revocation-locator\":\"a:r\"\x7d"
    (resolve true document).result services matches .error (.manifestRevoked "m") := by
  decide +kernel

end Manifest
end Appraisal
