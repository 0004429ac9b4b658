import Appraisal.Manifest.Resolve
import Appraisal.Proofs.Transcript

/-!
# Appraisal.Proofs.Manifest.Provenance

Where a document comes from, if it was opened: what its signer said and what was asked about it.

* `Provenance`: a signed document in its parts, with the certificate chain of its signer.
* `openManifest_runs_ok`: a document is opened when its chain is trusted and its signature accepted,
  and an unsigned one only where those are.
* `openDocument_runs_ok`, `openDocument_fetches`: what is known of a document that was opened, and of
  one for which a list was fetched.
-/

namespace Appraisal
namespace Manifest

open Cose

/-- A signed document that can be checked: its payload is attached, and the leaf of its certificate
chain can be read. -/
structure Provenance (document : Bytes) where
  signed : Sign1
  payload : Bytes
  leaf : Bytes
  issuers : List Bytes
  certificate : Certificate
  decodes : Sign1.decode? document = some signed
  attached : signed.payload = some payload
  chain : chainOf (signed.get? Label.certificateChain) = .ok (leaf :: issuers)
  reads : Certificate.read leaf = .ok certificate

namespace Provenance

variable {document : Bytes}

/-- The key of the signer. -/
def key (o : Provenance document) : Bytes := o.certificate.publicKeyInfo

/-- What is asked about a document, with the answers of one that is accepted: its chain is trusted,
and its signature is one of what it covers, under the key of the leaf. -/
def checks (o : Provenance document) : Transcript :=
  [⟨.isTrusted (o.leaf :: o.issuers), true⟩,
   ⟨.checkSignature o.key (o.signed.signedBytes o.payload) o.signed.signature, .ok true⟩]

end Provenance

section Open

variable {acceptUnsigned : Bool} {document : Bytes} {t : Transcript}

theorem unsigned_runs_ok {kind : DocumentKind} {payload : Bytes} :
    (unsigned acceptUnsigned kind document).Runs t (.ok payload) ↔
      acceptUnsigned = true ∧ t = [] ∧ payload = document := by
  cases acceptUnsigned
  · simp [unsigned]
  · simp [unsigned, eq_comm]

theorem signerChain_eq_ok_iff {d : Sign1} {leaf : Bytes} {issuers : List Bytes} :
    signerChain d = .ok (leaf, issuers) ↔
      chainOf (d.get? Label.certificateChain) = .ok (leaf :: issuers) := by
  unfold signerChain
  split <;> rename_i h <;> simp [h]

theorem checkedPayload_runs_ok {kind : DocumentKind} {d : Sign1} {key payload : Bytes} :
    (checkedPayload kind d key).Runs t (.ok payload) ↔
      d.payload = some payload ∧
        t = [⟨.checkSignature key (d.signedBytes payload) d.signature, .ok true⟩] := by
  unfold checkedPayload
  split
  · rename_i h
    simp [h]
  · rename_i found h
    simp only [Dialogue.runs_checkSignature_bind_ok, Dialogue.runs_guard_ok, Dialogue.runs_pure, h]
    constructor
    · intro h
      obtain ⟨valid, rest, rfl, rfl, rfl, hp⟩ := h
      cases hp
      exact ⟨rfl, rfl⟩
    · intro h
      obtain ⟨hp, rfl⟩ := h
      cases hp
      exact ⟨true, [], rfl, rfl, rfl, rfl⟩

/-- A document is opened when it is signed and passes all checks, or when it is unsigned where that
is accepted. -/
theorem openManifest_runs_ok {x : Opened} :
    (openManifest acceptUnsigned document).Runs t (.ok x) ↔
      (∃ o : Provenance document, t = o.checks ∧ x = ⟨o.payload, some o.key⟩) ∨
      (acceptUnsigned = true ∧ Sign1.decode? document = none ∧ t = [] ∧ x = ⟨document, none⟩) := by
  unfold openManifest
  split
  · rename_i hd
    simp only [Dialogue.runs_bind_ok, unsigned_runs_ok, Dialogue.runs_pure]
    constructor
    · intro h
      obtain ⟨payload, t₁, t₂, rfl, ⟨hu, rfl, rfl⟩, rfl, hx⟩ := h
      cases hx
      exact .inr ⟨hu, hd, rfl, rfl⟩
    · intro h
      obtain ⟨o, -, -⟩ | ⟨hu, -, rfl, rfl⟩ := h
      · cases hd.symm.trans o.decodes
      · exact ⟨document, [], [], rfl, ⟨hu, rfl, rfl⟩, rfl, rfl⟩
  · rename_i d hd
    simp only [Dialogue.runs_lift_bind_ok, Dialogue.runs_isTrusted_bind_ok, Dialogue.runs_guard_ok,
      Prod.exists, signerChain_eq_ok_iff]
    simp only [Dialogue.runs_bind_ok, checkedPayload_runs_ok, Dialogue.runs_pure]
    constructor
    · intro h
      obtain ⟨leaf, issuers, hchain, trusted, rest, rfl, rfl, certificate, hread, payload, t₁, t₂,
        rfl, ⟨hattached, rfl⟩, rfl, hx⟩ := h
      cases hx
      exact .inl ⟨⟨d, payload, leaf, issuers, certificate, hd, hattached, hchain, hread⟩, rfl, rfl⟩
    · intro h
      obtain ⟨o, rfl, rfl⟩ | ⟨-, hnone, -⟩ := h
      · cases hd.symm.trans o.decodes
        exact ⟨o.leaf, o.issuers, o.chain, true, _, rfl, rfl, o.certificate, o.reads, o.payload, _, [],
          (List.append_nil _).symm, ⟨o.attached, rfl⟩, rfl, rfl⟩
      · cases hd.symm.trans hnone

/-- A document was opened: its origin was checked, then its payload read, and then a list of revoked
manifests asked for. -/
theorem openDocument_runs_ok {p : Parsed} :
    (openDocument acceptUnsigned document).Runs t (.ok p) ↔
      ∃ x t₁ t₂, t = t₁ ++ t₂ ∧ (openManifest acceptUnsigned document).Runs t₁ (.ok x) ∧
        parseDocument x.payload = .ok p ∧
        (checkRevocation acceptUnsigned p x.signerKey).Runs t₂ (.ok ()) := by
  unfold openDocument
  rw [Dialogue.runs_bind_ok]
  simp only [Dialogue.runs_lift_bind_ok]
  constructor
  · intro h
    obtain ⟨x, t₁, t₂, rfl, hopen, q, hparse, hrest⟩ := h
    obtain ⟨⟨⟩, t₃, t₄, rfl, hcheck, hend⟩ := Dialogue.runs_bind_ok.mp hrest
    obtain ⟨rfl, hq⟩ := Dialogue.runs_pure.mp hend
    cases hq
    exact ⟨x, t₁, t₃, by simp, hopen, hparse, hcheck⟩
  · intro h
    obtain ⟨x, t₁, t₂, rfl, hopen, hparse, hcheck⟩ := h
    refine ⟨x, t₁, t₂, rfl, hopen, p, hparse, ?_⟩
    exact Dialogue.runs_bind_ok.mpr ⟨(), t₂, [], by simp, hcheck, Dialogue.runs_pure.mpr ⟨rfl, rfl⟩⟩

end Open

section Questions

variable {P : Query → Prop} {acceptUnsigned : Bool} {document : Bytes} {t : Transcript}

theorem asks_unsigned {kind : DocumentKind} : (unsigned acceptUnsigned kind document).Asks P := by
  unfold unsigned
  split <;> trivial

section Signed

variable (hsignature : ∀ key data signature, P (.checkSignature key data signature))

include hsignature

theorem asks_checkedPayload {kind : DocumentKind} {d : Sign1} {key : Bytes} :
    (checkedPayload kind d key).Asks P := by
  unfold checkedPayload
  split
  · trivial
  · refine Dialogue.Asks.bind ⟨hsignature _ _ _, fun _ => trivial⟩ ?_
    intro valid
    split <;> trivial

/-- The origin of a document is its chain and its signature. -/
theorem asks_openManifest (hchain : ∀ leaf issuers, P (.isTrusted (leaf :: issuers))) :
    (openManifest acceptUnsigned document).Asks P := by
  unfold openManifest
  split
  · exact asks_unsigned.bind fun _ => trivial
  · refine Dialogue.Asks.bind trivial ?_
    intro h
    obtain ⟨leaf, issuers⟩ := h
    refine Dialogue.Asks.bind ⟨hchain leaf issuers, fun _ => trivial⟩ ?_
    intro trusted
    split
    · refine Dialogue.Asks.bind trivial ?_
      intro certificate
      exact (asks_checkedPayload hsignature).bind fun _ => trivial
    · trivial

theorem asks_openRevocationList {signerKey : Option Bytes} :
    (openRevocationList acceptUnsigned document signerKey).Asks P := by
  unfold openRevocationList
  split
  · exact asks_unsigned
  · trivial
  · exact asks_checkedPayload hsignature

/-- Only the list that a document names is fetched for it. -/
theorem asks_checkRevocation {p : Parsed} {signerKey : Option Bytes}
    (hfetch : ∀ l url, p.revocationLocator = some l → Url.parse? l = some url → P (.fetch url)) :
    (checkRevocation acceptUnsigned p signerKey).Asks P := by
  unfold checkRevocation
  split
  · split <;> trivial
  · rename_i l hl
    split
    · trivial
    · rename_i url hurl
      refine Dialogue.Asks.bind ⟨hfetch l url hl hurl, fun _ => trivial⟩ ?_
      intro list
      refine (asks_openRevocationList hsignature).bind ?_
      intro payload
      split
      · trivial
      · trivial
      · split <;> trivial

section Fetched

variable (hchain : ∀ leaf issuers, P (.isTrusted (leaf :: issuers))) (hfetch : ∀ url, P (.fetch url))

include hchain hfetch

theorem asks_openDocument : (openDocument acceptUnsigned document).Asks P := by
  refine (asks_openManifest hsignature hchain).bind ?_
  intro opened
  refine Dialogue.Asks.bind trivial ?_
  intro p
  exact (asks_checkRevocation hsignature fun _ url _ _ => hfetch url).bind fun _ => trivial

theorem asks_followLevel {seen : List Url} {next locators : List String} {w : Walk} :
    (followLevel acceptUnsigned seen next w locators).Asks P := by
  induction locators generalizing seen next w with
  | nil => trivial
  | cons locator locators ih =>
    rw [followLevel]
    split
    · exact ih
    · rename_i url _
      split
      · exact ih
      · split
        · trivial
        · have hnested : (fetchDocument acceptUnsigned url).Asks P :=
            Dialogue.Asks.bind ⟨hfetch url, fun _ => trivial⟩ fun _ =>
              asks_openDocument hsignature hchain hfetch
          refine hnested.attempt.bind ?_
          intro nested
          cases nested with
          | ok p => exact ih
          | error e => exact ih

theorem asks_followLevels {levels : Nat} {locators : List String} {w : Walk} :
    (followLevels acceptUnsigned levels w locators).Asks P := by
  induction levels generalizing locators w with
  | zero => cases locators <;> trivial
  | succ levels ih =>
    cases locators with
    | nil => trivial
    | cons locator locators =>
      rw [followLevels]
      · refine (asks_followLevel hsignature hchain hfetch).bind ?_
        intro walked
        obtain ⟨w, next⟩ := walked
        cases next with
        | some next => exact ih
        | none => trivial
      · exact nofun

/-- All that is asked about a document and the nested ones. -/
theorem asks_resolve : (resolve acceptUnsigned document).Asks P :=
  (asks_openDocument hsignature hchain hfetch).bind fun _ =>
    asks_followLevels hsignature hchain hfetch

end Fetched

end Signed

/-- If anything is fetched for a document, its origin was checked and its payload read before, and it
is the list that the payload names. -/
theorem openDocument_fetches {r : Except Error Parsed} {url : Url} {reply : Except Error Bytes}
    (h : (openDocument acceptUnsigned document).Runs t r) (hf : ⟨.fetch url, reply⟩ ∈ t) :
    ∃ x t₁ p l, (openManifest acceptUnsigned document).Runs t₁ (.ok x) ∧ t₁ <+: t ∧
      parseDocument x.payload = .ok p ∧ p.revocationLocator = some l ∧ Url.parse? l = some url := by
  have hopens : (openManifest acceptUnsigned document).Asks fun q => ∀ url, q ≠ .fetch url :=
    asks_openManifest (fun _ _ _ => nofun) fun _ _ => nofun
  unfold openDocument at h
  obtain ⟨x, t₁, t₂, rfl, hopen, h₁⟩ | ⟨e, he, -⟩ := Dialogue.runs_bind.mp h
  · have hf : ⟨.fetch url, reply⟩ ∈ t₂ := by
      rcases List.mem_append.mp hf with hf | hf
      · exact absurd rfl (hopens.of_runs hopen _ hf url)
      · exact hf
    obtain ⟨p, t₃, t₄, rfl, hparse, h₂⟩ | ⟨e, he, -⟩ := Dialogue.runs_bind.mp h₁
    · obtain ⟨rfl, hp⟩ := Dialogue.runs_lift.mp hparse
      have hasks : (checkRevocation acceptUnsigned p x.signerKey >>= fun _ => pure p).Asks fun q =>
          ∀ url, q = .fetch url → ∃ l, p.revocationLocator = some l ∧ Url.parse? l = some url := by
        refine (asks_checkRevocation (fun _ _ _ => nofun) ?_).bind fun _ => trivial
        intro l url hl hurl url' heq
        cases heq
        exact ⟨l, hl, hurl⟩
      obtain ⟨l, hl, hurl⟩ := hasks.of_runs h₂ _ (by simpa using hf) url rfl
      exact ⟨x, t₁, p, l, hopen, List.prefix_append .., hp.symm, hl, hurl⟩
    · obtain ⟨rfl, -⟩ := Dialogue.runs_lift.mp he
      cases hf
  · exact absurd rfl (hopens.of_runs he _ hf url)

end Questions
end Manifest
end Appraisal
