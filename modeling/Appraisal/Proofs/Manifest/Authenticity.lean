import Appraisal.Proofs.Manifest.Provenance
import Appraisal.Proofs.Manifest.Visit

/-!
# Appraisal.Proofs.Manifest.Authenticity

Where unsigned documents are not accepted, only authentic ones matter: all that a resolved manifest
expects or endorses was signed under a trusted chain, and so was every locator that was followed.

* `Contribution.Authentic`: a document whose signer is trusted, whose signature was accepted, and
  whose payload names a list of revoked manifests.
* `resolve_authentic`: a resolved manifest is put together from authentic documents only.
-/

namespace Appraisal
namespace Manifest

/-- A document with what was asked to open it and what it holds. -/
structure Contribution where
  document : Bytes
  asked : Transcript
  parsed : Parsed

/-- The document is signed, its chain was accepted first and then its signature under the key of the
leaf. What it holds is written in the payload that the signature covers, and names a list. -/
def Contribution.Authentic (c : Contribution) : Prop :=
  ∃ o : Provenance c.document, o.checks <+: c.asked ∧ parseDocument o.payload = .ok c.parsed ∧
    c.parsed.revocationLocator.isSome

/-- How a manifest was put together from a document and nested ones. -/
structure ComposedOf (t : Transcript) (m : Manifest) (top : Contribution)
    (nested : List Contribution) : Prop where
  manifestId : m.manifestId = top.parsed.manifest.manifestId
  records : m.records = (top :: nested).flatMap (·.parsed.manifest.records)
  endorsed : m.endorsed = (top :: nested).flatMap (·.parsed.manifest.endorsed)
  authentic : ∀ c ∈ top :: nested, c.Authentic ∧ c.asked <:+: t
  /-- The nested documents are what the services fetched. -/
  fetched : ∀ c ∈ nested, ∃ url, ⟨.fetch url, .ok c.document⟩ :: c.asked <:+: t
  /-- What was fetched at all is what a locator of these documents points to, or the list that an
  authentic document names. -/
  followed : ∀ url reply, ⟨.fetch url, reply⟩ ∈ t →
    (∃ c ∈ top :: nested, ∃ l ∈ c.parsed.locators, Url.parse? l = some url) ∨
    ∃ c : Contribution, c.Authentic ∧ c.asked <:+: t ∧
      ∃ l, c.parsed.revocationLocator = some l ∧ Url.parse? l = some url

section Documents

variable {document : Bytes} {url : Url} {t : Transcript} {p : Parsed}

theorem openManifest_signed {x : Opened} (h : (openManifest false document).Runs t (.ok x)) :
    ∃ o : Provenance document, t = o.checks ∧ x.payload = o.payload := by
  rcases openManifest_runs_ok.mp h with ⟨o, rfl, rfl⟩ | ⟨hu, -⟩
  · exact ⟨o, rfl, rfl⟩
  · cases hu

theorem checkRevocation_names {signerKey : Option Bytes}
    (h : (checkRevocation false p signerKey).Runs t (.ok ())) : p.revocationLocator.isSome := by
  unfold checkRevocation at h
  split at h
  · simp at h
  · rename_i l hl
    simp [hl]

/-- A document that was opened is authentic. -/
theorem authentic_of_openDocument (h : (openDocument false document).Runs t (.ok p)) :
    Contribution.Authentic ⟨document, t, p⟩ := by
  obtain ⟨x, t₁, t₂, rfl, hopen, hparse, hcheck⟩ := openDocument_runs_ok.mp h
  obtain ⟨o, rfl, hpayload⟩ := openManifest_signed hopen
  exact ⟨o, List.prefix_append .., hpayload ▸ hparse, checkRevocation_names hcheck⟩

/-- A document for which a list was fetched is authentic, whether or not the list was of use. -/
theorem authentic_of_fetch {r : Except Error Parsed} {reply : Except Error Bytes}
    (h : (openDocument false document).Runs t r) (hf : ⟨.fetch url, reply⟩ ∈ t) :
    ∃ c : Contribution, c.Authentic ∧ c.asked <:+: t ∧
      ∃ l, c.parsed.revocationLocator = some l ∧ Url.parse? l = some url := by
  obtain ⟨x, t₁, p, l, hopen, hpre, hparse, hl, hurl⟩ := openDocument_fetches h hf
  obtain ⟨o, rfl, hpayload⟩ := openManifest_signed hopen
  refine ⟨⟨document, o.checks, p⟩, ⟨o, List.prefix_rfl, hpayload ▸ hparse, ?_⟩, hpre.isInfix, l, hl,
    hurl⟩
  simp [hl]

theorem fetchDocument_runs {acceptUnsigned : Bool} {r : Except Error Parsed}
    (h : (fetchDocument acceptUnsigned url).Runs t r) :
    (∃ e, t = [⟨.fetch url, .error e⟩] ∧ r = .error e) ∨
    ∃ document rest, t = ⟨.fetch url, .ok document⟩ :: rest ∧
      (openDocument acceptUnsigned document).Runs rest r := by
  obtain ⟨document, t₁, t₂, rfl, hfetch, hopen⟩ | ⟨e, hfetch, rfl⟩ := Dialogue.runs_bind.mp h
  · obtain ⟨reply, rfl, hreply⟩ := Dialogue.runs_fetch.mp hfetch
    cases hreply
    exact .inr ⟨document, t₂, rfl, hopen⟩
  · obtain ⟨reply, rfl, hreply⟩ := Dialogue.runs_fetch.mp hfetch
    cases hreply
    exact .inl ⟨e, rfl, rfl⟩

end Documents

section Visits

variable {visits : List Visit} {t : Transcript}

theorem Made.part {acceptUnsigned : Bool} (h : Made acceptUnsigned visits t) {v : Visit}
    (hv : v ∈ visits) : v.asked <:+: t := by
  rw [h.asked]
  obtain ⟨before, after, rfl⟩ := List.append_of_mem hv
  exact ⟨before.flatMap (·.asked), after.flatMap (·.asked), by simp⟩

theorem Made.contributions (h : Made false visits t) :
    ∃ nested : List Contribution, nested.map (·.parsed) = opened visits ∧
      ∀ c ∈ nested, c.Authentic ∧ ∃ url, ⟨.fetch url, .ok c.document⟩ :: c.asked <:+: t := by
  have hall : ∀ vs ⊆ visits, ∃ nested : List Contribution, nested.map (·.parsed) = opened vs ∧
      ∀ c ∈ nested, c.Authentic ∧ ∃ url, ⟨.fetch url, .ok c.document⟩ :: c.asked <:+: t := by
    intro vs hvs
    induction vs with
    | nil => exact ⟨[], rfl, by simp⟩
    | cons v vs ih =>
      obtain ⟨nested, hnested, hc⟩ := ih fun w hw => hvs (List.mem_cons_of_mem _ hw)
      have hv := hvs (List.mem_cons_self ..)
      cases hfound : v.found with
      | error e => exact ⟨nested, by rw [opened_cons_error hfound, hnested], hc⟩
      | ok p =>
        obtain ⟨e, -, he⟩ | ⟨document, rest, hasked, hopen⟩ := fetchDocument_runs (h.runs v hv)
        · cases hfound.symm.trans he
        · rw [hfound] at hopen
          refine ⟨⟨document, rest, p⟩ :: nested, by simp [opened_cons_ok hfound, hnested], ?_⟩
          intro c hmem
          rcases List.mem_cons.mp hmem with rfl | hmem
          · exact ⟨authentic_of_openDocument hopen, v.url, hasked ▸ h.part hv⟩
          · exact hc c hmem
  exact hall visits (List.Subset.refl _)

end Visits

/-- Only authentic documents contribute: the records and the endorsed records of a resolved manifest
are those of a list of authentic documents, and every locator that was followed is theirs. -/
theorem resolve_authentic {document : Bytes} {t : Transcript} {m : Manifest}
    (h : (resolve false document).Runs t (.ok m)) :
    ∃ top nested, top.document = document ∧ ComposedOf t m top nested := by
  obtain ⟨p, first, rest, visits, rfl, htop, hmade, hfollows, rfl⟩ := resolve_runs_ok h
  obtain ⟨nested, hnested, hc⟩ := hmade.contributions
  have hrest : rest <:+: first ++ rest := (List.suffix_append ..).isInfix
  refine ⟨⟨document, first, p⟩, nested, rfl, ?_⟩
  constructor
  case manifestId => rfl
  case records => simp [gather, ← hnested, List.flatMap_map]
  case endorsed => simp [gather, ← hnested, List.flatMap_map]
  case authentic =>
    intro c hmem
    rcases List.mem_cons.mp hmem with rfl | hmem
    · exact ⟨authentic_of_openDocument htop, (List.prefix_append ..).isInfix⟩
    · obtain ⟨hauthentic, url, hasked⟩ := hc c hmem
      exact ⟨hauthentic, ((List.suffix_cons ..).isInfix.trans hasked).trans hrest⟩
  case fetched =>
    intro c hmem
    obtain ⟨-, url, hasked⟩ := hc c hmem
    exact ⟨url, hasked.trans hrest⟩
  case followed =>
    intro url reply hmem
    rcases List.mem_append.mp hmem with hmem | hmem
    · obtain ⟨c, hauthentic, hasked, hl⟩ := authentic_of_fetch htop hmem
      exact .inr ⟨c, hauthentic, hasked.trans (List.prefix_append ..).isInfix, hl⟩
    · rw [hmade.asked] at hmem
      obtain ⟨v, hv, hmem⟩ := List.mem_flatMap.mp hmem
      have hvisited : ∃ c ∈ (⟨document, first, p⟩ : Contribution) :: nested,
          ∃ l ∈ c.parsed.locators, Url.parse? l = some v.url := by
        rcases hfollows.url_mem hv with hurl | ⟨q, hq, hurl⟩
        · exact ⟨_, List.mem_cons_self .., mem_candidates.mp hurl⟩
        · rw [← hnested] at hq
          obtain ⟨c, hmem, rfl⟩ := List.mem_map.mp hq
          exact ⟨c, List.mem_cons_of_mem _ hmem, mem_candidates.mp hurl⟩
      obtain ⟨e, hasked, -⟩ | ⟨found, later, hasked, hopen⟩ := fetchDocument_runs (hmade.runs v hv)
      · rw [hasked] at hmem
        cases List.mem_singleton.mp hmem
        exact .inl hvisited
      · rw [hasked] at hmem
        rcases List.mem_cons.mp hmem with heq | hmem
        · cases heq
          exact .inl hvisited
        · obtain ⟨c, hauthentic, hc, hl⟩ := authentic_of_fetch hopen hmem
          have hlater : later <:+: v.asked := hasked ▸ (List.suffix_cons ..).isInfix
          exact .inr ⟨c, hauthentic, ((hc.trans hlater).trans (hmade.part hv)).trans hrest, hl⟩

namespace Sample

open Cbor

/-- A short element. -/
def element (tag : UInt8) (content : List Bytes) : Bytes :=
  tag :: UInt8.ofNat content.flatten.length :: content.flatten

/-- A certificate with nothing but what it needs. -/
def certificate : Bytes :=
  let algorithm := element 0x30 [element 0x06 [[0x2A]]]
  let date := element 0x17 [Utf8.encode "210101000000Z"]
  let bits := element 0x03 [[0]]
  let toBeSigned := element 0x30 [element 0x02 [[1]], algorithm, element 0x30 [],
    element 0x30 [date, date], element 0x30 [], element 0x30 [algorithm, bits]]
  element 0x30 [toBeSigned, algorithm, bits]

/-- A signed document with a chain of one certificate. -/
def signed (payload : String) : Bytes :=
  encodeArray [encodeBytes (Head.encode 5 1 ++ Head.encode 0 33 ++ encodeBytes certificate),
    Head.encode 5 0, encodeBytes (Utf8.encode payload), encodeBytes [0]]

/-- A document with one locator and nothing expected. -/
def document : Bytes := signed "\x7b\"locators\":[\"a:n\"],\"revocation-locator\":\"a:r\"\x7d"

/-- A document that endorses one measurement. -/
def nested : Bytes :=
  signed "\x7b\"revocation-locator\":\"a:r\",\"endorsed-triples\":[\x7b\"environment\":\x7b\x7d\x7d]\x7d"

/-- Services that trust everyone, and hold the nested document behind one URL and an empty list behind
all others. -/
def services : (q : Query) → q.Reply
  | .isTrusted _ => true
  | .checkSignature _ _ _ => .ok true
  | .fetch url => .ok (if url.path = .rootless "n" then nested else signed "\x7b\x7d")
  | .computeMac _ => .error .json
  | .decrypt _ _ => .error .json

end Sample

/-- What the nested document endorses is endorsed, and both documents are authentic. -/
theorem resolve_authentic_sample :
    ∃ t m, (resolve false Sample.document).Runs t (.ok m) ∧ m.endorsed = [⟨{}, {}⟩] ∧
      ∃ top nested, top.document = Sample.document ∧ ComposedOf t m top nested := by
  have hm : ((resolve false Sample.document).result Sample.services).toOption =
      some { endorsed := [⟨{}, {}⟩] } := by decide +kernel
  obtain ⟨t, hrun⟩ := Dialogue.exists_runs_of_toOption Sample.services hm
  exact ⟨t, _, hrun, rfl, resolve_authentic hrun⟩

end Manifest
end Appraisal
