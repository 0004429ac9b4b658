import Appraisal.Proofs.Manifest.TopLevel

/-!
# Appraisal.Proofs.Manifest.OptIn

What accepting unsigned documents changes, and what it leaves alone. A signed document is opened in the
same way in both modes, so one that was tampered with does not pass for an unsigned one; and a document
that makes a manifest where only signed ones are accepted makes one that begins alike where all are.

* `Cleared.optIn`: what may contribute among signed documents only may contribute among all, with the same
  questions.
* `openDocument_run_optIn`: with the same services in the same state, so does the same document.
* `signed_unweakened`: both modes compared, for one document and for all that it leads to.
-/

namespace Appraisal
namespace Manifest

open Cose

section Clearance

variable {signerKey : Option Bytes} {list payload document : Bytes} {p : Parsed} {t : Transcript}

theorem ListOpened.optIn (h : ListOpened false signerKey list payload t) :
    ListOpened true signerKey list payload t := by
  cases h with
  | signed decodes signer attached => exact .signed decodes signer attached
  | unsigned plain accepted => exact .unsigned plain rfl

theorem Spared.optIn (h : Spared false signerKey p t) : Spared true signerKey p t := by
  cases h with
  | unnamed names accepted => exact .unnamed names rfl
  | listed names locates opened reads spares => exact .listed names locates opened.optIn reads spares

theorem Cleared.optIn (h : Cleared false document p t) : Cleared true document p t := by
  cases h with
  | signed o parses spared => exact .signed o parses spared.optIn
  | unsigned plain accepted parses spared => exact .unsigned plain rfl parses spared.optIn

/-- A document that is opened among signed ones only is opened among all, by the same questions. -/
theorem openDocument_runs_optIn (h : (openDocument false document).Runs t (.ok p)) :
    (openDocument true document).Runs t (.ok p) :=
  openDocument_runs_ok_iff.mpr (openDocument_runs_ok_iff.mp h).optIn

theorem openDocument_run_optIn {σ : Type} {answer : (q : Query) → StateM σ q.Reply} {start final : σ}
    (h : (openDocument false document).run answer start = (.ok p, final)) :
    (openDocument true document).run answer start = (.ok p, final) := by
  obtain ⟨t, hrun, hheard⟩ := Dialogue.run_eq_iff.mp h
  exact Dialogue.run_eq_iff.mpr ⟨t, openDocument_runs_optIn hrun, hheard⟩

end Clearance

section Signed

variable {document : Bytes} {d : Sign1}

theorem openManifest_optIn (h : Sign1.decode? document = some d) :
    openManifest true document = openManifest false document := by
  unfold openManifest
  rw [h]

theorem openRevocationList_optIn (h : Sign1.decode? document = some d) (signerKey : Option Bytes) :
    openRevocationList true document signerKey = openRevocationList false document signerKey := by
  unfold openRevocationList
  rw [h]
  cases signerKey with
  | none => rfl
  | some key => rfl

end Signed

/-- Accepting unsigned documents weakens no signed one. A signed document, or a signed list under any key,
is opened by the same questions and with the same result, whatever the answers are. And with any services,
a document that makes a manifest among signed ones makes one among all, which begins with the same id, the
same records and the same endorsements of the document itself. -/
theorem signed_unweakened (document : Bytes) :
    ((Sign1.decode? document).isSome →
      openManifest true document = openManifest false document ∧
      ∀ signerKey, openRevocationList true document signerKey =
        openRevocationList false document signerKey) ∧
    ∀ (σ : Type) (answer : (q : Query) → StateM σ q.Reply) (start : σ) (m : Manifest),
      ((resolve false document).run answer start).1 = .ok m →
      ∃ m' top, ((resolve true document).run answer start).1 = .ok m' ∧
        own? document = some top ∧ m'.manifestId = m.manifestId ∧
        m.BeginsWith top ∧ m'.BeginsWith top := by
  constructor
  · intro h
    obtain ⟨d, hd⟩ := Option.isSome_iff_exists.mp h
    exact ⟨openManifest_optIn hd, openRevocationList_optIn hd⟩
  · intro σ answer start m hm
    obtain ⟨top, hopen, hown, hbegins⟩ := resolve_run_ok hm
    have hopen' := openDocument_run_optIn (Prod.ext hopen rfl)
    obtain ⟨m', hm', hbegins'⟩ := resolve_run_of_openDocument (congrArg Prod.fst hopen')
    exact ⟨m', top, hm', hown, hbegins'.manifestId.trans hbegins.manifestId.symm, hbegins, hbegins'⟩

namespace Sample

/-- A document with a locator that expects one measurement. -/
def expecting : Bytes :=
  signed "\x7b\"locators\":[\"a:n\"],\"revocation-locator\":\"a:r\",\"reference-triples\":[\x7b\"environment\":\x7b\"vendor\":\"v\"\x7d\x7d]\x7d"

/-- Services that trust everyone, and hold an unsigned document behind one URL and an empty list behind
all others. -/
def unsignedNested : (q : Query) → q.Reply
  | .isTrusted _ => true
  | .checkSignature _ _ _ => .ok true
  | .fetch url =>
    .ok (if url.path = .rootless "n"
      then Utf8.encode "\x7b\"reference-triples\":[\x7b\"environment\":\x7b\"vendor\":\"w\"\x7d\x7d]\x7d"
      else signed "\x7b\x7d")
  | .computeMac _ => .error .json
  | .decrypt _ _ => .error .json

end Sample

/-- The unsigned nested document counts in one mode only, and behind what the signed one expects. -/
theorem signed_unweakened_nested :
    let answer : (q : Query) → StateM Unit q.Reply := fun q => pure (Sample.unsignedNested q)
    let m : Manifest := { records := [⟨{ vendor := "v" }, {}⟩] }
    let m' : Manifest := { records := [⟨{ vendor := "v" }, {}⟩, ⟨{ vendor := "w" }, {}⟩] }
    openManifest true Sample.expecting = openManifest false Sample.expecting ∧
      ((resolve false Sample.expecting).run answer ()).1 = .ok m ∧
      ((resolve true Sample.expecting).run answer ()).1 = .ok m' ∧
      ∃ top, own? Sample.expecting = some top ∧ m.BeginsWith top ∧ m'.BeginsWith top := by
  intro answer m m'
  obtain ⟨hopen, hresolve⟩ := signed_unweakened Sample.expecting
  have hm : ((resolve false Sample.expecting).run answer ()).1 = .ok m :=
    except_eq_ok_of_toOption (by decide +kernel)
  have hm' : ((resolve true Sample.expecting).run answer ()).1 = .ok m' :=
    except_eq_ok_of_toOption (by decide +kernel)
  obtain ⟨found, top, hfound, hown, -, hbegins, hbegins'⟩ := hresolve Unit answer () m hm
  cases hm'.symm.trans hfound
  exact ⟨(hopen (by decide +kernel)).1, hm, hm', top, hown, hbegins, hbegins'⟩

end Manifest
end Appraisal
