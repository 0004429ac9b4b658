import Appraisal.Proofs.Manifest.Expansion
import Appraisal.Proofs.Manifest.Revocation

/-!
# Appraisal.Proofs.Manifest.TopLevel

What a document says by itself. It is read off its bytes alone, and whatever is asked about the document
or found behind its locators, it stands in front of all that the resolved manifest says.

* `payload?`, `own?`: what is written in a document, signed or not.
* `openDocument_run_own`: a document is opened as what it says by itself, or not at all.
* `resolve_run_ok`: a resolved manifest begins with it.
-/

namespace Appraisal
namespace Manifest

open Cose

/-- What a document carries: a signed one its payload, if that is attached, and any other itself. -/
def payload? (document : Bytes) : Option Bytes :=
  (Sign1.decode? document).elim (some document) (·.payload)

/-- What a document says by itself. -/
def own? (document : Bytes) : Option Parsed :=
  (payload? document).bind fun payload => (parseDocument payload).toOption

/-- The manifest begins with what a document says by itself, under the id of that document. -/
structure BeginsWith (m : Manifest) (top : Parsed) : Prop where
  manifestId : m.manifestId = top.manifest.manifestId
  records : top.manifest.records <+: m.records
  endorsed : top.manifest.endorsed <+: m.endorsed

theorem beginsWith_expansion (found : Nat → Url → Option Parsed) (top : Parsed) :
    (expansion found top).BeginsWith top :=
  ⟨rfl, List.prefix_append .., List.prefix_append ..⟩

section Documents

variable {acceptUnsigned : Bool} {document : Bytes} {p : Parsed} {t : Transcript}

theorem Cleared.own (h : Cleared acceptUnsigned document p t) : own? document = some p := by
  cases h with
  | signed o parses spared => simp [own?, payload?, o.decodes, o.attached, parses, Except.toOption]
  | unsigned plain accepted parses spared => simp [own?, payload?, plain, parses, Except.toOption]

variable {σ : Type} {answer : (q : Query) → StateM σ q.Reply} {start : σ}

theorem openDocument_run_own
    (h : ((openDocument acceptUnsigned document).run answer start).1 = .ok p) :
    own? document = some p := by
  obtain ⟨t, hrun⟩ := Dialogue.runs_run answer (openDocument acceptUnsigned document) start
  rw [h] at hrun
  exact (openDocument_runs_ok_iff.mp hrun).own

/-- A document that makes a manifest was opened, and the manifest begins with what it says. -/
theorem resolve_run_ok {m : Manifest}
    (h : ((resolve acceptUnsigned document).run answer start).1 = .ok m) :
    ∃ top, ((openDocument acceptUnsigned document).run answer start).1 = .ok top ∧
      own? document = some top ∧ m.BeginsWith top := by
  obtain ⟨found, -, hresolve⟩ := resolve_of_states acceptUnsigned document answer start
  rw [h] at hresolve
  cases hopen : ((openDocument acceptUnsigned document).run answer start).1 with
  | error e =>
    rw [hopen] at hresolve
    cases hresolve
  | ok top =>
    rw [hopen] at hresolve
    cases hresolve
    exact ⟨top, rfl, openDocument_run_own hopen, beginsWith_expansion found top⟩

/-- Once a document is opened, nothing behind its locators keeps it from making a manifest. -/
theorem resolve_run_of_openDocument
    (h : ((openDocument acceptUnsigned document).run answer start).1 = .ok p) :
    ∃ m, ((resolve acceptUnsigned document).run answer start).1 = .ok m ∧ m.BeginsWith p := by
  obtain ⟨found, -, hresolve⟩ := resolve_of_states acceptUnsigned document answer start
  rw [h] at hresolve
  exact ⟨expansion found p, hresolve, beginsWith_expansion found p⟩

end Documents
end Manifest
end Appraisal
