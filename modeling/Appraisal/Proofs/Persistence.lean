import Appraisal.Proofs.Attestation
import Appraisal.Proofs.Manifest.TopLevel
import Appraisal.Proofs.Measurement.Growth

/-!
# Appraisal.Proofs.Persistence

What nobody can talk the verifier out of. A document speaks for itself before any other does, so what
its locators lead to cannot hide that a device fails it. More evidence only adds to what was received, so
it neither takes an acceptance back nor hides a value that does not agree.

* `verify_run_of_resolve`: with a manifest, the outcome is that of the comparison.
* `verdict_persists`: both, for any services and for any evidence.
-/

namespace Appraisal

open Measurement

section Verification

variable {acceptUnsigned : Bool} {document : Bytes} {σ : Type}
  {answer : (q : Query) → StateM σ q.Reply} {start : σ}

theorem verify_run_of_resolve {m : Manifest} {received : Aggregate}
    (h : ((Manifest.resolve acceptUnsigned document).run answer start).1 = .ok m) :
    ((verify acceptUnsigned received document).run answer start).1 = .ok (compare received m) := by
  obtain ⟨t, hrun, hheard⟩ := Dialogue.run_eq_iff.mp
    (rfl : (verify acceptUnsigned received document).run answer start = (_, _))
  obtain ⟨m', hresolve, hr⟩ | ⟨e, hresolve, -⟩ := verify_runs hrun
  · rw [Dialogue.run_eq_iff.mpr ⟨t, hresolve, hheard⟩] at h
    cases h
    exact hr
  · rw [Dialogue.run_eq_iff.mpr ⟨t, hresolve, hheard⟩] at h
    cases h

end Verification

/-- A failure of a document's own records is the outcome, with any services and so whatever the nested
documents say. An accepted device stays accepted, however much more is received, as long as nothing else
is expected; so the order of records and their repetitions make no difference. And once a value was
received that does not agree, no more evidence can mend it. -/
theorem verdict_persists (acceptUnsigned : Bool) (document : Bytes) :
    (∀ (σ : Type) (answer : (q : Query) → StateM σ q.Reply) (start : σ) (m : Manifest),
      ((Manifest.resolve acceptUnsigned document).run answer start).1 = .ok m →
      ∃ top, Manifest.own? document = some top ∧
        ∀ received f, (compare received top.manifest).failure = some f →
          ((verify acceptUnsigned received document).run answer start).1 = .ok ⟨some f⟩ ∧
          f.verdict = .fail) ∧
    (∀ (received : Aggregate) (more : List (List Record)) (m m' : Manifest),
      (compare received m).verdict = .ok → m'.records ⊆ m.records →
      (compare (received.addAll more).1 m').verdict = .ok) ∧
    (∀ (received : Aggregate) (m m' : Manifest), (∀ r, r ∈ m.records ↔ r ∈ m'.records) →
      (compare received m).verdict = (compare received m').verdict) ∧
    (∀ (received : Aggregate) (more : List (List Record)) (m : Manifest) (k : Key) (d : Mismatch),
      (compare received m).failure = some (.mismatch k d) →
      (compare (received.addAll more).1 m).failure = some (.mismatch k d)) := by
  refine ⟨?_, ?_, ?_, ?_⟩
  · intro σ answer start m hresolve
    obtain ⟨top, -, hown, hbegins⟩ := Manifest.resolve_run_ok hresolve
    refine ⟨top, hown, ?_⟩
    intro received f hf
    refine ⟨?_, verdict_of_compare_failure hf⟩
    rw [verify_run_of_resolve hresolve, compare_failure_of_prefix hbegins.records hf]
  · intro received more m m' hok hsub
    exact compare_ok_of_subset Aggregate.keeps_addAll hsub hok
  · intro received m m' h
    exact compare_verdict_congr h
  · intro received more m k d h
    exact compare_mismatch_of_keeps Aggregate.keeps_addAll h

/-- A document that expects a security version with a nested one that endorses, for a device that reports
another version. The device is refused; by a manifest that expects its version twice it is accepted, also
after it reported something else under another key and contradicted itself. -/
theorem verdict_persists_other_version :
    let key : Key := { vendor := "v" }
    let received : Aggregate := ⟨[(key, { svn := some 2 })]⟩
    let document := Manifest.Sample.signed
      "\x7b\"locators\":[\"a:n\"],\"revocation-locator\":\"a:r\",\"reference-triples\":[\x7b\"environment\":\x7b\"vendor\":\"v\"\x7d,\"measurement\":\x7b\"svn\":3\x7d\x7d]\x7d"
    let answer : (q : Query) → StateM Unit q.Reply := fun q => pure (Manifest.Sample.services q)
    let m : Manifest := { records := [⟨key, { svn := some 3 }⟩], endorsed := [⟨{}, {}⟩] }
    let more : List (List Record) := [[⟨{ vendor := "w" }, {}⟩], [⟨key, { svn := some 3 }⟩]]
    let expected : Record := ⟨key, { svn := some 2 }⟩
    ((Manifest.resolve false document).run answer ()).1 = .ok m ∧
      ((verify false received document).run answer ()).1 =
        .ok ⟨some (.mismatch key ⟨"svn", "3", "2"⟩)⟩ ∧
      (compare (received.addAll more).1 { records := [expected, expected] }).verdict = .ok ∧
      (compare (received.addAll more).1 m).failure = some (.mismatch key ⟨"svn", "3", "2"⟩) := by
  intro key received document answer m more expected
  obtain ⟨hnested, hmore, -, hmismatch⟩ := verdict_persists false document
  have hresolve : ((Manifest.resolve false document).run answer ()).1 = .ok m :=
    except_eq_ok_of_toOption (by decide +kernel)
  obtain ⟨top, hown, hfail⟩ := hnested Unit answer () m hresolve
  have htop : Manifest.own? document = some ⟨{ m with endorsed := [] }, ["a:n"], some "a:r"⟩ := by
    decide +kernel
  cases hown.symm.trans htop
  refine ⟨hresolve, ?_, ?_, ?_⟩
  · exact (hfail received _ (by decide +kernel)).1
  · exact hmore received more { records := [expected] } _ (by decide +kernel) (by decide)
  · exact hmismatch received more m key _ (by decide +kernel)

end Appraisal
