import Appraisal.Certificate
import Appraisal.Proofs.Manifest.Parsing
import Appraisal.Proofs.Measurement.History
import Appraisal.Proofs.Report.Device
import Appraisal.Proofs.Report.Spdm
import Appraisal.Proofs.TcbInfo.Extension

/-!
# Appraisal.Proofs.Golden

Golden manifests. A device is accepted by the manifest that lists what was received from it. That is not so for
every value: vendor information satisfies itself only if its mask is applied to it already. It holds as every
source of records applies the mask, to digits in upper case and as many as the mask has.

* `Value.Settled`: values whose vendor information is masked; `satisfiedBy_self_iff` says that they are those
  which satisfy themselves.
* `Produced`: the records of manifests, of reports in either format and of certificates.
* `Produced.settled`: all of these have settled values.
* `golden_accepts`: what was received is accepted by its own manifest, and by none that expects one more key.
-/

namespace Appraisal

open Measurement

namespace Measurement

/-- Vendor information that its mask leaves as it is: as many digits as the mask has, in upper case, and none
with a bit that the mask does not have. -/
def VendorInfo.Settled (i : VendorInfo) : Prop := MaskedTo i.value.toList i.mask.toList i.value.toList

def Value.Settled (v : Value) : Prop := ∀ i ∈ v.vendorInfo, i.Settled

section Settled

variable {v : Value} {value mask : Option String} {info : VendorInfo}

theorem Value.settled_of_vendorInfo (h : v.vendorInfo = none) : v.Settled := by
  simp [Settled, h]

/-- The settled values are those that satisfy themselves. -/
theorem Value.satisfiedBy_self_iff : v.SatisfiedBy v ↔ v.Settled := by
  constructor
  · intro h i hi
    obtain ⟨i', hi', hmasked⟩ := h.vendorInfo i hi
    cases hi.symm.trans hi'
    exact applyMask_eq_ok_iff.mp hmasked
  · intro h
    exact
      { version := fun _ he => he
        svn := fun _ he => he
        fwid := fun e he => ⟨e, he, rfl, rfl⟩
        flags := fun e he => ⟨e, he, rfl⟩
        vendorInfo := fun e he => ⟨e, he, applyMask_eq_ok_iff.mpr (h e he)⟩ }

/-- A value that has digits beside its mask is not received as it is expected. -/
example :
    let v : Value := { vendorInfo := some ⟨"FF", "F0"⟩ }
    v.firstMismatch v = some ⟨"vendor_info", "FF (mask F0)", "FF"⟩ := by
  decide +kernel

/-- Digits under a mask are settled, whether the mask is given or left out. -/
theorem settled_of_holdsInfo (h : Manifest.HoldsInfo value mask (some info)) : info.Settled := by
  cases h with
  | one hmask hvalue =>
    rw [VendorInfo.Settled, hmask, maskedTo_map_toUpper_mask]
    exact hvalue.again

theorem VendorInfo.settled_ofBytes (data : Bytes) : (ofBytes data).Settled := by
  rw [← ofText_upper]
  exact settled_of_holdsInfo (Manifest.holdsInfo_ofText Hex.isDigit_of_mem_upper (by simp))

end Settled
end Measurement

/-- A record of one of the sources: a manifest, a device report, an SPDM report or a certificate. -/
inductive Produced (r : Record) : Prop where
  | manifest {document : Bytes} {m : Manifest} (parsed : Manifest.parse document = .ok m)
      (mem : r ∈ m.records ++ m.endorsed)
  | device {response : Wire.GetMeasurement} {rs : List Record}
      (read : DeviceReport.ofResponse response = .ok rs) (mem : r ∈ rs)
  | spdm {report : Bytes} {rs : List Record} (read : SpdmReport.records report = .ok rs) (mem : r ∈ rs)
  | certificate {der : Bytes} {rs : List Record} (read : tcbRecords der = .ok rs) (mem : r ∈ rs)

section Sources

variable {t : Manifest.Triple} {document der : Bytes} {m : Manifest} {r : Record} {rs : List Record}

theorem Manifest.Triple.WellFormed.settled (h : t.WellFormed) : t.told.value.Settled := by
  intro i hi
  have htells := h.tells.vendorInfo
  rw [hi] at htells
  exact settled_of_holdsInfo htells

/-- The records of a manifest are those of well-formed triples. -/
theorem Manifest.settled_of_parse (h : Manifest.parse document = .ok m) (hr : r ∈ m.records ++ m.endorsed) :
    r.value.Settled := by
  cases hdocument : Document.parse? document with
  | none =>
    rw [parse, parseDocument, hdocument] at h
    cases h
  | some d =>
    obtain ⟨hwell, rfl⟩ := (parse_eq_ok_iff hdocument).mp h
    rw [← List.map_append] at hr
    obtain ⟨t, ht, rfl⟩ := List.mem_map.mp hr
    rcases List.mem_append.mp ht with ht | ht
    · exact (hwell.referenceTriples t ht).settled
    · exact (hwell.endorsedTriples t ht).settled

theorem Report.Reading.settled (x : Report.Reading) : x.record.value.Settled := by
  rw [record, value]
  split
  · intro i hi
    cases hi
    exact VendorInfo.settled_ofBytes x.data
  · exact Value.settled_of_vendorInfo rfl

/-- The vendor information of a TCB info is the bytes of its last field 8. -/
theorem TcbInfo.settled_of_record {e : Der.Element} (h : TcbInfo.record e = .ok r) : r.value.Settled := by
  simp only [record, except_bind_eq_ok_iff] at h
  obtain ⟨-, -, fields, -, hfields⟩ := h
  have hdecides := (tells_of_addFields hfields).vendorInfo
  rw [Decides] at hdecides
  cases hlast : lastField 8 fields with
  | none =>
    rw [hlast] at hdecides
    exact Value.settled_of_vendorInfo hdecides
  | some f =>
    rw [hlast] at hdecides
    obtain ⟨_, hinfo, rfl⟩ := hdecides
    intro i hi
    cases hinfo.symm.trans hi
    exact VendorInfo.settled_ofBytes f.content

theorem TcbInfo.settled_of_records {es : List Der.Element} (h : TcbInfo.records es = .ok rs) :
    ∀ r ∈ rs, r.value.Settled := by
  induction es generalizing rs with
  | nil =>
    cases h
    exact List.forall_mem_nil _
  | cons e es ih =>
    rw [records] at h
    split at h
    · cases h
    · rename_i r hfirst
      split at h
      · cases h
      · rename_i rs' hrest
        cases h
        exact List.forall_mem_cons.mpr ⟨settled_of_record hfirst, ih hrest⟩

theorem TcbInfo.settled_of_ofExtension {oid : String} {w : Bytes} (h : ofExtension oid w = .ok rs) :
    ∀ r ∈ rs, r.value.Settled := by
  rw [ofExtension] at h
  split at h
  · simp only [except_bind_eq_ok_iff] at h
    obtain ⟨e, -, r, hrecord, h⟩ := h
    cases h
    exact List.forall_mem_singleton.mpr (settled_of_record hrecord)
  · split at h
    · simp only [except_bind_eq_ok_iff] at h
      obtain ⟨-, -, -, -, es, -, hrecords⟩ := h
      exact settled_of_records hrecords
    · cases h
      exact List.forall_mem_nil _

theorem Certificate.settled_of_recordsOf {xs : List Extension} (h : Certificate.recordsOf xs = .ok rs) :
    ∀ r ∈ rs, r.value.Settled := by
  induction xs generalizing rs with
  | nil =>
    cases h
    exact List.forall_mem_nil _
  | cons x xs ih =>
    rw [recordsOf] at h
    split at h
    · cases h
    · rename_i first hfirst
      split at h
      · cases h
      · rename_i rest hrest
        cases h
        exact List.forall_mem_append.mpr ⟨TcbInfo.settled_of_ofExtension hfirst, ih hrest⟩

theorem settled_of_tcbRecords (h : tcbRecords der = .ok rs) : ∀ r ∈ rs, r.value.Settled := by
  rw [tcbRecords] at h
  split at h
  · cases h
  · exact Certificate.settled_of_recordsOf h

theorem Produced.settled (h : Produced r) : r.value.Settled := by
  cases h with
  | manifest parsed mem => exact Manifest.settled_of_parse parsed mem
  | device read mem =>
    obtain ⟨blocks, -, -, rfl⟩ := DeviceReport.ofResponse_eq_ok_iff.mp read
    obtain ⟨x, -, rfl⟩ := List.mem_map.mp mem
    exact x.settled
  | spdm read mem =>
    obtain ⟨blocks, -, -, -, rfl⟩ := SpdmReport.records_eq_ok_iff_written.mp read
    obtain ⟨x, -, rfl⟩ := List.mem_map.mp mem
    exact x.settled
  | certificate read mem => exact settled_of_tcbRecords read r mem

end Sources

section Golden

variable {a : Aggregate} {m : Manifest} {r : Record} {rss : List (List Record)}

theorem Measurement.Aggregate.Sorted.satisfiedBy_of_mem (ha : a.Sorted) (hmem : (r.key, r.value) ∈ a.entries)
    (h : r.value.Settled) : r.SatisfiedBy a :=
  ⟨r.value, ha.mem_iff.mp hmem, Value.satisfiedBy_self_iff.mpr h⟩

/-- What was added is settled, so all entries are. -/
theorem settled_of_mem_addAll (h : ∀ r ∈ rss.flatten, r.value.Settled)
    (hr : (r.key, r.value) ∈ (Aggregate.empty.addAll rss).1.entries) : r.value.Settled := by
  obtain ⟨added, hadded, hmerges⟩ := Aggregate.exists_merges_addAll rss Aggregate.merges_empty
  have hsorted : (Aggregate.empty.addAll rss).1.Sorted := Aggregate.sorted_addAll Aggregate.sorted_empty
  obtain ⟨x, hx, -, -, hvalue⟩ := (hmerges r.key r.value).mp (hsorted.mem_iff.mp hr)
  exact hvalue ▸ h x (hadded hx)

/-- Every value that a source makes satisfies itself. So whatever was added from these sources, and whether or
not it went through, a manifest that lists the entries accepts it, in any order and with any of them repeated;
and one more record, wherever it stands, makes it fail for exactly its key if that is not held. -/
theorem golden_accepts :
    (∀ r, Produced r → r.value.firstMismatch r.value = none) ∧
    ∀ rss : List (List Record), (∀ r ∈ rss.flatten, Produced r) →
      let a := (Aggregate.empty.addAll rss).1
      ∀ m : Manifest, (∀ r : Record, r ∈ m.records ↔ (r.key, r.value) ∈ a.entries) →
        compare a m = ⟨none⟩ ∧ (compare a m).verdict = .ok ∧
        ∀ (m' : Manifest) (before after : List Record) (x : Record), m.records = before ++ after →
          m'.records = before ++ x :: after → a.get? x.key = none →
          compare a m' = ⟨some (.missingMeasurement x.key)⟩ ∧ (compare a m').verdict = .fail := by
  refine ⟨fun r h => Value.firstMismatch_eq_none_iff.mpr (Value.satisfiedBy_self_iff.mpr h.settled), ?_⟩
  intro rss hproduced a m hlists
  have hsorted : a.Sorted := Aggregate.sorted_addAll Aggregate.sorted_empty
  have hall : ∀ r ∈ m.records, r.SatisfiedBy a := by
    intro r hr
    have hmem := (hlists r).mp hr
    exact hsorted.satisfiedBy_of_mem hmem (settled_of_mem_addAll (fun r h => (hproduced r h).settled) hmem)
  have hok : compare a m = ⟨none⟩ := (Judged.satisfied hall).eq_compare
  refine ⟨hok, by rw [hok]; rfl, ?_⟩
  intro m' before after x hm hm' hnone
  have hfirst : FirstWithout (·.SatisfiedBy a) m'.records x := by
    refine ⟨before, after, hm', fun r hr => hall r (hm ▸ List.mem_append_left after hr), ?_⟩
    intro h
    obtain ⟨actual, hget, -⟩ := h
    rw [hnone] at hget
    cases hget
  have hfail : compare a m' = ⟨some (.missingMeasurement x.key)⟩ :=
    (Judged.missing hfirst hnone).eq_compare
  exact ⟨hfail, by rw [hfail]; rfl⟩

/-- A masked value of a manifest, and the state of a device that is listed twice. -/
theorem golden_accepts_masked :
    let masked : Record := ⟨{}, { vendorInfo := some ⟨"100", "F0F"⟩ }⟩
    let state : Record := Report.Reading.record ⟨1, 0, [0xAB]⟩
    let other : Record := ⟨{ vendor := "v" }, {}⟩
    let a := (Aggregate.empty.addAll [[masked], [state, masked]]).1
    Produced masked ∧ Produced state ∧
      masked.value.firstMismatch masked.value = none ∧
      compare a { records := [state, masked, state] } = ⟨none⟩ ∧
      compare a { records := [state, other, masked, state] } = ⟨some (.missingMeasurement other.key)⟩ := by
  intro masked state other a
  have hmasked : Produced masked :=
    .manifest Manifest.manifest_sampleText (List.mem_singleton.mpr rfl)
  have hreport : DeviceReport.ofResponse
      { Wire.GetMeasurement.zero with
        numberOfMeasurementBlocks := 1
        measurementRecord := [1, 0, 0, 9, 0, 0, 0, 0, 0xAB] } = .ok [state] :=
    except_eq_ok_of_toOption (by decide +kernel)
  have hstate : Produced state := .device hreport (List.mem_singleton.mpr rfl)
  have hentries : a.entries = [(masked.key, masked.value), (state.key, state.value)] := by
    decide +kernel
  have hlists : ∀ r, r ∈ [state, masked, state] ↔ (r.key, r.value) ∈ a.entries := by
    intro r
    have hpair : ∀ x : Record, (r.key, r.value) = (x.key, x.value) ↔ r = x := by
      intro x
      obtain ⟨key, value⟩ := x
      exact ⟨fun h => by cases h; rfl, fun h => by rw [h]⟩
    simp only [hentries, List.mem_cons, List.not_mem_nil, or_false, hpair]
    grind
  obtain ⟨hself, hgolden⟩ := golden_accepts
  obtain ⟨hok, -, hmissing⟩ := hgolden [[masked], [state, masked]]
    (by simp [hmasked, hstate]) { records := [state, masked, state] } hlists
  obtain ⟨hfail, -⟩ := hmissing { records := [state, other, masked, state] } [state] [masked, state]
    other rfl rfl (by decide +kernel)
  exact ⟨hmasked, hstate, hself masked hmasked, hok, hfail⟩

end Golden
end Appraisal
