import Appraisal.Manifest.Basic
import Appraisal.Proofs.Json.Likeness
import Appraisal.Proofs.Measurement.Masking
import Appraisal.Proofs.Transcript
import Mathlib.Data.List.Forall2

/-!
# Appraisal.Proofs.Manifest.Parsing

Which documents are manifests, and what manifest each of them is.

* `Document.WellFormed`: the documents that are manifests: text that is there is not empty, and values are
  hexadecimal.
* `Triple.Tells`: the record of a triple.
* `documentShape`: what is read of a document, as a shape; `respects_document` says that nothing else is.
* `parse_exact`: a document is accepted exactly when it is well-formed, its records are those of its triples in
  order, and neither the order of members nor unknown members make a difference.
-/

namespace Appraisal
namespace Manifest

open Measurement Json

/-- Hexadecimal digits, one at least. -/
def IsHex (s : String) : Prop := s ≠ "" ∧ ∀ c ∈ s.toList, Hex.isDigit c = true

/-- Hexadecimal digits that write bytes, one at least. -/
def IsHexBytes (s : String) : Prop := IsHex s ∧ s.length % 2 = 0

structure Environment.WellFormed (e : Environment) : Prop where
  vendor : ∀ s ∈ e.vendor, s ≠ ""
  model : ∀ s ∈ e.model, s ≠ ""
  type : ∀ s ∈ e.type, s ≠ ""

structure Reference.WellFormed (r : Reference) : Prop where
  version : ∀ s ∈ r.version, s ≠ ""
  single : r.digests.length ≤ 1
  digest : ∀ d ∈ r.digests, d.alg ≠ "" ∧ IsHexBytes d.value
  flags : ∀ s ∈ r.flags, IsHexBytes s
  rawValue : ∀ s ∈ r.rawValue, IsHex s
  mask : ∀ s ∈ r.rawValueMask, IsHex s ∧ r.rawValue ≠ none

structure Triple.WellFormed (t : Triple) : Prop where
  environment : t.environment.WellFormed
  measurement : t.measurement.WellFormed

structure Document.WellFormed (d : Document) : Prop where
  manifestId : ∀ s ∈ d.manifestId, s ≠ ""
  referenceTriples : ∀ t ∈ d.referenceTriples, t.WellFormed
  endorsedTriples : ∀ t ∈ d.endorsedTriples, t.WellFormed

section Checks

variable {α : Type} {field value s : String} {o o' : Option String}

theorem nonEmpty_eq_ok_iff : nonEmpty field value = .ok s ↔ value ≠ "" ∧ s = value := by
  rw [nonEmpty]
  by_cases h : value = ""
  · simp [h]
  · rw [if_neg (by simpa using h), Except.ok.injEq, eq_comm]
    exact ⟨fun hs => ⟨h, hs⟩, fun hs => hs.2⟩

theorem hexDigits_eq_ok_iff : hexDigits field value = .ok s ↔ IsHex value ∧ s = Ascii.upper value := by
  simp only [hexDigits, except_bind_eq_ok_iff, nonEmpty_eq_ok_iff]
  constructor
  · intro h
    obtain ⟨value', ⟨hne, rfl⟩, h⟩ := h
    split at h
    · rename_i hdigits
      cases h
      exact ⟨⟨hne, List.all_eq_true.mp hdigits⟩, rfl⟩
    · cases h
  · intro h
    obtain ⟨⟨hne, hdigits⟩, rfl⟩ := h
    refine ⟨value, ⟨hne, rfl⟩, ?_⟩
    rw [if_pos (List.all_eq_true.mpr hdigits)]
    rfl

theorem hexValue_eq_ok_iff :
    hexValue field value = .ok s ↔ IsHexBytes value ∧ s = Ascii.upper value := by
  simp only [hexValue, except_bind_eq_ok_iff, nonEmpty_eq_ok_iff]
  constructor
  · intro h
    obtain ⟨value', ⟨hne, rfl⟩, h⟩ := h
    split at h
    · rename_i bs hdecode
      cases h
      obtain ⟨hdigits, heven⟩ := Hex.isSome_decode?_iff.mp (by rw [hdecode]; rfl)
      exact ⟨⟨⟨hne, hdigits⟩, heven⟩, rfl⟩
    · cases h
  · intro h
    obtain ⟨⟨⟨hne, hdigits⟩, heven⟩, rfl⟩ := h
    obtain ⟨bs, hdecode⟩ := Option.isSome_iff_exists.mp (Hex.isSome_decode?_iff.mpr ⟨hdigits, heven⟩)
    refine ⟨value, ⟨hne, rfl⟩, ?_⟩
    rw [hdecode]
    rfl

/-- A check of text that is there: what it accepts, and what it makes of it. -/
theorem checked_eq_ok_iff {check : String → String → Except Error String} {P : String → Prop}
    {f : String → String} (h : ∀ {value s}, check field value = .ok s ↔ P value ∧ s = f value) :
    checked check field o = .ok o' ↔ (∀ s ∈ o, P s) ∧ o' = o.map f := by
  cases o with
  | none => simp [checked, eq_comm]
  | some value =>
    rw [checked]
    constructor
    · intro hchecked
      cases hcheck : check field value with
      | error e =>
        rw [hcheck] at hchecked
        cases hchecked
      | ok s =>
        rw [hcheck] at hchecked
        cases hchecked
        obtain ⟨hP, rfl⟩ := h.mp hcheck
        exact ⟨by simpa using hP, rfl⟩
    · intro hchecked
      obtain ⟨hP, rfl⟩ := hchecked
      rw [h.mpr ⟨hP value rfl, rfl⟩]
      rfl

theorem checked_nonEmpty_eq_ok_iff :
    checked nonEmpty field o = .ok o' ↔ (∀ s ∈ o, s ≠ "") ∧ o' = o := by
  rw [checked_eq_ok_iff (f := id) nonEmpty_eq_ok_iff, Option.map_id, id]

end Checks

section Records

variable {e : Environment} {r : Reference} {t : Triple} {ts : List Triple} {d : Document}

namespace Environment

/-- The key of an environment that is well-formed. -/
def told (e : Environment) : Key where
  vendor := e.vendor.getD ""
  model := e.model
  layer := e.layer.getD 0
  index := e.index.getD 0
  measurementType := e.type

theorem key_eq_ok_iff {k : Key} : e.key = .ok k ↔ e.WellFormed ∧ k = e.told := by
  simp only [key, except_bind_eq_ok_iff, checked_nonEmpty_eq_ok_iff]
  constructor
  · intro h
    obtain ⟨_, ⟨hvendor, rfl⟩, _, ⟨hmodel, rfl⟩, _, ⟨htype, rfl⟩, h⟩ := h
    cases h
    exact ⟨⟨hvendor, hmodel, htype⟩, rfl⟩
  · intro h
    obtain ⟨⟨hvendor, hmodel, htype⟩, rfl⟩ := h
    exact ⟨_, ⟨hvendor, rfl⟩, _, ⟨hmodel, rfl⟩, _, ⟨htype, rfl⟩, rfl⟩

end Environment

theorem fwid_eq_ok_iff {ds : List Digest} {f : Option Fwid} :
    fwid ds = .ok f ↔ (ds.length ≤ 1 ∧ ∀ d ∈ ds, d.alg ≠ "" ∧ IsHexBytes d.value) ∧
      f = ds.head?.map fun d => ⟨d.alg, Ascii.upper d.value⟩ := by
  rcases ds with - | ⟨d, - | ⟨d', ds⟩⟩
  · rw [fwid, Except.ok.injEq, eq_comm]
    simp
  · simp only [fwid, except_bind_eq_ok_iff, nonEmpty_eq_ok_iff, hexValue_eq_ok_iff]
    constructor
    · intro h
      obtain ⟨_, ⟨halg, rfl⟩, _, ⟨hvalue, rfl⟩, h⟩ := h
      cases h
      rw [Fwid.ofDigest, Ascii.upper_upper]
      exact ⟨⟨Nat.le_refl 1, by simpa using ⟨halg, hvalue⟩⟩, rfl⟩
    · intro h
      obtain ⟨⟨-, hd⟩, rfl⟩ := h
      obtain ⟨halg, hvalue⟩ := hd d (List.mem_singleton.mpr rfl)
      refine ⟨_, ⟨halg, rfl⟩, _, ⟨hvalue, rfl⟩, ?_⟩
      rw [Fwid.ofDigest, Ascii.upper_upper]
      rfl
  · simp [fwid]

theorem ofText_upper_text (value : String) (mask : Option String) :
    VendorInfo.ofText (Ascii.upper value) (mask.map Ascii.upper) = VendorInfo.ofText value mask := by
  cases mask <;> simp only [VendorInfo.ofText, Ascii.upper_upper, Ascii.utf8ByteSize_upper, Option.map]

theorem vendorInfo_eq_ok_iff {value mask : Option String} {info : Option VendorInfo} :
    vendorInfo value mask = .ok info ↔
      ((∀ s ∈ value, IsHex s) ∧ ∀ s ∈ mask, IsHex s ∧ value ≠ none) ∧
        info = value.map fun s => VendorInfo.ofText s mask := by
  cases value with
  | none => cases mask <;> simp [vendorInfo, eq_comm]
  | some value =>
    simp only [vendorInfo, except_bind_eq_ok_iff, hexDigits_eq_ok_iff,
      checked_eq_ok_iff hexDigits_eq_ok_iff]
    constructor
    · intro h
      obtain ⟨_, ⟨hvalue, rfl⟩, _, ⟨hmask, rfl⟩, h⟩ := h
      cases h
      rw [ofText_upper_text]
      exact ⟨⟨by simpa using hvalue, fun s hs => ⟨hmask s hs, by simp⟩⟩, rfl⟩
    · intro h
      obtain ⟨⟨hvalue, hmask⟩, rfl⟩ := h
      refine ⟨_, ⟨hvalue value rfl, rfl⟩, _, ⟨fun s hs => (hmask s hs).1, rfl⟩, ?_⟩
      rw [ofText_upper_text]
      rfl

namespace Reference

/-- The value of a reference that is well-formed. -/
def told (r : Reference) : Measurement.Value where
  version := r.version
  svn := r.svn
  fwid := r.digests.head?.map fun d => ⟨d.alg, Ascii.upper d.value⟩
  flags := r.flags.map Ascii.upper
  vendorInfo := r.rawValue.map fun s => VendorInfo.ofText s r.rawValueMask

theorem value_eq_ok_iff {v : Measurement.Value} : r.value = .ok v ↔ r.WellFormed ∧ v = r.told := by
  simp only [value, except_bind_eq_ok_iff, fwid_eq_ok_iff, vendorInfo_eq_ok_iff,
    checked_nonEmpty_eq_ok_iff, checked_eq_ok_iff hexValue_eq_ok_iff]
  constructor
  · intro h
    obtain ⟨_, ⟨⟨hsingle, hdigest⟩, rfl⟩, _, ⟨⟨hraw, hmask⟩, rfl⟩, _, ⟨hversion, rfl⟩, _, ⟨hflags, rfl⟩,
      h⟩ := h
    cases h
    exact ⟨⟨hversion, hsingle, hdigest, hflags, hraw, hmask⟩, rfl⟩
  · intro h
    obtain ⟨⟨hversion, hsingle, hdigest, hflags, hraw, hmask⟩, rfl⟩ := h
    exact ⟨_, ⟨⟨hsingle, hdigest⟩, rfl⟩, _, ⟨⟨hraw, hmask⟩, rfl⟩, _, ⟨hversion, rfl⟩, _, ⟨hflags, rfl⟩,
      rfl⟩

end Reference

namespace Triple

def told (t : Triple) : Record := ⟨t.environment.told, t.measurement.told⟩

theorem record_eq_ok_iff {x : Record} : t.record = .ok x ↔ t.WellFormed ∧ x = t.told := by
  simp only [record, except_bind_eq_ok_iff, Environment.key_eq_ok_iff, Reference.value_eq_ok_iff]
  constructor
  · intro h
    obtain ⟨_, ⟨henvironment, rfl⟩, _, ⟨hmeasurement, rfl⟩, h⟩ := h
    cases h
    exact ⟨⟨henvironment, hmeasurement⟩, rfl⟩
  · intro h
    obtain ⟨⟨henvironment, hmeasurement⟩, rfl⟩ := h
    exact ⟨_, ⟨henvironment, rfl⟩, _, ⟨hmeasurement, rfl⟩, rfl⟩

end Triple

theorem recordsOf_eq_ok_iff {rs : List Record} :
    recordsOf ts = .ok rs ↔ (∀ t ∈ ts, t.WellFormed) ∧ rs = ts.map Triple.told := by
  induction ts generalizing rs with
  | nil => simp [recordsOf, eq_comm]
  | cons t ts ih =>
    simp only [recordsOf, except_bind_eq_ok_iff, Triple.record_eq_ok_iff, ih, List.forall_mem_cons]
    constructor
    · intro h
      obtain ⟨_, ⟨hfirst, rfl⟩, _, ⟨hrest, rfl⟩, h⟩ := h
      cases h
      exact ⟨⟨hfirst, hrest⟩, rfl⟩
    · intro h
      obtain ⟨⟨hfirst, hrest⟩, rfl⟩ := h
      exact ⟨_, ⟨hfirst, rfl⟩, _, ⟨hrest, rfl⟩, rfl⟩

theorem ofDocument_eq_ok_iff {p : Parsed} :
    ofDocument d = .ok p ↔ d.WellFormed ∧
      p = ⟨⟨d.manifestId, d.referenceTriples.map Triple.told, d.endorsedTriples.map Triple.told⟩,
        d.locators, d.revocationLocator⟩ := by
  simp only [ofDocument, except_bind_eq_ok_iff, checked_nonEmpty_eq_ok_iff, recordsOf_eq_ok_iff]
  constructor
  · intro h
    obtain ⟨_, ⟨hid, rfl⟩, _, ⟨hreference, rfl⟩, _, ⟨hendorsed, rfl⟩, h⟩ := h
    cases h
    exact ⟨⟨hid, hreference, hendorsed⟩, rfl⟩
  · intro h
    obtain ⟨⟨hid, hreference, hendorsed⟩, rfl⟩ := h
    exact ⟨_, ⟨hid, rfl⟩, _, ⟨hreference, rfl⟩, _, ⟨hendorsed, rfl⟩, rfl⟩

end Records

/-- The vendor information of a raw value under a mask: the mask in upper case, which covers the whole value if
it is left out, and the digits of the value under it. -/
inductive HoldsInfo : Option String → Option String → Option VendorInfo → Prop where
  | none : HoldsInfo none none none
  | one {value : String} {mask : Option String} {info : VendorInfo} :
      info.mask.toList = (VendorInfo.maskOf value mask).map Char.toUpper →
      MaskedTo value.toList (VendorInfo.maskOf value mask) info.value.toList →
      HoldsInfo (some value) mask (some info)

/-- The record of a triple. -/
structure Triple.Tells (t : Triple) (r : Record) : Prop where
  vendor : r.key.vendor = t.environment.vendor.getD ""
  model : r.key.model = t.environment.model
  layer : r.key.layer = t.environment.layer.getD 0
  index : r.key.index = t.environment.index.getD 0
  type : r.key.measurementType = t.environment.type
  version : r.value.version = t.measurement.version
  svn : r.value.svn = t.measurement.svn
  fwid : r.value.fwid = t.measurement.digests.head?.map fun d => ⟨d.alg, Ascii.upper d.value⟩
  flags : r.value.flags = t.measurement.flags.map Ascii.upper
  vendorInfo : HoldsInfo t.measurement.rawValue t.measurement.rawValueMask r.value.vendorInfo

section Telling

variable {value : String} {mask : Option String} {t : Triple} {ts : List Triple}

/-- Digits under a mask of digits can be masked. -/
theorem holdsInfo_ofText_some {mask : String} (hvalue : ∀ c ∈ value.toList, Hex.isDigit c = true)
    (hmask : ∀ c ∈ mask.toList, Hex.isDigit c = true) :
    HoldsInfo (some value) (some mask) (some (VendorInfo.ofText value (some mask))) := by
  obtain ⟨masked, hmasked, hinfo⟩ | ⟨hnot, -⟩ := VendorInfo.ofText_some value mask
  · rw [hinfo]
    exact .one (Ascii.toList_upper mask) hmasked
  · refine absurd (exists_maskedTo_iff.mpr fun i _ => ?_) hnot
    obtain ⟨a, ha⟩ := exists_nibble? hvalue i
    obtain ⟨b, hb⟩ := exists_nibble? hmask i
    exact ⟨a, b, ha, hb⟩

theorem holdsInfo_ofText (hvalue : ∀ c ∈ value.toList, Hex.isDigit c = true)
    (hmask : ∀ s ∈ mask, ∀ c ∈ s.toList, Hex.isDigit c = true) :
    HoldsInfo (some value) mask (some (VendorInfo.ofText value mask)) := by
  cases mask with
  | some mask => exact holdsInfo_ofText_some hvalue (hmask mask rfl)
  | none =>
    have hall : ∀ c ∈ (String.ofList (List.replicate value.utf8ByteSize 'F')).toList,
        Hex.isDigit c = true := by
      intro c hc
      rw [String.toList_ofList] at hc
      rw [List.eq_of_mem_replicate hc]
      decide
    have hinfo := holdsInfo_ofText_some hvalue hall
    rw [← VendorInfo.ofText_none] at hinfo
    cases hinfo with
    | one hcover hmasked =>
      rw [VendorInfo.maskOf, Option.map_some, Option.getD_some, String.toList_ofList] at hcover hmasked
      exact .one hcover hmasked

theorem Triple.WellFormed.tells (h : t.WellFormed) : t.Tells t.told where
  vendor := rfl
  model := rfl
  layer := rfl
  index := rfl
  type := rfl
  version := rfl
  svn := rfl
  fwid := rfl
  flags := rfl
  vendorInfo := by
    obtain ⟨-, -, -, -, hraw, hmask⟩ := h.measurement
    rw [told, Reference.told]
    generalize t.measurement.rawValue = value at hraw hmask
    generalize t.measurement.rawValueMask = mask at hmask
    cases value with
    | some value => exact holdsInfo_ofText (hraw value rfl).2 fun s hs => (hmask s hs).1.2
    | none =>
      cases mask with
      | none => exact .none
      | some mask => exact absurd rfl (hmask mask rfl).2

theorem tells_told (h : ∀ t ∈ ts, t.WellFormed) : List.Forall₂ Triple.Tells ts (ts.map Triple.told) := by
  rw [List.forall₂_map_right_iff, List.forall₂_same]
  exact fun t ht => (h t ht).tells

end Telling

section Reading

def environmentShape : Shape :=
  .record [⟨"vendor", false⟩, ⟨"model", false⟩, ⟨"layer", false⟩, ⟨"index", false⟩, ⟨"type", false⟩]
    fun _ => .leaf

def digestShape : Shape := .record [⟨"alg", false⟩, ⟨"value", false⟩] fun _ => .leaf

def referenceShape : Shape :=
  .record [⟨"version", false⟩, ⟨"svn", false⟩, ⟨"digests", true⟩, ⟨"raw-value", false⟩,
    ⟨"raw-value-mask", false⟩, ⟨"flags", false⟩]
    fun name => if name = "digests" then .list digestShape else .leaf

def tripleShape : Shape :=
  .record [⟨"environment", false⟩, ⟨"measurement", true⟩]
    fun name => if name = "environment" then environmentShape else referenceShape

/-- What is read of a document. -/
def documentShape : Shape :=
  .record [⟨"manifest-id", false⟩, ⟨"locators", true⟩, ⟨"revocation-locator", false⟩,
    ⟨"reference-triples", true⟩, ⟨"endorsed-triples", true⟩]
    fun name => if name = "locators" then .list .leaf
      else if name = "reference-triples" ∨ name = "endorsed-triples" then .list tripleShape
      else .leaf

theorem respects_environment : Respects environmentShape Environment.ofJson? := by
  intro v w h
  have hslots := Value.slots?_alike h
  rw [Environment.ofJson?, Environment.ofJson?]
  generalize v.slots? _ = a at hslots ⊢
  generalize w.slots? _ = b at hslots ⊢
  cases hslots with
  | none => rfl
  | some hslots =>
    rcases hslots with - | ⟨hvendor, - | ⟨hmodel, - | ⟨hlayer, - | ⟨hindex, - | ⟨htype, - | _⟩⟩⟩⟩⟩
    simp only [(respects_text _).optional hvendor, (respects_text _).optional hmodel,
      (respects_int _).optional hlayer, (respects_int _).optional hindex,
      (respects_text _).optional htype]

theorem respects_digest : Respects digestShape Digest.ofJson? := by
  intro v w h
  have hslots := Value.slots?_alike h
  rw [Digest.ofJson?, Digest.ofJson?]
  generalize v.slots? _ = a at hslots ⊢
  generalize w.slots? _ = b at hslots ⊢
  cases hslots with
  | none => rfl
  | some hslots =>
    rcases hslots with - | ⟨halg, - | ⟨hvalue, - | _⟩⟩
    simp only [(respects_text _).required halg, (respects_text _).required hvalue]

theorem respects_reference : Respects referenceShape Reference.ofJson? := by
  intro v w h
  have hslots := Value.slots?_alike h
  rw [Reference.ofJson?, Reference.ofJson?]
  generalize v.slots? _ = a at hslots ⊢
  generalize w.slots? _ = b at hslots ⊢
  cases hslots with
  | none => rfl
  | some hslots =>
    rcases hslots with - | ⟨hversion, - | ⟨hsvn, - | ⟨hdigests, - | ⟨hraw, - | ⟨hmask, - |
      ⟨hflags, - | _⟩⟩⟩⟩⟩⟩
    simp only [(respects_text _).optional hversion, (respects_int _).optional hsvn,
      respects_digest.list.withDefault [] hdigests, (respects_text _).optional hraw,
      (respects_text _).optional hmask, (respects_text _).optional hflags]

theorem respects_triple : Respects tripleShape Triple.ofJson? := by
  intro v w h
  have hslots := Value.slots?_alike h
  rw [Triple.ofJson?, Triple.ofJson?]
  generalize v.slots? _ = a at hslots ⊢
  generalize w.slots? _ = b at hslots ⊢
  cases hslots with
  | none => rfl
  | some hslots =>
    rcases hslots with - | ⟨henvironment, - | ⟨hmeasurement, - | _⟩⟩
    simp only [respects_environment.required henvironment,
      respects_reference.withDefault {} hmeasurement]

/-- Alike values are the same document, or both none. -/
theorem respects_document : Respects documentShape Document.ofJson? := by
  intro v w h
  have hslots := Value.slots?_alike h
  rw [Document.ofJson?, Document.ofJson?]
  generalize v.slots? _ = a at hslots ⊢
  generalize w.slots? _ = b at hslots ⊢
  cases hslots with
  | none => rfl
  | some hslots =>
    rcases hslots with - | ⟨hid, - | ⟨hlocators, - | ⟨hrevocation, - | ⟨hreference, - |
      ⟨hendorsed, - | _⟩⟩⟩⟩⟩
    simp only [(respects_text _).optional hid, (respects_text .leaf).list.withDefault [] hlocators,
      (respects_text _).optional hrevocation, respects_triple.list.withDefault [] hreference,
      respects_triple.list.withDefault [] hendorsed]

theorem parse_of_alike {bs bs' : Bytes} {v v' : Json.Value} (h : Json.parse? bs = some v)
    (h' : Json.parse? bs' = some v') (halike : Alike documentShape v v') : parse bs' = parse bs := by
  rw [parse, parse, parseDocument, parseDocument, Document.parse?, Document.parse?, h, h']
  dsimp only
  rw [respects_document v v' halike]

theorem parse_eq_ok_iff {bs : Bytes} {d : Document} (h : Document.parse? bs = some d) {m : Manifest} :
    parse bs = .ok m ↔ d.WellFormed ∧
      m = ⟨d.manifestId, d.referenceTriples.map Triple.told, d.endorsedTriples.map Triple.told⟩ := by
  rw [parse, parseDocument, h]
  dsimp only
  constructor
  · intro hparse
    cases hdocument : ofDocument d with
    | error e =>
      rw [hdocument] at hparse
      cases hparse
    | ok p =>
      rw [hdocument] at hparse
      cases hparse
      obtain ⟨hwell, rfl⟩ := ofDocument_eq_ok_iff.mp hdocument
      exact ⟨hwell, rfl⟩
  · intro hparse
    obtain ⟨hwell, rfl⟩ := hparse
    rw [ofDocument_eq_ok_iff.mpr ⟨hwell, rfl⟩]

/-- A document is accepted exactly when it is well-formed. Its records are those of its triples, in order, and
neither the order of members nor members with unknown names make a difference. -/
theorem parse_exact {bs : Bytes} {d : Document} (h : Document.parse? bs = some d) :
    ((∃ m, parse bs = .ok m) ↔ d.WellFormed) ∧
    (∀ m, parse bs = .ok m → m.manifestId = d.manifestId ∧
      List.Forall₂ Triple.Tells d.referenceTriples m.records ∧
      List.Forall₂ Triple.Tells d.endorsedTriples m.endorsed) ∧
    ∀ bs' v v', Json.parse? bs = some v → Json.parse? bs' = some v' → Alike documentShape v v' →
      parse bs' = parse bs := by
  refine ⟨?_, ?_, fun bs' v v' hv hv' => parse_of_alike hv hv'⟩
  · simp only [parse_eq_ok_iff h, exists_and_left, exists_eq, and_true]
  · intro m hm
    obtain ⟨hwell, rfl⟩ := (parse_eq_ok_iff h).mp hm
    exact ⟨rfl, tells_told hwell.referenceTriples, tells_told hwell.endorsedTriples⟩

/-- The measurement of the sample: a mask that is longer than the value. -/
def sampleMeasurement : Json.Value :=
  .object [(ascii "raw-value", .string (ascii "1f")), (ascii "raw-value-mask", .string (ascii "f0f"))]

def sampleTriples (members : List (Bytes × Json.Value)) : Bytes × Json.Value :=
  (ascii "reference-triples", .array [.object members])

def sampleText : Bytes :=
  ascii ("\x7b\"reference-triples\":[\x7b\"environment\":\x7b\x7d," ++
    "\"measurement\":\x7b\"raw-value\":\"1f\",\"raw-value-mask\":\"f0f\"\x7d\x7d]\x7d")

/-- The same triple with its members in the other order, behind a member that is not known. -/
def rearrangedText : Bytes :=
  ascii ("\x7b\"note\":[],\"reference-triples\":[" ++
    "\x7b\"measurement\":\x7b\"raw-value\":\"1f\",\"raw-value-mask\":\"f0f\"\x7d," ++
    "\"environment\":\x7b\x7d\x7d]\x7d")

def sampleDocument : Document :=
  { referenceTriples := [⟨{}, { rawValue := some "1f", rawValueMask := some "f0f" }⟩] }

def measurementTokens : List Token :=
  [.string (ascii "measurement"), .colon, .openObject, .string (ascii "raw-value"), .colon,
    .string (ascii "1f"), .comma, .string (ascii "raw-value-mask"), .colon, .string (ascii "f0f"),
    .closeObject]

theorem parse_sampleText : Json.parse? sampleText = some (.object [sampleTriples
    [(ascii "environment", .object []), (ascii "measurement", sampleMeasurement)]]) := by
  have hscan : Token.scan? sampleText =
      some ([.openObject, .string (ascii "reference-triples"), .colon, .openArray, .openObject,
        .string (ascii "environment"), .colon, .openObject, .closeObject, .comma] ++
        measurementTokens ++ [.closeObject, .closeArray, .closeObject]) := by decide +kernel
  rw [Json.parse?, hscan]
  rfl

theorem parse_rearrangedText : Json.parse? rearrangedText =
    some (.object [(ascii "note", .array []), sampleTriples
      [(ascii "measurement", sampleMeasurement), (ascii "environment", .object [])]]) := by
  have hscan : Token.scan? rearrangedText =
      some ([.openObject, .string (ascii "note"), .colon, .openArray, .closeArray, .comma,
        .string (ascii "reference-triples"), .colon, .openArray, .openObject] ++ measurementTokens ++
        [.comma, .string (ascii "environment"), .colon, .openObject, .closeObject, .closeObject,
          .closeArray, .closeObject]) := by decide +kernel
  rw [Json.parse?, hscan]
  rfl

theorem document_sampleText : Document.parse? sampleText = some sampleDocument := by
  rw [Document.parse?, parse_sampleText]
  decide +kernel

theorem manifest_sampleText :
    parse sampleText = .ok ⟨none, [⟨{}, { vendorInfo := some ⟨"100", "F0F"⟩ }⟩], []⟩ := by
  rw [parse, parseDocument, document_sampleText]
  exact except_eq_ok_of_toOption (by decide +kernel)

theorem parse_exact_rearranged :
    Document.parse? sampleText = some sampleDocument ∧ sampleDocument.WellFormed ∧
      parse sampleText = .ok ⟨none, [⟨{}, { vendorInfo := some ⟨"100", "F0F"⟩ }⟩], []⟩ ∧
      parse rearrangedText = parse sampleText := by
  have hname : unquote? (ascii "note") = some "note" := by decide +kernel
  have halike : Alike documentShape
      (.object [sampleTriples
        [(ascii "environment", .object []), (ascii "measurement", sampleMeasurement)]])
      (.object [(ascii "note", .array []), sampleTriples
        [(ascii "measurement", sampleMeasurement), (ascii "environment", .object [])]]) :=
    .trans (.member (@Alike.item _ [] [] _ _ (.order (.swap _ _ [])))) (.symm (.unknown hname (by decide)))
  obtain ⟨haccepted, -, hlike⟩ := parse_exact document_sampleText
  exact ⟨document_sampleText, haccepted.mp ⟨_, manifest_sampleText⟩, manifest_sampleText,
    hlike rearrangedText _ _ parse_sampleText parse_rearrangedText halike⟩

end Reading

end Manifest
end Appraisal
