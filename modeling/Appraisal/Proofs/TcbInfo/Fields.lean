import Appraisal.TcbInfo
import Appraisal.Proofs.Der.Grammar
import Appraisal.Proofs.Der.Primitive
import Appraisal.Proofs.Measurement.Masking
import Appraisal.Proofs.Transcript

/-!
# Appraisal.Proofs.TcbInfo.Fields

What a TCB info says, field by field. Each attribute of the record has a tag, and the last field of that tag
decides it.

* `SequenceOf`: bytes that are a sequence of elements.
* `Known`, `WellFormed`: the fields that count, and what each of them must be.
* `Adds`: what one field does to the record; `addField_eq_ok_iff` says that the reader does just that.
* `Tells`: what the record of some fields holds.
* `ofExtension_singleOid_exact`: a TCB info is accepted exactly when its known fields are well-formed, and
  then its record is what they tell. Other fields make no difference.
-/

namespace Appraisal

open Measurement Der

namespace Der

/-- Whether the element has a tag of the universal class. -/
def Element.Is (e : Element) (tag : Nat) : Prop := e.tagClass = .universal ∧ e.tag = tag

/-- Bytes that are a sequence of elements. -/
def SequenceOf (es : List Element) (bs : Bytes) : Prop :=
  ∃ e : Element, e.Written bs ∧ e.Is Tag.sequence ∧ InRow es e.content

end Der

namespace TcbInfo

/-- A field of the tag `k`. -/
def IsField (k : Nat) (f : Element) : Prop := f.tagClass = .contextSpecific ∧ f.tag = k

instance (k : Nat) : DecidablePred (IsField k) :=
  fun f => inferInstanceAs (Decidable (f.tagClass = .contextSpecific ∧ f.tag = k))

/-- A field that decides an attribute. -/
def Known (f : Element) : Prop := f.tagClass = .contextSpecific ∧ f.tag ≤ 9

instance : DecidablePred Known :=
  fun f => inferInstanceAs (Decidable (f.tagClass = .contextSpecific ∧ f.tag ≤ 9))

def IsText (content : Bytes) (s : String) : Prop := content = Utf8.encode s

/-- Flags are a bit string, which begins with the number of bits that are not used. -/
def IsFlags (content : Bytes) (s : String) : Prop :=
  ∃ unused bits, content = unused :: bits ∧ s = Hex.upper bits

/-- The digest in a field 6: none if the field is empty, else that of the one sequence of an object identifier
and an octet string in it. -/
inductive HoldsFwid (content : Bytes) : Option Fwid → Prop where
  | none : content = [] → HoldsFwid content none
  | one {alg digest : Element} : SequenceOf [alg, digest] content → alg.Is Tag.objectId →
      digest.Is Tag.octetString →
      HoldsFwid content (some ⟨objectId alg.content, Hex.upper digest.content⟩)

/-- What a known field must be. A field 8 may be anything. -/
structure WellFormed (f : Element) : Prop where
  text : f.tag ≤ 2 → f.constructed = false ∧ ∃ s, IsText f.content s
  number : 3 ≤ f.tag → f.tag ≤ 5 → f.constructed = false ∧ ∃ n, Writes64 f.content n
  fwid : f.tag = 6 → f.constructed = true ∧ ∃ d, HoldsFwid f.content d
  flags : f.tag = 7 → ∃ s, IsFlags f.content s
  type : f.tag = 9 → f.constructed = false

/-- What a field does to the record: a known one sets its attribute, and another one nothing. -/
inductive Adds (f : Element) (r : Record) : Record → Prop where
  | vendor {s : String} : IsField 0 f → f.constructed = false → IsText f.content s →
      Adds f r { r with key := { r.key with vendor := s } }
  | model {s : String} : IsField 1 f → f.constructed = false → IsText f.content s →
      Adds f r { r with key := { r.key with model := some s } }
  | version {s : String} : IsField 2 f → f.constructed = false → IsText f.content s →
      Adds f r { r with value := { r.value with version := some s } }
  | svn {n : Int} : IsField 3 f → f.constructed = false → Writes64 f.content n →
      Adds f r { r with value := { r.value with svn := some n } }
  | layer {n : Int} : IsField 4 f → f.constructed = false → Writes64 f.content n →
      Adds f r { r with key := { r.key with layer := n } }
  | index {n : Int} : IsField 5 f → f.constructed = false → Writes64 f.content n →
      Adds f r { r with key := { r.key with index := n } }
  | fwid {d : Option Fwid} : IsField 6 f → f.constructed = true → HoldsFwid f.content d →
      Adds f r { r with value := { r.value with fwid := d } }
  | flags {s : String} : IsField 7 f → IsFlags f.content s →
      Adds f r { r with value := { r.value with flags := some s } }
  | vendorInfo : IsField 8 f →
      Adds f r { r with value := { r.value with vendorInfo := some (.ofBytes f.content) } }
  | type : IsField 9 f → f.constructed = false →
      Adds f r { r with key := { r.key with measurementType := some (objectId f.content) } }
  | other : ¬ Known f → Adds f r r

section Readers

variable {α : Type} {f e : Element} {es : List Element} {bs w : Bytes} {tag : Nat}
  {d : Option Fwid}

theorem elements_eq_ok_iff : elements bs = .ok es ↔ InRow es bs := by
  rw [← elements?_eq_some_iff, elements]
  cases elements? bs <;> simp

theorem whole_eq_ok_iff : whole w = .ok e ↔ e.Written w := by
  rw [Element.written_iff, whole]
  cases Element.read? w with
  | none => simp
  | some result =>
    obtain ⟨e', r⟩ := result
    cases r <;> simp

theorem expectTag_eq_ok_iff {u : Unit} : expectTag e tag = .ok u ↔ e.Is tag := by
  rw [expectTag, Element.Is]
  split
  · rename_i h
    simp [h]
  · rename_i h
    simp [h]

theorem primitive_eq_ok_iff {read : Bytes → Except DerValueFault α} {x : α} :
    primitive f read = .ok x ↔ f.constructed = false ∧ read f.content = .ok x := by
  rw [primitive]
  cases f.constructed with
  | true => simp
  | false => cases read f.content <;> simp

/-- A primitive field that sets an attribute. -/
theorem primitive_set_eq_ok_iff {read : Bytes → Except DerValueFault α} {Says : Bytes → α → Prop}
    (hread : ∀ {content x}, read content = .ok x ↔ Says content x) {set : α → Record} {r : Record} :
    (primitive f read >>= fun x => pure (set x)) = .ok r ↔
      f.constructed = false ∧ ∃ x, Says f.content x ∧ set x = r := by
  simp only [except_bind_eq_ok_iff, primitive_eq_ok_iff, hread]
  constructor
  · intro h
    obtain ⟨x, ⟨hform, hx⟩, hset⟩ := h
    exact ⟨hform, x, hx, Except.ok.inj hset⟩
  · intro h
    obtain ⟨hform, x, hx, rfl⟩ := h
    exact ⟨x, ⟨hform, hx⟩, rfl⟩

theorem text_set_eq_ok_iff {set : String → Record} {r : Record} :
    (primitive f text >>= fun s => pure (set s)) = .ok r ↔
      f.constructed = false ∧ ∃ s, IsText f.content s ∧ set s = r :=
  primitive_set_eq_ok_iff text_eq_ok_iff

theorem int64_set_eq_ok_iff {set : Int → Record} {r : Record} :
    (primitive f int64 >>= fun n => pure (set n)) = .ok r ↔
      f.constructed = false ∧ ∃ n, Writes64 f.content n ∧ set n = r :=
  primitive_set_eq_ok_iff int64_eq_ok_iff

theorem fwid_eq_ok_iff : fwid f = .ok d ↔ f.constructed = true ∧ HoldsFwid f.content d := by
  cases hform : f.constructed with
  | false => simp [fwid, hform, throw, throwThe, MonadExceptOf.throw, bind, Except.bind]
  | true =>
    simp only [fwid, hform, not_true_eq_false, if_false, except_bind_eq_ok_iff, elements_eq_ok_iff,
      true_and]
    constructor
    · intro h
      obtain ⟨es, hes, hd⟩ := h
      rcases es with - | ⟨e, - | ⟨e', es⟩⟩
      · cases hd
        exact .none (inRow_nil_iff.mp hes)
      · simp only [except_bind_eq_ok_iff, elements_eq_ok_iff, expectTag_eq_ok_iff, exists_const] at hd
        obtain ⟨hsequence, parts, hparts, hd⟩ := hd
        rcases parts with - | ⟨alg, - | ⟨digest, - | ⟨part, parts⟩⟩⟩
        · cases hd
        · cases hd
        · simp only [except_bind_eq_ok_iff, expectTag_eq_ok_iff, exists_const] at hd
          obtain ⟨halg, hdigest, hd⟩ := hd
          cases hd
          rw [Fwid.ofDigest, Hex.upper_lower]
          exact .one ⟨e, inRow_singleton_iff.mp hes, hsequence, hparts⟩ halg hdigest
        · cases hd
      · cases hd
    · intro h
      cases h with
      | none hnil => exact ⟨[], inRow_nil_iff.mpr hnil, rfl⟩
      | @one alg digest hsequence halg hdigest =>
        obtain ⟨e, hwritten, hsequence, hparts⟩ := hsequence
        refine ⟨[e], inRow_singleton_iff.mpr hwritten, ?_⟩
        simp only [except_bind_eq_ok_iff, elements_eq_ok_iff, expectTag_eq_ok_iff, exists_const]
        refine ⟨hsequence, [alg, digest], hparts, ?_⟩
        simp only [except_bind_eq_ok_iff, expectTag_eq_ok_iff, exists_const]
        refine ⟨halg, hdigest, ?_⟩
        rw [Fwid.ofDigest, Hex.upper_lower]
        rfl

theorem flags_eq_ok_iff {s : String} : flags f = .ok s ↔ IsFlags f.content s := by
  rw [flags, IsFlags]
  cases f.content with
  | nil => simp
  | cons b bits => simp [eq_comm]

end Readers

section Step

variable {f : Element} {r r' : Record} {k : Nat} {fields : List Element}

theorem addField_of_not_known (h : ¬ Known f) : addField r f = .ok r := by
  unfold addField
  split
  · rfl
  · rename_i hclass
    have htag : 9 < f.tag := Nat.not_le.mp fun hle => h ⟨Classical.not_not.mp hclass, hle⟩
    obtain ⟨n, hn⟩ := Nat.exists_eq_add_of_lt htag
    rw [hn, show 9 + n + 1 = n + 10 by omega]
    rfl

/-- What the reader makes of a field is what the field adds. -/
theorem adds_of_addField (h : addField r f = .ok r') : Adds f r r' := by
  unfold addField at h
  split at h
  · rename_i hclass
    cases h
    exact .other fun hknown => hclass hknown.1
  · rename_i hclass
    have hclass : f.tagClass = .contextSpecific := Classical.not_not.mp hclass
    split at h
    · rename_i htag
      obtain ⟨hform, s, hs, rfl⟩ := text_set_eq_ok_iff.mp h
      exact .vendor ⟨hclass, htag⟩ hform hs
    · rename_i htag
      obtain ⟨hform, s, hs, rfl⟩ := text_set_eq_ok_iff.mp h
      exact .model ⟨hclass, htag⟩ hform hs
    · rename_i htag
      obtain ⟨hform, s, hs, rfl⟩ := text_set_eq_ok_iff.mp h
      exact .version ⟨hclass, htag⟩ hform hs
    · rename_i htag
      obtain ⟨hform, n, hn, rfl⟩ := int64_set_eq_ok_iff.mp h
      exact .svn ⟨hclass, htag⟩ hform hn
    · rename_i htag
      obtain ⟨hform, n, hn, rfl⟩ := int64_set_eq_ok_iff.mp h
      exact .layer ⟨hclass, htag⟩ hform hn
    · rename_i htag
      obtain ⟨hform, n, hn, rfl⟩ := int64_set_eq_ok_iff.mp h
      exact .index ⟨hclass, htag⟩ hform hn
    · rename_i htag
      simp only [except_bind_eq_ok_iff, fwid_eq_ok_iff] at h
      obtain ⟨d, ⟨hform, hd⟩, h⟩ := h
      cases h
      exact .fwid ⟨hclass, htag⟩ hform hd
    · rename_i htag
      simp only [except_bind_eq_ok_iff, flags_eq_ok_iff] at h
      obtain ⟨s, hs, h⟩ := h
      cases h
      exact .flags ⟨hclass, htag⟩ hs
    · rename_i htag
      rw [VendorInfo.ofText_upper] at h
      cases h
      exact .vendorInfo ⟨hclass, htag⟩
    · rename_i htag
      simp only [except_bind_eq_ok_iff, primitive_eq_ok_iff] at h
      obtain ⟨s, ⟨hform, hs⟩, h⟩ := h
      cases hs
      cases h
      exact .type ⟨hclass, htag⟩ hform
    · cases h
      refine .other fun hknown => ?_
      have htag := hknown.2
      grind

theorem addField_of_adds (h : Adds f r r') : addField r f = .ok r' := by
  cases h with
  | vendor hfield hform hs =>
    rw [addField, if_neg (not_not_intro hfield.1), hfield.2]
    exact text_set_eq_ok_iff.mpr ⟨hform, _, hs, rfl⟩
  | model hfield hform hs =>
    rw [addField, if_neg (not_not_intro hfield.1), hfield.2]
    exact text_set_eq_ok_iff.mpr ⟨hform, _, hs, rfl⟩
  | version hfield hform hs =>
    rw [addField, if_neg (not_not_intro hfield.1), hfield.2]
    exact text_set_eq_ok_iff.mpr ⟨hform, _, hs, rfl⟩
  | svn hfield hform hn =>
    rw [addField, if_neg (not_not_intro hfield.1), hfield.2]
    exact int64_set_eq_ok_iff.mpr ⟨hform, _, hn, rfl⟩
  | layer hfield hform hn =>
    rw [addField, if_neg (not_not_intro hfield.1), hfield.2]
    exact int64_set_eq_ok_iff.mpr ⟨hform, _, hn, rfl⟩
  | index hfield hform hn =>
    rw [addField, if_neg (not_not_intro hfield.1), hfield.2]
    exact int64_set_eq_ok_iff.mpr ⟨hform, _, hn, rfl⟩
  | fwid hfield hform hd =>
    rw [addField, if_neg (not_not_intro hfield.1), hfield.2]
    simp only [except_bind_eq_ok_iff, fwid_eq_ok_iff]
    exact ⟨_, ⟨hform, hd⟩, rfl⟩
  | flags hfield hs =>
    rw [addField, if_neg (not_not_intro hfield.1), hfield.2]
    simp only [except_bind_eq_ok_iff, flags_eq_ok_iff]
    exact ⟨_, hs, rfl⟩
  | vendorInfo hfield =>
    rw [addField, if_neg (not_not_intro hfield.1), hfield.2]
    rw [← VendorInfo.ofText_upper]
    rfl
  | type hfield hform =>
    rw [addField, if_neg (not_not_intro hfield.1), hfield.2]
    simp only [except_bind_eq_ok_iff, primitive_eq_ok_iff]
    exact ⟨_, ⟨hform, rfl⟩, rfl⟩
  | other hunknown => exact addField_of_not_known hunknown

theorem addField_eq_ok_iff : addField r f = .ok r' ↔ Adds f r r' :=
  ⟨adds_of_addField, addField_of_adds⟩

theorem wellFormed_of_adds (h : Adds f r r') (hknown : Known f) : WellFormed f where
  text htag := by
    cases h with
    | vendor hfield hform hs | model hfield hform hs | version hfield hform hs => exact ⟨hform, _, hs⟩
    | other hunknown => exact absurd hknown hunknown
    | _ => grind [IsField]
  number hlow hhigh := by
    cases h with
    | svn hfield hform hn | layer hfield hform hn | index hfield hform hn => exact ⟨hform, _, hn⟩
    | other hunknown => exact absurd hknown hunknown
    | _ => grind [IsField]
  fwid htag := by
    cases h with
    | fwid hfield hform hd => exact ⟨hform, _, hd⟩
    | other hunknown => exact absurd hknown hunknown
    | _ => grind [IsField]
  flags htag := by
    cases h with
    | flags hfield hs => exact ⟨_, hs⟩
    | other hunknown => exact absurd hknown hunknown
    | _ => grind [IsField]
  type htag := by
    cases h with
    | type hfield hform => exact hform
    | other hunknown => exact absurd hknown hunknown
    | _ => grind [IsField]

theorem exists_adds (h : Known f → WellFormed f) (r : Record) : ∃ r', Adds f r r' := by
  by_cases hknown : Known f
  · obtain ⟨htext, hnumber, hfwid, hflags, htype⟩ := h hknown
    obtain ⟨hclass, hle⟩ := hknown
    have htag : f.tag = 0 ∨ f.tag = 1 ∨ f.tag = 2 ∨ f.tag = 3 ∨ f.tag = 4 ∨ f.tag = 5 ∨ f.tag = 6 ∨
        f.tag = 7 ∨ f.tag = 8 ∨ f.tag = 9 := by omega
    rcases htag with htag | htag | htag | htag | htag | htag | htag | htag | htag | htag
    · obtain ⟨hform, s, hs⟩ := htext (by omega)
      exact ⟨_, .vendor ⟨hclass, htag⟩ hform hs⟩
    · obtain ⟨hform, s, hs⟩ := htext (by omega)
      exact ⟨_, .model ⟨hclass, htag⟩ hform hs⟩
    · obtain ⟨hform, s, hs⟩ := htext (by omega)
      exact ⟨_, .version ⟨hclass, htag⟩ hform hs⟩
    · obtain ⟨hform, n, hn⟩ := hnumber (by omega) (by omega)
      exact ⟨_, .svn ⟨hclass, htag⟩ hform hn⟩
    · obtain ⟨hform, n, hn⟩ := hnumber (by omega) (by omega)
      exact ⟨_, .layer ⟨hclass, htag⟩ hform hn⟩
    · obtain ⟨hform, n, hn⟩ := hnumber (by omega) (by omega)
      exact ⟨_, .index ⟨hclass, htag⟩ hform hn⟩
    · obtain ⟨hform, d, hd⟩ := hfwid htag
      exact ⟨_, .fwid ⟨hclass, htag⟩ hform hd⟩
    · obtain ⟨s, hs⟩ := hflags htag
      exact ⟨_, .flags ⟨hclass, htag⟩ hs⟩
    · exact ⟨_, .vendorInfo ⟨hclass, htag⟩⟩
    · exact ⟨_, .type ⟨hclass, htag⟩ (htype htag)⟩
  · exact ⟨r, .other hknown⟩

theorem addFields_cons_eq_ok_iff :
    addFields r (f :: fields) = .ok r' ↔ ∃ r₁, Adds f r r₁ ∧ addFields r₁ fields = .ok r' := by
  simp only [← addField_eq_ok_iff, addFields]
  cases addField r f <;> simp

theorem exists_addFields_iff (r : Record) :
    (∃ r', addFields r fields = .ok r') ↔ ∀ f ∈ fields, Known f → WellFormed f := by
  induction fields generalizing r with
  | nil => simp [addFields]
  | cons f fields ih =>
    simp only [addFields_cons_eq_ok_iff, List.forall_mem_cons]
    constructor
    · intro h
      obtain ⟨r', r₁, hfirst, hrest⟩ := h
      exact ⟨wellFormed_of_adds hfirst, (ih r₁).mp ⟨r', hrest⟩⟩
    · intro h
      obtain ⟨hfirst, hrest⟩ := h
      obtain ⟨r₁, hfirst⟩ := exists_adds hfirst r
      obtain ⟨r', hrest⟩ := (ih r₁).mpr hrest
      exact ⟨r', r₁, hfirst, hrest⟩

/-- Fields that do not count may be left out, or put in anywhere. -/
theorem addFields_filter (r : Record) :
    addFields r (fields.filter fun f => Known f) = addFields r fields := by
  induction fields generalizing r with
  | nil => rfl
  | cons f fields ih =>
    by_cases hknown : Known f
    · rw [List.filter_cons_of_pos (by simpa using hknown), addFields, addFields]
      simp only [ih]
    · rw [List.filter_cons_of_neg (by simpa using hknown), addFields, addField_of_not_known hknown]
      exact ih r

end Step

section Attributes

variable {α : Type} {f : Element} {r r' : Record} {k : Nat} {fields : List Element}

/-- The last field of the tag `k`. -/
def lastField (k : Nat) (fields : List Element) : Option Element :=
  fields.reverse.find? fun f => IsField k f

theorem lastField_cons (k : Nat) (f : Element) (fields : List Element) :
    lastField k (f :: fields) = (lastField k fields).or (if IsField k f then some f else none) := by
  rw [lastField, List.reverse_cons, List.find?_append, ← lastField, List.find?_singleton]
  simp

/-- An attribute is what the last field of its tag says, and without such a field it stays what it was. -/
def Decides (k : Nat) (Says : Bytes → α → Prop) (initial : α) (fields : List Element) (x : α) : Prop :=
  (lastField k fields).elim (x = initial) fun f => Says f.content x

theorem decides_of_addFields {Says : Bytes → α → Prop} {g : Record → α}
    (hstep : ∀ {f r r'}, Adds f r r' → if IsField k f then Says f.content (g r') else g r' = g r)
    (h : addFields r fields = .ok r') : Decides k Says (g r) fields (g r') := by
  induction fields generalizing r with
  | nil =>
    cases h
    rfl
  | cons f fields ih =>
    obtain ⟨r₁, hadds, hrest⟩ := addFields_cons_eq_ok_iff.mp h
    have hfirst := hstep hadds
    have hrest := ih hrest
    rw [Decides] at hrest ⊢
    -- A later field of the tag decides; only without one does this field count.
    rw [lastField_cons]
    cases hlast : lastField k fields with
    | some f' =>
      rw [hlast] at hrest
      exact hrest
    | none =>
      rw [hlast] at hrest
      rw [Option.none_or, hrest]
      split
      · rename_i hfield
        rwa [if_pos hfield] at hfirst
      · rename_i hfield
        rwa [if_neg hfield] at hfirst

/-- Attributes that may be left out. -/
def Given (Says : Bytes → α → Prop) (content : Bytes) (x : Option α) : Prop :=
  ∃ y, x = some y ∧ Says content y

/-- What the record of some fields holds. -/
structure Tells (fields : List Element) (r : Record) : Prop where
  vendor : Decides 0 IsText "" fields r.key.vendor
  model : Decides 1 (Given IsText) none fields r.key.model
  version : Decides 2 (Given IsText) none fields r.value.version
  svn : Decides 3 (Given Writes64) none fields r.value.svn
  layer : Decides 4 Writes64 0 fields r.key.layer
  index : Decides 5 Writes64 0 fields r.key.index
  fwid : Decides 6 HoldsFwid none fields r.value.fwid
  flags : Decides 7 (Given IsFlags) none fields r.value.flags
  vendorInfo : Decides 8 (Given fun content v => v = VendorInfo.ofBytes content) none fields r.value.vendorInfo
  type : Decides 9 (Given fun content s => s = objectId content) none fields r.key.measurementType

theorem tells_of_addFields (h : addFields ⟨{}, {}⟩ fields = .ok r) : Tells fields r where
  vendor := by
    refine decides_of_addFields (g := fun r => r.key.vendor) (fun hadds => ?_) h
    cases hadds <;> grind [IsField, Known, IsText]
  model := by
    refine decides_of_addFields (g := fun r => r.key.model) (fun hadds => ?_) h
    cases hadds <;> grind [IsField, Known, Given, IsText]
  version := by
    refine decides_of_addFields (g := fun r => r.value.version) (fun hadds => ?_) h
    cases hadds <;> grind [IsField, Known, Given, IsText]
  svn := by
    refine decides_of_addFields (g := fun r => r.value.svn) (fun hadds => ?_) h
    cases hadds <;> grind [IsField, Known, Given]
  layer := by
    refine decides_of_addFields (g := fun r => r.key.layer) (fun hadds => ?_) h
    cases hadds <;> grind [IsField, Known]
  index := by
    refine decides_of_addFields (g := fun r => r.key.index) (fun hadds => ?_) h
    cases hadds <;> grind [IsField, Known]
  fwid := by
    refine decides_of_addFields (g := fun r => r.value.fwid) (fun hadds => ?_) h
    cases hadds <;> grind [IsField, Known]
  flags := by
    refine decides_of_addFields (g := fun r => r.value.flags) (fun hadds => ?_) h
    cases hadds <;> grind [IsField, Known, Given, IsFlags]
  vendorInfo := by
    refine decides_of_addFields (g := fun r => r.value.vendorInfo) (fun hadds => ?_) h
    cases hadds <;> grind [IsField, Known, Given]
  type := by
    refine decides_of_addFields (g := fun r => r.key.measurementType) (fun hadds => ?_) h
    cases hadds <;> grind [IsField, Known, Given]

end Attributes

section Extension

variable {fields : List Element} {w : Bytes} {e : Element}

theorem record_eq_addFields (htag : e.Is Tag.sequence) (hrow : InRow fields e.content) :
    record e = addFields ⟨{}, {}⟩ fields := by
  rw [record, expectTag_eq_ok_iff (u := ()).mpr htag, elements_eq_ok_iff.mpr hrow]
  rfl

/-- The record of a sequence of fields is what the fields add to an empty one. -/
theorem ofExtension_singleOid_eq (h : SequenceOf fields w) :
    ofExtension singleOid w = (fun r => [r]) <$> addFields ⟨{}, {}⟩ fields := by
  obtain ⟨e, hwritten, htag, hrow⟩ := h
  rw [ofExtension, if_pos rfl, whole_eq_ok_iff.mpr hwritten, ← record_eq_addFields htag hrow]
  rfl

/-- A TCB info is accepted exactly when its known fields are well-formed. It gives one record, in which the last
field of each tag decides, and fields that do not count make no difference, wherever they stand. For the shortest
contents, to be an integer of 64 bits is just to write a number that has so many. -/
theorem ofExtension_singleOid_exact (h : SequenceOf fields w) :
    ((∃ rs, ofExtension singleOid w = .ok rs) ↔ ∀ f ∈ fields, Known f → WellFormed f) ∧
    (∀ rs, ofExtension singleOid w = .ok rs → ∃ r, rs = [r] ∧ Tells fields r) ∧
    (∀ fields' w', SequenceOf fields' w' →
      (fields'.filter fun f => Known f) = (fields.filter fun f => Known f) →
      ofExtension singleOid w' = ofExtension singleOid w) ∧
    ∀ content, Shortest content → ((∃ n, Writes64 content n) ↔
      -0x8000000000000000 ≤ twosComplement content ∧ twosComplement content < 0x8000000000000000) := by
  rw [ofExtension_singleOid_eq h]
  refine ⟨?_, ?_, ?_, fun content => exists_writes64_iff⟩
  · rw [← exists_addFields_iff ⟨{}, {}⟩]
    cases addFields ⟨{}, {}⟩ fields <;> simp
  · intro rs hrs
    cases hadd : addFields ⟨{}, {}⟩ fields with
    | error e =>
      rw [hadd] at hrs
      cases hrs
    | ok r =>
      rw [hadd] at hrs
      cases hrs
      exact ⟨r, rfl, tells_of_addFields hadd⟩
  · intro fields' w' h' hsame
    rw [ofExtension_singleOid_eq h', ← addFields_filter, hsame, addFields_filter]

/-- Two vendors, two fields that do not count between them, and a digest that the last field 6 takes back. -/
def revisedFields : List Element :=
  [⟨.contextSpecific, false, 0, [0x61]⟩, ⟨.contextSpecific, false, 15, [0x01]⟩,
    ⟨.contextSpecific, true, 6, [0x30, 0x05, 0x06, 0x01, 0x2A, 0x04, 0x00]⟩,
    ⟨.application, false, 0, [0xFF]⟩, ⟨.contextSpecific, false, 3, [0xFF]⟩,
    ⟨.contextSpecific, false, 0, [0x62]⟩, ⟨.contextSpecific, true, 6, []⟩]

def revisedInfo : Bytes :=
  [0x30, 0x1A, 0x80, 0x01, 0x61, 0x8F, 0x01, 0x01, 0xA6, 0x07, 0x30, 0x05, 0x06, 0x01, 0x2A, 0x04, 0x00,
    0x40, 0x01, 0xFF, 0x83, 0x01, 0xFF, 0x80, 0x01, 0x62, 0xA6, 0x00]

theorem ofExtension_singleOid_exact_revised :
    SequenceOf revisedFields revisedInfo ∧
      (∀ f ∈ revisedFields, Known f → WellFormed f) ∧
      ofExtension singleOid revisedInfo = .ok [⟨{ vendor := "b" }, { svn := some (-1) }⟩] ∧
      Tells revisedFields ⟨{ vendor := "b" }, { svn := some (-1) }⟩ := by
  have hsequence : SequenceOf revisedFields revisedInfo :=
    ⟨⟨.universal, true, 16, revisedInfo.drop 2⟩, Element.written_iff.mpr (by decide), ⟨rfl, rfl⟩,
      elements?_eq_some_iff.mp (by decide +kernel)⟩
  have hrecord : ofExtension singleOid revisedInfo =
      .ok [⟨{ vendor := "b" }, { svn := some (-1) }⟩] := except_eq_ok_of_toOption (by decide +kernel)
  obtain ⟨haccepted, htold, -⟩ := ofExtension_singleOid_exact hsequence
  obtain ⟨r, hr, htells⟩ := htold _ hrecord
  cases hr
  exact ⟨hsequence, haccepted.mp ⟨_, hrecord⟩, hrecord, htells⟩

end Extension

end TcbInfo
end Appraisal
