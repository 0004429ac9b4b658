import Appraisal.Proofs.TcbInfo.Fields

/-!
# Appraisal.Proofs.TcbInfo.Extension

The two extensions side by side. A multiple TCB info is read like its members one by one, and both must
span their bytes exactly.

* `ofExtension_multipleOid_eq`: the records of a multiple TCB info are those of its members, in order and up
  to the first that is malformed.
* `ofExtension_prefix`, `ofExtension_append`: what is cut off is no DER, and nothing may follow.
* `ofExtension_delimited`: a multiple TCB info is accepted exactly when its members are, and both extensions
  end where they say.
-/

namespace Appraisal
namespace TcbInfo

open Measurement Der

section Members

variable {e s : Element} {es : List Element} {t w : Bytes} {ts : List Bytes}

theorem ofExtension_singleOid_of_written (h : e.Written t) :
    ofExtension singleOid t = (fun r => [r]) <$> record e := by
  rw [ofExtension, if_pos rfl, whole_eq_ok_iff.mpr h]
  rfl

theorem ofExtension_multipleOid_of_sequence (h : SequenceOf es w) :
    ofExtension multipleOid w = records es := by
  obtain ⟨e, hwritten, htag, hrow⟩ := h
  rw [ofExtension, if_neg (by decide), if_pos rfl, whole_eq_ok_iff.mpr hwritten]
  show (expectTag e Tag.sequence >>= fun _ => elements e.content >>= records) = records es
  rw [expectTag_eq_ok_iff (u := ()).mpr htag, elements_eq_ok_iff.mpr hrow]
  rfl

theorem flatten_mapM_singleOid (h : List.Forall₂ Element.Written es ts) :
    List.flatten <$> ts.mapM (ofExtension singleOid) = records es := by
  induction h with
  | nil => rfl
  | @cons e t es ts hfirst hrest ih =>
    rw [List.mapM_cons, ofExtension_singleOid_of_written hfirst, records, ← ih]
    cases record e with
    | error err => rfl
    | ok r => cases ts.mapM (ofExtension singleOid) <;> rfl

theorem exists_written (h : ∀ t ∈ ts, ∃ e : Element, e.Written t) :
    ∃ es, List.Forall₂ Element.Written es ts := by
  induction ts with
  | nil => exact ⟨[], .nil⟩
  | cons t ts ih =>
    obtain ⟨⟨e, hfirst⟩, hrest⟩ := List.forall_mem_cons.mp h
    obtain ⟨es, hrest⟩ := ih hrest
    exact ⟨e :: es, .cons hfirst hrest⟩

/-- The records of a multiple TCB info are those of its members, in order and up to the first that is
malformed. -/
theorem ofExtension_multipleOid_eq (hts : ∀ t ∈ ts, ∃ e : Element, e.Written t) (hs : s.Written w)
    (htag : s.Is Tag.sequence) (hcontent : s.content = ts.flatten) :
    ofExtension multipleOid w = List.flatten <$> ts.mapM (ofExtension singleOid) := by
  obtain ⟨es, hes⟩ := exists_written hts
  rw [flatten_mapM_singleOid hes]
  exact ofExtension_multipleOid_of_sequence ⟨s, hs, htag, ts, hes, hcontent⟩

end Members

section Delimited

variable {oid : String} {v p x : Bytes} {rs : List Record}

/-- Both extensions start with one element that spans all bytes. -/
theorem ofExtension_eq_whole_bind (hoid : oid = singleOid ∨ oid = multipleOid) :
    ∃ g : Element → Except Error (List Record), ∀ v, ofExtension oid v = whole v >>= g := by
  rcases hoid with rfl | rfl
  · exact ⟨fun e => record e >>= fun r => pure [r], fun v => rfl⟩
  · exact ⟨fun e => expectTag e Tag.sequence >>= fun _ => elements e.content >>= records, fun v => rfl⟩

theorem written_of_ofExtension (hoid : oid = singleOid ∨ oid = multipleOid)
    (h : ofExtension oid v = .ok rs) : ∃ e : Element, e.Written v := by
  obtain ⟨g, hg⟩ := ofExtension_eq_whole_bind hoid
  rw [hg, except_bind_eq_ok_iff] at h
  obtain ⟨e, hwhole, -⟩ := h
  exact ⟨e, whole_eq_ok_iff.mp hwhole⟩

theorem ofExtension_prefix (hoid : oid = singleOid ∨ oid = multipleOid)
    (h : ofExtension oid v = .ok rs) (hp : p <+: v) (hne : p ≠ v) : ofExtension oid p = .error .der := by
  obtain ⟨g, hg⟩ := ofExtension_eq_whole_bind hoid
  obtain ⟨e, hwritten⟩ := written_of_ofExtension hoid h
  rw [hg, whole, Element.read?_prefix hwritten hp hne]
  rfl

theorem ofExtension_append (hoid : oid = singleOid ∨ oid = multipleOid)
    (h : ofExtension oid v = .ok rs) (hx : x ≠ []) :
    ofExtension oid (v ++ x) = .error (.invalidTcbInfo (.trailingBytes x.length)) := by
  obtain ⟨g, hg⟩ := ofExtension_eq_whole_bind hoid
  obtain ⟨e, hwritten⟩ := written_of_ofExtension hoid h
  rw [hg, whole, Element.read?_append (Element.written_iff.mp hwritten), List.nil_append]
  dsimp only
  rw [if_neg (by simpa using hx)]
  rfl

end Delimited

/-- A multiple TCB info is accepted exactly when each of its members is as a TCB info, and then gives what they
give, in order. Both extensions are delimited: what is cut off is no DER, and nothing may follow. -/
theorem ofExtension_delimited :
    (∀ (ts : List Bytes) (s : Element) (w : Bytes), (∀ t ∈ ts, ∃ e : Element, e.Written t) →
      s.Written w → s.Is Tag.sequence → s.content = ts.flatten →
      ((∃ rs, ofExtension multipleOid w = .ok rs) ↔ ∀ t ∈ ts, ∃ rs, ofExtension singleOid t = .ok rs) ∧
      ∀ rss : List (List Record), ts.map (ofExtension singleOid) = rss.map .ok →
        ofExtension multipleOid w = .ok rss.flatten) ∧
    ∀ oid v rs, oid = singleOid ∨ oid = multipleOid → ofExtension oid v = .ok rs →
      (∀ p, p <+: v → p ≠ v → ofExtension oid p = .error .der) ∧
      ∀ x, x ≠ [] → ofExtension oid (v ++ x) = .error (.invalidTcbInfo (.trailingBytes x.length)) := by
  constructor
  · intro ts s w hts hs htag hcontent
    rw [ofExtension_multipleOid_eq hts hs htag hcontent, ← exists_map_eq_map_ok_iff]
    simp only [← except_mapM_eq_ok_iff]
    constructor
    · cases ts.mapM (ofExtension singleOid) <;> simp
    · intro rss hrss
      rw [hrss]
      rfl
  · intro oid v rs hoid h
    exact ⟨fun p hp hne => ofExtension_prefix hoid h hp hne, fun x hx => ofExtension_append hoid h hx⟩

/-- One TCB info for a vendor and one for a layer. -/
def vendorInfoBytes : Bytes := [0x30, 0x03, 0x80, 0x01, 0x61]

def layerInfoBytes : Bytes := [0x30, 0x03, 0x84, 0x01, 0x02]

/-- Both in one extension, which cannot be cut off inside the second, nor be followed by a byte. -/
theorem ofExtension_delimited_two :
    (∀ t ∈ [vendorInfoBytes, layerInfoBytes], ∃ rs, ofExtension singleOid t = .ok rs) ∧
      ofExtension multipleOid (0x30 :: 0x0A :: (vendorInfoBytes ++ layerInfoBytes)) =
        .ok [⟨{ vendor := "a" }, {}⟩, ⟨{ layer := 2 }, {}⟩] ∧
      ofExtension multipleOid (0x30 :: 0x0A :: (vendorInfoBytes ++ [0x30, 0x03, 0x84])) = .error .der ∧
      ofExtension singleOid (layerInfoBytes ++ [0x00]) =
        .error (.invalidTcbInfo (.trailingBytes 1)) := by
  have hvendor : ofExtension singleOid vendorInfoBytes = .ok [⟨{ vendor := "a" }, {}⟩] :=
    except_eq_ok_of_toOption (by decide +kernel)
  have hlayer : ofExtension singleOid layerInfoBytes = .ok [⟨{ layer := 2 }, {}⟩] :=
    except_eq_ok_of_toOption (by decide +kernel)
  have hmembers : ∀ t ∈ [vendorInfoBytes, layerInfoBytes], ∃ e : Element, e.Written t := by
    simp only [List.forall_mem_cons]
    exact ⟨⟨⟨.universal, true, 16, [0x80, 0x01, 0x61]⟩, Element.written_iff.mpr (by decide)⟩,
      ⟨⟨.universal, true, 16, [0x84, 0x01, 0x02]⟩, Element.written_iff.mpr (by decide)⟩,
      List.forall_mem_nil _⟩
  have hwritten : Element.Written ⟨.universal, true, 16, vendorInfoBytes ++ layerInfoBytes⟩
      (0x30 :: 0x0A :: (vendorInfoBytes ++ layerInfoBytes)) := Element.written_iff.mpr (by decide)
  obtain ⟨hconcat, hends⟩ := ofExtension_delimited
  obtain ⟨haccepted, hrecords⟩ := hconcat _ _ _ hmembers hwritten ⟨rfl, rfl⟩ rfl
  have htwo := hrecords [[⟨{ vendor := "a" }, {}⟩], [⟨{ layer := 2 }, {}⟩]] (by simp [hvendor, hlayer])
  obtain ⟨hcut, -⟩ := hends _ _ _ (.inr rfl) htwo
  obtain ⟨-, hlonger⟩ := hends _ _ _ (.inl rfl) hlayer
  refine ⟨haccepted.mp ⟨_, htwo⟩, htwo, hcut _ ?_ (by decide), hlonger [0x00] (by decide)⟩
  exact ⟨[0x01, 0x02], rfl⟩

end TcbInfo
end Appraisal
