import Appraisal.Proofs.Wire.Layout

/-!
# Appraisal.Proofs.Wire.RoundTrip

Reading and writing as inverses, for all message types and both layouts at once.

* `parse_eq_ok_iff_build_eq_ok`: a buffer is read as a message exactly when the message is written as
  that buffer.
* `parse_of_build`: what is written is read back.
* `parse_canonical`: what is read is exactly what would be written, so a message has one buffer.
-/

namespace Appraisal
namespace Wire

variable {e : Endpoint} {bs rest : Bytes}

theorem Signature.read_format_eq_ok_iff {sig : Signature} :
    format.read e bs = .ok (sig, rest) ↔
      span.Fits sig ∧ bs = render e (span.pieces sig) ∧ rest = [] := by
  simp only [format, Reader.bind_eq_ok, Reader.pure_eq_ok, Reader.exactly_eq_ok_iff,
    read_eq_ok_iff]
  constructor
  · intro h
    obtain ⟨_, _, ⟨hfit, rfl⟩, x, _, ⟨hx, rfl, rfl⟩, rfl, rfl⟩ := h
    obtain rfl := List.length_eq_zero_iff.mp hx
    exact ⟨hfit, List.append_nil _, rfl⟩
  · intro h
    obtain ⟨hfit, rfl, rfl⟩ := h
    exact ⟨sig, [], ⟨hfit, (List.append_nil _).symm⟩, [], [], ⟨rfl, rfl, rfl⟩, rfl, rfl⟩

namespace Kind

theorem read_eq_ok_iff {k : Kind} {m : k.Body} :
    k.format.read e bs = .ok (m, rest) ↔
      k.format.whole.Fits m ∧ bs = render e (k.format.whole.pieces m) ∧ rest = [] := by
  cases k with
  | getMeasurement => exact GetMeasurement.read_eq_ok_iff
  | sigmaM1 => exact SigmaM1.read_eq_ok_iff
  | sigmaM2 => exact SigmaM2.read_eq_ok_iff
  | sigmaM3 => exact SigmaM3.read_eq_ok_iff
  | sigmaEnc => exact SigmaEnc.read_eq_ok_iff
  | sigmaEncResponse => exact SigmaEncResponse.read_eq_ok_iff
  | psgSignature => exact Signature.read_format_eq_ok_iff
  | spdmCertificate => exact SpdmCertificate.read_eq_ok_iff

theorem parse_eq_ok_iff_build_eq_ok {k : Kind} {m : k.Body} :
    k.format.parse e bs = .ok m ↔ k.format.build e m = .ok bs := by
  rw [Format.build, Span.write_eq_ok_iff, Format.parse, Reader.value]
  constructor
  · intro h
    split at h
    · rename_i x left hread
      cases h
      obtain ⟨hfit, rfl, -⟩ := read_eq_ok_iff.mp hread
      exact ⟨hfit, rfl⟩
    · cases h
  · intro h
    obtain ⟨hfit, rfl⟩ := h
    rw [read_eq_ok_iff.mpr ⟨hfit, rfl, rfl⟩]

end Kind

/-- Building a message and parsing the bytes in the same layout gives the message back. -/
theorem parse_of_build (k : Kind) (e : Endpoint) (m : k.Body) (bs : Bytes)
    (h : k.format.build e m = .ok bs) : k.format.parse e bs = .ok m :=
  Kind.parse_eq_ok_iff_build_eq_ok.mpr h

theorem parse_of_build_response :
    let m : SigmaEncResponse := .encrypted
      { SigmaEnc.zero with sdmSessionId := 0x01020304, encryptedPayload := [7, 8, 9] }
    ∃ bs, SigmaEncResponse.format.build .firmware m = .ok bs ∧
      SigmaEncResponse.format.parse .firmware bs = .ok m :=
  ⟨_, rfl, parse_of_build .sigmaEncResponse .firmware _ _ rfl⟩

/-- A buffer that is read is the one that the message is written as: reading accepts what writing
produces and nothing else, and no byte of an accepted buffer can change without the message. -/
theorem parse_canonical (k : Kind) (e : Endpoint) :
    (∀ bs m, k.format.parse e bs = .ok m → k.format.build e m = .ok bs) ∧
      (∀ bs, (∃ m, k.format.parse e bs = .ok m) ↔ ∃ m, k.format.build e m = .ok bs) ∧
      (∀ bs bs' m, k.format.parse e bs = .ok m → k.format.parse e bs' = .ok m → bs = bs') ∧
      ∀ bs m i b, k.format.parse e bs = .ok m → i < bs.length → bs[i]? ≠ some b →
        k.format.parse e (bs.set i b) ≠ .ok m := by
  have hunique : ∀ bs bs' m, k.format.parse e bs = .ok m → k.format.parse e bs' = .ok m →
      bs = bs' := by
    intro bs bs' m h h'
    rw [Kind.parse_eq_ok_iff_build_eq_ok] at h h'
    rw [h] at h'
    exact Except.ok.inj h'
  refine ⟨fun bs m => Kind.parse_eq_ok_iff_build_eq_ok.mp,
    fun bs => exists_congr fun m => Kind.parse_eq_ok_iff_build_eq_ok, hunique, ?_⟩
  intro bs m i b h hi hb h'
  apply hb
  rw [hunique _ _ _ h h', List.getElem?_set_self hi]

/-- A bare response whose reserved header and magic are not the usual ones. -/
theorem parse_canonical_response :
    let bs : Bytes := [9, 8, 7, 6, 1, 2, 3, 4, 5, 6, 7, 8]
    let m : SigmaEncResponse := .headerOnly ⟨[9, 8, 7, 6], 0x04030201, 0x08070605⟩
    SigmaEncResponse.format.parse .firmware bs = .ok m ∧
      SigmaEncResponse.format.build .firmware m = .ok bs :=
  ⟨rfl, (parse_canonical .sigmaEncResponse .firmware).1 _ _ rfl⟩

end Wire
end Appraisal
