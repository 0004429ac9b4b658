import Appraisal.Proofs.Wire.Reader
import Appraisal.Wire.Kind

/-!
# Appraisal.Proofs.Wire.Layout

The reader of each message against its written form. A message is read from some bytes exactly when
its fields keep their limits and the bytes begin with its pieces, in the layout of the endpoint; a
message that ends in a field of exact size leaves nothing over.

* `Curve.ofMagic_eq_ok_iff`, `DeviceFamily.ofByte_eq_ok_iff`: the tags inside a message name one
  curve and one family.
* `fits_whole`, `fits_signed`: the limits of a message, one equation a field; `fits_zero`: the message
  of zeros keeps them.
* `read_eq_ok_iff`, for each message and for each block that several messages share.
-/

namespace Appraisal
namespace Wire

open Reader

theorem Curve.ofMagic_eq_ok_iff {w : UInt32} {c : Curve} :
    Curve.ofMagic w = .ok c ↔ w = c.magic := by
  constructor
  · intro h
    unfold ofMagic at h
    split at h
    · rename_i hc
      cases h
      have := List.find?_some (p := fun c : Curve => c.magic == w) hc
      exact (beq_iff_eq.mp this).symm
    · cases h
  · rintro rfl
    cases c <;> rfl

theorem DeviceFamily.ofByte_eq_ok_iff {b : UInt8} {f : DeviceFamily} :
    DeviceFamily.ofByte b = .ok f ↔ b = f.toByte := by
  unfold ofByte
  constructor
  · intro h
    split at h
    · cases h; assumption
    · split at h
      · cases h; assumption
      · cases h
  · rintro rfl
    cases f <;> rfl

theorem Part.admits_of_kept {p : Part} (h : p.order = .kept) (n : Nat) :
    p.order.admits n = true := by
  rw [h]; rfl

theorem DeviceFamily.admits_efuseSize (f : DeviceFamily) :
    Part.publicEfuseValues.order.admits f.efuseSize = true := by
  cases f <;> rfl

variable {e : Endpoint} {bs rest : Bytes}

/-! ## Shared blocks -/

theorem Signature.read_eq_ok_iff {sig : Signature} :
    Signature.read e bs = .ok (sig, rest) ↔
      span.Fits sig ∧ bs = render e (span.pieces sig) ++ rest := by
  simp (disch := first | decide | exact Part.admits_of_kept rfl _) only [Signature.read,
    bind_eq_ok, pure_eq_ok, refuse_eq_ok_iff, fieldWord_eq_ok_iff, field_eq_ok_iff, lift_eq_ok_iff,
    Curve.ofMagic_eq_ok_iff, ne_eq, Decidable.not_not]
  constructor
  · intro h
    obtain ⟨_, _, rfl, rfl, sizeR, _, rfl, sizeS, _, rfl, _, _, rfl, curve, _, ⟨rfl, rfl⟩,
      r, _, ⟨hr, rfl⟩, s, _, ⟨hs, rfl⟩, rfl, rfl⟩ := h
    simp [span, Span.Fits, hr, hs]
  · intro h
    obtain ⟨hfit, rfl⟩ := h
    simp only [span, Span.Fits, List.forall_mem_cons, Limit.holds_exactly] at hfit
    obtain ⟨hr, hs, -⟩ := hfit
    refine ⟨magic, _, ?_, rfl, sig.sizeR, _, rfl, sig.sizeS, _, rfl, _, _, rfl, sig.curve, _,
      ⟨rfl, rfl⟩, sig.r, _, ⟨hr, rfl⟩, sig.s, _, ⟨hs, rfl⟩, rfl, rfl⟩
    simp [span]

theorem Signature.fits_zero (c : Curve) : span.Fits (zero c) := by
  simp [span, zero, Span.Fits]

theorem SigmaEncHeader.length_reserved {h : SigmaEncHeader} (hfit : span.Fits h) :
    h.reservedHeader.length = 4 := by
  simpa [span, Span.Fits, reservedHeaderSize] using hfit

theorem SigmaEncHeader.read_eq_ok_iff {h : SigmaEncHeader} :
    SigmaEncHeader.read e bs = .ok (h, rest) ↔
      span.Fits h ∧ bs = render e (span.pieces h) ++ rest := by
  simp (disch := decide) only [SigmaEncHeader.read, bind_eq_ok, pure_eq_ok, take_eq_ok_iff,
    fieldWord_eq_ok_iff]
  constructor
  · intro hread
    obtain ⟨rh, _, ⟨hrh, rfl⟩, w, _, rfl, id, _, rfl, rfl, rfl⟩ := hread
    simp [span, Span.Fits, hrh]
  · intro hwritten
    obtain ⟨hfit, rfl⟩ := hwritten
    have hrh := length_reserved hfit
    refine ⟨h.reservedHeader, _, ⟨hrh, ?_⟩, h.magic, _, rfl, h.sdmSessionId, _, rfl, rfl, rfl⟩
    simp [span]

theorem DeviceHeader.read_eq_ok_iff {h : DeviceHeader} :
    DeviceHeader.read e bs = .ok (h, rest) ↔
      h.reservedHeader.length = reservedHeaderSize ∧ signed.Fits h ∧
        bs = h.reservedHeader ++ (render e (signed.pieces h) ++ rest) := by
  simp (disch := first | decide | exact DeviceFamily.admits_efuseSize _) only [DeviceHeader.read,
    bind_eq_ok, pure_eq_ok, take_eq_ok_iff, fieldWord_eq_ok_iff, field_eq_ok_iff, byte_eq_ok_iff,
    lift_eq_ok_iff, DeviceFamily.ofByte_eq_ok_iff]
  constructor
  · intro hread
    obtain ⟨rh, _, ⟨hrh, rfl⟩, w, _, rfl, id, _, rfl, uid, _, ⟨huid, rfl⟩, rom, _, rfl,
      fw, _, ⟨hfw, rfl⟩, svn, _, rfl, b, _, rfl, fam, _, ⟨rfl, rfl⟩, rsv, _, ⟨hrsv, rfl⟩,
      efuse, _, ⟨hefuse, rfl⟩, rfl, rfl⟩ := hread
    simp [signed, Span.Fits, hrh, huid, hfw, hrsv, hefuse]
  · intro hwritten
    obtain ⟨hrh, hfit, rfl⟩ := hwritten
    simp only [signed, Span.Fits, List.forall_mem_cons, Limit.holds_exactly] at hfit
    obtain ⟨huid, hfw, hrsv, hefuse, -⟩ := hfit
    refine ⟨h.reservedHeader, _, ⟨hrh, ?_⟩, h.magic, _, rfl, h.sdmSessionId, _, rfl,
      h.deviceUniqueId, _, ⟨huid, rfl⟩, h.romVersionNum, _, rfl, h.sdmFwBuildId, _, ⟨hfw, rfl⟩,
      h.sdmFwSecurityVersionNum, _, rfl, _, _, rfl, h.deviceFamily, _, ⟨rfl, rfl⟩,
      h.reserved, _, ⟨hrsv, rfl⟩, h.publicEfuseValues, _, ⟨hefuse, rfl⟩, rfl, rfl⟩
    simp [signed]

theorem DeviceHeader.fits_zero (magic : UInt32) :
    (zero magic).reservedHeader.length = reservedHeaderSize ∧ signed.Fits (zero magic) := by
  simp [signed, zero, Span.Fits]

/-! ## Messages -/

theorem GetMeasurement.fits_whole {m : GetMeasurement} :
    whole.Fits m ↔ m.header.reservedHeader.length = reservedHeaderSize ∧ m.mac.length = mac384Size ∧
      m.deviceDhPubKey.length = publicKeySize ∧ m.verifierDhPubKey.length = publicKeySize ∧
      m.cmfDescriptorHash.length = descriptorHashSize ∧ m.reserved2.length = reserved2Size ∧
      m.measurementRecord.length ≤ maxRecordSize ∧ DeviceHeader.signed.Fits m.header ∧
      Signature.span.Fits m.signature := by
  simp [whole, covered, signed, Span.append, Span.within, Span.Fits, or_imp, forall_and]

theorem GetMeasurement.fits_signed {m : GetMeasurement} :
    signed.Fits m ↔ m.deviceDhPubKey.length = publicKeySize ∧
      m.verifierDhPubKey.length = publicKeySize ∧
      m.cmfDescriptorHash.length = descriptorHashSize ∧ m.reserved2.length = reserved2Size ∧
      m.measurementRecord.length ≤ maxRecordSize ∧ DeviceHeader.signed.Fits m.header := by
  simp [signed, Span.Fits, or_imp, forall_and]

theorem GetMeasurement.fits_zero : whole.Fits zero :=
  fits_whole.mpr (by simp [zero, DeviceHeader.fits_zero, Signature.fits_zero])

theorem GetMeasurement.read_eq_ok_iff {m : GetMeasurement} :
    GetMeasurement.read e bs = .ok (m, rest) ↔
      whole.Fits m ∧ bs = render e (whole.pieces m) ∧ rest = [] := by
  simp (disch := decide) only [GetMeasurement.read, bind_eq_ok, pure_eq_ok, take_eq_ok_iff,
    byte_eq_ok_iff, field_eq_ok_iff, fieldHalf_eq_ok_iff, exactly_eq_ok_iff,
    DeviceHeader.read_eq_ok_iff, Signature.read_eq_ok_iff, fits_whole]
  constructor
  · intro hread
    obtain ⟨h, _, ⟨hrh, hh, rfl⟩, dk, _, ⟨hdk, rfl⟩, vk, _, ⟨hvk, rfl⟩, hash, _, ⟨hhash, rfl⟩,
      rsv, _, ⟨hrsv, rfl⟩, n, _, rfl, rsv3, _, rfl, len, _, rfl, record, _, ⟨hrecord, rfl⟩,
      sig, _, ⟨hsig, rfl⟩, mac, _, ⟨hmac, rfl, rfl⟩, rfl, rfl⟩ := hread
    have hlen : record.length ≤ maxRecordSize := by
      have := len.toNat_lt
      simp only [maxRecordSize]
      omega
    refine ⟨⟨hrh, hmac, hdk, hvk, hhash, hrsv, hlen, hh, hsig⟩, ?_, rfl⟩
    simp [whole, covered, signed, hrecord, Piece.render_kept (p := .mac) rfl]
  · intro h
    obtain ⟨⟨hrh, hmac, hdk, hvk, hhash, hrsv, hlen, hh, hsig⟩, rfl, rfl⟩ := h
    have hrecord : m.measurementRecord.length = (UInt16.ofNat m.measurementRecord.length).toNat := by
      rw [UInt16.toNat_ofNat_of_lt' (Nat.lt_succ_of_le hlen)]
    refine ⟨m.header, _, ⟨hrh, hh, ?_⟩, m.deviceDhPubKey, _, ⟨hdk, rfl⟩, m.verifierDhPubKey, _,
      ⟨hvk, rfl⟩, m.cmfDescriptorHash, _, ⟨hhash, rfl⟩, m.reserved2, _, ⟨hrsv, rfl⟩,
      m.numberOfMeasurementBlocks, _, rfl, m.reserved3, _, rfl, _, _, rfl, m.measurementRecord, _,
      ⟨hrecord, rfl⟩, m.signature, _, ⟨hsig, rfl⟩, m.mac, _, ⟨hmac, rfl, rfl⟩, rfl, rfl⟩
    simp [whole, covered, signed, ← hrecord, Piece.render_kept (p := .mac) rfl]

theorem SigmaM1.fits_whole {m : SigmaM1} :
    whole.Fits m ↔ m.reservedHeader.length = reservedHeaderSize ∧
      m.reserved1.length = reserved1Size ∧ m.bkpsDhPubKey.length = publicKeySize ∧
      m.reserved2.length = reserved2Size := by
  simp [whole, covered, signed, Span.Fits]

theorem SigmaM1.fits_zero : whole.Fits zero := fits_whole.mpr (by simp [zero])

theorem SigmaM1.read_eq_ok_iff {m : SigmaM1} :
    SigmaM1.read e bs = .ok (m, rest) ↔
      whole.Fits m ∧ bs = render e (whole.pieces m) ∧ rest = [] := by
  simp (disch := decide) only [SigmaM1.read, bind_eq_ok, pure_eq_ok, take_eq_ok_iff,
    fieldWord_eq_ok_iff, field_eq_ok_iff, rest_eq_ok_iff, fits_whole]
  constructor
  · intro h
    obtain ⟨rh, _, ⟨hrh, rfl⟩, w, _, rfl, rsv1, _, ⟨hrsv1, rfl⟩, key, _, ⟨hkey, rfl⟩, puf, _, rfl,
      rsv2, _, ⟨hrsv2, rfl⟩, chain, _, ⟨rfl, rfl⟩, rfl, rfl⟩ := h
    refine ⟨⟨hrh, hrsv1, hkey, hrsv2⟩, ?_, rfl⟩
    simp [whole, covered, signed, Piece.render_kept (p := .userKeyChain) rfl]
  · intro h
    obtain ⟨⟨hrh, hrsv1, hkey, hrsv2⟩, rfl, rfl⟩ := h
    refine ⟨m.reservedHeader, _, ⟨hrh, ?_⟩, m.magic, _, rfl, m.reserved1, _, ⟨hrsv1, rfl⟩,
      m.bkpsDhPubKey, _, ⟨hkey, rfl⟩, m.pufType, _, rfl, m.reserved2, _, ⟨hrsv2, rfl⟩,
      m.userKeyChain, _, ⟨rfl, rfl⟩, rfl, rfl⟩
    simp [whole, covered, signed, Piece.render_kept (p := .userKeyChain) rfl]

theorem SigmaM2.fits_whole {m : SigmaM2} :
    whole.Fits m ↔ m.header.reservedHeader.length = reservedHeaderSize ∧ m.mac.length = mac384Size ∧
      m.deviceDhPubKey.length = publicKeySize ∧ m.bkpsDhPubKey.length = publicKeySize ∧
      DeviceHeader.signed.Fits m.header ∧ Signature.span.Fits m.signature := by
  simp [whole, covered, signed, Span.append, Span.within, Span.Fits, or_imp, forall_and]

theorem SigmaM2.fits_signed {m : SigmaM2} :
    signed.Fits m ↔ m.deviceDhPubKey.length = publicKeySize ∧
      m.bkpsDhPubKey.length = publicKeySize ∧ DeviceHeader.signed.Fits m.header := by
  simp [signed, Span.Fits, or_imp, forall_and]

theorem SigmaM2.fits_zero : whole.Fits zero :=
  fits_whole.mpr (by simp [zero, DeviceHeader.fits_zero, Signature.fits_zero])

theorem SigmaM2.read_eq_ok_iff {m : SigmaM2} :
    SigmaM2.read e bs = .ok (m, rest) ↔
      whole.Fits m ∧ bs = render e (whole.pieces m) ∧ rest = [] := by
  simp (disch := decide) only [SigmaM2.read, bind_eq_ok, pure_eq_ok, field_eq_ok_iff,
    exactly_eq_ok_iff, DeviceHeader.read_eq_ok_iff, Signature.read_eq_ok_iff, fits_whole]
  constructor
  · intro hread
    obtain ⟨h, _, ⟨hrh, hh, rfl⟩, dk, _, ⟨hdk, rfl⟩, bk, _, ⟨hbk, rfl⟩, sig, _, ⟨hsig, rfl⟩,
      mac, _, ⟨hmac, rfl, rfl⟩, rfl, rfl⟩ := hread
    refine ⟨⟨hrh, hmac, hdk, hbk, hh, hsig⟩, ?_, rfl⟩
    simp [whole, covered, signed, Piece.render_kept (p := .mac) rfl]
  · intro h
    obtain ⟨⟨hrh, hmac, hdk, hbk, hh, hsig⟩, rfl, rfl⟩ := h
    refine ⟨m.header, _, ⟨hrh, hh, ?_⟩, m.deviceDhPubKey, _, ⟨hdk, rfl⟩, m.bkpsDhPubKey, _,
      ⟨hbk, rfl⟩, m.signature, _, ⟨hsig, rfl⟩, m.mac, _, ⟨hmac, rfl, rfl⟩, rfl, rfl⟩
    simp [whole, covered, signed, Piece.render_kept (p := .mac) rfl]

theorem SigmaM3.fits_whole {m : SigmaM3} :
    whole.Fits m ↔ m.reservedHeader.length = reservedHeaderSize ∧ m.mac.length = mac384Size ∧
      m.bkpsDhPubKey.length = publicKeySize ∧ m.deviceDhPubKey.length = publicKeySize ∧
      Signature.span.Fits m.signature := by
  simp [whole, covered, signed, Span.append, Span.within, Span.Fits, or_imp, forall_and]

theorem SigmaM3.fits_zero : whole.Fits zero :=
  fits_whole.mpr (by simp [zero, Signature.fits_zero])

theorem SigmaM3.read_eq_ok_iff {m : SigmaM3} :
    SigmaM3.read e bs = .ok (m, rest) ↔
      whole.Fits m ∧ bs = render e (whole.pieces m) ∧ rest = [] := by
  simp (disch := decide) only [SigmaM3.read, bind_eq_ok, pure_eq_ok, take_eq_ok_iff,
    fieldWord_eq_ok_iff, field_eq_ok_iff, exactly_eq_ok_iff, Signature.read_eq_ok_iff, fits_whole]
  constructor
  · intro h
    obtain ⟨rh, _, ⟨hrh, rfl⟩, w, _, rfl, id, _, rfl, bk, _, ⟨hbk, rfl⟩, dk, _, ⟨hdk, rfl⟩,
      sig, _, ⟨hsig, rfl⟩, mac, _, ⟨hmac, rfl, rfl⟩, rfl, rfl⟩ := h
    refine ⟨⟨hrh, hmac, hbk, hdk, hsig⟩, ?_, rfl⟩
    simp [whole, covered, signed, Piece.render_kept (p := .mac) rfl]
  · intro h
    obtain ⟨⟨hrh, hmac, hbk, hdk, hsig⟩, rfl, rfl⟩ := h
    refine ⟨m.reservedHeader, _, ⟨hrh, ?_⟩, m.magic, _, rfl, m.sdmSessionId, _, rfl,
      m.bkpsDhPubKey, _, ⟨hbk, rfl⟩, m.deviceDhPubKey, _, ⟨hdk, rfl⟩, m.signature, _, ⟨hsig, rfl⟩,
      m.mac, _, ⟨hmac, rfl, rfl⟩, rfl, rfl⟩
    simp [whole, covered, signed, Piece.render_kept (p := .mac) rfl]

/-- The header of an envelope. -/
def SigmaEnc.header (m : SigmaEnc) : SigmaEncHeader := ⟨m.reservedHeader, m.magic, m.sdmSessionId⟩

/-- The pieces of an envelope behind its header. -/
def SigmaEnc.body (m : SigmaEnc) : List Piece := (covered.pieces m).drop 2 ++ [.part .mac m.mac]

theorem SigmaEnc.pieces_whole (m : SigmaEnc) :
    whole.pieces m = SigmaEncHeader.span.pieces m.header ++ m.body := rfl

theorem SigmaEnc.fits_covered {m : SigmaEnc} :
    covered.Fits m ↔ m.reserved1.length = reserved1Size ∧ m.initialIv.length = initialIvSize ∧
      m.reserved2.length = reserved2Size ∧ m.encryptedPayload.length ≤ maxPayloadSize := by
  simp [covered, Span.Fits]

theorem SigmaEnc.fits_whole {m : SigmaEnc} :
    whole.Fits m ↔ SigmaEncHeader.span.Fits m.header ∧ m.mac.length = mac256Size ∧ covered.Fits m := by
  simp [whole, SigmaEncHeader.span, header, Span.Fits]

theorem SigmaEnc.fits_zero : whole.Fits zero :=
  fits_whole.mpr ⟨by simp [zero, header, SigmaEncHeader.span, Span.Fits], by simp [zero],
    fits_covered.mpr (by simp [zero])⟩

theorem SigmaEnc.readBody_eq_ok_iff {h : SigmaEncHeader} {m : SigmaEnc} :
    SigmaEnc.readBody e h bs = .ok (m, rest) ↔
      h = m.header ∧ (m.mac.length = mac256Size ∧ covered.Fits m) ∧ bs = render e m.body ∧
        rest = [] := by
  simp (disch := first | decide | exact Part.admits_of_kept rfl _) only [SigmaEnc.readBody,
    bind_eq_ok, pure_eq_ok, take_eq_ok_iff, byte_eq_ok_iff, fieldWord_eq_ok_iff, field_eq_ok_iff,
    exactly_eq_ok_iff, fits_covered]
  constructor
  · intro hread
    obtain ⟨n, _, rfl, rsv1, _, ⟨hrsv1, rfl⟩, len, _, rfl, iv, _, ⟨hiv, rfl⟩, pad, _, rfl,
      rsv2, _, ⟨hrsv2, rfl⟩, payload, _, ⟨hpayload, rfl⟩, mac, _, ⟨hmac, rfl, rfl⟩, rfl, rfl⟩ := hread
    have hlen : payload.length ≤ maxPayloadSize := by
      have := len.toNat_lt
      simp only [maxPayloadSize]
      omega
    refine ⟨rfl, ⟨hmac, hrsv1, hiv, hrsv2, hlen⟩, ?_, rfl⟩
    simp [body, covered, hpayload, Piece.word, Piece.render_kept (p := .mac) rfl]
  · intro hwritten
    obtain ⟨rfl, ⟨hmac, hrsv1, hiv, hrsv2, hlen⟩, rfl, rfl⟩ := hwritten
    have hpayload : m.encryptedPayload.length = (UInt32.ofNat m.encryptedPayload.length).toNat := by
      rw [UInt32.toNat_ofNat_of_lt' (Nat.lt_succ_of_le hlen)]
    refine ⟨m.messageCounter, _, ?_, m.reserved1, _, ⟨hrsv1, rfl⟩, _, _, rfl, m.initialIv, _,
      ⟨hiv, rfl⟩, m.numberOfPaddingBytes, _, rfl, m.reserved2, _, ⟨hrsv2, rfl⟩,
      m.encryptedPayload, _, ⟨hpayload, rfl⟩, m.mac, _, ⟨hmac, rfl, rfl⟩, rfl, rfl⟩
    simp [body, covered, ← hpayload, Piece.word, Piece.render_kept (p := .mac) rfl]

theorem SigmaEnc.read_eq_ok_iff {m : SigmaEnc} :
    SigmaEnc.read e bs = .ok (m, rest) ↔
      whole.Fits m ∧ bs = render e (whole.pieces m) ∧ rest = [] := by
  simp only [SigmaEnc.read, bind_eq_ok, SigmaEncHeader.read_eq_ok_iff, readBody_eq_ok_iff,
    fits_whole, pieces_whole, render_append]
  constructor
  · intro h
    obtain ⟨_, _, ⟨hh, rfl⟩, rfl, hm, rfl, rfl⟩ := h
    exact ⟨⟨hh, hm⟩, rfl, rfl⟩
  · intro h
    obtain ⟨⟨hh, hm⟩, rfl, rfl⟩ := h
    exact ⟨m.header, _, ⟨hh, rfl⟩, rfl, hm, rfl, rfl⟩

theorem SigmaEnc.body_ne_nil {m : SigmaEnc} (h : m.mac.length = mac256Size) :
    (render e m.body).length ≠ 0 := by
  simp [body, h, mac256Size, Piece.render_kept (p := .mac) rfl]

/-- An envelope's MAC tells a response with one from the bare header. -/
theorem SigmaEncResponse.read_eq_ok_iff {m : SigmaEncResponse} :
    SigmaEncResponse.read e bs = .ok (m, rest) ↔
      whole.Fits m ∧ bs = render e (whole.pieces m) ∧ rest = [] := by
  simp only [SigmaEncResponse.read, bind_eq_ok, SigmaEncHeader.read_eq_ok_iff,
    remaining_eq_ok_iff]
  constructor
  · intro hread
    obtain ⟨h, _, ⟨hh, rfl⟩, _, _, ⟨rfl, rfl⟩, hm⟩ := hread
    split at hm
    · rename_i hnil
      obtain ⟨rfl, rfl⟩ := pure_eq_ok.mp hm
      obtain rfl := List.length_eq_zero_iff.mp hnil
      exact ⟨hh, by simp [whole], rfl⟩
    · obtain ⟨b, _, hb, hm⟩ := bind_eq_ok.mp hm
      obtain ⟨rfl, rfl⟩ := pure_eq_ok.mp hm
      obtain ⟨rfl, hfit, rfl, rfl⟩ := SigmaEnc.readBody_eq_ok_iff.mp hb
      exact ⟨SigmaEnc.fits_whole.mpr ⟨hh, hfit⟩, by simp [whole, SigmaEnc.pieces_whole], rfl⟩
  · intro h
    obtain ⟨hfit, rfl, rfl⟩ := h
    cases m with
    | headerOnly h =>
      exact ⟨h, [], ⟨hfit, by simp [whole]⟩, 0, [], ⟨rfl, rfl⟩, rfl⟩
    | encrypted b =>
      obtain ⟨hh, hmac, hb⟩ := SigmaEnc.fits_whole.mp hfit
      refine ⟨b.header, render e b.body, ⟨hh, ?_⟩, _, _, ⟨rfl, rfl⟩, ?_⟩
      · simp [whole, SigmaEnc.pieces_whole]
      · rw [if_neg (SigmaEnc.body_ne_nil hmac), bind_eq_ok]
        exact ⟨b, [], SigmaEnc.readBody_eq_ok_iff.mpr ⟨rfl, ⟨hmac, hb⟩, rfl, rfl⟩, rfl⟩

theorem SpdmCertificate.fits_whole {m : SpdmCertificate} :
    whole.Fits m ↔ m.reserved.length = reservedSize ∧ m.certChainHash.length = chainHashSize ∧
      m.certChain.length ≤ maxChainSize := by
  simp [whole, Span.Fits]

theorem SpdmCertificate.read_eq_ok_iff {m : SpdmCertificate} :
    SpdmCertificate.read e bs = .ok (m, rest) ↔
      whole.Fits m ∧ bs = render e (whole.pieces m) ∧ rest = [] := by
  simp (disch := decide) only [SpdmCertificate.read, bind_eq_ok, pure_eq_ok, refuse_eq_ok_iff,
    remaining_eq_ok_iff, fieldHalf_eq_ok_iff, take_eq_ok_iff, field_eq_ok_iff, rest_eq_ok_iff,
    fits_whole, ne_eq, Decidable.not_not]
  constructor
  · intro h
    obtain ⟨_, _, ⟨rfl, rfl⟩, len, _, rfl, hlen, rsv, _, ⟨hrsv, rfl⟩, hash, chain,
      ⟨hhash, rfl⟩, _, _, ⟨rfl, rfl⟩, rfl, rfl⟩ := h
    have htotal : len.toNat = totalLength ⟨rsv, hash, chain⟩ := by
      rw [hlen]
      simp [totalLength, headerSize, hrsv, hhash, Piece.half, Piece.bytes]
      omega
    have hchain : chain.length ≤ maxChainSize := by
      have := len.toNat_lt
      simp only [totalLength, headerSize, reservedSize, chainHashSize, maxChainSize] at htotal ⊢
      omega
    refine ⟨⟨hrsv, hhash, hchain⟩, ?_, rfl⟩
    simp [whole, htotal, Piece.render_kept (p := .chain) rfl]
  · intro h
    obtain ⟨⟨hrsv, hhash, hchain⟩, rfl, rfl⟩ := h
    have htotal : (UInt16.ofNat m.totalLength).toNat = m.totalLength := by
      apply UInt16.toNat_ofNat_of_lt'
      simp only [totalLength, headerSize, reservedSize, chainHashSize, maxChainSize,
        UInt16.size] at hchain ⊢
      omega
    refine ⟨_, _, ⟨rfl, rfl⟩, UInt16.ofNat m.totalLength, _, ?_, ?_, m.reserved, _, ⟨hrsv, rfl⟩,
      m.certChainHash, _, ⟨hhash, rfl⟩, m.certChain, _, ⟨rfl, rfl⟩, rfl, rfl⟩
    · simp [whole, htotal, Piece.render_kept (p := .chain) rfl]
    · rw [htotal]
      simp [whole, totalLength, headerSize, hrsv, hhash, Piece.half, Piece.bytes]
      omega

end Wire
end Appraisal
