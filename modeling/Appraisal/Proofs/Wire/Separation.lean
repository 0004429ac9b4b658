import Appraisal.Proofs.Wire.Coverage

/-!
# Appraisal.Proofs.Wire.Separation

The bytes of one message type are never those of another, although no reader looks at the magic. Most
types differ in length. A measurement response and a second SIGMA message can be equally long, but
both hold the byte that names the device family at the same place, and for one family the shortest
response is longer than the longest message.

* `Kind.ofSigned`, `Kind.ofReceived`: the type that signed or received bytes can belong to.
* `Kind.ofSigned_eq`, `Kind.ofReceived_eq`: what is written or read is of that type.
* `kinds_separated`: no bytes are signed in, or read as, messages of two types.
-/

namespace Appraisal
namespace Wire

variable {e : Endpoint} {bs rest : Bytes}

/-! ## The family byte -/

/-- The device family that the byte at `i` names. -/
def familyAt? (i : Nat) (bs : Bytes) : Option DeviceFamily :=
  bs[i]?.bind fun b => (DeviceFamily.ofByte b).toOption

theorem familyAt?_append {i : Nat} {front : Bytes} {f : DeviceFamily} (h : front.length = i) :
    familyAt? i (front ++ f.toByte :: rest) = some f := by
  have hbyte : (front ++ f.toByte :: rest)[i]? = some f.toByte := by
    rw [List.getElem?_append_right (by omega), h, Nat.sub_self, List.getElem?_cons_zero]
  rw [familyAt?, hbyte, Option.bind_some, DeviceFamily.ofByte_eq_ok_iff.mpr rfl]
  rfl

/-- Where a byte stands counts from the front. -/
theorem familyAt?_skip {front : Bytes} {n : Nat} (h : front.length = n) (i : Nat) :
    familyAt? (n + i) (front ++ bs) = familyAt? i bs := by
  rw [familyAt?, List.getElem?_append_right (by omega), h, Nat.add_sub_cancel_left]
  rfl

namespace DeviceHeader

variable {h : DeviceHeader}

theorem length_signed (hfit : signed.Fits h) :
    (render e (signed.pieces h)).length = 56 + h.deviceFamily.efuseSize := by
  simp only [signed, Span.Fits, List.forall_mem_cons, Limit.holds_exactly] at hfit
  obtain ⟨huid, hfw, hrsv, hefuse, -⟩ := hfit
  simp [signed, Piece.word, Piece.bytes, huid, hfw, hrsv, hefuse, uniqueIdSize, buildIdSize,
    reservedSize]
  omega

/-- The family byte stands behind four words, the device's identity and its build. -/
theorem familyAt?_signed (hfit : signed.Fits h) :
    familyAt? 52 (render e (signed.pieces h) ++ rest) = some h.deviceFamily := by
  simp only [signed, Span.Fits, List.forall_mem_cons, Limit.holds_exactly] at hfit
  obtain ⟨huid, hfw, -⟩ := hfit
  -- The family byte is the seventh piece, and the six in front of it have fixed sizes.
  have hsplit : signed.pieces h = (signed.pieces h).take 6 ++
      (.byte h.deviceFamily.toByte :: (signed.pieces h).drop 7) := rfl
  rw [hsplit, render_append, render_cons, Piece.render_byte, List.append_assoc, List.append_assoc,
    List.singleton_append]
  apply familyAt?_append
  simp [signed, Piece.word, Piece.bytes, huid, hfw, uniqueIdSize, buildIdSize]

end DeviceHeader

/-! ## Lengths -/

theorem Signature.encodedLength_bounds (sig : Signature) :
    80 ≤ sig.encodedLength ∧ sig.encodedLength ≤ 112 := by
  cases h : sig.curve <;> simp [encodedLength, headerSize, Curve.componentSize, h]

theorem GetMeasurement.familyAt?_signed {m : GetMeasurement} (h : signed.Fits m) :
    familyAt? 52 (render e (signed.pieces m) ++ rest) = some m.header.deviceFamily := by
  obtain ⟨-, -, -, -, -, hheader⟩ := fits_signed.mp h
  rw [signed, render_append, List.append_assoc]
  exact DeviceHeader.familyAt?_signed hheader

theorem GetMeasurement.length_signed {m : GetMeasurement} (h : signed.Fits m) :
    (render e (signed.pieces m)).length =
      312 + m.header.deviceFamily.efuseSize + m.measurementRecord.length := by
  obtain ⟨hdk, hvk, hhash, hrsv, -, hheader⟩ := fits_signed.mp h
  simp [signed, DeviceHeader.length_signed hheader, Piece.byte, Piece.half, Piece.bytes, hdk, hvk,
    hhash, hrsv, publicKeySize, descriptorHashSize, reserved2Size]
  omega

theorem SigmaM2.familyAt?_signed {m : SigmaM2} (h : signed.Fits m) :
    familyAt? 52 (render e (signed.pieces m) ++ rest) = some m.header.deviceFamily := by
  obtain ⟨-, -, hheader⟩ := fits_signed.mp h
  rw [signed, render_append, List.append_assoc]
  exact DeviceHeader.familyAt?_signed hheader

theorem SigmaM2.length_signed {m : SigmaM2} (h : signed.Fits m) :
    (render e (signed.pieces m)).length = 248 + m.header.deviceFamily.efuseSize := by
  obtain ⟨hdk, hbk, hheader⟩ := fits_signed.mp h
  simp [signed, DeviceHeader.length_signed hheader, Piece.bytes, hdk, hbk, publicKeySize]
  omega

theorem SigmaM3.length_signed {m : SigmaM3} (h : signed.Fits m) :
    (render e (signed.pieces m)).length = 200 := by
  simp only [signed, Span.Fits, List.forall_mem_cons, Limit.holds_exactly] at h
  obtain ⟨hbk, hdk, -⟩ := h
  simp [signed, Piece.word, Piece.bytes, hbk, hdk, publicKeySize]

section Sealed

variable {α : Type} {f : Format α} {header mac : α → Bytes} {signature : α → Signature} {m : α}

/-- The reserved header moves the family byte by its length. -/
theorem Framed.familyAt?_whole {after trailer : Span α} {family : DeviceFamily}
    (h : Framed f header after trailer) (hfit : f.whole.Fits m)
    (hbs : bs = render e (f.whole.pieces m))
    (hsigned : ∀ rest, familyAt? 52 (render e (f.signed.pieces m) ++ rest) = some family) :
    familyAt? 56 bs = some family := by
  rw [hbs, h.render_whole, show 56 = reservedHeaderSize + 52 from rfl,
    familyAt?_skip ((h.fits_whole m).mp hfit).1]
  exact hsigned _

/-- A signed and sealed message adds a header, a signature block and a MAC to its signed span. -/
theorem Framed.length_of_sealed
    (h : Framed f header (Signature.span.within signature) (Span.macOf mac384Size mac))
    (hfit : f.whole.Fits m) (hbs : bs = render e (f.whole.pieces m)) {n : Nat}
    (hn : (render e (f.signed.pieces m)).length = n) : n + 132 ≤ bs.length ∧ bs.length ≤ n + 164 := by
  have hsig : (render e ((Signature.span.within signature).pieces m)).length = _ :=
    Signature.length_render (h.fits_rest hfit)
  have hmac : (mac m).length = 48 := Span.fits_macOf.mp ((h.fits_whole m).mp hfit).2.2
  have hlen := h.length_whole (e := e) hfit
  rw [hn, hsig, Span.render_macOf, hmac, ← hbs] at hlen
  have hbounds := (signature m).encodedLength_bounds
  omega

end Sealed

/-! ## Signed bytes -/

namespace Kind

/-- The types whose signable bytes are not empty. -/
def signing : List Kind := [getMeasurement, sigmaM1, sigmaM2, sigmaM3]

/-- The type that signed bytes can belong to. The messages without a family byte have one length
each; with one, a second message has one length for each family and a response more for that family,
though not more than a second message of another. -/
def ofSigned (bs : Bytes) : Kind :=
  if bs.length = 120 then sigmaM1
  else if bs.length = 200 then sigmaM3
  else
    match familyAt? 52 bs with
    | some f => if bs.length = 248 + f.efuseSize then sigmaM2 else getMeasurement
    | none => getMeasurement

theorem ofSigned_of_family {f : DeviceFamily} (hfamily : familyAt? 52 bs = some f)
    (hlen : 248 + f.efuseSize ≤ bs.length) :
    ofSigned bs = if bs.length = 248 + f.efuseSize then sigmaM2 else getMeasurement := by
  rw [ofSigned, if_neg (by omega), if_neg (by omega), hfamily]

end Kind

theorem GetMeasurement.ofSigned_eq {m : GetMeasurement} (h : format.signable m = .ok bs) :
    Kind.ofSigned bs = .getMeasurement := by
  obtain ⟨hfit, hbs⟩ := Span.write_eq_ok_iff.mp h
  have hlen : bs.length = _ := (congrArg List.length hbs).trans (length_signed hfit)
  have hfamily : familyAt? 52 bs = some m.header.deviceFamily := by
    rw [hbs, ← List.append_nil (render _ _)]
    exact familyAt?_signed hfit
  rw [Kind.ofSigned_of_family hfamily (by omega), if_neg (by omega)]

theorem SigmaM1.ofSigned_eq {m : SigmaM1} (h : format.signable m = .ok bs) :
    Kind.ofSigned bs = .sigmaM1 := by
  obtain ⟨hfit, hbs⟩ := Span.write_eq_ok_iff.mp h
  exact if_pos ((congrArg List.length hbs).trans (length_signed hfit))

theorem SigmaM2.ofSigned_eq {m : SigmaM2} (h : format.signable m = .ok bs) :
    Kind.ofSigned bs = .sigmaM2 := by
  obtain ⟨hfit, hbs⟩ := Span.write_eq_ok_iff.mp h
  have hlen : bs.length = _ := (congrArg List.length hbs).trans (length_signed hfit)
  have hfamily : familyAt? 52 bs = some m.header.deviceFamily := by
    rw [hbs, ← List.append_nil (render _ _)]
    exact familyAt?_signed hfit
  rw [Kind.ofSigned_of_family hfamily (by omega), if_pos hlen]

theorem SigmaM3.ofSigned_eq {m : SigmaM3} (h : format.signable m = .ok bs) :
    Kind.ofSigned bs = .sigmaM3 := by
  obtain ⟨hfit, hbs⟩ := Span.write_eq_ok_iff.mp h
  have hlen : bs.length = 200 := (congrArg List.length hbs).trans (length_signed hfit)
  rw [Kind.ofSigned, if_neg (by omega), if_pos hlen]

theorem Kind.ofSigned_eq {k : Kind} (hk : k ∈ signing) {m : k.Body}
    (h : k.format.signable m = .ok bs) : ofSigned bs = k := by
  cases k with
  | getMeasurement => exact GetMeasurement.ofSigned_eq h
  | sigmaM1 => exact SigmaM1.ofSigned_eq h
  | sigmaM2 => exact SigmaM2.ofSigned_eq h
  | sigmaM3 => exact SigmaM3.ofSigned_eq h
  | sigmaEnc | sigmaEncResponse | psgSignature | spdmCertificate => exact absurd hk (by decide)

/-! ## Received bytes -/

namespace Kind

/-- The types that end in a signature block and a MAC. -/
def sealed : List Kind := [getMeasurement, sigmaM2, sigmaM3]

/-- The type that a received message, signed and sealed, can belong to. -/
def ofReceived (bs : Bytes) : Kind :=
  if bs.length ≤ 364 then sigmaM3
  else
    match familyAt? 56 bs with
    | some f => if bs.length ≤ 412 + f.efuseSize then sigmaM2 else getMeasurement
    | none => getMeasurement

theorem ofReceived_of_family {f : DeviceFamily} (hfamily : familyAt? 56 bs = some f)
    (hlen : 364 < bs.length) :
    ofReceived bs = if bs.length ≤ 412 + f.efuseSize then sigmaM2 else getMeasurement := by
  rw [ofReceived, if_neg (by omega), hfamily]

end Kind

theorem DeviceFamily.le_efuseSize (f : DeviceFamily) : 256 ≤ f.efuseSize := by
  cases f <;> decide

theorem GetMeasurement.ofReceived_eq {m : GetMeasurement} (h : format.parse e bs = .ok m) :
    Kind.ofReceived bs = .getMeasurement := by
  obtain ⟨hfit, hbs⟩ := (Kind.parse_eq_ok_iff (k := .getMeasurement)).mp h
  have hsigned := framed.fits_signed hfit
  have hlen := framed.length_of_sealed hfit hbs (length_signed hsigned)
  have hfamily := framed.familyAt?_whole hfit hbs fun _ => familyAt?_signed hsigned
  rw [Kind.ofReceived_of_family hfamily (by omega), if_neg (by omega)]

theorem SigmaM2.ofReceived_eq {m : SigmaM2} (h : format.parse e bs = .ok m) :
    Kind.ofReceived bs = .sigmaM2 := by
  obtain ⟨hfit, hbs⟩ := (Kind.parse_eq_ok_iff (k := .sigmaM2)).mp h
  have hsigned := framed.fits_signed hfit
  have hlen := framed.length_of_sealed hfit hbs (length_signed hsigned)
  have hfamily := framed.familyAt?_whole hfit hbs fun _ => familyAt?_signed hsigned
  have hefuse := m.header.deviceFamily.le_efuseSize
  rw [Kind.ofReceived_of_family hfamily (by omega), if_pos (by omega)]

theorem SigmaM3.ofReceived_eq {m : SigmaM3} (h : format.parse e bs = .ok m) :
    Kind.ofReceived bs = .sigmaM3 := by
  obtain ⟨hfit, hbs⟩ := (Kind.parse_eq_ok_iff (k := .sigmaM3)).mp h
  have hlen := framed.length_of_sealed hfit hbs (length_signed (framed.fits_signed hfit))
  exact if_pos (by omega)

theorem Kind.ofReceived_eq {k : Kind} (hk : k ∈ sealed) {m : k.Body}
    (h : k.format.parse e bs = .ok m) : ofReceived bs = k := by
  cases k with
  | getMeasurement => exact GetMeasurement.ofReceived_eq h
  | sigmaM2 => exact SigmaM2.ofReceived_eq h
  | sigmaM3 => exact SigmaM3.ofReceived_eq h
  | sigmaM1 | sigmaEnc | sigmaEncResponse | psgSignature | spdmCertificate =>
    exact absurd hk (by decide)

/-- No bytes are signed in messages of two types, and none are read as messages of two types in
whichever layouts, whatever the magics of the messages are. -/
theorem kinds_separated :
    (∀ k ∈ Kind.signing, ∀ k' ∈ Kind.signing, k ≠ k' → ∀ (x : k.Body) (y : k'.Body) (bs : Bytes),
        k.format.signable x = .ok bs → k'.format.signable y ≠ .ok bs) ∧
      ∀ k ∈ Kind.sealed, ∀ k' ∈ Kind.sealed, k ≠ k' → ∀ (e e' : Endpoint) (bs : Bytes)
        (x : k.Body) (y : k'.Body),
        k.format.parse e bs = .ok x → k'.format.parse e' bs ≠ .ok y := by
  constructor
  · intro k hk k' hk' hne x y bs hx hy
    apply hne
    rw [← Kind.ofSigned_eq hk hx, Kind.ofSigned_eq hk' hy]
  · intro k hk k' hk' hne e e' bs x y hx hy
    apply hne
    rw [← Kind.ofReceived_eq hk hx, Kind.ofReceived_eq hk' hy]

/-- A measurement response and a second message whose signed bytes are equally long. -/
theorem kinds_separated_equal_lengths :
    let x : GetMeasurement := { GetMeasurement.zero with measurementRecord := Bytes.zeros 128 }
    let y : SigmaM2 := { SigmaM2.zero with
      header := { DeviceHeader.zero GetMeasurement.magic with
        deviceFamily := .fm568, publicEfuseValues := Bytes.zeros 448 } }
    ∃ s s' w, GetMeasurement.format.signable x = .ok s ∧ SigmaM2.format.signable y = .ok s' ∧
      s.length = s'.length ∧ s ≠ s' ∧
      GetMeasurement.format.parse .firmware w = .ok x ∧ SigmaM2.format.parse .service w ≠ .ok y := by
  intro x y
  have hwhole : GetMeasurement.whole.Fits x := GetMeasurement.fits_whole.mpr (by
    simp [x, GetMeasurement.zero, DeviceHeader.fits_zero, Signature.fits_zero,
      GetMeasurement.maxRecordSize])
  have hfitx : GetMeasurement.signed.Fits x := GetMeasurement.framed.fits_signed hwhole
  have hfity : SigmaM2.signed.Fits y := SigmaM2.fits_signed.mpr (by
    simp [y, SigmaM2.zero, DeviceHeader.zero, DeviceHeader.signed, Span.Fits,
      DeviceFamily.efuseSize])
  have hx : GetMeasurement.format.signable x = .ok _ := Span.write_eq_ok_iff.mpr ⟨hfitx, rfl⟩
  have hy : SigmaM2.format.signable y = .ok _ := Span.write_eq_ok_iff.mpr ⟨hfity, rfl⟩
  have hw : GetMeasurement.format.parse .firmware _ = .ok x :=
    (Kind.parse_eq_ok_iff (k := .getMeasurement)).mpr ⟨hwhole, rfl⟩
  refine ⟨_, _, _, hx, hy, ?_, ?_, hw, ?_⟩
  · have hlen := GetMeasurement.length_signed (e := .firmware) hfitx
    rw [show x.measurementRecord.length = 128 from Bytes.length_zeros 128] at hlen
    exact hlen.trans (SigmaM2.length_signed hfity).symm
  · intro h
    rw [← h] at hy
    exact kinds_separated.1 .getMeasurement (by decide) .sigmaM2 (by decide) (by decide) x y _ hx hy
  · exact kinds_separated.2 .getMeasurement (by decide) .sigmaM2 (by decide) (by decide) _ _ _ x y hw

end Wire
end Appraisal
