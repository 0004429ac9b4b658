import Appraisal.Proofs.Wire.RoundTrip

/-!
# Appraisal.Proofs.Wire.Coverage

What a signature and a MAC cover, as slices of the received bytes. The covered spans are written
again from the parsed message, so these are facts about writing what was read.

* `Framed`: a message is its reserved header, the signed span, what else is under the MAC, and a
  trailer. Where these stand in the written message is shown once, for every framed type.
* `GetMeasurement.signable_of_parse`, `macable_of_parse`, `mac_of_parse`: the slices of a measurement
  response.
* `authenticated_of_parse`: the slices of all message types, whichever endpoint received them.
-/

namespace Appraisal
namespace Wire

variable {e : Endpoint} {bs : Bytes}

/-- The written part `x` is what stands in `bs` behind the reserved header and in front of `stop`.
Without an end it is empty. -/
def IsBehindHeader (bs : Bytes) : (stop : Option Nat) → (x : Except Error Bytes) → Prop
  | some stop, x => 4 ≤ stop ∧ stop ≤ bs.length ∧ x = .ok (bs.extract 4 stop)
  | none, x => x = .ok []

/-- What stands between the reserved header and `n` more bytes. -/
theorem isBehindHeader_of_append {before part after : Bytes} {n : Nat}
    (h : bs = before ++ (part ++ after)) (hbefore : before.length = 4) (hafter : after.length = n) :
    IsBehindHeader bs (some (bs.length - n)) (.ok part) := by
  subst h hafter
  have hlen : (before ++ (part ++ after)).length - after.length = 4 + part.length := by
    simp only [List.length_append]
    omega
  refine ⟨by omega, Nat.sub_le _ _, ?_⟩
  rw [hlen, List.extract_eq_take_drop, Nat.add_sub_cancel_left, ← hbefore, List.drop_left,
    List.take_left]

/-- A block is as long as its curve says. -/
theorem Signature.length_render {sig : Signature} (h : span.Fits sig) :
    (render e (span.pieces sig)).length = sig.encodedLength := by
  simp only [span, Span.Fits, List.forall_mem_cons, Limit.holds_exactly] at h
  obtain ⟨hr, hs, -⟩ := h
  simp [span, encodedLength, headerSize, Piece.word, Piece.bytes, hr, hs]
  omega

theorem Kind.parse_eq_ok_iff {k : Kind} {m : k.Body} :
    k.format.parse e bs = .ok m ↔
      k.format.whole.Fits m ∧ bs = render e (k.format.whole.pieces m) :=
  Kind.parse_eq_ok_iff_build_eq_ok.trans Span.write_eq_ok_iff

/-! ## Framed messages -/

/-- Behind the reserved header stand the signed span and `rest`, together under the MAC, and the
`trailer` ends the message. -/
structure Framed {α : Type} (f : Format α) (header : α → Bytes) (rest trailer : Span α) : Prop where
  fits_whole (m : α) :
    f.whole.Fits m ↔ (header m).length = reservedHeaderSize ∧ f.covered.Fits m ∧ trailer.Fits m
  fits_covered (m : α) : f.covered.Fits m ↔ f.signed.Fits m ∧ rest.Fits m
  pieces_whole (m : α) :
    f.whole.pieces m = .plain (header m) :: (f.covered.pieces m ++ trailer.pieces m)
  pieces_covered (m : α) : f.covered.pieces m = f.signed.pieces m ++ rest.pieces m

namespace Framed

variable {α : Type} {f : Format α} {header : α → Bytes} {rest trailer : Span α} {m : α}

theorem fits_signed (h : Framed f header rest trailer) (hfit : f.whole.Fits m) : f.signed.Fits m :=
  ((h.fits_covered m).mp ((h.fits_whole m).mp hfit).2.1).1

theorem fits_rest (h : Framed f header rest trailer) (hfit : f.whole.Fits m) : rest.Fits m :=
  ((h.fits_covered m).mp ((h.fits_whole m).mp hfit).2.1).2

theorem render_whole (h : Framed f header rest trailer) (e : Endpoint) (m : α) :
    render e (f.whole.pieces m) = header m ++ (render e (f.signed.pieces m) ++
      (render e (rest.pieces m) ++ render e (trailer.pieces m))) := by
  simp [h.pieces_whole, h.pieces_covered]

theorem length_whole (h : Framed f header rest trailer) (hfit : f.whole.Fits m) :
    (render e (f.whole.pieces m)).length = 4 + (render e (f.signed.pieces m)).length +
      (render e (rest.pieces m)).length + (render e (trailer.pieces m)).length := by
  have hheader : (header m).length = 4 := ((h.fits_whole m).mp hfit).1
  rw [h.render_whole, List.length_append, List.length_append, List.length_append, hheader]
  omega

/-- The signed span stands between the reserved header and what follows it. -/
theorem signable (h : Framed f header rest trailer) (hfit : f.whole.Fits m)
    (hbs : bs = render .firmware (f.whole.pieces m)) {i j : Nat}
    (hi : (render .firmware (rest.pieces m)).length = i)
    (hj : (render .firmware (trailer.pieces m)).length = j) :
    IsBehindHeader bs (some (bs.length - i - j)) (f.signable m) := by
  have hheader := ((h.fits_whole m).mp hfit).1
  rw [Format.signable, Span.write_eq_ok_iff.mpr ⟨h.fits_signed hfit, rfl⟩, Nat.sub_sub]
  refine isBehindHeader_of_append (hbs.trans (h.render_whole _ _)) hheader ?_
  rw [List.length_append, hi, hj]

/-- The span under the MAC stands between the reserved header and the trailer. -/
theorem macable (h : Framed f header rest trailer) (hfit : f.whole.Fits m)
    (hbs : bs = render .firmware (f.whole.pieces m)) {j : Nat}
    (hj : (render .firmware (trailer.pieces m)).length = j) :
    IsBehindHeader bs (some (bs.length - j)) (f.macable m) := by
  obtain ⟨hheader, hcovered, -⟩ := (h.fits_whole m).mp hfit
  rw [Format.macable, Span.write_eq_ok_iff.mpr ⟨hcovered, rfl⟩]
  have hparts : bs = header m ++ (render .firmware (f.covered.pieces m) ++
      render .firmware (trailer.pieces m)) := by
    simp [hbs, h.pieces_whole]
  exact isBehindHeader_of_append hparts hheader hj

/-- The trailer is the end of the message. -/
theorem trailer_eq_drop (h : Framed f header rest trailer) {n : Nat}
    (hn : (render e (trailer.pieces m)).length = n) :
    render e (trailer.pieces m) =
      (render e (f.whole.pieces m)).drop ((render e (f.whole.pieces m)).length - n) := by
  rw [h.render_whole, ← List.append_assoc, ← List.append_assoc, List.length_append, hn,
    Nat.add_sub_cancel, List.drop_left]

end Framed

section Sealed

variable {α : Type} {f : Format α} {header mac : α → Bytes} {n : Nat} {rest : Span α} {m : α}

/-- A MAC of `n` bytes at the end of a message. -/
def Span.macOf (n : Nat) (get : α → Bytes) : Span α where
  limits m := [.exactly "mac" n (get m)]
  pieces m := [.part .mac (get m)]

@[simp] theorem Span.fits_macOf : (Span.macOf n mac).Fits m ↔ (mac m).length = n := by
  simp [Span.macOf, Span.Fits]

@[simp] theorem Span.render_macOf : render e ((Span.macOf n mac).pieces m) = mac m := by
  simp [Span.macOf, Piece.render_kept (p := .mac) rfl]

/-- A span between a reserved header and the MAC that covers it. -/
def Span.seal (header mac : α → Bytes) (n : Nat) (s : Span α) : Span α where
  limits m :=
    .exactly "reserved_header" reservedHeaderSize (header m) :: .exactly "mac" n (mac m) ::
      s.limits m
  pieces m := .plain (header m) :: s.pieces m ++ [.part .mac (mac m)]

theorem framed_of_sealed (hwhole : f.whole = f.covered.seal header mac n)
    (hcovered : f.covered = f.signed.append rest) : Framed f header rest (Span.macOf n mac) where
  fits_whole m := by
    rw [hwhole]
    simp [Span.seal, Span.Fits, Span.macOf, and_comm]
  fits_covered m := by rw [hcovered, Span.fits_append]
  pieces_whole m := by rw [hwhole]; rfl
  pieces_covered m := by rw [hcovered]; rfl

/-- The MAC covers what stands between the reserved header and itself. -/
theorem Framed.macable_of_sealed (h : Framed f header rest (Span.macOf n mac))
    (hfit : f.whole.Fits m) (hbs : bs = render .firmware (f.whole.pieces m)) :
    IsBehindHeader bs (some (bs.length - n)) (f.macable m) := by
  obtain ⟨-, -, hmac⟩ := (h.fits_whole m).mp hfit
  refine h.macable hfit hbs ?_
  rw [Span.render_macOf]
  exact Span.fits_macOf.mp hmac

/-- The signature covers what stands between the reserved header and its own block. -/
theorem Framed.signable_of_sealed {signature : α → Signature}
    (h : Framed f header (Signature.span.within signature) (Span.macOf n mac))
    (hfit : f.whole.Fits m) (hbs : bs = render .firmware (f.whole.pieces m)) :
    IsBehindHeader bs (some (bs.length - (signature m).encodedLength - n)) (f.signable m) := by
  obtain ⟨-, -, hmac⟩ := (h.fits_whole m).mp hfit
  refine h.signable hfit hbs (Signature.length_render (h.fits_rest hfit)) ?_
  rw [Span.render_macOf]
  exact Span.fits_macOf.mp hmac

end Sealed

theorem GetMeasurement.framed :
    Framed format (·.header.reservedHeader) (Signature.span.within (·.signature))
      (Span.macOf mac384Size (·.mac)) := framed_of_sealed rfl rfl

theorem SigmaM2.framed :
    Framed format (·.header.reservedHeader) (Signature.span.within (·.signature))
      (Span.macOf mac384Size (·.mac)) := framed_of_sealed rfl rfl

theorem SigmaM3.framed :
    Framed format (·.reservedHeader) (Signature.span.within (·.signature))
      (Span.macOf mac384Size (·.mac)) := framed_of_sealed rfl rfl

theorem SigmaEnc.framed :
    Framed format (·.reservedHeader) covered (Span.macOf mac256Size (·.mac)) :=
  framed_of_sealed rfl rfl

/-- The key chain, which the signature of an opening message leaves out. -/
def SigmaM1.chain : Span SigmaM1 where
  limits _ := []
  pieces m := [.part .userKeyChain m.userKeyChain]

theorem SigmaM1.framed : Framed format (·.reservedHeader) chain Span.empty where
  fits_whole m := by simp [format, whole, Span.Fits, Span.empty]
  fits_covered m := by simp [format, covered, chain, Span.Fits]
  pieces_whole m := by simp [format, whole, Span.empty]
  pieces_covered m := rfl

theorem SigmaM1.length_signed {m : SigmaM1} (h : signed.Fits m) :
    (render e (signed.pieces m)).length = 120 := by
  simp only [signed, Span.Fits, List.forall_mem_cons, Limit.holds_exactly] at h
  obtain ⟨hrsv1, hkey, hrsv2, -⟩ := h
  simp [signed, Piece.word, Piece.bytes, hrsv1, hkey, hrsv2, reserved1Size, publicKeySize,
    reserved2Size]

/-- What is signed of an opening message ends where its fixed part does. -/
theorem SigmaM1.signable_of_fits {m : SigmaM1} (hfit : whole.Fits m)
    (hbs : bs = render .firmware (whole.pieces m)) :
    IsBehindHeader bs (some 124) (format.signable m) := by
  have hsigned : (render .firmware (format.signed.pieces m)).length = 120 :=
    length_signed (framed.fits_signed hfit)
  have hlen : bs.length = 4 + 120 + (render .firmware (chain.pieces m)).length + 0 := by
    rw [hbs, ← hsigned]
    exact framed.length_whole hfit
  have hstop : bs.length - (render .firmware (chain.pieces m)).length - 0 = 124 := by omega
  rw [← hstop]
  exact framed.signable hfit hbs rfl rfl

/-! ## Measurement responses -/

namespace GetMeasurement

variable {m : GetMeasurement}

/-- The signature covers what stands between the reserved header and the signature block. -/
theorem signable_of_parse (h : format.parse .firmware bs = .ok m) :
    format.signable m = .ok (bs.extract 4 (bs.length - (m.signature.encodedLength + 48))) := by
  obtain ⟨hfit, hbs⟩ := Kind.parse_eq_ok_iff (k := .getMeasurement).mp h
  rw [← Nat.sub_sub]
  exact (framed.signable_of_sealed hfit hbs).2.2

/-- The MAC covers the signature block as well. -/
theorem macable_of_parse (h : format.parse .firmware bs = .ok m) :
    format.macable m = .ok (bs.extract 4 (bs.length - 48)) := by
  obtain ⟨hfit, hbs⟩ := Kind.parse_eq_ok_iff (k := .getMeasurement).mp h
  exact (framed.macable_of_sealed hfit hbs).2.2

theorem mac_of_parse (h : format.parse e bs = .ok m) : m.mac = bs.drop (bs.length - 48) := by
  obtain ⟨hfit, rfl⟩ := Kind.parse_eq_ok_iff (k := .getMeasurement).mp h
  have hmac : m.mac.length = mac384Size := Span.fits_macOf.mp ((framed.fits_whole m).mp hfit).2.2
  have hend := framed.trailer_eq_drop (e := e) (m := m) (n := mac384Size)
    (by rw [Span.render_macOf, hmac])
  rw [Span.render_macOf] at hend
  exact hend

end GetMeasurement

/-! ## All message types -/

namespace Kind

/-- Where the signed span ends in a message of `n` bytes, if a signature covers anything. -/
def signedEnd? : (k : Kind) → k.Body → (n : Nat) → Option Nat
  | getMeasurement, m, n => some (n - m.signature.encodedLength - 48)
  | sigmaM1, _, _ => some 124
  | sigmaM2, m, n => some (n - m.signature.encodedLength - 48)
  | sigmaM3, m, n => some (n - m.signature.encodedLength - 48)
  | sigmaEnc, _, _ | sigmaEncResponse, _, _ | psgSignature, _, _ | spdmCertificate, _, _ => none

/-- Where the span under the MAC ends in a message of `n` bytes, if a MAC covers anything. -/
def coveredEnd? : (k : Kind) → k.Body → (n : Nat) → Option Nat
  | getMeasurement, _, n | sigmaM2, _, n | sigmaM3, _, n => some (n - 48)
  | sigmaM1, _, n => some n
  | sigmaEnc, _, n | sigmaEncResponse, .encrypted _, n => some (n - 32)
  | sigmaEncResponse, .headerOnly _, _ | psgSignature, _, _ | spdmCertificate, _, _ => none

theorem isBehindHeader_signable {k : Kind} {m : k.Body} (hfit : k.format.whole.Fits m)
    (hbs : bs = render .firmware (k.format.whole.pieces m)) :
    IsBehindHeader bs (k.signedEnd? m bs.length) (k.format.signable m) := by
  cases k with
  | getMeasurement => exact GetMeasurement.framed.signable_of_sealed hfit hbs
  | sigmaM1 => exact SigmaM1.signable_of_fits hfit hbs
  | sigmaM2 => exact SigmaM2.framed.signable_of_sealed hfit hbs
  | sigmaM3 => exact SigmaM3.framed.signable_of_sealed hfit hbs
  | sigmaEnc | sigmaEncResponse | psgSignature | spdmCertificate => rfl

theorem isBehindHeader_macable {k : Kind} {m : k.Body} (hfit : k.format.whole.Fits m)
    (hbs : bs = render .firmware (k.format.whole.pieces m)) :
    IsBehindHeader bs (k.coveredEnd? m bs.length) (k.format.macable m) := by
  cases k with
  | getMeasurement => exact GetMeasurement.framed.macable_of_sealed hfit hbs
  | sigmaM1 => exact SigmaM1.framed.macable hfit hbs rfl
  | sigmaM2 => exact SigmaM2.framed.macable_of_sealed hfit hbs
  | sigmaM3 => exact SigmaM3.framed.macable_of_sealed hfit hbs
  | sigmaEnc => exact SigmaEnc.framed.macable_of_sealed hfit hbs
  | sigmaEncResponse =>
    cases m with
    | headerOnly => rfl
    | encrypted => exact SigmaEnc.framed.macable_of_sealed hfit hbs
  | psgSignature | spdmCertificate => rfl

end Kind

/-- What a signature and a MAC are checked against is what the message holds in the layout of the
firmware, which is the received buffer if the firmware sent it. -/
theorem authenticated_of_parse (k : Kind) (e : Endpoint) (bs : Bytes) (m : k.Body)
    (h : k.format.parse e bs = .ok m) :
    ∃ wire, k.format.build .firmware m = .ok wire ∧ (e = .firmware → wire = bs) ∧
      IsBehindHeader wire (k.signedEnd? m wire.length) (k.format.signable m) ∧
      IsBehindHeader wire (k.coveredEnd? m wire.length) (k.format.macable m) := by
  obtain ⟨hfit, hbs⟩ := Kind.parse_eq_ok_iff.mp h
  refine ⟨_, Span.write_eq_ok_iff.mpr ⟨hfit, rfl⟩, ?_, Kind.isBehindHeader_signable hfit rfl,
    Kind.isBehindHeader_macable hfit rfl⟩
  rintro rfl
  exact hbs.symm

/-- A closing message that the service wrote, under a signature of 80 bytes. -/
theorem authenticated_of_parse_closing :
    let m : SigmaM3 :=
      { SigmaM3.zero with sdmSessionId := 0x01020304, signature := Signature.zero .secp256r1 }
    ∃ bs wire, SigmaM3.format.parse .service bs = .ok m ∧
      SigmaM3.format.build .firmware m = .ok wire ∧
      SigmaM3.format.signable m = .ok (wire.extract 4 204) ∧
      SigmaM3.format.macable m = .ok (wire.extract 4 284) := by
  intro m
  have hparse : SigmaM3.format.parse .service (render .service (SigmaM3.whole.pieces m)) = .ok m :=
    (Kind.parse_eq_ok_iff_build_eq_ok (k := .sigmaM3)).mpr rfl
  obtain ⟨wire, hbuild, -, hsigned, hcovered⟩ := authenticated_of_parse .sigmaM3 _ _ m hparse
  have hlen : wire.length = 332 := by
    cases hbuild
    decide +kernel
  refine ⟨_, wire, hparse, hbuild, ?_, ?_⟩
  · rw [hlen] at hsigned
    exact hsigned.2.2
  · rw [hlen] at hcovered
    exact hcovered.2.2

end Wire
end Appraisal
