import Appraisal.Proofs.Wire.Coverage

/-!
# Appraisal.Proofs.Wire.Binding

What equal authenticated bytes say about two messages of one type. The covered spans have no
delimiters of their own, so the argument goes through the reader: completed with the same header and
trailer, two messages with equal covered bytes are written as equal buffers, and a buffer is read in
one way only.

* `Kind.withUnsignedOf`, `Kind.withUncoveredOf`: a message with all that the signature, or the MAC,
  leaves out taken from another one.
* `Framed.graft_eq_of_signable`: the argument, once for all framed types. What the MAC covers is the
  signed span of another message type (`Format.signCovered`), so it holds of both.
* `authenticated_fields_eq`: equal signed bytes leave the two messages different in unsigned fields
  only, and likewise for the MAC.
-/

namespace Appraisal
namespace Wire

variable {bs : Bytes}

/-! ## What is left out -/

def GetMeasurement.withUnsignedOf (x y : GetMeasurement) : GetMeasurement :=
  { x with header.reservedHeader := y.header.reservedHeader, signature := y.signature, mac := y.mac }

def GetMeasurement.withUncoveredOf (x y : GetMeasurement) : GetMeasurement :=
  { x with header.reservedHeader := y.header.reservedHeader, mac := y.mac }

def SigmaM1.withUnsignedOf (x y : SigmaM1) : SigmaM1 :=
  { x with reservedHeader := y.reservedHeader, userKeyChain := y.userKeyChain }

def SigmaM1.withUncoveredOf (x y : SigmaM1) : SigmaM1 :=
  { x with reservedHeader := y.reservedHeader }

def SigmaM2.withUnsignedOf (x y : SigmaM2) : SigmaM2 :=
  { x with header.reservedHeader := y.header.reservedHeader, signature := y.signature, mac := y.mac }

def SigmaM2.withUncoveredOf (x y : SigmaM2) : SigmaM2 :=
  { x with header.reservedHeader := y.header.reservedHeader, mac := y.mac }

def SigmaM3.withUnsignedOf (x y : SigmaM3) : SigmaM3 :=
  { x with reservedHeader := y.reservedHeader, signature := y.signature, mac := y.mac }

def SigmaM3.withUncoveredOf (x y : SigmaM3) : SigmaM3 :=
  { x with reservedHeader := y.reservedHeader, mac := y.mac }

def SigmaEnc.withUncoveredOf (x y : SigmaEnc) : SigmaEnc :=
  { x with reservedHeader := y.reservedHeader, mac := y.mac }

/-- The MAC covers nothing of a bare response, but it does not take one for an envelope. -/
def SigmaEncResponse.withUncoveredOf : (x y : SigmaEncResponse) → SigmaEncResponse
  | .headerOnly _, .headerOnly y => .headerOnly y
  | .encrypted x, .encrypted y => .encrypted (x.withUncoveredOf y)
  | x, _ => x

namespace Kind

/-- The fields of `x` that its signature covers, and all others of `y`. -/
def withUnsignedOf : (k : Kind) → (x y : k.Body) → k.Body
  | getMeasurement, x, y => GetMeasurement.withUnsignedOf x y
  | sigmaM1, x, y => SigmaM1.withUnsignedOf x y
  | sigmaM2, x, y => SigmaM2.withUnsignedOf x y
  | sigmaM3, x, y => SigmaM3.withUnsignedOf x y
  | sigmaEnc, _, y | sigmaEncResponse, _, y | psgSignature, _, y | spdmCertificate, _, y => y

/-- The fields of `x` that its MAC covers, and all others of `y`. -/
def withUncoveredOf : (k : Kind) → (x y : k.Body) → k.Body
  | getMeasurement, x, y => GetMeasurement.withUncoveredOf x y
  | sigmaM1, x, y => SigmaM1.withUncoveredOf x y
  | sigmaM2, x, y => SigmaM2.withUncoveredOf x y
  | sigmaM3, x, y => SigmaM3.withUncoveredOf x y
  | sigmaEnc, x, y => SigmaEnc.withUncoveredOf x y
  | sigmaEncResponse, x, y => SigmaEncResponse.withUncoveredOf x y
  | psgSignature, _, y | spdmCertificate, _, y => y

/-- Messages that are written as the same bytes are the same. -/
theorem eq_of_render_eq (k : Kind) {x y : k.Body} (hx : k.format.whole.Fits x)
    (hy : k.format.whole.Fits y)
    (h : render .firmware (k.format.whole.pieces x) = render .firmware (k.format.whole.pieces y)) :
    x = y := by
  have hreadx := parse_eq_ok_iff.mpr ⟨hx, (rfl : render .firmware _ = _)⟩
  have hready := parse_eq_ok_iff.mpr ⟨hy, h⟩
  exact Except.ok.inj (hreadx.symm.trans hready)

end Kind

/-! ## Completing a span to a message -/

/-- A span that has the same limits and pieces in two messages. -/
structure Span.SameAt {α : Type} (s : Span α) (m m' : α) : Prop where
  limits_eq : s.limits m = s.limits m' := by rfl
  pieces_eq : s.pieces m = s.pieces m' := by rfl

theorem Span.SameAt.fits {α : Type} {s : Span α} {m m' : α} (h : s.SameAt m m') (hfit : s.Fits m') :
    s.Fits m := by
  rw [Span.Fits, h.limits_eq]
  exact hfit

/-- The message type in which all that the MAC covers is signed. -/
def Format.signCovered {α : Type} (f : Format α) : Format α := { f with signed := f.covered }

namespace Framed

variable {α : Type} {f : Format α} {header : α → Bytes} {rest trailer : Span α}
  {graft : α → α → α} {x y z : α}

theorem signCovered (h : Framed f header rest trailer) :
    Framed f.signCovered header Span.empty trailer where
  fits_whole := h.fits_whole
  fits_covered m := by simp [Format.signCovered, Span.Fits, Span.empty]
  pieces_whole := h.pieces_whole
  pieces_covered m := (List.append_nil _).symm

/-- `graft x y` has the signed span of `x` and everything else of `y`. -/
structure Grafts (f : Format α) (header : α → Bytes) (rest trailer : Span α)
    (graft : α → α → α) : Prop where
  header_eq (x y : α) : header (graft x y) = header y := by intros; rfl
  signed_same (x y : α) : f.signed.SameAt (graft x y) x := by intros; exact {}
  rest_same (x y : α) : rest.SameAt (graft x y) y := by intros; exact {}
  trailer_same (x y : α) : trailer.SameAt (graft x y) y := by intros; exact {}
  graft_graft (x y z : α) : graft (graft x z) y = graft x y := by intros; rfl
  graft_self (y : α) : graft y y = y := by intros; rfl

theorem fits_graft (h : Framed f header rest trailer) (g : Grafts f header rest trailer graft)
    (hz : f.whole.Fits z) (hx : f.signed.Fits x) : f.whole.Fits (graft x z) := by
  obtain ⟨hheader, -, htrailer⟩ := (h.fits_whole z).mp hz
  refine (h.fits_whole _).mpr ⟨?_, (h.fits_covered _).mpr ⟨?_, ?_⟩, ?_⟩
  · rw [g.header_eq, hheader]
  · exact (g.signed_same x z).fits hx
  · exact (g.rest_same x z).fits (h.fits_rest hz)
  · exact (g.trailer_same x z).fits htrailer

theorem render_graft (h : Framed f header rest trailer) (g : Grafts f header rest trailer graft)
    (e : Endpoint) (x z : α) :
    render e (f.whole.pieces (graft x z)) = header z ++ (render e (f.signed.pieces x) ++
      (render e (rest.pieces z) ++ render e (trailer.pieces z))) := by
  rw [h.render_whole, g.header_eq, (g.signed_same x z).pieces_eq, (g.rest_same x z).pieces_eq,
    (g.trailer_same x z).pieces_eq]

/-- Completed by the same message `z`, messages with equal signed bytes are written as one buffer. -/
theorem graft_eq_of_signable (h : Framed f header rest trailer)
    (g : Grafts f header rest trailer graft) (hz : f.whole.Fits z)
    (hinj : ∀ {x y}, f.whole.Fits x → f.whole.Fits y →
      render .firmware (f.whole.pieces x) = render .firmware (f.whole.pieces y) → x = y)
    (hx : f.signable x = .ok bs) (hy : f.signable y = .ok bs) : graft x y = y := by
  obtain ⟨hfitx, hbsx⟩ := Span.write_eq_ok_iff.mp hx
  obtain ⟨hfity, hbsy⟩ := Span.write_eq_ok_iff.mp hy
  -- `x` and `y` themselves may have no written form, as their unsigned fields can have any size.
  have hcomplete : graft x z = graft y z := by
    apply hinj (h.fits_graft g hz hfitx) (h.fits_graft g hz hfity)
    rw [h.render_graft g, h.render_graft g, ← hbsx, ← hbsy]
  calc graft x y = graft (graft x z) y := (g.graft_graft x y z).symm
    _ = graft (graft y z) y := by rw [hcomplete]
    _ = graft y y := g.graft_graft y y z
    _ = y := g.graft_self y

end Framed

/-! ## The message types -/

theorem SigmaEnc.withUncoveredOf_eq {x y : SigmaEnc} (hx : format.macable x = .ok bs)
    (hy : format.macable y = .ok bs) : x.withUncoveredOf y = y :=
  framed.signCovered.graft_eq_of_signable {} fits_zero (Kind.eq_of_render_eq .sigmaEnc) hx hy

theorem SigmaEnc.macable_ne_nil (m : SigmaEnc) : format.macable m ≠ .ok [] := by
  intro h
  have hlen := congrArg List.length (Span.write_eq_ok_iff.mp h).2
  simp [format, covered, Piece.word, Piece.bytes] at hlen

/-- An envelope is told from a bare response by having anything under its MAC. -/
theorem SigmaEncResponse.withUncoveredOf_eq {x y : SigmaEncResponse}
    (hx : format.macable x = .ok bs) (hy : format.macable y = .ok bs) :
    x.withUncoveredOf y = y := by
  cases x with
  | headerOnly =>
    obtain rfl : [] = bs := Except.ok.inj hx
    cases y with
    | headerOnly => rfl
    | encrypted y => exact absurd hy y.macable_ne_nil
  | encrypted x =>
    cases y with
    | headerOnly =>
      obtain rfl : [] = bs := Except.ok.inj hy
      exact absurd hx x.macable_ne_nil
    | encrypted y => exact congrArg encrypted (SigmaEnc.withUncoveredOf_eq hx hy)

namespace Kind

theorem withUnsignedOf_eq {k : Kind} {x y : k.Body} (hx : k.format.signable x = .ok bs)
    (hy : k.format.signable y = .ok bs) : k.withUnsignedOf x y = y := by
  cases k with
  | getMeasurement =>
    exact GetMeasurement.framed.graft_eq_of_signable {} GetMeasurement.fits_zero
      (eq_of_render_eq .getMeasurement) hx hy
  | sigmaM1 =>
    exact SigmaM1.framed.graft_eq_of_signable {} SigmaM1.fits_zero (eq_of_render_eq .sigmaM1) hx hy
  | sigmaM2 =>
    exact SigmaM2.framed.graft_eq_of_signable {} SigmaM2.fits_zero (eq_of_render_eq .sigmaM2) hx hy
  | sigmaM3 =>
    exact SigmaM3.framed.graft_eq_of_signable {} SigmaM3.fits_zero (eq_of_render_eq .sigmaM3) hx hy
  | sigmaEnc | sigmaEncResponse | psgSignature | spdmCertificate => rfl

theorem withUncoveredOf_eq {k : Kind} {x y : k.Body} (hx : k.format.macable x = .ok bs)
    (hy : k.format.macable y = .ok bs) : k.withUncoveredOf x y = y := by
  cases k with
  | getMeasurement =>
    exact GetMeasurement.framed.signCovered.graft_eq_of_signable {} GetMeasurement.fits_zero
      (eq_of_render_eq .getMeasurement) hx hy
  | sigmaM1 =>
    exact SigmaM1.framed.signCovered.graft_eq_of_signable {} SigmaM1.fits_zero
      (eq_of_render_eq .sigmaM1) hx hy
  | sigmaM2 =>
    exact SigmaM2.framed.signCovered.graft_eq_of_signable {} SigmaM2.fits_zero
      (eq_of_render_eq .sigmaM2) hx hy
  | sigmaM3 =>
    exact SigmaM3.framed.signCovered.graft_eq_of_signable {} SigmaM3.fits_zero
      (eq_of_render_eq .sigmaM3) hx hy
  | sigmaEnc => exact SigmaEnc.withUncoveredOf_eq hx hy
  | sigmaEncResponse => exact SigmaEncResponse.withUncoveredOf_eq hx hy
  | psgSignature | spdmCertificate => rfl

end Kind

/-- Messages that agree in the bytes that the signature covers differ at most in what it leaves out:
the reserved header, the signature block and the MAC, or the reserved header and the key chain. Those
that agree in the bytes under the MAC differ at most in the reserved header and the MAC. -/
theorem authenticated_fields_eq (k : Kind) (x y : k.Body) (bs : Bytes) :
    (k.format.signable x = .ok bs → k.format.signable y = .ok bs → k.withUnsignedOf x y = y) ∧
      (k.format.macable x = .ok bs → k.format.macable y = .ok bs → k.withUncoveredOf x y = y) :=
  ⟨Kind.withUnsignedOf_eq, Kind.withUncoveredOf_eq⟩

/-- Two closing messages of one session that differ in everything unsigned, also in sizes. -/
theorem authenticated_fields_eq_closing :
    let x : SigmaM3 :=
      { SigmaM3.zero with sdmSessionId := 7, signature := Signature.zero .secp256r1 }
    let y : SigmaM3 := { SigmaM3.zero with sdmSessionId := 7, reservedHeader := [1, 2], mac := [3] }
    ∃ bs, SigmaM3.format.signable x = .ok bs ∧ SigmaM3.format.signable y = .ok bs ∧
      x.withUnsignedOf y = y :=
  ⟨_, rfl, rfl, (authenticated_fields_eq .sigmaM3 _ _ _).1 rfl rfl⟩

end Wire
end Appraisal
