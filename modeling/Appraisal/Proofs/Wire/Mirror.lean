import Appraisal.Proofs.Wire.Separation

/-!
# Appraisal.Proofs.Wire.Mirror

The layouts of the firmware and of the service hold the same message. They are equally long, and
where they differ the firmware writes an integer, or a word of the public efuse values, in the other
order.

* `Mirrored`: two byte strings that differ in the order of some stretches only.
* `Placed`: where the integers and the efuse words of pieces stand.
* `Placed.mirrored`: pieces as the firmware and as the service write them.
* `Kind.turned`: where they stand in a message, by its type, family and lengths.
* `layouts_mirrored`: what holds of a message in both layouts, whichever type it has.
-/

namespace Appraisal
namespace Wire

/-- Some bytes that stand together: where the first is, and how many there are. -/
structure Stretch where
  start : Nat
  size : Nat
deriving DecidableEq, Repr

def Stretch.stop (s : Stretch) : Nat := s.start + s.size

/-- Stretches of one size, one behind the other. -/
def stretchesOf (start size count : Nat) : List Stretch :=
  (List.range count).map fun i => ⟨start + size * i, size⟩

theorem stretchesOf_succ {start size count : Nat} :
    stretchesOf start size (count + 1) =
      ⟨start, size⟩ :: stretchesOf (start + size) size count := by
  simp only [stretchesOf, List.range_succ_eq_map, List.map_cons, List.map_map, Nat.mul_zero,
    Nat.add_zero, List.cons.injEq, true_and]
  apply List.map_congr_left
  intro i _
  simp only [Function.comp_apply, Nat.mul_succ, Stretch.mk.injEq, and_true]
  omega

/-- Two byte strings that are the same but for the stretches `ss`, each of which has its bytes in
the other order. -/
structure Mirrored (ss : List Stretch) (x y : Bytes) : Prop where
  length_eq : x.length = y.length
  apart : ss.Pairwise fun s t => s.stop ≤ t.start
  turned : ∀ s ∈ ss, s.stop ≤ x.length ∧
    x.extract s.start s.stop = (y.extract s.start s.stop).reverse
  kept : ∀ i : Nat, (∀ s ∈ ss, i < s.start ∨ s.stop ≤ i) → x[i]? = y[i]?

namespace Mirrored

variable {ss : List Stretch} {x y z : Bytes}

theorem nil : Mirrored [] [] [] := ⟨rfl, .nil, by simp, fun _ _ => rfl⟩

theorem extract_append_left {start stop : Nat} (h : stop ≤ x.length) :
    (x ++ z).extract start stop = x.extract start stop := by
  rw [List.extract_eq_take_drop, List.extract_eq_take_drop, ← List.drop_take, ← List.drop_take,
    List.take_append_of_le_length h]

theorem extract_append_right {stop : Nat} (h : stop = x.length + z.length) :
    (x ++ z).extract x.length stop = z := by
  rw [List.extract_eq_take_drop, List.drop_left, h, Nat.add_sub_cancel_left, List.take_length]

/-- Bytes that both write alike. -/
theorem keep (h : Mirrored ss x y) (z : Bytes) : Mirrored ss (x ++ z) (y ++ z) where
  length_eq := by rw [List.length_append, List.length_append, h.length_eq]
  apart := h.apart
  turned s hs := by
    obtain ⟨hstop, hturned⟩ := h.turned s hs
    rw [extract_append_left hstop, extract_append_left (h.length_eq ▸ hstop), List.length_append]
    exact ⟨by omega, hturned⟩
  kept i hi := by
    have hlen := h.length_eq
    by_cases hlt : i < x.length
    · rw [List.getElem?_append_left hlt, List.getElem?_append_left (hlen ▸ hlt)]
      exact h.kept i hi
    · rw [List.getElem?_append_right (by omega), List.getElem?_append_right (by omega), hlen]

/-- Bytes that one writes in the other order. -/
theorem turn (h : Mirrored ss x y) (z : Bytes) :
    Mirrored (ss ++ [⟨x.length, z.length⟩]) (x ++ z.reverse) (y ++ z) where
  length_eq := by simp [h.length_eq]
  apart := by
    refine List.pairwise_append.mpr ⟨h.apart, List.pairwise_singleton .., ?_⟩
    intro s hs t ht
    obtain rfl := List.mem_singleton.mp ht
    exact (h.turned s hs).1
  turned s hs := by
    rcases List.mem_append.mp hs with hs | hs
    · obtain ⟨hstop, hturned⟩ := h.turned s hs
      rw [extract_append_left hstop, extract_append_left (h.length_eq ▸ hstop), List.length_append]
      exact ⟨by omega, hturned⟩
    · obtain rfl := List.mem_singleton.mp hs
      have hx : (x ++ z.reverse).extract x.length (x.length + z.length) = z.reverse :=
        extract_append_right (by simp)
      have hy : (y ++ z).extract x.length (x.length + z.length) = z := by
        rw [h.length_eq]
        exact extract_append_right rfl
      exact ⟨by simp [Stretch.stop], by rw [Stretch.stop, hx, hy]⟩
  kept i hi := by
    have hlen := h.length_eq
    obtain ⟨hss, hlast⟩ := List.forall_mem_append.mp hi
    rw [List.forall_mem_singleton] at hlast
    simp only [Stretch.stop] at hlast
    by_cases hlt : i < x.length
    · rw [List.getElem?_append_left hlt, List.getElem?_append_left (hlen ▸ hlt)]
      exact h.kept i hss
    · rw [List.getElem?_eq_none (by simp; omega), List.getElem?_eq_none (by simp; omega)]

/-- Whole groups that one writes in the other order, each in its place. -/
theorem turnGroups {w n : Nat} (h : Mirrored ss x y) (hz : z.length = (w + 1) * n) :
    Mirrored (ss ++ stretchesOf x.length (w + 1) n) (x ++ reverseGroups w z) (y ++ z) := by
  induction n generalizing ss x y z with
  | zero =>
    obtain rfl := List.length_eq_zero_iff.mp hz
    simpa [stretchesOf, reverseGroups] using h
  | succ n ih =>
    have hlen : (z.take (w + 1)).length = w + 1 := by
      rw [List.length_take, hz, Nat.mul_succ]
      omega
    have hrest : (z.drop (w + 1)).length = (w + 1) * n := by
      rw [List.length_drop, hz, Nat.mul_succ]
      omega
    have hmore : ¬ z.length ≤ w := by
      rw [hz, Nat.mul_succ]
      omega
    have hgroups := ih (h.turn (z.take (w + 1))) hrest
    rw [hlen, List.length_append, List.length_reverse, hlen] at hgroups
    rw [reverseGroups, if_neg hmore, stretchesOf_succ]
    simpa [List.append_assoc, List.take_append_drop] using hgroups

end Mirrored

/-! ## Pieces -/

/-- In pieces from `start` on, the integers and the words of efuse values stand at `ss`. -/
inductive Placed : (start : Nat) → List Piece → (ss : List Stretch) → Prop
  | nil {start : Nat} : Placed start [] []
  | skip {start n : Nat} {p : Piece} {ps : List Piece} {ss : List Stretch} (kept : p.order = .kept)
      (length_eq : p.bytes.length = n) (rest : Placed (start + n) ps ss) : Placed start (p :: ps) ss
  | turn {start n : Nat} {p : Piece} {ps : List Piece} {ss : List Stretch}
      (integer : p.order = .integer) (length_eq : p.bytes.length = n)
      (rest : Placed (start + n) ps ss) : Placed start (p :: ps) (⟨start, n⟩ :: ss)
  | words {start n : Nat} {p : Piece} {ps : List Piece} {ss : List Stretch}
      (words : p.order = .words32) (length_eq : p.bytes.length = 4 * n)
      (rest : Placed (start + 4 * n) ps ss) : Placed start (p :: ps) (stretchesOf start 4 n ++ ss)

namespace Placed

variable {start : Nat} {ps qs : List Piece} {ss ts : List Stretch} {p : Part}

theorem word {w : UInt32} (hp : p.order = .integer) (h : Placed (start + 4) ps ss) :
    Placed start (.word p w :: ps) (⟨start, 4⟩ :: ss) :=
  .turn hp (Bytes.length_ofNatBE 4 _) h

theorem half {n : Nat} (hp : p.order = .integer) (h : Placed (start + 2) ps ss) :
    Placed start (.half p n :: ps) (⟨start, 2⟩ :: ss) :=
  .turn hp (Bytes.length_ofNatBE 2 _) h

theorem append (h : Placed start ps ss)
    (h' : Placed (start + (render .service ps).length) qs ts) :
    Placed start (ps ++ qs) (ss ++ ts) := by
  induction h with
  | nil => exact h'
  | skip hp hn _ ih =>
    rw [render_cons, List.length_append, Piece.length_render, hn, ← Nat.add_assoc] at h'
    exact .skip hp hn (ih h')
  | turn hp hn _ ih =>
    rw [render_cons, List.length_append, Piece.length_render, hn, ← Nat.add_assoc] at h'
    exact .turn hp hn (ih h')
  | words hp hn _ ih =>
    rw [render_cons, List.length_append, Piece.length_render, hn, ← Nat.add_assoc] at h'
    rw [List.append_assoc]
    exact .words hp hn (ih h')

/-- The firmware and the service write pieces alike but for the integers and words. -/
theorem mirrored {x y : Bytes} {ts : List Stretch} (h : Placed start ps ss)
    (hxy : Mirrored ts x y) (hstart : x.length = start) :
    Mirrored (ts ++ ss) (x ++ render .firmware ps) (y ++ render .service ps) := by
  induction h generalizing x y ts with
  | nil => simpa using hxy
  | @skip start n p ps ss hp hn _ ih =>
    have hrest := ih (hxy.keep p.bytes) (by rw [List.length_append, hstart, hn])
    simpa [Piece.render, hp, ByteOrder.arrange, ByteOrder.swap] using hrest
  | @turn start n p ps ss hp hn _ ih =>
    have hrest := ih (hxy.turn p.bytes)
      (by rw [List.length_append, List.length_reverse, hstart, hn])
    simpa [Piece.render, hp, hn, hstart, ByteOrder.arrange, ByteOrder.swap] using hrest
  | words hp hn _ ih =>
    have hrest := ih (hxy.turnGroups hn)
      (by rw [List.length_append, length_reverseGroups, hstart, hn])
    simpa [Piece.render, hp, hstart, ByteOrder.arrange, ByteOrder.swap] using hrest

end Placed

/-! ## Message types -/

/-- The integers of a device's identity behind the reserved header, and its efuse words. -/
def DeviceHeader.turned (h : DeviceHeader) : List Stretch :=
  [⟨4, 4⟩, ⟨8, 4⟩, ⟨20, 4⟩, ⟨52, 4⟩] ++ stretchesOf 60 4 (h.deviceFamily.efuseSize / 4)

/-- The magics and sizes of a signature block at `start`. -/
def Signature.turned (start : Nat) : List Stretch :=
  [⟨start, 4⟩, ⟨start + 4, 4⟩, ⟨start + 8, 4⟩, ⟨start + 12, 4⟩]

/-- Where the firmware and the service write a message's bytes in different orders: at its integers,
and at each of its efuse words. -/
def Kind.turned : (k : Kind) → k.Body → List Stretch
  | getMeasurement, m =>
    let keys := 60 + m.header.deviceFamily.efuseSize
    m.header.turned ++ [⟨keys + 254, 2⟩] ++
      Signature.turned (keys + 256 + m.measurementRecord.length)
  | sigmaM1, _ => [⟨4, 4⟩, ⟨108, 4⟩]
  | sigmaM2, m => m.header.turned ++ Signature.turned (60 + m.header.deviceFamily.efuseSize + 192)
  | sigmaM3, _ => [⟨4, 4⟩, ⟨8, 4⟩] ++ Signature.turned 204
  | sigmaEnc, _ | sigmaEncResponse, .encrypted _ => [⟨4, 4⟩, ⟨8, 4⟩, ⟨12, 4⟩, ⟨24, 4⟩]
  | sigmaEncResponse, .headerOnly _ => [⟨4, 4⟩, ⟨8, 4⟩]
  | psgSignature, _ => Signature.turned 0
  | spdmCertificate, _ => [⟨0, 2⟩]

theorem Signature.placed (sig : Signature) (start : Nat) :
    Placed start (span.pieces sig) (turned start) := by
  refine .word rfl ?_ -- magic
  refine .word rfl ?_ -- sizeR
  refine .word rfl ?_ -- sizeS
  refine .word rfl ?_ -- magic of the curve
  refine .skip rfl rfl ?_ -- r
  exact .skip rfl rfl .nil -- s

theorem DeviceHeader.placed {h : DeviceHeader} (hfit : signed.Fits h) :
    Placed 4 (signed.pieces h) h.turned := by
  simp only [signed, Span.Fits, List.forall_mem_cons, Limit.holds_exactly] at hfit
  obtain ⟨huid, hfw, hrsv, hefuse, -⟩ := hfit
  have hwords : h.publicEfuseValues.length = 4 * (h.deviceFamily.efuseSize / 4) := by
    rw [hefuse]
    cases h.deviceFamily <;> rfl
  rw [← List.append_nil h.turned]
  refine .word rfl ?_ -- magic
  refine .word rfl ?_ -- sdmSessionId
  refine .skip rfl huid ?_
  refine .word rfl ?_ -- romVersionNum
  refine .skip rfl hfw ?_
  refine .word rfl ?_ -- sdmFwSecurityVersionNum
  refine .skip rfl rfl ?_ -- deviceFamily
  refine .skip rfl hrsv ?_
  exact .words rfl hwords .nil

/-- In a signed and sealed message, the integers of the signed span and then those of the signature
block behind it. -/
theorem Framed.placed_of_sealed {α : Type} {f : Format α} {header mac : α → Bytes}
    {signature : α → Signature} {n stop : Nat} {m : α} {ss : List Stretch}
    (h : Framed f header (Signature.span.within signature) (Span.macOf n mac))
    (hfit : f.whole.Fits m) (hsigned : Placed 4 (f.signed.pieces m) ss)
    (hstop : 4 + (render .service (f.signed.pieces m)).length = stop) :
    Placed 0 (f.whole.pieces m) (ss ++ Signature.turned stop) := by
  have hheader : (header m).length = 4 := ((h.fits_whole m).mp hfit).1
  have htrailer : ∀ start, Placed start ((Span.macOf n mac).pieces m) [] :=
    fun start => .skip rfl rfl .nil
  have hrest := (hsigned.append (Signature.placed (signature m) _)).append (htrailer _)
  rw [List.append_nil, hstop] at hrest
  rw [h.pieces_whole, h.pieces_covered]
  exact .skip rfl hheader hrest

theorem GetMeasurement.placed_signed {m : GetMeasurement} (hfit : signed.Fits m) :
    Placed 4 (signed.pieces m)
      (m.header.turned ++ [⟨60 + m.header.deviceFamily.efuseSize + 254, 2⟩]) := by
  obtain ⟨hdk, hvk, hhash, hrsv, -, hh⟩ := fits_signed.mp hfit
  have hkeys : 60 + m.header.deviceFamily.efuseSize + 254 =
      4 + (56 + m.header.deviceFamily.efuseSize) + 96 + 96 + 48 + 12 + 1 + 1 := by omega
  refine (DeviceHeader.placed hh).append ?_
  rw [DeviceHeader.length_signed hh, hkeys]
  refine .skip rfl hdk ?_
  refine .skip rfl hvk ?_
  refine .skip rfl hhash ?_
  refine .skip rfl hrsv ?_
  refine .skip rfl rfl ?_ -- numberOfMeasurementBlocks
  refine .skip rfl rfl ?_ -- reserved3
  refine .half rfl ?_ -- length of the record
  exact .skip rfl rfl .nil -- measurementRecord

theorem GetMeasurement.placed {m : GetMeasurement} (hfit : whole.Fits m) :
    Placed 0 (whole.pieces m) (Kind.turned .getMeasurement m) := by
  have hsigned := framed.fits_signed hfit
  have hblock : 4 + (render .service (signed.pieces m)).length =
      60 + m.header.deviceFamily.efuseSize + 256 + m.measurementRecord.length := by
    rw [length_signed hsigned]
    omega
  exact framed.placed_of_sealed hfit (placed_signed hsigned) hblock

theorem SigmaM1.placed {m : SigmaM1} (hfit : whole.Fits m) :
    Placed 0 (whole.pieces m) (Kind.turned .sigmaM1 m) := by
  obtain ⟨hrh, hrsv1, hkey, -⟩ := fits_whole.mp hfit
  refine .skip rfl hrh ?_
  refine .word rfl ?_ -- magic
  refine .skip rfl hrsv1 ?_
  refine .skip rfl hkey ?_
  refine .word rfl ?_ -- pufType
  refine .skip rfl rfl ?_ -- reserved2
  exact .skip rfl rfl .nil -- userKeyChain

theorem SigmaM2.placed {m : SigmaM2} (hfit : whole.Fits m) :
    Placed 0 (whole.pieces m) (Kind.turned .sigmaM2 m) := by
  have hsigned := framed.fits_signed hfit
  have hkeys : Placed 4 (signed.pieces m) (m.header.turned ++ []) := by
    refine (DeviceHeader.placed (fits_signed.mp hsigned).2.2).append ?_
    refine .skip rfl rfl ?_ -- deviceDhPubKey
    exact .skip rfl rfl .nil -- bkpsDhPubKey
  rw [List.append_nil] at hkeys
  have hblock : 4 + (render .service (signed.pieces m)).length =
      60 + m.header.deviceFamily.efuseSize + 192 := by
    rw [length_signed hsigned]
    omega
  exact framed.placed_of_sealed hfit hkeys hblock

theorem SigmaM3.placed {m : SigmaM3} (hfit : whole.Fits m) :
    Placed 0 (whole.pieces m) (Kind.turned .sigmaM3 m) := by
  have hwords : Placed 4 (signed.pieces m) [⟨4, 4⟩, ⟨8, 4⟩] := by
    refine .word rfl ?_ -- magic
    refine .word rfl ?_ -- sdmSessionId
    refine .skip rfl rfl ?_ -- bkpsDhPubKey
    exact .skip rfl rfl .nil -- deviceDhPubKey
  have hblock : 4 + (render .service (signed.pieces m)).length = 204 := by
    rw [length_signed (framed.fits_signed hfit)]
  exact framed.placed_of_sealed hfit hwords hblock

theorem SigmaEncHeader.placed {h : SigmaEncHeader} (hfit : span.Fits h) :
    Placed 0 (span.pieces h) [⟨4, 4⟩, ⟨8, 4⟩] := by
  refine .skip rfl (length_reserved hfit) ?_
  refine .word rfl ?_ -- magic
  exact .word rfl .nil -- sdmSessionId

theorem SigmaEnc.placed {m : SigmaEnc} (hfit : whole.Fits m) :
    Placed 0 (whole.pieces m) (Kind.turned .sigmaEnc m) := by
  obtain ⟨hh, -, hcovered⟩ := fits_whole.mp hfit
  obtain ⟨hrsv1, -⟩ := fits_covered.mp hcovered
  refine .skip rfl (SigmaEncHeader.length_reserved hh) ?_
  refine .word rfl ?_ -- magic
  refine .word rfl ?_ -- sdmSessionId
  refine .word rfl ?_ -- messageCounter
  refine .skip rfl hrsv1 ?_
  refine .turn rfl (Bytes.length_ofNatBE 4 _) ?_ -- length of the payload
  refine .skip rfl rfl ?_ -- initialIv
  refine .skip rfl rfl ?_ -- numberOfPaddingBytes
  refine .skip rfl rfl ?_ -- reserved2
  refine .skip rfl rfl ?_ -- encryptedPayload
  exact .skip rfl rfl .nil -- mac

theorem SpdmCertificate.placed {m : SpdmCertificate} :
    Placed 0 (whole.pieces m) (Kind.turned .spdmCertificate m) := by
  refine .half rfl ?_ -- total length
  refine .skip rfl rfl ?_ -- reserved
  refine .skip rfl rfl ?_ -- certChainHash
  exact .skip rfl rfl .nil -- certChain

theorem Kind.placed {k : Kind} {m : k.Body} (hfit : k.format.whole.Fits m) :
    Placed 0 (k.format.whole.pieces m) (k.turned m) := by
  cases k with
  | getMeasurement => exact GetMeasurement.placed hfit
  | sigmaM1 => exact SigmaM1.placed hfit
  | sigmaM2 => exact SigmaM2.placed hfit
  | sigmaM3 => exact SigmaM3.placed hfit
  | sigmaEnc => exact SigmaEnc.placed hfit
  | sigmaEncResponse =>
    cases m with
    | headerOnly h => exact SigmaEncHeader.placed hfit
    | encrypted m => exact SigmaEnc.placed hfit
  | psgSignature => exact Signature.placed m 0
  | spdmCertificate => exact SpdmCertificate.placed

/-- A message is refused in both layouts, for one reason, or written in both. Then the two buffers
differ in the order of the bytes of its integers and of its efuse words only, wherever these stand, and
each is read back as the message by the endpoint that wrote it. -/
theorem layouts_mirrored (k : Kind) (m : k.Body) :
    (∃ err, k.format.build .firmware m = .error err ∧ k.format.build .service m = .error err) ∨
      ∃ x y, k.format.build .firmware m = .ok x ∧ k.format.build .service m = .ok y ∧
        Placed 0 (k.format.whole.pieces m) (k.turned m) ∧ Mirrored (k.turned m) x y ∧
        k.format.parse .firmware x = .ok m ∧ k.format.parse .service y = .ok m := by
  cases hlimits : Limit.check (k.format.whole.limits m) with
  | error err =>
    left
    have hrefused : ∀ e, k.format.build e m = .error err := by
      intro e
      rw [Format.build, Span.write, hlimits]
    exact ⟨err, hrefused .firmware, hrefused .service⟩
  | ok =>
    right
    have hwritten : ∀ e, k.format.build e m = .ok (render e (k.format.whole.pieces m)) := by
      intro e
      rw [Format.build, Span.write, hlimits]
    have hfit : k.format.whole.Fits m := (Span.write_eq_ok_iff.mp (hwritten .service)).1
    have hplaced := Kind.placed hfit
    exact ⟨_, _, hwritten .firmware, hwritten .service, hplaced, hplaced.mirrored Mirrored.nil rfl,
      Kind.parse_eq_ok_iff_build_eq_ok.mpr (hwritten .firmware),
      Kind.parse_eq_ok_iff_build_eq_ok.mpr (hwritten .service)⟩

end Wire
end Appraisal
