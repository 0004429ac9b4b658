import Appraisal.Proofs.Wire.Coverage

/-!
# Appraisal.Proofs.Wire.Delimiting

Messages that end in a field of exact size are delimited: an accepted buffer is refused without some of its
last bytes, wherever it is cut, and with any behind it. The lengths inside a message are met by the reader
before what they announce, so the argument follows the reader and needs no length of its own.

* `Reader.Steady`: a reader that is not moved by what follows the bytes that it takes, and that misses every
  one of those.
* `Reader.Closing`: a reader that ends a message.
* `Steady.bind`, `Steady.close`: how these are put together.
* `accepted_delimited`: the message types that are delimited, and the one that may also end early.
-/

namespace Appraisal
namespace Wire

namespace Reader

variable {α β : Type} {r : Reader α} {f : α → Reader β} {bs rest : Bytes}

/-- The bytes are refused for their size. -/
def WrongSize (r : Reader α) (bs : Bytes) : Prop := ∃ err, r bs = .error err ∧ err.kind = .buffer

/-- A reader that gives the same whatever follows the bytes that it takes. Of those it misses every one. -/
structure Steady (r : Reader α) : Prop where
  append {bs rest : Bytes} {x : α} (more : Bytes) :
    r bs = .ok (x, rest) → r (bs ++ more) = .ok (x, rest ++ more)
  cut {bs more rest : Bytes} {x : α} :
    r (bs ++ more) = .ok (x, rest) →
      (∃ left, r bs = .ok (x, left) ∧ rest = left ++ more) ∨ WrongSize r bs

/-- A reader that takes what is there as the end of a message, and neither less nor more. -/
structure Closing (r : Reader α) : Prop where
  append {bs rest more : Bytes} {x : α} :
    r bs = .ok (x, rest) → more ≠ [] →
      ∃ n, r (bs ++ more) = .error (.remainingLengthMismatch (n + more.length) n)
  cut {bs more rest : Bytes} {x : α} :
    r (bs ++ more) = .ok (x, rest) → more ≠ [] → WrongSize r bs

theorem WrongSize.bind (h : WrongSize r bs) : WrongSize (r >>= f) bs := by
  obtain ⟨err, herr, hkind⟩ := h
  exact ⟨err, bind_of_error herr, hkind⟩

theorem Steady.bind (hr : Steady r) (hf : ∀ x, Steady (f x)) : Steady (r >>= f) where
  append more h := by
    obtain ⟨x, mid, hx, hy⟩ := bind_eq_ok.mp h
    rw [bind_of_ok (hr.append more hx)]
    exact (hf x).append more hy
  cut h := by
    obtain ⟨x, mid, hx, hy⟩ := bind_eq_ok.mp h
    rcases hr.cut hx with ⟨left, hleft, rfl⟩ | hsize
    · rcases (hf x).cut hy with ⟨left', hleft', rfl⟩ | ⟨err, herr, hkind⟩
      · exact .inl ⟨left', (bind_of_ok hleft).trans hleft', rfl⟩
      · exact .inr ⟨err, (bind_of_ok hleft).trans herr, hkind⟩
    · exact .inr hsize.bind

/-- What ends a message also ends one with something in front. -/
theorem Steady.close (hr : Steady r) (hf : ∀ x, Closing (f x)) : Closing (r >>= f) where
  append {bs rest more y} h hmore := by
    obtain ⟨x, mid, hx, hy⟩ := bind_eq_ok.mp h
    rw [bind_of_ok (hr.append more hx)]
    exact (hf x).append hy hmore
  cut h hmore := by
    obtain ⟨x, mid, hx, hy⟩ := bind_eq_ok.mp h
    rcases hr.cut hx with ⟨left, hleft, rfl⟩ | hsize
    · obtain ⟨err, herr, hkind⟩ := (hf x).cut hy hmore
      exact ⟨err, (bind_of_ok hleft).trans herr, hkind⟩
    · exact hsize.bind

/-- Behind the end nothing more is read. -/
theorem Closing.map (hr : Closing r) (g : α → β) : Closing (r >>= fun x => pure (g x)) where
  append h hmore := by
    obtain ⟨x, mid, hx, -⟩ := bind_eq_ok.mp h
    obtain ⟨n, hn⟩ := hr.append hx hmore
    exact ⟨n, bind_of_error hn⟩
  cut h hmore := by
    obtain ⟨x, mid, hx, -⟩ := bind_eq_ok.mp h
    exact (hr.cut hx hmore).bind

/-! ## Fields -/

theorem steady_pure (x : α) : Steady (pure x : Reader α) where
  append more h := by
    obtain ⟨rfl, rfl⟩ := pure_eq_ok.mp h
    rfl
  cut h := by
    obtain ⟨rfl, rfl⟩ := pure_eq_ok.mp h
    exact .inl ⟨_, rfl, rfl⟩

/-- A check of what was read takes no bytes. -/
theorem steady_lift (x : Except Error α) : Steady (liftM x : Reader α) where
  append more h := by
    obtain ⟨hx, rfl⟩ := lift_eq_ok_iff.mp h
    exact lift_eq_ok_iff.mpr ⟨hx, rfl⟩
  cut h := by
    obtain ⟨hx, rfl⟩ := lift_eq_ok_iff.mp h
    exact .inl ⟨_, lift_eq_ok_iff.mpr ⟨hx, rfl⟩, rfl⟩

theorem steady_refuse {c : Prop} [Decidable c] {err : Error} (hr : Steady r) :
    Steady (if c then (throw err : Reader PUnit) >>= fun _ => r else r) where
  append more h := by
    obtain ⟨hc, h⟩ := refuse_eq_ok_iff.mp h
    exact refuse_eq_ok_iff.mpr ⟨hc, hr.append more h⟩
  cut h := by
    obtain ⟨hc, h⟩ := refuse_eq_ok_iff.mp h
    rw [if_neg hc]
    exact hr.cut h

theorem steady_take (n : Nat) : Steady (take n) where
  append more h := by
    obtain ⟨hlen, rfl⟩ := take_eq_ok_iff.mp h
    rw [List.append_assoc]
    exact take_append hlen _
  cut {bs more rest x} h := by
    by_cases hn : n ≤ bs.length
    · have htake : take n bs = .ok (bs.take n, bs.drop n) := if_pos hn
      have hlen : (bs.take n).length = n := by rw [List.length_take, Nat.min_eq_left hn]
      have hmore := take_append hlen (bs.drop n ++ more)
      rw [← List.append_assoc, List.take_append_drop, h] at hmore
      cases hmore
      exact .inl ⟨_, htake, rfl⟩
    · exact .inr ⟨_, if_neg hn, rfl⟩

theorem steady_byte : Steady byte where
  append more h := by
    obtain rfl := byte_eq_ok_iff.mp h
    rfl
  cut {bs more rest x} h := by
    cases bs with
    | nil => exact .inr ⟨_, rfl, rfl⟩
    | cons b bs =>
      cases h
      exact .inl ⟨bs, rfl, rfl⟩

variable {e : Endpoint} {p : Part}

theorem steady_field (n : Nat) : Steady (field e p n) :=
  (steady_take n).bind fun _ => steady_pure _

theorem steady_fieldWord : Steady (fieldWord e p) :=
  (steady_field 4).bind fun _ => steady_pure _

theorem steady_fieldHalf : Steady (fieldHalf e p) :=
  (steady_field 2).bind fun _ => steady_pure _

theorem closing_exactly (n : Nat) : Closing (exactly n) where
  append {bs rest more x} h hmore := by
    obtain ⟨hlen, rfl, -⟩ := exactly_eq_ok_iff.mp h
    have hpos := List.length_pos_iff.mpr hmore
    refine ⟨n, ?_⟩
    rw [exactly, if_neg (by simp; omega)]
    simp [hlen]
  cut {bs more rest x} h hmore := by
    obtain ⟨hlen, rfl, -⟩ := exactly_eq_ok_iff.mp h
    have hpos := List.length_pos_iff.mpr hmore
    rw [List.length_append] at hlen
    exact ⟨_, if_neg (by omega), rfl⟩

end Reader

open Reader

variable {e : Endpoint}

/-! ## Blocks and messages -/

theorem Signature.steady_read : Steady (Signature.read e) := by
  refine steady_fieldWord.bind fun magic => steady_refuse ?_
  refine steady_fieldWord.bind fun sizeR => ?_
  refine steady_fieldWord.bind fun sizeS => ?_
  refine steady_fieldWord.bind fun curveMagic => ?_
  refine (steady_lift (Curve.ofMagic curveMagic)).bind fun curve => ?_
  refine (steady_field curve.componentSize).bind fun r => ?_
  refine (steady_field curve.componentSize).bind fun s => ?_
  exact steady_pure _

theorem Signature.closing_read : Closing (format.read e) := by
  refine steady_read.close fun sig => ?_
  exact (closing_exactly 0).map _

theorem DeviceHeader.steady_read : Steady (DeviceHeader.read e) := by
  refine (steady_take reservedHeaderSize).bind fun reservedHeader => ?_
  refine steady_fieldWord.bind fun magic => ?_
  refine steady_fieldWord.bind fun sdmSessionId => ?_
  refine (steady_field uniqueIdSize).bind fun deviceUniqueId => ?_
  refine steady_fieldWord.bind fun romVersionNum => ?_
  refine (steady_field buildIdSize).bind fun sdmFwBuildId => ?_
  refine steady_fieldWord.bind fun sdmFwSecurityVersionNum => ?_
  refine steady_byte.bind fun familyByte => ?_
  refine (steady_lift (DeviceFamily.ofByte familyByte)).bind fun family => ?_
  refine (steady_take reservedSize).bind fun reserved => ?_
  refine (steady_field family.efuseSize).bind fun publicEfuseValues => ?_
  exact steady_pure _

theorem GetMeasurement.closing_read : Closing (GetMeasurement.read e) := by
  refine DeviceHeader.steady_read.close fun header => ?_
  refine (steady_field publicKeySize).close fun deviceDhPubKey => ?_
  refine (steady_field publicKeySize).close fun verifierDhPubKey => ?_
  refine (steady_field descriptorHashSize).close fun cmfDescriptorHash => ?_
  refine (steady_take reserved2Size).close fun reserved2 => ?_
  refine steady_byte.close fun numberOfMeasurementBlocks => ?_
  refine steady_byte.close fun reserved3 => ?_
  refine steady_fieldHalf.close fun recordLen => ?_
  refine (steady_take recordLen.toNat).close fun measurementRecord => ?_
  refine Signature.steady_read.close fun signature => ?_
  exact (closing_exactly mac384Size).map _

theorem SigmaM2.closing_read : Closing (SigmaM2.read e) := by
  refine DeviceHeader.steady_read.close fun header => ?_
  refine (steady_field publicKeySize).close fun deviceDhPubKey => ?_
  refine (steady_field publicKeySize).close fun bkpsDhPubKey => ?_
  refine Signature.steady_read.close fun signature => ?_
  exact (closing_exactly mac384Size).map _

theorem SigmaM3.closing_read : Closing (SigmaM3.read e) := by
  refine (steady_take reservedHeaderSize).close fun reservedHeader => ?_
  refine steady_fieldWord.close fun magic => ?_
  refine steady_fieldWord.close fun sdmSessionId => ?_
  refine (steady_field publicKeySize).close fun bkpsDhPubKey => ?_
  refine (steady_field publicKeySize).close fun deviceDhPubKey => ?_
  refine Signature.steady_read.close fun signature => ?_
  exact (closing_exactly mac384Size).map _

theorem SigmaEncHeader.steady_read : Steady (SigmaEncHeader.read e) := by
  refine (steady_take reservedHeaderSize).bind fun reservedHeader => ?_
  refine steady_fieldWord.bind fun magic => ?_
  refine steady_fieldWord.bind fun sdmSessionId => ?_
  exact steady_pure _

theorem SigmaEnc.closing_readBody (h : SigmaEncHeader) : Closing (SigmaEnc.readBody e h) := by
  refine steady_fieldWord.close fun messageCounter => ?_
  refine (steady_take reserved1Size).close fun reserved1 => ?_
  refine steady_fieldWord.close fun payloadLen => ?_
  refine (steady_field initialIvSize).close fun initialIv => ?_
  refine steady_byte.close fun numberOfPaddingBytes => ?_
  refine (steady_take reserved2Size).close fun reserved2 => ?_
  refine (steady_field payloadLen.toNat).close fun encryptedPayload => ?_
  exact (closing_exactly mac256Size).map _

theorem SigmaEnc.closing_read : Closing (SigmaEnc.read e) :=
  SigmaEncHeader.steady_read.close closing_readBody

theorem SigmaEncHeader.length_render {h : SigmaEncHeader} (hfit : span.Fits h) :
    (render e (span.pieces h)).length = 12 := by
  simp [span, Piece.word, Piece.bytes, length_reserved hfit]

namespace SigmaEncResponse

variable {bs rest : Bytes} {h : SigmaEncHeader} {m : SigmaEnc}

/-- What is read behind the header of a response. -/
def readBehind (e : Endpoint) (h : SigmaEncHeader) : Reader SigmaEncResponse := do
  let left ← Reader.remaining
  if left = 0 then pure (headerOnly h)
  else do
    let m ← SigmaEnc.readBody e h
    pure (encrypted m)

theorem read_eq : SigmaEncResponse.read e = SigmaEncHeader.read e >>= readBehind e := rfl

theorem readBehind_nil : readBehind e h [] = .ok (headerOnly h, []) := rfl

theorem readBehind_of_ne_nil (hbs : bs ≠ []) :
    readBehind e h bs = (SigmaEnc.readBody e h >>= fun m => pure (encrypted m)) bs := by
  have hlen : bs.length ≠ 0 := by simpa using hbs
  show (if bs.length = 0 then (pure (headerOnly h) : Reader SigmaEncResponse)
    else SigmaEnc.readBody e h >>= fun m => pure (encrypted m)) bs = _
  rw [if_neg hlen]

/-- An envelope begins with its header, and the rest is its body. -/
theorem exists_body_of_read (hread : SigmaEncResponse.read e bs = .ok (encrypted m, rest)) :
    ∃ body, SigmaEncHeader.read e bs = .ok (m.header, body) ∧
      SigmaEnc.readBody e m.header body = .ok (m, rest) := by
  rw [read_eq] at hread
  obtain ⟨h, body, hh, hbehind⟩ := bind_eq_ok.mp hread
  by_cases hbody : body = []
  · subst hbody
    cases hbehind
  · rw [readBehind_of_ne_nil hbody] at hbehind
    obtain ⟨m', left, hm, hend⟩ := bind_eq_ok.mp hbehind
    obtain ⟨hm', rfl⟩ := pure_eq_ok.mp hend
    cases hm'
    obtain ⟨rfl, -⟩ := SigmaEnc.readBody_eq_ok_iff.mp hm
    exact ⟨body, hh, hm⟩

/-- A response that is cut behind its header is a bare one, and one that is cut anywhere else is none. -/
theorem read_cut {front more : Bytes}
    (hread : SigmaEncResponse.read e (front ++ more) = .ok (encrypted m, rest)) (hmore : more ≠ []) :
    (front.length = 12 → SigmaEncResponse.read e front = .ok (headerOnly m.header, [])) ∧
      (front.length ≠ 12 → WrongSize (SigmaEncResponse.read e) front) := by
  obtain ⟨body, hheader, hbody⟩ := exists_body_of_read hread
  obtain ⟨hfit, hbytes⟩ := SigmaEncHeader.read_eq_ok_iff.mp hheader
  have hlen := SigmaEncHeader.length_render (e := e) hfit
  constructor
  · intro hfront
    obtain ⟨hfront, -⟩ := List.append_inj hbytes (hfront.trans hlen.symm)
    have hread' : SigmaEncHeader.read e front = .ok (m.header, []) :=
      SigmaEncHeader.read_eq_ok_iff.mpr ⟨hfit, by rw [hfront, List.append_nil]⟩
    rw [read_eq, bind_of_ok hread', readBehind_nil]
  · intro hfront
    rcases SigmaEncHeader.steady_read.cut hheader with ⟨left, hleft, rfl⟩ | hsize
    · -- The header is all there, so something is left behind it.
      obtain ⟨-, hparts⟩ := SigmaEncHeader.read_eq_ok_iff.mp hleft
      have hne : left ≠ [] := by
        rintro rfl
        rw [hparts, List.append_nil] at hfront
        exact hfront hlen
      obtain ⟨err, herr, hkind⟩ := (SigmaEnc.closing_readBody m.header).cut hbody hmore
      refine ⟨err, ?_, hkind⟩
      rw [read_eq, bind_of_ok hleft, readBehind_of_ne_nil hne, bind_of_error herr]
    · exact hsize.bind

end SigmaEncResponse

/-! ## All message types -/

namespace Kind

/-- The message types that end in a field of exact size. -/
def delimited : List Kind := [getMeasurement, sigmaM2, sigmaM3, psgSignature, sigmaEnc]

theorem closing_read {k : Kind} (hk : k ∈ delimited) : Closing (k.format.read e) := by
  cases k with
  | getMeasurement => exact GetMeasurement.closing_read
  | sigmaM2 => exact SigmaM2.closing_read
  | sigmaM3 => exact SigmaM3.closing_read
  | psgSignature => exact Signature.closing_read
  | sigmaEnc => exact SigmaEnc.closing_read
  | sigmaM1 | sigmaEncResponse | spdmCertificate => exact absurd hk (by decide)

end Kind

/-- An accepted buffer of a delimited message is refused for its size without some of its last bytes, and
with bytes behind it for those bytes. An accepted response with an envelope is likewise refused wherever it is
cut, but behind its header: there it is the bare response. -/
theorem accepted_delimited (e : Endpoint) :
    (∀ k ∈ Kind.delimited, ∀ bs m, k.format.parse e bs = .ok m →
      (∀ front more, bs = front ++ more → more ≠ [] →
        ∃ err, k.format.parse e front = .error err ∧ err.kind = .buffer) ∧
      ∀ more, more ≠ [] →
        ∃ n, k.format.parse e (bs ++ more) = .error (.remainingLengthMismatch (n + more.length) n)) ∧
    ∀ bs m, SigmaEncResponse.format.parse e bs = .ok (.encrypted m) →
      ∀ front more, bs = front ++ more → more ≠ [] →
        (front.length = 12 →
          SigmaEncResponse.format.parse e front = .ok (.headerOnly m.header)) ∧
        (front.length ≠ 12 →
          ∃ err, SigmaEncResponse.format.parse e front = .error err ∧ err.kind = .buffer) := by
  constructor
  · intro k hk bs m hm
    obtain ⟨rest, hread⟩ := value_eq_ok_iff.mp hm
    have hclosing : Closing (k.format.read e) := Kind.closing_read hk
    constructor
    · rintro front more rfl hmore
      obtain ⟨err, herr, hkind⟩ := hclosing.cut hread hmore
      exact ⟨err, value_eq_error_iff.mpr herr, hkind⟩
    · intro more hmore
      obtain ⟨n, hn⟩ := hclosing.append hread hmore
      exact ⟨n, value_eq_error_iff.mpr hn⟩
  · rintro bs m hm front more rfl hmore
    obtain ⟨rest, hread⟩ := value_eq_ok_iff.mp hm
    obtain ⟨hheader, hsize⟩ := SigmaEncResponse.read_cut hread hmore
    constructor
    · intro hfront
      exact value_eq_ok_iff.mpr ⟨[], hheader hfront⟩
    · intro hfront
      obtain ⟨err, herr, hkind⟩ := hsize hfront
      exact ⟨err, value_eq_error_iff.mpr herr, hkind⟩

/-- A signature block without its last byte and with one more, and a response that is cut behind its header
and inside it. -/
theorem accepted_delimited_block :
    let sig := Signature.zero .secp256r1
    let m : SigmaEnc := { SigmaEnc.zero with sdmSessionId := 0x01020304, encryptedPayload := [7, 8, 9] }
    (∃ bs, Signature.format.parse .firmware bs = .ok sig ∧
      (∃ err, Signature.format.parse .firmware (bs.take 79) = .error err ∧ err.kind = .buffer) ∧
      ∃ n, Signature.format.parse .firmware (bs ++ [0]) =
        .error (.remainingLengthMismatch (n + 1) n)) ∧
    ∃ bs, SigmaEncResponse.format.parse .firmware bs = .ok (.encrypted m) ∧
      SigmaEncResponse.format.parse .firmware (bs.take 12) = .ok (.headerOnly m.header) ∧
      ∃ err, SigmaEncResponse.format.parse .firmware (bs.take 11) = .error err ∧
        err.kind = .buffer := by
  intro sig m
  obtain ⟨hdelimited, hresponse⟩ := accepted_delimited .firmware
  constructor
  · have hsig : Signature.format.parse .firmware (render .firmware (Signature.span.pieces sig)) =
        .ok sig :=
      (Kind.parse_eq_ok_iff_build_eq_ok (k := .psgSignature)).mpr rfl
    obtain ⟨hcut, happend⟩ := hdelimited .psgSignature (by decide) _ _ hsig
    exact ⟨_, hsig, hcut _ _ (List.take_append_drop 79 _).symm (by decide +kernel),
      happend [0] (by decide)⟩
  · have hm : SigmaEncResponse.format.parse .firmware (render .firmware (SigmaEnc.whole.pieces m)) =
        .ok (.encrypted m) :=
      (Kind.parse_eq_ok_iff_build_eq_ok (k := .sigmaEncResponse)).mpr rfl
    have hcut := fun n => hresponse _ m hm _ _ (List.take_append_drop n _).symm
    refine ⟨_, hm, (hcut 12 (by decide +kernel)).1 (by decide +kernel), ?_⟩
    exact (hcut 11 (by decide +kernel)).2 (by decide +kernel)

end Wire
end Appraisal
