import Appraisal.Proofs.Wire.Positions

/-!
# Appraisal.Proofs.Wire.Failures

How a message can fail. A message that is read is refused for its size, for a tag or for a length inside
it, and one that is written for the length of a field; the tables of byte orders are behind every access
and never fail.

* `Stage`, `writeStages`: writing in steps, each field through the table of its message.
* `Stage.Sound`: the checks of a stage are all that its table asks for.
* `Kind.stages`, `Kind.signedStages`, `Kind.coveredStages`: the steps of each message type.
* `Kind.Sized`: the lengths that a message is declared with.
* `failures_confined`: the errors of every message type.
-/

namespace Appraisal
namespace Wire

/-! ## Writing in stages -/

/-- A piece of the message `o`, a part by the message's table. -/
def Piece.put (o : Owner) (e : Endpoint) : Piece → Except Error Bytes
  | part p bs => convert o.orders ⟨o, p⟩ bs e
  | plain bs => .ok bs

def putAll (o : Owner) (e : Endpoint) : List Piece → Except Error Bytes
  | [] => pure []
  | p :: ps => do
    let x ← p.put o e
    let y ← putAll o e ps
    pure (x ++ y)

/-- A step of writing: fields are checked, and then pieces are written by the table of a message. -/
structure Stage where
  owner : Owner
  limits : List Limit
  pieces : List Piece

def Stage.write (s : Stage) (e : Endpoint) : Except Error Bytes := do
  Limit.check s.limits
  putAll s.owner e s.pieces

def writeStages (e : Endpoint) : List Stage → Except Error Bytes
  | [] => pure []
  | s :: ss => do
    let x ← s.write e
    let y ← writeStages e ss
    pure (x ++ y)

def Span.stage {α : Type} (o : Owner) (s : Span α) (m : α) : Stage := ⟨o, s.limits m, s.pieces m⟩

/-- The reserved header in front, whose length is checked with that of the MAC, and the MAC behind. -/
def sealStages (o : Owner) (header mac : Bytes) (n : Nat) (ss : List Stage) : List Stage :=
  ⟨o, [.exactly "reserved_header" reservedHeaderSize header, .exactly "mac" n mac], [.plain header]⟩ ::
    ss ++ [⟨o, [], [.part .mac mac]⟩]

namespace Kind

def signedStages : (k : Kind) → k.Body → List Stage
  | getMeasurement, m => [GetMeasurement.signed.stage .getMeasurement m]
  | sigmaM1, m => [SigmaM1.signed.stage .sigmaM1 m]
  | sigmaM2, m => [SigmaM2.signed.stage .sigmaM2 m]
  | sigmaM3, m => [SigmaM3.signed.stage .sigmaM3 m]
  | sigmaEnc, _ | sigmaEncResponse, _ | psgSignature, _ | spdmCertificate, _ => []

def coveredStages : (k : Kind) → k.Body → List Stage
  | getMeasurement, m =>
    [GetMeasurement.signed.stage .getMeasurement m, Signature.span.stage .psgSignature m.signature]
  | sigmaM1, m => [SigmaM1.signed.stage .sigmaM1 m, SigmaM1.chain.stage .sigmaM1 m]
  | sigmaM2, m => [SigmaM2.signed.stage .sigmaM2 m, Signature.span.stage .psgSignature m.signature]
  | sigmaM3, m => [SigmaM3.signed.stage .sigmaM3 m, Signature.span.stage .psgSignature m.signature]
  | sigmaEnc, m => [SigmaEnc.covered.stage .sigmaEnc m]
  | sigmaEncResponse, .encrypted m => [SigmaEnc.covered.stage .sigmaEnc m]
  | sigmaEncResponse, .headerOnly _ | psgSignature, _ | spdmCertificate, _ => []

def stages : (k : Kind) → k.Body → List Stage
  | getMeasurement, m =>
    sealStages .getMeasurement m.header.reservedHeader m.mac mac384Size (coveredStages getMeasurement m)
  | sigmaM1, m =>
    ⟨.sigmaM1, [.exactly "reserved_header" reservedHeaderSize m.reservedHeader],
      [.plain m.reservedHeader]⟩ :: coveredStages sigmaM1 m
  | sigmaM2, m =>
    sealStages .sigmaM2 m.header.reservedHeader m.mac mac384Size (coveredStages sigmaM2 m)
  | sigmaM3, m => sealStages .sigmaM3 m.reservedHeader m.mac mac384Size (coveredStages sigmaM3 m)
  | sigmaEnc, m => sealStages .sigmaEnc m.reservedHeader m.mac mac256Size (coveredStages sigmaEnc m)
  | sigmaEncResponse, .encrypted m =>
    sealStages .sigmaEnc m.reservedHeader m.mac mac256Size (coveredStages sigmaEnc m)
  | sigmaEncResponse, .headerOnly h => [SigmaEncHeader.span.stage .sigmaEnc h]
  | psgSignature, m => [Signature.span.stage .psgSignature m]
  | spdmCertificate, m => [SpdmCertificate.whole.stage .spdmCertificate m]

end Kind

/-! ## The tables are enough -/

/-- The table of `o` has the piece's field, and the field's order admits the piece's length. -/
def Piece.Listed (o : Owner) : Piece → Prop
  | part p bs => p ∈ o.parts ∧ p.order.admits bs.length = true
  | plain _ => True

/-- Where the checks of a stage are passed, its table has all that is written. -/
def Stage.Sound (s : Stage) : Prop :=
  (∀ l ∈ s.limits, l.holds = true) → ∀ p ∈ s.pieces, p.Listed s.owner

section Sound

variable {o : Owner} {e : Endpoint} {ps : List Piece} {s : Stage} {ss : List Stage}

theorem Piece.put_of_listed {p : Piece} (h : p.Listed o) : p.put o e = .ok (p.render e) := by
  cases p with
  | part p bs => exact convert_of_listed h.1 h.2
  | plain bs => rw [render_plain, put]

theorem putAll_of_listed (h : ∀ p ∈ ps, p.Listed o) : putAll o e ps = .ok (render e ps) := by
  induction ps with
  | nil => rfl
  | cons p ps ih =>
    obtain ⟨hp, hps⟩ := List.forall_mem_cons.mp h
    rw [putAll, Piece.put_of_listed hp, ih hps, render_cons]
    rfl

theorem Limit.check_append (ls ls' : List Limit) :
    Limit.check (ls ++ ls') = (do Limit.check ls; Limit.check ls') := by
  induction ls with
  | nil => rfl
  | cons l ls ih =>
    rw [List.cons_append, Limit.check, Limit.check]
    split
    · exact ih
    · rfl

theorem Stage.write_of_sound (h : s.Sound) :
    s.write e = (do Limit.check s.limits; pure (render e s.pieces)) := by
  rw [Stage.write]
  cases hcheck : Limit.check s.limits with
  | error err => rfl
  | ok u => exact putAll_of_listed (h (Limit.check_eq_ok_iff.mp hcheck))

/-- Checks between the pieces come to the same as all of them in front. -/
theorem writeStages_of_sound (h : ∀ s ∈ ss, s.Sound) :
    writeStages e ss = (do
      Limit.check (ss.flatMap Stage.limits)
      pure (render e (ss.flatMap Stage.pieces))) := by
  induction ss with
  | nil => rfl
  | cons s ss ih =>
    obtain ⟨hs, hss⟩ := List.forall_mem_cons.mp h
    rw [writeStages, Stage.write_of_sound hs, ih hss, List.flatMap_cons, List.flatMap_cons,
      Limit.check_append, render_append]
    cases Limit.check s.limits with
    | error err => rfl
    | ok u =>
      cases Limit.check (ss.flatMap Stage.limits) with
      | error err => rfl
      | ok u' => rfl

end Sound

/-! ## Every message by its stages -/

/-- The stages have the limits and the pieces of a span, and their tables are enough for them. -/
structure Span.Staged {α : Type} (s : Span α) (m : α) (ss : List Stage) : Prop where
  sound : ∀ t ∈ ss, t.Sound
  limits_eq : ss.flatMap Stage.limits = s.limits m
  pieces_eq : ss.flatMap Stage.pieces = s.pieces m

theorem Span.Staged.write_eq {α : Type} {s : Span α} {m : α} {ss : List Stage} (h : s.Staged m ss)
    (e : Endpoint) : writeStages e ss = s.write e m := by
  rw [writeStages_of_sound h.sound, h.limits_eq, h.pieces_eq, Span.write]
  cases Limit.check (s.limits m) with
  | error err => rfl
  | ok u => rfl

section Listed

variable {o : Owner} {p : Part} {bs : Bytes}

theorem Piece.listed_kept (hp : p ∈ o.parts) (h : p.order = .kept) : (part p bs).Listed o :=
  ⟨hp, Part.admits_of_kept h _⟩

theorem Piece.listed_word (hp : p ∈ o.parts) (h : p.order.admits 4 = true) (w : UInt32) :
    (word p w).Listed o :=
  ⟨hp, by rwa [Bytes.length_ofNatBE]⟩

theorem Piece.listed_half (hp : p ∈ o.parts) (h : p.order.admits 2 = true) (n : Nat) :
    (half p n).Listed o :=
  ⟨hp, by rwa [Bytes.length_ofNatBE]⟩

@[simp] theorem Piece.listed_plain : (plain bs).Listed o := trivial

@[simp] theorem Piece.listed_byte (b : UInt8) : (byte b).Listed o := trivial

end Listed

theorem Signature.sound (sig : Signature) : (span.stage .psgSignature sig).Sound := by
  intro hlimits
  simp (disch := decide) [Span.stage, span, Piece.listed_word, Piece.listed_kept]

theorem DeviceHeader.listed {o : Owner} {h : DeviceHeader} (ho : parts ⊆ o.parts)
    (hfit : signed.Fits h) : ∀ p ∈ signed.pieces h, p.Listed o := by
  simp only [signed, Span.Fits, List.forall_mem_cons, Limit.holds_exactly] at hfit
  obtain ⟨-, -, -, hefuse, -⟩ := hfit
  have word : ∀ {p}, p ∈ parts → p.order.admits 4 = true → ∀ w, (Piece.word p w).Listed o :=
    fun hp => Piece.listed_word (ho hp)
  have kept : ∀ {p bs}, p ∈ parts → p.order = .kept → (Piece.part p bs).Listed o :=
    fun hp => Piece.listed_kept (ho hp)
  have words : (Piece.part .publicEfuseValues h.publicEfuseValues).Listed o :=
    ⟨ho (by decide), hefuse ▸ h.deviceFamily.admits_efuseSize⟩
  simp only [signed, List.forall_mem_cons]
  exact ⟨word (by decide) rfl _, word (by decide) rfl _, kept (by decide) rfl,
    word (by decide) rfl _, kept (by decide) rfl, word (by decide) rfl _, Piece.listed_byte _,
    Piece.listed_plain, words, by simp⟩

theorem GetMeasurement.sound (m : GetMeasurement) : (signed.stage .getMeasurement m).Sound := by
  intro hlimits
  obtain ⟨-, -, -, -, -, hh⟩ := fits_signed.mp hlimits
  have hheader := DeviceHeader.listed (o := .getMeasurement) (by decide) hh
  simpa (disch := decide) [Span.stage, signed, or_imp, forall_and, Piece.listed_half,
    Piece.listed_kept] using hheader

theorem SigmaM1.sound (m : SigmaM1) : (signed.stage .sigmaM1 m).Sound := by
  intro hlimits
  simp (disch := decide) [Span.stage, signed, Piece.listed_word, Piece.listed_kept]

theorem SigmaM1.sound_chain (m : SigmaM1) : (chain.stage .sigmaM1 m).Sound := by
  intro hlimits
  simp (disch := decide) [Span.stage, chain, Piece.listed_kept]

theorem SigmaM2.sound (m : SigmaM2) : (signed.stage .sigmaM2 m).Sound := by
  intro hlimits
  obtain ⟨-, -, hh⟩ := fits_signed.mp hlimits
  have hheader := DeviceHeader.listed (o := .sigmaM2) (by decide) hh
  simpa (disch := decide) [Span.stage, signed, or_imp, forall_and, Piece.listed_kept] using hheader

theorem SigmaM3.sound (m : SigmaM3) : (signed.stage .sigmaM3 m).Sound := by
  intro hlimits
  simp (disch := decide) [Span.stage, signed, Piece.listed_word, Piece.listed_kept]

theorem SigmaEncHeader.sound (h : SigmaEncHeader) : (span.stage .sigmaEnc h).Sound := by
  intro hlimits
  simp (disch := decide) [Span.stage, span, Piece.listed_word]

theorem SigmaEnc.sound (m : SigmaEnc) : (covered.stage .sigmaEnc m).Sound := by
  intro hlimits
  have hlen : (Piece.part .payloadLen (Bytes.ofNatBE 4 m.encryptedPayload.length)).Listed .sigmaEnc :=
    ⟨by decide, by simp; rfl⟩
  simp (disch := decide) [Span.stage, covered, Piece.listed_word, Piece.listed_kept, hlen]

theorem SpdmCertificate.sound (m : SpdmCertificate) : (whole.stage .spdmCertificate m).Sound := by
  intro hlimits
  simp (disch := decide) [Span.stage, whole, Piece.listed_half, Piece.listed_kept]

theorem sound_plain (o : Owner) (ls : List Limit) (bs : Bytes) : (⟨o, ls, [.plain bs]⟩ : Stage).Sound := by
  intro hlimits
  simp

theorem sound_mac {o : Owner} (ho : Part.mac ∈ o.parts) (mac : Bytes) :
    (⟨o, [], [.part .mac mac]⟩ : Stage).Sound := by
  intro hlimits
  simpa using Piece.listed_kept ho rfl

/-- What is between the reserved header and the MAC is staged as it is for the MAC. -/
theorem Span.Staged.seal {α : Type} {s : Span α} {m : α} {ss : List Stage} (h : s.Staged m ss)
    {o : Owner} (ho : Part.mac ∈ o.parts) (header mac : α → Bytes) (n : Nat) :
    (s.seal header mac n).Staged m (sealStages o (header m) (mac m) n ss) where
  sound := by
    simp only [sealStages, List.cons_append, List.forall_mem_cons, List.forall_mem_append]
    exact ⟨sound_plain _ _ _, h.sound, sound_mac ho _, by simp⟩
  limits_eq := by simp [sealStages, Span.seal, h.limits_eq]
  pieces_eq := by simp [sealStages, Span.seal, h.pieces_eq]

theorem Span.staged {α : Type} {s : Span α} {m : α} {o : Owner} (h : (s.stage o m).Sound) :
    s.Staged m [s.stage o m] where
  sound := by simpa using h
  limits_eq := by simp [Span.stage]
  pieces_eq := by simp [Span.stage]

theorem Span.Staged.append {α : Type} {s t : Span α} {m : α} {ss ts : List Stage}
    (hs : s.Staged m ss) (ht : t.Staged m ts) : (s.append t).Staged m (ss ++ ts) where
  sound := List.forall_mem_append.mpr ⟨hs.sound, ht.sound⟩
  limits_eq := by rw [List.flatMap_append, hs.limits_eq, ht.limits_eq]; rfl
  pieces_eq := by rw [List.flatMap_append, hs.pieces_eq, ht.pieces_eq]; rfl

theorem Span.staged_empty {α : Type} (m : α) : (Span.empty : Span α).Staged m [] where
  sound := by simp
  limits_eq := rfl
  pieces_eq := rfl

/-- What a MAC covers of a signed message: the signed span, and the signature block by its own table. -/
theorem Span.Staged.sign {α : Type} {s : Span α} {m : α} {ss : List Stage} (h : s.Staged m ss)
    (signature : α → Signature) :
    (s.append (Signature.span.within signature)).Staged m
      (ss ++ [Signature.span.stage .psgSignature (signature m)]) :=
  h.append (Span.staged (s := Signature.span.within signature) (Signature.sound (signature m)))

namespace Kind

theorem staged_signed (k : Kind) (m : k.Body) : k.format.signed.Staged m (k.signedStages m) := by
  cases k with
  | getMeasurement => exact Span.staged (GetMeasurement.sound m)
  | sigmaM1 => exact Span.staged (SigmaM1.sound m)
  | sigmaM2 => exact Span.staged (SigmaM2.sound m)
  | sigmaM3 => exact Span.staged (SigmaM3.sound m)
  | sigmaEnc | sigmaEncResponse | psgSignature | spdmCertificate => exact Span.staged_empty m

theorem staged_covered (k : Kind) (m : k.Body) : k.format.covered.Staged m (k.coveredStages m) := by
  cases k with
  | getMeasurement => exact (staged_signed getMeasurement m).sign (·.signature)
  | sigmaM1 => exact (staged_signed sigmaM1 m).append (Span.staged (SigmaM1.sound_chain m))
  | sigmaM2 => exact (staged_signed sigmaM2 m).sign (·.signature)
  | sigmaM3 => exact (staged_signed sigmaM3 m).sign (·.signature)
  | sigmaEnc => exact Span.staged (SigmaEnc.sound m)
  | sigmaEncResponse =>
    cases m with
    | headerOnly => exact ⟨by simp [coveredStages], rfl, rfl⟩
    | encrypted m =>
      have h := Span.staged (SigmaEnc.sound m)
      exact ⟨h.sound, h.limits_eq, h.pieces_eq⟩
  | psgSignature | spdmCertificate => exact Span.staged_empty m

theorem staged_whole_envelope (m : SigmaEnc) : SigmaEnc.whole.Staged m (stages sigmaEnc m) :=
  (staged_covered sigmaEnc m).seal (by decide) (·.reservedHeader) (·.mac) mac256Size

theorem staged_whole (k : Kind) (m : k.Body) : k.format.whole.Staged m (k.stages m) := by
  cases k with
  | getMeasurement =>
    exact (staged_covered getMeasurement m).seal (by decide) (·.header.reservedHeader) (·.mac) mac384Size
  | sigmaM1 =>
    have h := staged_covered sigmaM1 m
    exact ⟨List.forall_mem_cons.mpr ⟨sound_plain _ _ _, h.sound⟩, congrArg (_ :: ·) h.limits_eq,
      congrArg (_ :: ·) h.pieces_eq⟩
  | sigmaM2 =>
    exact (staged_covered sigmaM2 m).seal (by decide) (·.header.reservedHeader) (·.mac) mac384Size
  | sigmaM3 => exact (staged_covered sigmaM3 m).seal (by decide) (·.reservedHeader) (·.mac) mac384Size
  | sigmaEnc => exact staged_whole_envelope m
  | sigmaEncResponse =>
    cases m with
    | headerOnly h =>
      have h := Span.staged (SigmaEncHeader.sound h)
      exact ⟨h.sound, h.limits_eq, h.pieces_eq⟩
    | encrypted m =>
      have h := staged_whole_envelope m
      exact ⟨h.sound, h.limits_eq, h.pieces_eq⟩
  | psgSignature => exact Span.staged (Signature.sound m)
  | spdmCertificate => exact Span.staged (SpdmCertificate.sound m)

end Kind

/-! ## Sizes -/

/-- The components are those of the curve. -/
def Signature.Sized (sig : Signature) : Prop :=
  sig.r.length = sig.curve.componentSize ∧ sig.s.length = sig.curve.componentSize

/-- The public efuse values are those of the family. -/
def DeviceHeader.Sized (h : DeviceHeader) : Prop :=
  h.reservedHeader.length = reservedHeaderSize ∧ h.deviceUniqueId.length = uniqueIdSize ∧
    h.sdmFwBuildId.length = buildIdSize ∧ h.reserved.length = reservedSize ∧
    h.publicEfuseValues.length = h.deviceFamily.efuseSize

def GetMeasurement.Sized (m : GetMeasurement) : Prop :=
  m.header.Sized ∧ m.deviceDhPubKey.length = publicKeySize ∧
    m.verifierDhPubKey.length = publicKeySize ∧ m.cmfDescriptorHash.length = descriptorHashSize ∧
    m.reserved2.length = reserved2Size ∧ m.measurementRecord.length < UInt16.size ∧
    m.signature.Sized ∧ m.mac.length = mac384Size

def SigmaM1.Sized (m : SigmaM1) : Prop :=
  m.reservedHeader.length = reservedHeaderSize ∧ m.reserved1.length = reserved1Size ∧
    m.bkpsDhPubKey.length = publicKeySize ∧ m.reserved2.length = reserved2Size

def SigmaM2.Sized (m : SigmaM2) : Prop :=
  m.header.Sized ∧ m.deviceDhPubKey.length = publicKeySize ∧ m.bkpsDhPubKey.length = publicKeySize ∧
    m.signature.Sized ∧ m.mac.length = mac384Size

def SigmaM3.Sized (m : SigmaM3) : Prop :=
  m.reservedHeader.length = reservedHeaderSize ∧ m.bkpsDhPubKey.length = publicKeySize ∧
    m.deviceDhPubKey.length = publicKeySize ∧ m.signature.Sized ∧ m.mac.length = mac384Size

def SigmaEnc.Sized (m : SigmaEnc) : Prop :=
  m.reservedHeader.length = reservedHeaderSize ∧ m.reserved1.length = reserved1Size ∧
    m.initialIv.length = initialIvSize ∧ m.reserved2.length = reserved2Size ∧
    m.encryptedPayload.length < UInt32.size ∧ m.mac.length = mac256Size

def SigmaEncResponse.Sized : SigmaEncResponse → Prop
  | headerOnly h => h.reservedHeader.length = reservedHeaderSize
  | encrypted m => m.Sized

/-- The total length of the chain's message, behind its header of 52 bytes, is that of 16 bits. -/
def SpdmCertificate.Sized (m : SpdmCertificate) : Prop :=
  m.reserved.length = reservedSize ∧ m.certChainHash.length = chainHashSize ∧
    52 + m.certChain.length < UInt16.size

/-- Every field of fixed size has its declared length, and every other one fits in its length field. -/
def Kind.Sized : (k : Kind) → k.Body → Prop
  | getMeasurement => GetMeasurement.Sized
  | sigmaM1 => SigmaM1.Sized
  | sigmaM2 => SigmaM2.Sized
  | sigmaM3 => SigmaM3.Sized
  | sigmaEnc => SigmaEnc.Sized
  | sigmaEncResponse => SigmaEncResponse.Sized
  | psgSignature => Signature.Sized
  | spdmCertificate => SpdmCertificate.Sized

theorem Signature.fits_iff_sized {sig : Signature} : span.Fits sig ↔ sig.Sized := by
  simp [span, Span.Fits, Sized]

theorem DeviceHeader.sized_iff {h : DeviceHeader} :
    h.Sized ↔ h.reservedHeader.length = reservedHeaderSize ∧ signed.Fits h := by
  simp [signed, Span.Fits, Sized]

theorem GetMeasurement.fits_iff_sized {m : GetMeasurement} : whole.Fits m ↔ m.Sized := by
  have hrecord : m.measurementRecord.length ≤ maxRecordSize ↔ m.measurementRecord.length < UInt16.size :=
    Nat.lt_succ_iff.symm
  simp only [fits_whole, Sized, DeviceHeader.sized_iff, Signature.fits_iff_sized, hrecord, and_assoc,
    and_left_comm, and_comm]

theorem SigmaM2.fits_iff_sized {m : SigmaM2} : whole.Fits m ↔ m.Sized := by
  simp only [fits_whole, Sized, DeviceHeader.sized_iff, Signature.fits_iff_sized, and_assoc,
    and_left_comm, and_comm]

theorem SigmaM3.fits_iff_sized {m : SigmaM3} : whole.Fits m ↔ m.Sized := by
  simp only [fits_whole, Sized, Signature.fits_iff_sized, and_left_comm, and_comm]

theorem SigmaEnc.fits_iff_sized {m : SigmaEnc} : whole.Fits m ↔ m.Sized := by
  have hpayload : m.encryptedPayload.length ≤ maxPayloadSize ↔ m.encryptedPayload.length < UInt32.size :=
    Nat.lt_succ_iff.symm
  have hheader : SigmaEncHeader.span.Fits m.header ↔ m.reservedHeader.length = reservedHeaderSize := by
    simp [SigmaEncHeader.span, Span.Fits, header]
  simp only [fits_whole, fits_covered, Sized, hpayload, hheader, and_left_comm, and_comm]

theorem SigmaEncResponse.fits_iff_sized {m : SigmaEncResponse} : whole.Fits m ↔ m.Sized := by
  cases m with
  | headerOnly h => simp [whole, SigmaEncHeader.span, Span.Fits, Sized]
  | encrypted m => exact SigmaEnc.fits_iff_sized

theorem SpdmCertificate.fits_iff_sized {m : SpdmCertificate} : whole.Fits m ↔ m.Sized := by
  have hchain : m.certChain.length ≤ maxChainSize ↔ 52 + m.certChain.length < UInt16.size := by
    simp only [maxChainSize, headerSize, reservedSize, chainHashSize, UInt16.size]
    omega
  simp only [fits_whole, Sized, hchain]

theorem Kind.fits_iff_sized (k : Kind) (m : k.Body) : k.format.whole.Fits m ↔ k.Sized m := by
  cases k with
  | getMeasurement => exact GetMeasurement.fits_iff_sized
  | sigmaM1 => exact SigmaM1.fits_whole
  | sigmaM2 => exact SigmaM2.fits_iff_sized
  | sigmaM3 => exact SigmaM3.fits_iff_sized
  | sigmaEnc => exact SigmaEnc.fits_iff_sized
  | sigmaEncResponse => exact SigmaEncResponse.fits_iff_sized
  | psgSignature => exact Signature.fits_iff_sized
  | spdmCertificate => exact SpdmCertificate.fits_iff_sized

/-! ## Errors -/

section Errors

variable {k : Kind} {m : k.Body}

theorem Limit.invalidFieldLength_of_check {ls : List Limit} {err : Error}
    (h : Limit.check ls = .error err) :
    ∃ field expected actual, err = .invalidFieldLength field expected actual := by
  induction ls with
  | nil => cases h
  | cons l ls ih =>
    rw [Limit.check] at h
    split at h
    · exact ih h
    · cases h
      cases l with
      | exactly field expected bs => exact ⟨field, expected, bs.length, rfl⟩
      | atMost field greatest bs => exact ⟨field, greatest, bs.length, rfl⟩

theorem Span.invalidFieldLength_of_write {α : Type} {s : Span α} {e : Endpoint} {x : α} {err : Error}
    (h : s.write e x = .error err) :
    ∃ field expected actual, err = .invalidFieldLength field expected actual := by
  unfold Span.write at h
  split at h
  · cases h
  · rename_i hcheck
    cases h
    exact Limit.invalidFieldLength_of_check hcheck

theorem Span.fits_empty {α : Type} (x : α) : (Span.empty : Span α).Fits x := by
  simp [Span.empty, Span.Fits]

theorem Kind.fits_signed (h : k.format.whole.Fits m) : k.format.signed.Fits m := by
  cases k with
  | getMeasurement => exact GetMeasurement.framed.fits_signed h
  | sigmaM1 => exact SigmaM1.framed.fits_signed h
  | sigmaM2 => exact SigmaM2.framed.fits_signed h
  | sigmaM3 => exact SigmaM3.framed.fits_signed h
  | sigmaEnc | sigmaEncResponse | psgSignature | spdmCertificate => exact Span.fits_empty m

theorem Kind.fits_covered (h : k.format.whole.Fits m) : k.format.covered.Fits m := by
  cases k with
  | getMeasurement => exact ((GetMeasurement.framed.fits_whole m).mp h).2.1
  | sigmaM1 => exact ((SigmaM1.framed.fits_whole m).mp h).2.1
  | sigmaM2 => exact ((SigmaM2.framed.fits_whole m).mp h).2.1
  | sigmaM3 => exact ((SigmaM3.framed.fits_whole m).mp h).2.1
  | sigmaEnc => exact ((SigmaEnc.framed.fits_whole m).mp h).2.1
  | sigmaEncResponse =>
    cases m with
    | headerOnly h => exact List.forall_mem_nil _
    | encrypted m => exact ((SigmaEnc.framed.fits_whole m).mp h).2.1
  | psgSignature | spdmCertificate => exact Span.fits_empty m

end Errors

/-- Reading through the tables at a position, with every range checked, gives what reading gives, so it
fails for the size of the bytes, a tag or a length inside them and nothing else. Writing through the tables
gives what writing gives: it fails for the length of a field only, and for every such one. -/
theorem failures_confined (k : Kind) (e : Endpoint) :
    (∀ bs, (k.indexed e).value bs = (k.format.parse e bs).mapError .refused ∧
      ∀ err, k.format.parse e bs = .error err → err.ofReading = true) ∧
    ∀ m : k.Body,
      (writeStages e (k.stages m) = k.format.build e m ∧
        writeStages .firmware (k.signedStages m) = k.format.signable m ∧
        writeStages .firmware (k.coveredStages m) = k.format.macable m) ∧
      (∀ err, k.format.build e m = .error err ∨ k.format.signable m = .error err ∨
          k.format.macable m = .error err →
        ∃ field expected actual, err = .invalidFieldLength field expected actual) ∧
      ((∃ bs, k.format.build e m = .ok bs) ↔ k.Sized m) ∧
      (k.Sized m → (∃ bs, k.format.signable m = .ok bs) ∧ ∃ bs, k.format.macable m = .ok bs) := by
  refine ⟨fun bs => (Kind.agrees k).value bs, fun m => ⟨⟨?_, ?_, ?_⟩, ?_, ?_, ?_⟩⟩
  · exact (Kind.staged_whole k m).write_eq e
  · exact (Kind.staged_signed k m).write_eq .firmware
  · exact (Kind.staged_covered k m).write_eq .firmware
  · rintro err (h | h | h) <;> exact Span.invalidFieldLength_of_write h
  · rw [← Kind.fits_iff_sized]
    constructor
    · rintro ⟨bs, hbs⟩
      exact (Span.write_eq_ok_iff.mp hbs).1
    · intro hfit
      exact ⟨_, Span.write_eq_ok_iff.mpr ⟨hfit, rfl⟩⟩
  · intro hsized
    have hfit := (Kind.fits_iff_sized k m).mpr hsized
    exact ⟨⟨_, Span.write_eq_ok_iff.mpr ⟨Kind.fits_signed hfit, rfl⟩⟩,
      ⟨_, Span.write_eq_ok_iff.mpr ⟨Kind.fits_covered hfit, rfl⟩⟩⟩

/-- An answer of the other device family, whose efuse values are too few for it, and too few bytes. -/
theorem failures_confined_answer :
    let short : SigmaM2 := { SigmaM2.zero with header.deviceFamily := .fm568 }
    let m : SigmaM2 := { short with header.publicEfuseValues := Bytes.zeros 448 }
    (∃ err, SigmaM2.format.parse .firmware [1, 2, 3] = .error err ∧ err.ofReading = true) ∧
      (∃ field expected actual,
        SigmaM2.format.build .firmware short = .error (.invalidFieldLength field expected actual)) ∧
      (∃ bs, SigmaM2.format.build .firmware m = .ok bs) ∧
      (∃ bs, SigmaM2.format.signable m = .ok bs) ∧ ∃ bs, SigmaM2.format.macable m = .ok bs := by
  intro short m
  obtain ⟨hread, hwrite⟩ := failures_confined .sigmaM2 .firmware
  have hparse : SigmaM2.format.parse .firmware [1, 2, 3] = .error (.bufferUnderflow 3 4) := rfl
  have hsized : m.Sized := by
    simp [m, short, SigmaM2.zero, SigmaM2.Sized, DeviceHeader.Sized, DeviceHeader.zero, Signature.Sized,
      Signature.zero, DeviceFamily.efuseSize]
  have hshort : ¬ short.Sized := by
    simp [short, SigmaM2.zero, SigmaM2.Sized, DeviceHeader.Sized, DeviceHeader.zero,
      DeviceFamily.efuseSize]
  obtain ⟨-, herrors, hbuild, -⟩ := hwrite short
  obtain ⟨-, -, hbuilt, hcovered⟩ := hwrite m
  refine ⟨⟨_, hparse, (hread _).2 _ hparse⟩, ?_, hbuilt.mpr hsized, hcovered hsized⟩
  cases hresult : SigmaM2.format.build .firmware short with
  | ok bs => exact absurd (hbuild.mp ⟨bs, hresult⟩) hshort
  | error err =>
    obtain ⟨field, expected, actual, rfl⟩ := herrors err (.inl hresult)
    exact ⟨field, expected, actual, rfl⟩

end Wire
end Appraisal
