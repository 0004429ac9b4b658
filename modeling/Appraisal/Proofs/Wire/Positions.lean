import Appraisal.Proofs.Wire.Conversion
import Appraisal.Proofs.Wire.Coverage

/-!
# Appraisal.Proofs.Wire.Positions

The messages read with every check made. A reader takes a part's byte order from the part and cannot look
behind its bytes; here a buffer is read at a position, each field goes through its message's table of byte
orders, and a range that the buffer does not have is a fault. Reader by reader the two agree, so the table
never lacks a field or refuses a length, and the position never leaves the buffer.

* `Fault`, `Indexed`: reading at a position, and how it fails.
* `Indexed.convert`: a field through the table of its message.
* `Kind.indexed`: the eight message types, read so.
* `Agrees`: a reader at a position does what a reader of the rest does. `Agrees.bind` puts a message
  together from its fields.
* `Kind.agrees`: all message types.
-/

namespace Appraisal
namespace Wire

/-! ## Reading at a position -/

inductive Fault where
  /-- The message is refused. -/
  | refused (err : Error)
  /-- Bytes are asked for that are not there: of the buffer, or for a copy of a fixed size. -/
  | outOfRange
deriving DecidableEq, Repr

/-- A reader of a buffer from a position on, which it moves. -/
abbrev Indexed := ReaderT Bytes (StateT Nat (Except Fault))

namespace Indexed

variable {α : Type}

def refuse (err : Error) : Indexed α := throw (.refused err)

def outOfRange : Indexed α := throw .outOfRange

def check : Except Error α → Indexed α
  | .ok x => pure x
  | .error err => refuse err

/-- The bytes of the buffer from `start` up to `stop`. -/
def slice (start stop : Nat) : Indexed Bytes := fun buffer position =>
  if start ≤ stop ∧ stop ≤ buffer.length then .ok (buffer.extract start stop, position)
  else .error .outOfRange

/-- The bytes as an array of `n`. -/
def copy (n : Nat) (bs : Bytes) : Indexed Bytes := if bs.length = n then pure bs else outOfRange

def remaining : Indexed Nat := fun buffer position =>
  if position ≤ buffer.length then .ok (buffer.length - position, position)
  else .error .outOfRange

def take (n : Nat) : Indexed Bytes := do
  let left ← remaining
  if left < n then refuse (.bufferUnderflow left n)
  else do
    let position ← get
    let bs ← slice position (position + n)
    set (position + n)
    pure bs

def takeFixed (n : Nat) : Indexed Bytes := do
  let bs ← take n
  copy n bs

def byte : Indexed UInt8 := do
  match ← takeFixed 1 with
  | [b] => pure b
  | _ => outOfRange

def exactly (n : Nat) : Indexed Bytes := do
  let left ← remaining
  if left = n then take n else refuse (.remainingLengthMismatch left n)

def rest : Indexed Bytes := do
  let buffer ← read
  let position ← get
  let bs ← slice position buffer.length
  set buffer.length
  pure bs

variable (o : Owner) (e : Endpoint) (p : Part)

/-- A part of the message `o` in the layout of `e`, by the message's table. -/
def convert (bs : Bytes) : Indexed Bytes := check (Wire.convert o.orders ⟨o, p⟩ bs e)

def field (n : Nat) : Indexed Bytes := do
  let bs ← take n
  convert o e p bs

def fieldWord : Indexed UInt32 := do
  let bs ← takeFixed 4
  let converted ← convert o e p bs
  let word ← copy 4 converted
  pure (UInt32.ofNat (Bytes.toNatBE word))

def fieldHalf : Indexed UInt16 := do
  let bs ← takeFixed 2
  let converted ← convert o e p bs
  let half ← copy 2 converted
  pure (UInt16.ofNat (Bytes.toNatBE half))

def fieldExactly (n : Nat) : Indexed Bytes := do
  let bs ← exactly n
  convert o e p bs

def fieldRest : Indexed Bytes := do
  let bs ← rest
  convert o e p bs

/-- Reads a buffer from its front. -/
def value (r : Indexed α) (bs : Bytes) : Except Fault α :=
  match r bs 0 with
  | .ok (x, _) => .ok x
  | .error fault => .error fault

end Indexed

open Indexed

def Signature.indexed (e : Endpoint) : Indexed Signature := do
  let m ← fieldWord .psgSignature e .magic
  if m ≠ magic then refuse (.invalidSignatureMagic magic m)
  let sizeR ← fieldWord .psgSignature e .sizeR
  let sizeS ← fieldWord .psgSignature e .sizeS
  let word ← fieldWord .psgSignature e .curveMagic
  let curve ← check (Curve.ofMagic word)
  let r ← field .psgSignature e .r curve.componentSize
  let s ← field .psgSignature e .s curve.componentSize
  pure ⟨curve, sizeR, sizeS, r, s⟩

/-- The identity block, by the table of the message `o` that it stands in. -/
def DeviceHeader.indexed (o : Owner) (e : Endpoint) : Indexed DeviceHeader := do
  let reservedHeader ← take reservedHeaderSize
  let magic ← fieldWord o e .magic
  let sdmSessionId ← fieldWord o e .sdmSessionId
  let deviceUniqueId ← field o e .deviceUniqueId uniqueIdSize
  let romVersionNum ← fieldWord o e .romVersionNum
  let sdmFwBuildId ← field o e .sdmFwBuildId buildIdSize
  let sdmFwSecurityVersionNum ← fieldWord o e .sdmFwSecurityVersionNum
  let familyByte ← byte
  let deviceFamily ← check (DeviceFamily.ofByte familyByte)
  let reserved ← take reservedSize
  let publicEfuseValues ← field o e .publicEfuseValues deviceFamily.efuseSize
  pure { reservedHeader, magic, sdmSessionId, deviceUniqueId, romVersionNum, sdmFwBuildId,
         sdmFwSecurityVersionNum, deviceFamily, reserved, publicEfuseValues }

def GetMeasurement.indexed (e : Endpoint) : Indexed GetMeasurement := do
  let header ← DeviceHeader.indexed .getMeasurement e
  let deviceDhPubKey ← field .getMeasurement e .deviceDhPubKey publicKeySize
  let verifierDhPubKey ← field .getMeasurement e .verifierDhPubKey publicKeySize
  let cmfDescriptorHash ← field .getMeasurement e .cmfDescriptorHash descriptorHashSize
  let reserved2 ← take reserved2Size
  let numberOfMeasurementBlocks ← byte
  let reserved3 ← byte
  let recordLen ← fieldHalf .getMeasurement e .recordLen
  let measurementRecord ← take recordLen.toNat
  let signature ← Signature.indexed e
  let mac ← fieldExactly .getMeasurement e .mac mac384Size
  pure { header, deviceDhPubKey, verifierDhPubKey, cmfDescriptorHash, reserved2,
         numberOfMeasurementBlocks, reserved3, measurementRecord, signature, mac }

def SigmaM1.indexed (e : Endpoint) : Indexed SigmaM1 := do
  let reservedHeader ← take reservedHeaderSize
  let magic ← fieldWord .sigmaM1 e .magic
  let reserved1 ← take reserved1Size
  let bkpsDhPubKey ← field .sigmaM1 e .bkpsDhPubKey publicKeySize
  let pufType ← fieldWord .sigmaM1 e .pufType
  let reserved2 ← take reserved2Size
  let userKeyChain ← fieldRest .sigmaM1 e .userKeyChain
  pure { reservedHeader, magic, reserved1, bkpsDhPubKey, pufType, reserved2, userKeyChain }

def SigmaM2.indexed (e : Endpoint) : Indexed SigmaM2 := do
  let header ← DeviceHeader.indexed .sigmaM2 e
  let deviceDhPubKey ← field .sigmaM2 e .deviceDhPubKey publicKeySize
  let bkpsDhPubKey ← field .sigmaM2 e .bkpsDhPubKey publicKeySize
  let signature ← Signature.indexed e
  let mac ← fieldExactly .sigmaM2 e .mac mac384Size
  pure { header, deviceDhPubKey, bkpsDhPubKey, signature, mac }

def SigmaM3.indexed (e : Endpoint) : Indexed SigmaM3 := do
  let reservedHeader ← take reservedHeaderSize
  let magic ← fieldWord .sigmaM3 e .magic
  let sdmSessionId ← fieldWord .sigmaM3 e .sdmSessionId
  let bkpsDhPubKey ← field .sigmaM3 e .bkpsDhPubKey publicKeySize
  let deviceDhPubKey ← field .sigmaM3 e .deviceDhPubKey publicKeySize
  let signature ← Signature.indexed e
  let mac ← fieldExactly .sigmaM3 e .mac mac384Size
  pure { reservedHeader, magic, sdmSessionId, bkpsDhPubKey, deviceDhPubKey, signature, mac }

def SigmaEncHeader.indexed (e : Endpoint) : Indexed SigmaEncHeader := do
  let reservedHeader ← take reservedHeaderSize
  let magic ← fieldWord .sigmaEnc e .magic
  let sdmSessionId ← fieldWord .sigmaEnc e .sdmSessionId
  pure { reservedHeader, magic, sdmSessionId }

def SigmaEnc.indexedBody (e : Endpoint) (h : SigmaEncHeader) : Indexed SigmaEnc := do
  let messageCounter ← fieldWord .sigmaEnc e .messageCounter
  let reserved1 ← take reserved1Size
  let payloadLen ← fieldWord .sigmaEnc e .payloadLen
  let initialIv ← field .sigmaEnc e .initialIv initialIvSize
  let numberOfPaddingBytes ← byte
  let reserved2 ← take reserved2Size
  let encryptedPayload ← field .sigmaEnc e .payload payloadLen.toNat
  let mac ← fieldExactly .sigmaEnc e .mac mac256Size
  pure { reservedHeader := h.reservedHeader, magic := h.magic, sdmSessionId := h.sdmSessionId,
         messageCounter, reserved1, initialIv, numberOfPaddingBytes, reserved2,
         encryptedPayload, mac }

def SigmaEnc.indexed (e : Endpoint) : Indexed SigmaEnc := do
  let h ← SigmaEncHeader.indexed e
  indexedBody e h

def SigmaEncResponse.indexed (e : Endpoint) : Indexed SigmaEncResponse := do
  let h ← SigmaEncHeader.indexed e
  let left ← remaining
  if left = 0 then pure (headerOnly h)
  else do
    let m ← SigmaEnc.indexedBody e h
    pure (encrypted m)

def SpdmCertificate.indexed (e : Endpoint) : Indexed SpdmCertificate := do
  -- At the front of the buffer, all of it is left.
  let size ← remaining
  let totalLen ← fieldHalf .spdmCertificate e .totalLen
  if totalLen.toNat ≠ size then
    refuse (.lengthFieldMismatch "SPDM certificate total length" size totalLen.toNat)
  let reserved ← take reservedSize
  let certChainHash ← field .spdmCertificate e .chainHash chainHashSize
  let certChain ← fieldRest .spdmCertificate e .chain
  pure { reserved, certChainHash, certChain }

/-- How a message type is read at a position, by the tables of byte orders. -/
def Kind.indexed : (k : Kind) → Endpoint → Indexed k.Body
  | getMeasurement => GetMeasurement.indexed
  | sigmaM1 => SigmaM1.indexed
  | sigmaM2 => SigmaM2.indexed
  | sigmaM3 => SigmaM3.indexed
  | sigmaEnc => SigmaEnc.indexed
  | sigmaEncResponse => SigmaEncResponse.indexed
  | psgSignature => fun e => do
    let sig ← Signature.indexed e
    let _ ← exactly 0
    pure sig
  | spdmCertificate => SpdmCertificate.indexed

/-! ## Agreement -/

/-- The errors of reading a message: its size, the tags inside it, and a length that it states. -/
def Error.ofReading : Error → Bool
  | .bufferUnderflow .. | .remainingLengthMismatch .. | .invalidSignatureMagic ..
  | .unsupportedSignatureCurve .. | .unsupportedDeviceFamily .. | .lengthFieldMismatch .. => true
  | _ => false

/-- At any position of any buffer, `raw` does what `r` does on the bytes from there on. The position is said
by the bytes in front of it. -/
structure Agrees {α : Type} (raw : Indexed α) (r : Reader α) : Prop where
  ok (before : Bytes) {after rest : Bytes} {x : α} : r after = .ok (x, rest) →
    ∃ taken, after = taken ++ rest ∧
      raw (before ++ after) before.length = .ok (x, (before ++ taken).length)
  refused (before : Bytes) {after : Bytes} {err : Error} : r after = .error err →
    err.ofReading = true ∧ raw (before ++ after) before.length = .error (.refused err)

namespace Indexed

variable {α β : Type} {raw : Indexed α} {rawf : α → Indexed β} {buffer : Bytes} {i j : Nat} {x : α}

theorem bind_of_ok (h : raw buffer i = .ok (x, j)) : (raw >>= rawf) buffer i = rawf x buffer j := by
  show (raw buffer i >>= fun q => rawf q.1 buffer q.2) = _
  rw [h]
  rfl

theorem bind_of_error {fault : Fault} (h : raw buffer i = .error fault) :
    (raw >>= rawf) buffer i = .error fault := by
  show (raw buffer i >>= fun q => rawf q.1 buffer q.2) = _
  rw [h]
  rfl

end Indexed

namespace Agrees

open Reader (bind_eq_ok bind_of_ok bind_of_error)

variable {α β : Type} {raw : Indexed α} {rawf : α → Indexed β} {r : Reader α} {f : α → Reader β}

/-- One reader behind the other; the second matters for what the first can give. -/
theorem bind_of (hr : Agrees raw r)
    (hf : ∀ bs x rest, r bs = .ok (x, rest) → Agrees (rawf x) (f x)) :
    Agrees (raw >>= rawf) (r >>= f) where
  ok before {after rest y} h := by
    obtain ⟨x, mid, hx, hy⟩ := bind_eq_ok.mp h
    obtain ⟨taken, rfl, hraw⟩ := hr.ok before hx
    -- What the first has taken is in front of the second.
    obtain ⟨taken', rfl, hrawf⟩ := (hf _ _ _ hx).ok (before ++ taken) hy
    refine ⟨taken ++ taken', (List.append_assoc ..).symm, ?_⟩
    rw [Indexed.bind_of_ok hraw, ← List.append_assoc before, hrawf, List.append_assoc]
  refused before {after err} h := by
    cases hx : r after with
    | error err' =>
      rw [bind_of_error hx] at h
      cases h
      obtain ⟨herr, hraw⟩ := hr.refused before hx
      exact ⟨herr, Indexed.bind_of_error hraw⟩
    | ok q =>
      obtain ⟨x, mid⟩ := q
      rw [bind_of_ok hx] at h
      obtain ⟨taken, rfl, hraw⟩ := hr.ok before hx
      obtain ⟨herr, hrawf⟩ := (hf _ _ _ hx).refused (before ++ taken) h
      refine ⟨herr, ?_⟩
      rw [Indexed.bind_of_ok hraw, ← List.append_assoc before, hrawf]

theorem bind (hr : Agrees raw r) (hf : ∀ x, Agrees (rawf x) (f x)) :
    Agrees (raw >>= rawf) (r >>= f) :=
  hr.bind_of fun _ x _ _ => hf x

theorem pure (x : α) : Agrees (pure x) (pure x) where
  ok before {after rest y} h := by
    obtain ⟨rfl, rfl⟩ := Reader.pure_eq_ok.mp h
    exact ⟨[], rfl, by rw [List.append_nil]; rfl⟩
  refused _ {after err} h := by cases h

theorem error {err : Error} (herr : err.ofReading = true) :
    Agrees (Indexed.refuse err : Indexed α) (throw err) where
  ok _ {after rest x} h := by cases h
  refused _ {after err'} h := by
    cases h
    exact ⟨herr, rfl⟩

/-- A check of what was read, which refuses it with an error of reading only. -/
theorem check {x : Except Error α} (hx : ∀ err, x = .error err → err.ofReading = true) :
    Agrees (check x) (liftM x : Reader α) := by
  cases x with
  | ok x => exact pure x
  | error err => exact error (hx err rfl)

theorem refuse {c : Prop} [Decidable c] {err : Error} (herr : err.ofReading = true)
    (hr : Agrees raw r) :
    Agrees (if c then (refuse err : Indexed PUnit) >>= fun _ => raw else raw)
      (if c then (throw err : Reader PUnit) >>= fun _ => r else r) := by
  by_cases hc : c
  · rw [if_pos hc, if_pos hc]
    exact (error herr).bind fun _ => hr
  · rw [if_neg hc, if_neg hc]
    exact hr

/-- Read from its front, a buffer gives what a reader of its bytes gives. -/
theorem value (h : Agrees raw r) (bs : Bytes) :
    raw.value bs = (r.value bs).mapError .refused ∧
      ∀ err, r.value bs = .error err → err.ofReading = true := by
  rw [Indexed.value, Reader.value]
  cases hr : r bs with
  | ok q =>
    obtain ⟨x, rest⟩ := q
    obtain ⟨taken, -, hraw⟩ := h.ok [] hr
    rw [List.nil_append, List.length_nil] at hraw
    rw [hraw]
    refine ⟨rfl, fun err herr => ?_⟩
    cases herr
  | error err =>
    obtain ⟨herr, hraw⟩ := h.refused [] hr
    rw [List.nil_append, List.length_nil] at hraw
    rw [hraw]
    refine ⟨rfl, fun err' herr' => ?_⟩
    cases herr'
    exact herr

end Agrees

/-! ## Bytes of the buffer -/

namespace Indexed

variable {before after : Bytes} {n i : Nat}

theorem remaining_append :
    remaining (before ++ after) before.length = .ok (after.length, before.length) := by
  simp [remaining]

theorem slice_append (h : n ≤ after.length) :
    slice before.length (before.length + n) (before ++ after) i = .ok (after.take n, i) := by
  simp [slice, h, List.extract_eq_take_drop]

theorem take_append (h : n ≤ after.length) :
    take n (before ++ after) before.length = .ok (after.take n, before.length + n) := by
  rw [take, bind_of_ok remaining_append, if_neg (Nat.not_lt.mpr h),
    bind_of_ok (x := before.length) rfl, bind_of_ok (slice_append h)]
  rfl

theorem take_short (h : after.length < n) :
    take n (before ++ after) before.length = .error (.refused (.bufferUnderflow after.length n)) := by
  rw [take, bind_of_ok remaining_append, if_pos h]
  rfl

end Indexed

/-! ## Tables -/

section Tables

variable {o : Owner} {p : Part} {e : Endpoint} {bs : Bytes}

/-- A message's table gives a part of the message the order of the part. -/
theorem Owner.firstListed_orders (hp : p ∈ o.parts) : FirstListed o.orders ⟨o, p⟩ p.order := by
  have hmem : (⟨o, p⟩, p.order) ∈ o.orders :=
    List.mem_map.mpr ⟨⟨o, p⟩, List.mem_map.mpr ⟨p, hp, rfl⟩, rfl⟩
  obtain ⟨order, hlisted⟩ := exists_firstListed hmem
  -- whichever entry is the first, its order is that of its field's part
  obtain ⟨f, -, hf⟩ := List.mem_map.mp hlisted.mem
  obtain ⟨rfl, rfl⟩ := Prod.mk.inj hf
  exact hlisted

/-- The conversion of a listed field cannot fail at a length that its order admits. -/
theorem convert_of_listed (hp : p ∈ o.parts) (hlen : p.order.admits bs.length = true) :
    convert o.orders ⟨o, p⟩ bs e = .ok (p.order.arrange e bs) :=
  convert_of_fits (Owner.firstListed_orders hp) fun _ => ByteOrder.admits_iff_fits.mp hlen

theorem convert_of_kept (hp : p ∈ o.parts) (hkept : p.order = .kept) :
    convert o.orders ⟨o, p⟩ bs e = .ok bs := by
  rw [convert_of_listed hp (Part.admits_of_kept hkept _), hkept]
  cases e <;> rfl

end Tables

/-! ## Fields -/

section Fields

variable {o : Owner} {p : Part} {e : Endpoint}

theorem agrees_take (n : Nat) : Agrees (take n) (Reader.take n) where
  ok before {after rest x} h := by
    obtain ⟨rfl, rfl⟩ := Reader.take_eq_ok_iff.mp h
    have htake : take x.length (before ++ (x ++ rest)) before.length = _ :=
      Indexed.take_append (by simp)
    rw [List.take_left] at htake
    exact ⟨x, rfl, by rw [htake, List.length_append]⟩
  refused before {after err} h := by
    unfold Reader.take at h
    split at h
    · cases h
    · rename_i hlen
      cases h
      exact ⟨rfl, Indexed.take_short (Nat.lt_of_not_le hlen)⟩

theorem agrees_remaining : Agrees remaining Reader.remaining where
  ok before {after rest x} h := by
    obtain ⟨rfl, rfl⟩ := Reader.remaining_eq_ok_iff.mp h
    exact ⟨[], rfl, by rw [List.append_nil]; exact Indexed.remaining_append⟩
  refused _ {after err} h := by cases h

theorem agrees_exactly (n : Nat) : Agrees (exactly n) (Reader.exactly n) where
  ok before {after rest x} h := by
    obtain ⟨rfl, rfl, rfl⟩ := Reader.exactly_eq_ok_iff.mp h
    refine ⟨after, (List.append_nil _).symm, ?_⟩
    rw [exactly, Indexed.bind_of_ok Indexed.remaining_append, if_pos rfl,
      Indexed.take_append (Nat.le_refl _), List.take_length, List.length_append]
  refused before {after err} h := by
    unfold Reader.exactly at h
    split at h
    · cases h
    · rename_i hlen
      cases h
      refine ⟨rfl, ?_⟩
      rw [exactly, Indexed.bind_of_ok Indexed.remaining_append, if_neg hlen]
      rfl

theorem agrees_rest : Agrees rest Reader.rest where
  ok before {after left x} h := by
    obtain ⟨rfl, rfl⟩ := Reader.rest_eq_ok_iff.mp h
    refine ⟨after, (List.append_nil _).symm, ?_⟩
    have hslice : slice before.length (before.length + after.length) (before ++ after) before.length =
        _ := Indexed.slice_append (Nat.le_refl _)
    rw [← List.length_append, List.take_length] at hslice
    rw [rest, Indexed.bind_of_ok (x := before ++ after) (j := before.length) rfl,
      Indexed.bind_of_ok (x := before.length) (j := before.length) rfl, Indexed.bind_of_ok hslice]
    rfl
  refused _ {after err} h := by cases h

/-- Bytes of the right number are copied. -/
theorem agrees_copy {bs : Bytes} {n : Nat} (h : bs.length = n) : Agrees (copy n bs) (pure bs) := by
  rw [copy, if_pos h]
  exact .pure bs

theorem agrees_convert {bs : Bytes} (hp : p ∈ o.parts) (hlen : p.order.admits bs.length = true) :
    Agrees (Indexed.convert o e p bs) (pure (p.order.arrange e bs)) := by
  rw [Indexed.convert, convert_of_listed hp hlen]
  exact .pure _

/-- A part that keeps its place is what was read. -/
theorem agrees_kept {raw : Indexed Bytes} {r : Reader Bytes} (h : Agrees raw r)
    (hp : p ∈ o.parts) (hkept : p.order = .kept) : Agrees (raw >>= Indexed.convert o e p) r := by
  have hconvert : Agrees (raw >>= Indexed.convert o e p) (r >>= pure) := by
    refine h.bind fun bs => ?_
    rw [Indexed.convert, convert_of_kept hp hkept]
    exact .pure bs
  rwa [bind_pure] at hconvert

theorem agrees_takeFixed (n : Nat) : Agrees (takeFixed n) (Reader.take n) := by
  have h := (agrees_take n).bind_of fun _ _ _ hread => agrees_copy (Reader.take_eq_ok hread).2
  rwa [bind_pure] at h

theorem agrees_field {n : Nat} (hp : p ∈ o.parts) (hn : p.order.admits n = true) :
    Agrees (field o e p n) (Reader.field e p n) := by
  refine (agrees_take n).bind_of ?_
  intro bs x rest hread
  obtain ⟨-, rfl⟩ := Reader.take_eq_ok hread
  exact agrees_convert hp hn

/-- An integer's bytes are as many behind the conversion as in front of it. -/
theorem agrees_fixed {α : Type} {n : Nat} (hp : p ∈ o.parts) (hn : p.order.admits n = true)
    (g : Bytes → α) :
    Agrees (do
        let bs ← takeFixed n
        let converted ← Indexed.convert o e p bs
        let x ← copy n converted
        pure (g x))
      (do
        let bs ← Reader.field e p n
        pure (g bs)) := by
  rw [Reader.field, bind_assoc]
  refine (agrees_takeFixed n).bind_of ?_
  intro bs x rest hread
  obtain ⟨-, hlen⟩ := Reader.take_eq_ok hread
  refine (agrees_convert hp (hlen ▸ hn)).bind_of ?_
  intro _ _ _ hpure
  obtain ⟨rfl, -⟩ := Reader.pure_eq_ok.mp hpure
  have harranged : (p.order.arrange e x).length = n := by simp [hlen]
  have hcopy := (agrees_copy harranged).bind fun y => Agrees.pure (g y)
  rwa [pure_bind] at hcopy

theorem agrees_fieldWord (hp : p ∈ o.parts) (hn : p.order.admits 4 = true) :
    Agrees (fieldWord o e p) (Reader.fieldWord e p) := agrees_fixed hp hn _

theorem agrees_fieldHalf (hp : p ∈ o.parts) (hn : p.order.admits 2 = true) :
    Agrees (fieldHalf o e p) (Reader.fieldHalf e p) := agrees_fixed hp hn _

theorem agrees_fieldExactly {n : Nat} (hp : p ∈ o.parts) (hkept : p.order = .kept) :
    Agrees (fieldExactly o e p n) (Reader.exactly n) := agrees_kept (agrees_exactly n) hp hkept

theorem agrees_fieldRest (hp : p ∈ o.parts) (hkept : p.order = .kept) :
    Agrees (fieldRest o e p) Reader.rest := agrees_kept agrees_rest hp hkept

theorem agrees_byte : Agrees byte Reader.byte where
  ok before {after rest b} h := by
    obtain rfl := Reader.byte_eq_ok_iff.mp h
    have htake : Reader.take 1 (b :: rest) = .ok ([b], rest) := 
      Reader.take_eq_ok_iff.mpr ⟨rfl, rfl⟩
    obtain ⟨taken, hbytes, hraw⟩ := (agrees_takeFixed 1).ok before htake
    refine ⟨taken, hbytes, ?_⟩
    rw [byte, Indexed.bind_of_ok hraw]
    rfl
  refused before {after err} h := by
    cases after with
    | cons b bs => cases h
    | nil =>
      cases h
      have htake : Reader.take 1 [] = .error (.bufferUnderflow 0 1) := rfl
      obtain ⟨herr, hraw⟩ := (agrees_takeFixed 1).refused before htake
      exact ⟨herr, Indexed.bind_of_error hraw⟩

end Fields

/-! ## Blocks and messages -/

theorem Curve.ofReading_of_ofMagic {w : UInt32} {err : Error} (h : Curve.ofMagic w = .error err) :
    err.ofReading = true := by
  unfold ofMagic at h
  split at h
  · cases h
  · cases h
    rfl

theorem DeviceFamily.ofReading_of_ofByte {b : UInt8} {err : Error}
    (h : DeviceFamily.ofByte b = .error err) : err.ofReading = true := by
  unfold ofByte at h
  split at h
  · cases h
  · split at h
    · cases h
    · cases h
      rfl

variable {e : Endpoint}

theorem Signature.agrees : Agrees (Signature.indexed e) (Signature.read e) := by
  refine (agrees_fieldWord (by decide) rfl).bind fun magic => .refuse rfl ?_
  refine (agrees_fieldWord (by decide) rfl).bind fun sizeR => ?_
  refine (agrees_fieldWord (by decide) rfl).bind fun sizeS => ?_
  refine (agrees_fieldWord (by decide) rfl).bind fun curveMagic => ?_
  refine (Agrees.check fun _ => Curve.ofReading_of_ofMagic).bind fun curve => ?_
  refine (agrees_field (by decide) rfl).bind fun r => ?_
  refine (agrees_field (by decide) rfl).bind fun s => ?_
  exact .pure _

/-- The parts of an identity block, whichever message it stands in. -/
def DeviceHeader.parts : List Part :=
  [.magic, .sdmSessionId, .deviceUniqueId, .romVersionNum, .sdmFwBuildId, .sdmFwSecurityVersionNum,
    .publicEfuseValues]

theorem DeviceHeader.agrees {o : Owner} (ho : parts ⊆ o.parts) :
    Agrees (DeviceHeader.indexed o e) (DeviceHeader.read e) := by
  have word : ∀ {p}, p ∈ parts → p.order.admits 4 = true →
      Agrees (fieldWord o e p) (Reader.fieldWord e p) := fun hp => agrees_fieldWord (ho hp)
  have bytes : ∀ {p n}, p ∈ parts → p.order.admits n = true →
      Agrees (field o e p n) (Reader.field e p n) := fun hp => agrees_field (ho hp)
  refine (agrees_take reservedHeaderSize).bind fun reservedHeader => ?_
  refine (word (by decide) rfl).bind fun magic => ?_
  refine (word (by decide) rfl).bind fun sdmSessionId => ?_
  refine (bytes (by decide) rfl).bind fun deviceUniqueId => ?_
  refine (word (by decide) rfl).bind fun romVersionNum => ?_
  refine (bytes (by decide) rfl).bind fun sdmFwBuildId => ?_
  refine (word (by decide) rfl).bind fun sdmFwSecurityVersionNum => ?_
  refine agrees_byte.bind fun familyByte => ?_
  refine (Agrees.check fun _ => DeviceFamily.ofReading_of_ofByte).bind fun family => ?_
  refine (agrees_take reservedSize).bind fun reserved => ?_
  refine (bytes (by decide) family.admits_efuseSize).bind fun publicEfuseValues => ?_
  exact .pure _

theorem GetMeasurement.agrees : Agrees (GetMeasurement.indexed e) (GetMeasurement.read e) := by
  refine (DeviceHeader.agrees (by decide)).bind fun header => ?_
  refine (agrees_field (by decide) rfl).bind fun deviceDhPubKey => ?_
  refine (agrees_field (by decide) rfl).bind fun verifierDhPubKey => ?_
  refine (agrees_field (by decide) rfl).bind fun cmfDescriptorHash => ?_
  refine (agrees_take reserved2Size).bind fun reserved2 => ?_
  refine agrees_byte.bind fun numberOfMeasurementBlocks => ?_
  refine agrees_byte.bind fun reserved3 => ?_
  refine (agrees_fieldHalf (by decide) rfl).bind fun recordLen => ?_
  refine (agrees_take recordLen.toNat).bind fun measurementRecord => ?_
  refine Signature.agrees.bind fun signature => ?_
  refine (agrees_fieldExactly (by decide) rfl).bind fun mac => ?_
  exact .pure _

theorem SigmaM1.agrees : Agrees (SigmaM1.indexed e) (SigmaM1.read e) := by
  refine (agrees_take reservedHeaderSize).bind fun reservedHeader => ?_
  refine (agrees_fieldWord (by decide) rfl).bind fun magic => ?_
  refine (agrees_take reserved1Size).bind fun reserved1 => ?_
  refine (agrees_field (by decide) rfl).bind fun bkpsDhPubKey => ?_
  refine (agrees_fieldWord (by decide) rfl).bind fun pufType => ?_
  refine (agrees_take reserved2Size).bind fun reserved2 => ?_
  refine (agrees_fieldRest (by decide) rfl).bind fun userKeyChain => ?_
  exact .pure _

theorem SigmaM2.agrees : Agrees (SigmaM2.indexed e) (SigmaM2.read e) := by
  refine (DeviceHeader.agrees (by decide)).bind fun header => ?_
  refine (agrees_field (by decide) rfl).bind fun deviceDhPubKey => ?_
  refine (agrees_field (by decide) rfl).bind fun bkpsDhPubKey => ?_
  refine Signature.agrees.bind fun signature => ?_
  refine (agrees_fieldExactly (by decide) rfl).bind fun mac => ?_
  exact .pure _

theorem SigmaM3.agrees : Agrees (SigmaM3.indexed e) (SigmaM3.read e) := by
  refine (agrees_take reservedHeaderSize).bind fun reservedHeader => ?_
  refine (agrees_fieldWord (by decide) rfl).bind fun magic => ?_
  refine (agrees_fieldWord (by decide) rfl).bind fun sdmSessionId => ?_
  refine (agrees_field (by decide) rfl).bind fun bkpsDhPubKey => ?_
  refine (agrees_field (by decide) rfl).bind fun deviceDhPubKey => ?_
  refine Signature.agrees.bind fun signature => ?_
  refine (agrees_fieldExactly (by decide) rfl).bind fun mac => ?_
  exact .pure _

theorem SigmaEncHeader.agrees : Agrees (SigmaEncHeader.indexed e) (SigmaEncHeader.read e) := by
  refine (agrees_take reservedHeaderSize).bind fun reservedHeader => ?_
  refine (agrees_fieldWord (by decide) rfl).bind fun magic => ?_
  refine (agrees_fieldWord (by decide) rfl).bind fun sdmSessionId => ?_
  exact .pure _

theorem SigmaEnc.agrees_body (h : SigmaEncHeader) :
    Agrees (SigmaEnc.indexedBody e h) (SigmaEnc.readBody e h) := by
  refine (agrees_fieldWord (by decide) rfl).bind fun messageCounter => ?_
  refine (agrees_take reserved1Size).bind fun reserved1 => ?_
  refine (agrees_fieldWord (by decide) rfl).bind fun payloadLen => ?_
  refine (agrees_field (by decide) rfl).bind fun initialIv => ?_
  refine agrees_byte.bind fun numberOfPaddingBytes => ?_
  refine (agrees_take reserved2Size).bind fun reserved2 => ?_
  refine (agrees_field (by decide) rfl).bind fun encryptedPayload => ?_
  refine (agrees_fieldExactly (by decide) rfl).bind fun mac => ?_
  exact .pure _

theorem SigmaEnc.agrees : Agrees (SigmaEnc.indexed e) (SigmaEnc.read e) :=
  SigmaEncHeader.agrees.bind agrees_body

theorem SigmaEncResponse.agrees : Agrees (SigmaEncResponse.indexed e) (SigmaEncResponse.read e) := by
  refine SigmaEncHeader.agrees.bind fun header => agrees_remaining.bind fun left => ?_
  by_cases hleft : left = 0
  · rw [if_pos hleft, if_pos hleft]
    exact .pure _
  · rw [if_neg hleft, if_neg hleft]
    exact (SigmaEnc.agrees_body header).bind fun m => .pure (encrypted m)

theorem SpdmCertificate.agrees : Agrees (SpdmCertificate.indexed e) (SpdmCertificate.read e) := by
  refine agrees_remaining.bind fun size => ?_
  refine (agrees_fieldHalf (by decide) rfl).bind fun totalLen => .refuse rfl ?_
  refine (agrees_take reservedSize).bind fun reserved => ?_
  refine (agrees_field (by decide) rfl).bind fun certChainHash => ?_
  refine (agrees_fieldRest (by decide) rfl).bind fun certChain => ?_
  exact .pure _

/-- Every message type is read through the tables as it is read by its parts. -/
theorem Kind.agrees (k : Kind) : Agrees (k.indexed e) (k.format.read e) := by
  cases k with
  | getMeasurement => exact GetMeasurement.agrees
  | sigmaM1 => exact SigmaM1.agrees
  | sigmaM2 => exact SigmaM2.agrees
  | sigmaM3 => exact SigmaM3.agrees
  | sigmaEnc => exact SigmaEnc.agrees
  | sigmaEncResponse => exact SigmaEncResponse.agrees
  | psgSignature =>
    refine Signature.agrees.bind fun sig => ?_
    refine (agrees_exactly 0).bind fun _ => ?_
    exact .pure sig
  | spdmCertificate => exact SpdmCertificate.agrees

end Wire
end Appraisal
