import Appraisal.Evidence.Encrypted
import Appraisal.Proofs.Evidence.Gates

/-!
# Appraisal.Proofs.Evidence.Opening

Encrypted responses of a session. Nothing is decrypted before the authentication code is right, where there is
a service for codes. It covers the received message between the reserved header and itself.

* `opening`: what is asked about an envelope that is opened, with the answers.
* `OpeningGate`: what may be asked about an envelope behind what was answered.
* `asksBehind_plaintext?`: the questions about an envelope pass their gates, whatever is answered.
* `plaintext?_runs_ok`: an envelope is opened by what was asked and answered.
* `plaintext_gated`: with any services, a response is opened behind its gates, exactly when the services
  answer so and the padding is there.
-/

namespace Appraisal

open Wire

namespace Evidence

/-- What is asked about the code of an envelope, with the answer for one that is authentic. -/
def authentic (s : Settings) (m : SigmaEnc) (covered : Bytes) : Transcript :=
  if s.hasMac then [⟨.computeMac covered, .ok m.mac⟩] else []

/-- What is asked about an envelope that is authentic and holds the plaintext `q`. -/
def opening (s : Settings) (m : SigmaEnc) (covered q : Bytes) : Transcript :=
  authentic s m covered ++ [⟨.decrypt m.initialIv m.encryptedPayload, .ok q⟩]

/-- What may be asked about an envelope behind what was answered, for a verifier that can decrypt. -/
inductive OpeningGate (s : Settings) (m : SigmaEnc) (covered : Bytes) : Transcript → Query → Prop
  | code (hasDecryptor : s.hasDecryptor = true) (hasMac : s.hasMac = true) :
      OpeningGate s m covered [] (.computeMac covered)
  /-- The code is right, or there is no service for codes. -/
  | decryption (hasDecryptor : s.hasDecryptor = true) :
      OpeningGate s m covered (authentic s m covered) (.decrypt m.initialIv m.encryptedPayload)

section Steps

variable {s : Settings} {m : SigmaEnc} {t : Transcript} {covered data mac p q : Bytes} {n : Nat}

theorem dropPadding_eq_ok_iff :
    dropPadding n q = .ok p ↔ ∃ padding : Bytes, q = p ++ padding ∧ padding.length = n := by
  unfold dropPadding
  split
  · rename_i hle
    rw [Except.ok.injEq]
    constructor
    · rintro rfl
      refine ⟨q.drop (q.length - n), (List.take_append_drop ..).symm, ?_⟩
      rw [List.length_drop]
      omega
    · intro h
      obtain ⟨padding, rfl, rfl⟩ := h
      rw [List.length_append, Nat.add_sub_cancel, List.take_left]
  · rename_i hlt
    constructor
    · intro h
      cases h
    · intro h
      obtain ⟨padding, rfl, rfl⟩ := h
      rw [List.length_append] at hlt
      omega

theorem asksBehind_checkMac {gate : Transcript → Query → Prop} {before : Transcript}
    (h : gate before (.computeMac data)) : (checkMac data mac).AsksBehind gate before := by
  refine .bind ⟨h, fun reply => trivial⟩ ?_
  intro t computed _
  split
  · trivial
  · trivial

section Covered

variable (hcovered : SigmaEnc.format.macable m = .ok covered)

include hcovered

theorem checkCovered_eq :
    checkCovered s m = if s.hasMac then checkMac covered m.mac else pure () := by
  rw [checkCovered, hcovered]
  rfl

theorem checkCovered_runs_ok : (checkCovered s m).Runs t (.ok ()) ↔ t = authentic s m covered := by
  rw [checkCovered_eq hcovered, authentic]
  split
  · exact checkMac_runs_ok
  · simp

/-- An envelope is opened by what was asked and answered. -/
theorem plaintext?_runs_ok {o : Option Bytes} :
    (plaintext? s (.encrypted m)).Runs t (.ok o) ↔
      s.hasDecryptor = true ∧ ∃ q p padding : Bytes, t = opening s m covered q ∧ o = some p ∧
        q = p ++ padding ∧ padding.length = m.numberOfPaddingBytes.toNat := by
  rw [plaintext?, Dialogue.runs_guard_ok, Dialogue.runs_bind_ok]
  simp only [checkCovered_runs_ok hcovered, Dialogue.runs_decrypt_bind_ok, Dialogue.runs_lift_bind_ok,
    Dialogue.runs_pure, dropPadding_eq_ok_iff, Except.ok.injEq]
  refine and_congr_right fun _ => ?_
  constructor
  · intro h
    obtain ⟨_, _, _, rfl, rfl, q, _, rfl, p, ⟨padding, hq, hlength⟩, rfl, rfl⟩ := h
    exact ⟨q, p, padding, rfl, rfl, hq, hlength⟩
  · intro h
    obtain ⟨q, p, padding, rfl, rfl, hq, hlength⟩ := h
    exact ⟨(), _, _, rfl, rfl, q, [], rfl, p, ⟨padding, hq, hlength⟩, rfl, rfl⟩

theorem asksBehind_plaintext? : (plaintext? s (.encrypted m)).AsksBehind (OpeningGate s m covered) [] := by
  rw [plaintext?]
  split
  · rename_i hdecryptor
    refine .bind (d := checkCovered s m) ?_ ?_
    · rw [checkCovered_eq hcovered]
      split
      · rename_i hmac
        exact asksBehind_checkMac (.code hdecryptor hmac)
      · trivial
    · intro t _ hcheck
      rw [(checkCovered_runs_ok hcovered).mp hcheck, List.nil_append]
      refine .bind ⟨.decryption hdecryptor, fun reply => trivial⟩ ?_
      -- Behind the decryption nothing is asked.
      intro _ _ _
      exact Dialogue.asksBehind_lift_bind fun _ _ => trivial
  · trivial

end Covered

theorem OpeningGate.services {before : Transcript} {x : Exchange}
    (h : OpeningGate s m covered before x.query) :
    ((before ++ [x]).map (·.query.service)).Sublist [.codes, .decryption] := by
  generalize hq : x.query = q at h
  cases h with
  | code =>
    rw [List.nil_append, List.map_singleton, hq]
    exact .cons_cons _ (List.nil_sublist _)
  | decryption =>
    rw [List.map_append, List.map_singleton, hq, authentic]
    split
    · exact List.Sublist.refl _
    · exact .cons _ (List.Sublist.refl _)

end Steps

section Received

variable {s : Settings} {e : Endpoint} {w covered : Bytes} {m : SigmaEnc} {t : Transcript}
  {r : Except Error (Option Bytes)}

/-- Each service is asked once at most, and decryption last. -/
theorem services_of_runs_plaintext? (hcovered : SigmaEnc.format.macable m = .ok covered)
    (h : (plaintext? s (.encrypted m)).Runs t r) :
    (t.map (·.query.service)).Sublist [.codes, .decryption] := by
  rcases List.eq_nil_or_concat t with rfl | ⟨mid, x, ht⟩
  · exact List.nil_sublist _
  · rw [List.concat_eq_append] at ht
    have hgate := (asksBehind_plaintext? hcovered).of_runs h ht
    rw [List.nil_append] at hgate
    exact ht ▸ hgate.services

theorem not_runs_none (hcovered : SigmaEnc.format.macable m = .ok covered) :
    ¬ (plaintext? s (.encrypted m)).Runs t (.ok none) := by
  intro h
  obtain ⟨-, _, _, _, -, hnone, -⟩ := (plaintext?_runs_ok hcovered).mp h
  cases hnone

theorem plaintext?_run_eq_ok_iff {σ : Type} {answer : (q : Query) → StateM σ q.Reply} {start : σ} {p : Bytes}
    (hcovered : SigmaEnc.format.macable m = .ok covered) :
    ((plaintext? s (.encrypted m)).run answer start).1 = .ok (some p) ↔
      s.hasDecryptor = true ∧ ∃ q padding : Bytes,
        (∃ later, Dialogue.Heard answer (opening s m covered q) start later) ∧
        q = p ++ padding ∧ padding.length = m.numberOfPaddingBytes.toNat := by
  constructor
  · intro h
    obtain ⟨t, hrun, hheard⟩ := Dialogue.run_eq_iff.mp
      (rfl : (plaintext? s (.encrypted m)).run answer start = (_, _))
    rw [h] at hrun
    obtain ⟨hdecryptor, q, _, padding, rfl, hp, hq⟩ := (plaintext?_runs_ok hcovered).mp hrun
    cases hp
    exact ⟨hdecryptor, q, padding, ⟨_, hheard⟩, hq⟩
  · intro h
    obtain ⟨hdecryptor, q, padding, ⟨later, hlater⟩, hq⟩ := h
    have hopens := (plaintext?_runs_ok hcovered).mpr ⟨hdecryptor, q, p, padding, rfl, rfl, hq⟩
    exact congrArg Prod.fst (Dialogue.run_eq_iff.mpr ⟨_, hopens, hlater⟩)

/-- The code of a received envelope covers what stands in front of it, as the firmware lays it out. -/
theorem macable_of_parse_encrypted
    (h : SigmaEncResponse.format.parse e w = .ok (.encrypted m)) :
    m.mac.length = 32 ∧ ∃ wire, SigmaEncResponse.format.build .firmware (.encrypted m) = .ok wire ∧
      (e = .firmware → wire = w) ∧ 36 ≤ wire.length ∧
      SigmaEnc.format.macable m = .ok (wire.extract 4 (wire.length - 32)) := by
  obtain ⟨hfit, rfl⟩ := Kind.parse_eq_ok_iff (k := .sigmaEncResponse).mp h
  obtain ⟨-, -, hmac⟩ := (SigmaEnc.framed.fits_whole m).mp hfit
  have hbehind : IsBehindHeader (render .firmware (SigmaEnc.whole.pieces m)) (some (_ - 32)) _ :=
    Kind.isBehindHeader_macable (k := .sigmaEncResponse) hfit rfl
  obtain ⟨hstart, -, hmacable⟩ := hbehind
  refine ⟨Span.fits_macOf.mp hmac, _, Span.write_eq_ok_iff.mpr ⟨hfit, rfl⟩, ?_, ?_, hmacable⟩
  · rintro rfl
    rfl
  · show 36 ≤ (render .firmware (SigmaEnc.whole.pieces m)).length
    omega

end Received
end Evidence

open Evidence

/-- A received response without an envelope holds nothing, and nothing is asked about it. An envelope is opened
behind its gates: decryption is asked once at most, and only behind the right code if there is a service for
codes, which covers what the firmware wrote between the reserved header and the code. It is opened exactly when
there is a decryptor, the services answer so, and the plaintext has the padding, which is what is cut off. -/
theorem plaintext_gated {σ : Type} (answer : (q : Query) → StateM σ q.Reply) (start : σ) (s : Settings)
    (e : Endpoint) (w : Bytes) (response : SigmaEncResponse)
    (h : SigmaEncResponse.format.parse e w = .ok response) :
    ∃ r t final, (plaintext? s response).run answer start = (r, final) ∧
      Dialogue.Heard answer t start final ∧
      (r = .ok none ↔ response.isHeaderOnly = true) ∧ (response.isHeaderOnly = true → t = []) ∧
      ∀ m, response = .encrypted m →
        m.mac.length = 32 ∧ ∃ wire covered,
          SigmaEncResponse.format.build .firmware response = .ok wire ∧ (e = .firmware → wire = w) ∧
          36 ≤ wire.length ∧ covered = wire.extract 4 (wire.length - 32) ∧
          (∀ p, r = .ok (some p) ↔ s.hasDecryptor = true ∧ ∃ q padding : Bytes,
            (∃ later, Dialogue.Heard answer (opening s m covered q) start later) ∧
            q = p ++ padding ∧ padding.length = m.numberOfPaddingBytes.toNat) ∧
          (t.map (·.query.service)).Sublist [.codes, .decryption] ∧
          ∀ before x after, t = before ++ x :: after → OpeningGate s m covered before x.query := by
  obtain ⟨t, hrun, hheard⟩ := Dialogue.run_eq_iff.mp
    (rfl : (plaintext? s response).run answer start = (_, _))
  refine ⟨_, t, _, rfl, hheard, ?_⟩
  cases response with
  | headerOnly header =>
    obtain ⟨rfl, hr⟩ := Dialogue.runs_pure.mp hrun
    refine ⟨?_, fun _ => rfl, nofun⟩
    rw [hr]
    exact ⟨fun _ => rfl, fun _ => rfl⟩
  | encrypted m =>
    obtain ⟨hlength, wire, hbuild, hwire, hsize, hcovered⟩ := macable_of_parse_encrypted h
    refine ⟨⟨fun hr => absurd (hr ▸ hrun) (not_runs_none hcovered), nofun⟩, nofun, ?_⟩
    intro m' hm
    cases hm
    refine ⟨hlength, wire, _, hbuild, hwire, hsize, rfl, fun p => plaintext?_run_eq_ok_iff hcovered,
      services_of_runs_plaintext? hcovered hrun, ?_⟩
    intro before x after ht
    have hgate := (asksBehind_plaintext? hcovered).of_runs hrun ht
    rwa [List.nil_append] at hgate

namespace Evidence.Sample

/-- Services with one code for all messages, where a plaintext is the ciphertext with all bits turned. -/
def turning (mac : Bytes) : (q : Query) → q.Reply
  | .isTrusted _ => false
  | .checkSignature _ _ _ => .ok false
  | .fetch _ => .error .json
  | .computeMac _ => .ok mac
  | .decrypt _ ciphertext => .ok (ciphertext.map (· ^^^ 0xFF))

/-- The same, and who was asked. -/
def counted (mac : Bytes) (q : Query) : StateM (List Service) q.Reply :=
  fun asked => (turning mac q, asked ++ [q.service])

/-- An envelope with two bytes of padding. -/
def padded : SigmaEnc :=
  { SigmaEnc.zero with numberOfPaddingBytes := 2, encryptedPayload := [0xFE, 0xFD, 0xFF, 0xFF] }

end Evidence.Sample

/-- With the right code the envelope is opened, and with one that is a byte short it is not decrypted. -/
theorem plaintext_gated_padded :
    let s : Settings := { hasMac := true, hasDecryptor := true }
    let response := SigmaEncResponse.encrypted Sample.padded
    ∃ w, SigmaEncResponse.format.parse .firmware w = .ok response ∧
      ((plaintext? s response).run (Sample.counted (Bytes.zeros 32)) []).1 = .ok (some [1, 2]) ∧
      (plaintext? s response).run (Sample.counted (Bytes.zeros 31)) [] =
        (.error .macVerificationFailed, [.codes]) := by
  intro s response
  have hparse : SigmaEncResponse.format.parse .firmware
      (render .firmware (SigmaEnc.whole.pieces Sample.padded)) = .ok response :=
    (Kind.parse_eq_ok_iff_build_eq_ok (k := .sigmaEncResponse)).mpr rfl
  obtain ⟨r, t, final, hrun, -, -, -, henvelope⟩ :=
    plaintext_gated (Sample.counted (Bytes.zeros 32)) [] s _ _ response hparse
  obtain ⟨-, wire, covered, -, -, -, -, hopens, -⟩ := henvelope Sample.padded rfl
  refine ⟨_, hparse, ?_, rfl⟩
  rw [hrun]
  exact (hopens [1, 2]).mpr ⟨rfl, [1, 2, 0, 0], [0, 0], ⟨_, rfl, rfl, rfl⟩, rfl, rfl⟩

end Appraisal
