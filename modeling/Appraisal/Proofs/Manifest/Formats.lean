import Appraisal.Proofs.Manifest.Authenticity

/-!
# Appraisal.Proofs.Manifest.Formats

The two formats that a document can have. JSON text begins with an ASCII byte, whether with a blank or
with a token, and a signed document with the head of an array or of a tag, which is none. So no document is
both, and the order in which the formats are tried does not matter.

* `Json.Token.lt_of_next?`, `Json.lt_of_parse?`: what a token and what JSON text begin with.
* `Cbor.Head.major_of_read?`, `Cose.Sign1.le_of_decode?`: what a CBOR item and a signed document begin with.
* `resolve_of_unsigned`, `resolve_of_plain`: an unsigned document in both modes.
* `formats_apart`: a document that makes a manifest as it stands is not signed, and the other way round.
-/

namespace Appraisal

namespace Json

variable {b : UInt8} {r bs : Bytes}

theorem lt_of_isBlank (h : isBlank b = true) : b < 0x80 := by
  simp only [isBlank, Bool.or_eq_true, beq_iff_eq] at h
  rcases h with ((rfl | rfl) | rfl) | rfl <;> decide

theorem lt_of_isDigit (h : isDigit b = true) : b < 0x80 := by
  simp only [isDigit, Bool.and_eq_true, decide_eq_true_eq] at h
  exact UInt8.lt_of_le_of_lt h.2 (by decide)

theorem lt_of_unsigned? {negative : Bool} {p : Option Int × Bytes}
    (h : unsigned? negative (b :: r) = some p) : b < 0x80 := by
  unfold unsigned? whole? at h
  by_cases hzero : b = 0x30
  · subst hzero
    decide
  · by_cases hdigit : isDigit b = true
    · exact lt_of_isDigit hdigit
    · simp [hzero, hdigit] at h

namespace Token

/-- A token begins with a mark, the first letter of a word, a sign or a digit. -/
theorem lt_of_next? {p : Token × Bytes} (h : next? b r = some p) : b < 0x80 := by
  by_cases hlow : b < 0x80
  · exact hlow
  · have hne : ∀ c < 0x80, b ≠ c := by
      rintro c hc rfl
      exact hlow hc
    simp (disch := decide) only [next?, hne, if_false] at h
    obtain ⟨n, hn, -⟩ := Option.map_eq_some_iff.mp h
    exact lt_of_unsigned? hn

theorem lt_of_scan? {t : Token} {ts : List Token} (h : scan? bs = some (t :: ts)) :
    ∃ b r, bs = b :: r ∧ b < 0x80 := by
  cases bs with
  | nil => cases h
  | cons b r =>
    refine ⟨b, r, rfl, ?_⟩
    by_cases hblank : isBlank b = true
    · exact lt_of_isBlank hblank
    · rw [scan?, scanWithin?, List.dropWhile_cons_of_neg hblank] at h
      cases hnext : next? b r with
      | none => simp [hnext] at h
      | some p => exact lt_of_next? hnext

end Token

theorem lt_of_parse? {v : Value} (h : parse? bs = some v) : ∃ b r, bs = b :: r ∧ b < 0x80 := by
  unfold parse? at h
  cases hscan : Token.scan? bs with
  | none => simp [hscan] at h
  | some ts =>
    cases ts with
    | nil => simp [hscan, Value.ofTokens?, Value.build] at h
    | cons t ts => exact Token.lt_of_scan? hscan

end Json

namespace Cbor

/-- The kind of an item in the three highest bits of its first byte. -/
def Head.major : Head → Nat
  | unsigned _ => 0
  | negative _ => 1
  | bytes _ => 2
  | text _ => 3
  | array _ => 4
  | map _ => 5
  | tag _ => 6
  | simple _ | float | stop => 7

theorem Head.major_of_ofParts? {major info : Nat} {n : Option Nat} {h : Head}
    (hparts : ofParts? major info n = some h) : h.major = major := by
  unfold ofParts? at hparts
  split at hparts
  all_goals try split at hparts
  all_goals cases hparts
  all_goals rfl

theorem Head.major_of_read? {bs rest : Bytes} {h : Head} (hread : read? bs = some (h, rest)) :
    ∃ b r, bs = b :: r ∧ h.major = b.toNat / 32 := by
  cases bs with
  | nil => cases hread
  | cons b r =>
    refine ⟨b, r, rfl, ?_⟩
    unfold read? at hread
    simp only at hread
    split at hread
    · cases hread
    · split at hread
      · cases hread
      · rename_i hparts
        cases hread
        exact major_of_ofParts? hparts

/-- Arrays and tags, in one of which a signed document is wrapped. -/
def Value.Wraps : Value → Prop
  | .array _ | .tag _ _ => True
  | _ => False

/-- Only the head of an array or of a tag begins such a value. -/
theorem Value.major_of_ofHead? {inner : Option (Bytes → Option (Value × Bytes))} {r rest : Bytes}
    {h : Head} {v : Value} (hhead : ofHead? inner r h = some (v, rest)) (hv : v.Wraps) :
    h.major = 4 ∨ h.major = 6 := by
  cases h with
  | array n => exact .inl rfl
  | tag n => exact .inr rfl
  | unsigned n | negative n | float =>
    cases hhead
    cases hv
  | bytes n =>
    obtain ⟨p, -, hp⟩ := Option.map_eq_some_iff.mp hhead
    cases hp
    cases hv
  | text n =>
    simp only [ofHead?] at hhead
    split at hhead
    · cases hhead
    · obtain ⟨ss, -, hss⟩ := Option.map_eq_some_iff.mp hhead
      cases hss
      cases hv
  | map n =>
    simp only [ofHead?, Option.bind_eq_bind, Option.bind_eq_some_iff, Option.pure_def] at hhead
    obtain ⟨read, -, p, -, hp⟩ := hhead
    cases hp
    cases hv
  | simple n =>
    unfold ofHead? at hhead
    split at hhead
    -- What is left are the four simple values that are read.
    all_goals try contradiction
    all_goals cases hhead
    all_goals cases hv
  | stop => cases hhead

theorem Value.major_of_read? {depth : Nat} {bs rest : Bytes} {v : Value}
    (h : read? depth bs = some (v, rest)) (hv : v.Wraps) :
    ∃ hd r, Head.read? bs = some (hd, r) ∧ (hd.major = 4 ∨ hd.major = 6) := by
  cases depth with
  | zero =>
    rw [read?] at h
    split at h
    · cases h
    · rename_i hd r hread
      exact ⟨hd, r, hread, major_of_ofHead? h hv⟩
  | succ depth =>
    rw [read?] at h
    split at h
    · cases h
    · rename_i hd r hread
      exact ⟨hd, r, hread, major_of_ofHead? h hv⟩

/-- An item that wraps others begins outside ASCII. -/
theorem le_of_decode? {bs : Bytes} {v : Value} (h : decode? bs = some v) (hv : v.Wraps) :
    ∃ b r, bs = b :: r ∧ 0x80 ≤ b := by
  unfold decode? at h
  split at h
  · rename_i hread
    cases h
    obtain ⟨hd, r, hhead, hmajor⟩ := Value.major_of_read? hread hv
    obtain ⟨b, r, rfl, hb⟩ := Head.major_of_read? hhead
    refine ⟨b, r, rfl, UInt8.le_iff_toNat_le.mpr ?_⟩
    have hlow : (0x80 : UInt8).toNat = 128 := rfl
    omega
  · cases h

end Cbor

namespace Cose

theorem Sign1.wraps_of_ofValue? {depth : Nat} {v : Cbor.Value} {d : Sign1}
    (h : ofValue? depth v = some d) : v.Wraps := by
  unfold ofValue? at h
  split at h
  · trivial
  · cases h

/-- A signed document is an array, with or without a tag in front of it. -/
theorem Sign1.le_of_decode? {bs : Bytes} {d : Sign1} (h : decode? bs = some d) :
    ∃ b r, bs = b :: r ∧ 0x80 ≤ b := by
  unfold decode? at h
  split at h
  · rename_i hv
    exact Cbor.le_of_decode? hv trivial
  · rename_i hv
    exact Cbor.le_of_decode? hv (wraps_of_ofValue? h)
  · cases h

end Cose

namespace Manifest

open Cose

variable {document : Bytes} {p : Parsed}

theorem decode?_of_json {v : Json.Value} (h : Json.parse? document = some v) :
    Sign1.decode? document = none := by
  cases hd : Sign1.decode? document with
  | none => rfl
  | some d =>
    obtain ⟨b, r, rfl, hlow⟩ := Json.lt_of_parse? h
    obtain ⟨b', r', hbytes, hhigh⟩ := Sign1.le_of_decode? hd
    cases hbytes
    exact absurd hlow (UInt8.not_lt.mpr hhigh)

theorem decode?_of_parseDocument (h : parseDocument document = .ok p) :
    Sign1.decode? document = none := by
  unfold parseDocument Document.parse? at h
  cases hjson : Json.parse? document with
  | none => simp [hjson] at h
  | some v => exact decode?_of_json hjson

theorem parseDocument_of_decode? {d : Sign1} (h : Sign1.decode? document = some d) :
    parseDocument document = .error .json := by
  unfold parseDocument Document.parse?
  cases hjson : Json.parse? document with
  | none => rfl
  | some v =>
    rw [decode?_of_json hjson] at h
    cases h

theorem resolve_of_unsigned (h : Sign1.decode? document = none) :
    resolve false document = .fail (.unsigned .referenceManifest) := by
  unfold resolve openDocument openManifest
  rw [h]
  rfl

/-- Where all documents are accepted, an unsigned one that points nowhere is all there is. -/
theorem resolve_of_plain (h : parseDocument document = .ok p) (hlocators : p.locators = [])
    (hlist : p.revocationLocator = none) : resolve true document = .done (.ok p.manifest) := by
  unfold resolve openDocument openManifest
  rw [decode?_of_parseDocument h]
  obtain ⟨manifest, locators, revocationLocator⟩ := p
  subst hlocators hlist
  show (do
    let top ← (do
      let parsed ← (parseDocument document : Dialogue Parsed)
      checkRevocation true parsed none
      pure parsed)
    followLevels true maxLevels { manifest := top.manifest } top.locators : Dialogue Manifest) = _
  rw [h]
  rfl

/-- A document that makes a manifest as it stands is not signed. So it is refused where only signed ones
are accepted; and where all are, it makes the same manifest with all that it leads to, if it points nowhere.
Neither asks anything of any service. A signed document in turn makes no manifest as it stands, as it is not
JSON. -/
theorem formats_apart (document : Bytes) :
    (∀ m, parse document = .ok m →
      Sign1.decode? document = none ∧
      resolve false document = .done (.error (.unsigned .referenceManifest))) ∧
    (∀ p, parseDocument document = .ok p → p.locators = [] → p.revocationLocator = none →
      resolve true document = .done (parse document)) ∧
    ∀ d, Sign1.decode? document = some d → parse document = .error .json := by
  refine ⟨?_, ?_, ?_⟩
  · intro m hm
    have hunsigned : Sign1.decode? document = none := by
      cases hp : parseDocument document with
      | error e => simp [parse, hp] at hm
      | ok p => exact decode?_of_parseDocument hp
    exact ⟨hunsigned, resolve_of_unsigned hunsigned⟩
  · intro p hp hlocators hlist
    rw [resolve_of_plain hp hlocators hlist, parse, hp]
  · intro d hd
    rw [parse, parseDocument_of_decode? hd]

/-- A document that is an array behind a blank, and one that is signed. -/
theorem formats_apart_array :
    let plain := Utf8.encode "\n[\"m\",[],null]"
    let m : Manifest := { manifestId := some "m" }
    parse plain = .ok m ∧ Sign1.decode? plain = none ∧
      resolve false plain = .done (.error (.unsigned .referenceManifest)) ∧
      resolve true plain = .done (.ok m) ∧
      (Sign1.decode? Sample.document).isSome ∧ parse Sample.document = .error .json := by
  intro plain m
  have hdocument : parseDocument plain = .ok ⟨m, [], none⟩ :=
    except_eq_ok_of_toOption (by decide +kernel)
  have hm : parse plain = .ok m := by rw [parse, hdocument]
  obtain ⟨hparsed, hplain, -⟩ := formats_apart plain
  have hall := hplain _ hdocument rfl rfl
  rw [hm] at hall
  have hsome : (Sign1.decode? Sample.document).isSome := by decide +kernel
  obtain ⟨d, hd⟩ := Option.isSome_iff_exists.mp hsome
  exact ⟨hm, (hparsed m hm).1, (hparsed m hm).2, hall, hsome, (formats_apart _).2.2 d hd⟩

end Manifest
end Appraisal
