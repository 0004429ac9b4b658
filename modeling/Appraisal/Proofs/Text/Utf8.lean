import Appraisal.Text.Utf8

/-!
# Appraisal.Proofs.Text.Utf8

Text and its bytes. Bytes are read as a text exactly when they are what the text is written as, so a text has
one form and no two texts share one.

* `decodeChars?_flatMap_encodeChar`: what is written is read back.
* `eq_flatMap_encodeChar`: what is read was written so.
* `decode?_eq_some_iff`: both, for texts.
-/

namespace Appraisal
namespace Utf8

section Forms

variable {a b : UInt8} {ch : Char} {least n k x y z : Nat}

theorem char?_eq_some_iff : char? least n = some ch ↔ ch.toNat = n ∧ least ≤ n := by
  constructor
  · intro h
    by_cases hn : n.isValidChar ∧ least ≤ n
    · rw [char?, dif_pos hn] at h
      cases h
      exact ⟨rfl, hn.2⟩
    · rw [char?, dif_neg hn] at h
      cases h
  · intro h
    obtain ⟨rfl, hle⟩ := h
    rw [char?, dif_pos ⟨ch.valid, hle⟩]
    rfl

theorem tailBits?_ofNat (hx : x < 64) : tailBits? (UInt8.ofNat (0x80 + x)) = some x := by
  have hb : (UInt8.ofNat (0x80 + x)).toNat = 0x80 + x := UInt8.toNat_ofNat_of_lt' (show _ < 256 by omega)
  rw [tailBits?, if_pos, hb, Nat.add_sub_cancel_left]
  simp only [UInt8.le_iff_toNat_le, hb]
  exact ⟨Nat.le_add_right _ _, show 0x80 + x ≤ 0xBF by omega⟩

theorem eq_of_tailBits? (h : tailBits? b = some x) : x < 64 ∧ b = UInt8.ofNat (0x80 + x) := by
  unfold tailBits? at h
  split at h
  · rename_i hb
    have hle : 0x80 ≤ b.toNat := hb.1
    have hge : b.toNat ≤ 0xBF := hb.2
    obtain rfl := Option.some.inj h
    refine ⟨by omega, ?_⟩
    rw [Nat.add_sub_cancel' hle, UInt8.ofNat_toNat]
  · cases h

/-- A leading byte as its mark and the bits behind it. -/
theorem eq_ofNat_add_sub (h : k ≤ a.toNat) : a = UInt8.ofNat (k + (a.toNat - k)) := by
  rw [Nat.add_sub_cancel' h, UInt8.ofNat_toNat]

theorem toNat_charOfNat (h : n < 0xD800) : (Char.ofNat n).toNat = n := by
  rw [Char.ofNat, dif_pos (Or.inl h)]
  rfl

theorem encodeChar_one (h : ch.toNat < 0x80) : encodeChar ch = [UInt8.ofNat ch.toNat] := by
  simp only [encodeChar, if_pos h]

theorem encodeChar_two (h : ch.toNat = k * 64 + x) (hx : x < 64) (hleast : 0x80 ≤ ch.toNat)
    (hk : k < 32) : encodeChar ch = [UInt8.ofNat (0xC0 + k), UInt8.ofNat (0x80 + x)] := by
  have hdiv : ch.toNat / 64 = k := by omega
  have hmod : ch.toNat % 64 = x := by omega
  simp only [encodeChar, if_neg (show ¬ ch.toNat < 0x80 by omega),
    if_pos (show ch.toNat < 0x800 by omega), hdiv, hmod]

theorem encodeChar_three (h : ch.toNat = (k * 64 + x) * 64 + y) (hx : x < 64) (hy : y < 64)
    (hleast : 0x800 ≤ ch.toNat) (hk : k < 16) :
    encodeChar ch = [UInt8.ofNat (0xE0 + k), UInt8.ofNat (0x80 + x), UInt8.ofNat (0x80 + y)] := by
  have hdiv : ch.toNat / 4096 = k := by omega
  have hmid : ch.toNat / 64 % 64 = x := by omega
  have hmod : ch.toNat % 64 = y := by omega
  simp only [encodeChar, if_neg (show ¬ ch.toNat < 0x80 by omega),
    if_neg (show ¬ ch.toNat < 0x800 by omega), if_pos (show ch.toNat < 0x10000 by omega), hdiv, hmid,
    hmod]

theorem encodeChar_four (h : ch.toNat = ((k * 64 + x) * 64 + y) * 64 + z) (hx : x < 64) (hy : y < 64)
    (hz : z < 64) (hleast : 0x10000 ≤ ch.toNat) :
    encodeChar ch = [UInt8.ofNat (0xF0 + k), UInt8.ofNat (0x80 + x), UInt8.ofNat (0x80 + y),
      UInt8.ofNat (0x80 + z)] := by
  have hdiv : ch.toNat / 262144 = k := by omega
  have hhigh : ch.toNat / 4096 % 64 = x := by omega
  have hmid : ch.toNat / 64 % 64 = y := by omega
  have hmod : ch.toNat % 64 = z := by omega
  simp only [encodeChar, if_neg (show ¬ ch.toNat < 0x80 by omega),
    if_neg (show ¬ ch.toNat < 0x800 by omega), if_neg (show ¬ ch.toNat < 0x10000 by omega), hdiv, hhigh,
    hmid, hmod]

end Forms

/-- What is read was written so. -/
theorem eq_flatMap_encodeChar {bs : Bytes} {cs : List Char} (h : decodeChars? bs = some cs) :
    bs = cs.flatMap encodeChar := by
  fun_induction decodeChars? bs generalizing cs with
  | case1 =>
    cases h
    rfl
  | case2 a r ha ih =>
    obtain ⟨cs', hcs', rfl⟩ := Option.map_eq_some_iff.mp h
    have hlt : a.toNat < 0x80 := ha
    have hch : (Char.ofNat a.toNat).toNat = a.toNat := toNat_charOfNat (by omega)
    rw [List.flatMap_cons, encodeChar_one (by omega), hch, UInt8.ofNat_toNat, ← ih hcs']
    rfl
  | case5 a ha b r x hx hrange ch cs' hcs' hch ih =>
    cases h
    obtain ⟨hx64, rfl⟩ := eq_of_tailBits? hx
    obtain ⟨hn, hleast⟩ := char?_eq_some_iff.mp hch
    have hlow : 0xC0 ≤ a.toNat := hrange.1
    have hhigh : a.toNat ≤ 0xDF := hrange.2
    rw [List.flatMap_cons, encodeChar_two hn hx64 (hn ▸ hleast) (by omega), ← eq_ofNat_add_sub hlow,
      ← ih hcs']
    rfl
  | case9 a ha b x hx hnot c r y hy hrange ch cs' hcs' hch ih =>
    cases h
    obtain ⟨hx64, rfl⟩ := eq_of_tailBits? hx
    obtain ⟨hy64, rfl⟩ := eq_of_tailBits? hy
    obtain ⟨hn, hleast⟩ := char?_eq_some_iff.mp hch
    have hlow : 0xE0 ≤ a.toNat := hrange.1
    have hhigh : a.toNat ≤ 0xEF := hrange.2
    rw [List.flatMap_cons, encodeChar_three hn hx64 hy64 (hn ▸ hleast) (by omega),
      ← eq_ofNat_add_sub hlow, ← ih hcs']
    rfl
  | case13 a ha b x hx hnot c y hy hnot' d r z hz hrange ch cs' hcs' hch ih =>
    cases h
    obtain ⟨hx64, rfl⟩ := eq_of_tailBits? hx
    obtain ⟨hy64, rfl⟩ := eq_of_tailBits? hy
    obtain ⟨hz64, rfl⟩ := eq_of_tailBits? hz
    obtain ⟨hn, hleast⟩ := char?_eq_some_iff.mp hch
    have hlow : 0xF0 ≤ a.toNat := hrange.1
    rw [List.flatMap_cons, encodeChar_four hn hx64 hy64 hz64 (hn ▸ hleast), ← eq_ofNat_add_sub hlow,
      ← ih hcs']
    rfl
  | _ => cases h

section Steps

variable {a b c d : UInt8} {r : Bytes} {ch : Char} {x y z : Nat}

theorem not_lt_of_le (h : 0x80 ≤ a.toNat) : ¬ a < 0x80 := Nat.not_lt.mpr h

theorem decodeChars?_one (h : a.toNat < 0x80) :
    decodeChars? (a :: r) = (decodeChars? r).map (Char.ofNat a.toNat :: ·) := by
  have hascii : a < 0x80 := h
  rw [decodeChars?.eq_def]
  simp only [if_pos hascii]

theorem decodeChars?_two (hlow : 0xC0 ≤ a.toNat) (hhigh : a.toNat ≤ 0xDF) (hx : tailBits? b = some x)
    (hch : char? 0x80 ((a.toNat - 0xC0) * 64 + x) = some ch) :
    decodeChars? (a :: b :: r) = (decodeChars? r).map (ch :: ·) := by
  have hascii : ¬ a < 0x80 := not_lt_of_le (by omega)
  have hrange : 0xC0 ≤ a ∧ a ≤ 0xDF := ⟨hlow, hhigh⟩
  rw [decodeChars?.eq_def]
  simp only [if_neg hascii, if_pos hrange, hx, hch]
  cases decodeChars? r <;> rfl

theorem decodeChars?_three (hlow : 0xE0 ≤ a.toNat) (hhigh : a.toNat ≤ 0xEF) (hx : tailBits? b = some x)
    (hy : tailBits? c = some y)
    (hch : char? 0x800 (((a.toNat - 0xE0) * 64 + x) * 64 + y) = some ch) :
    decodeChars? (a :: b :: c :: r) = (decodeChars? r).map (ch :: ·) := by
  have hascii : ¬ a < 0x80 := not_lt_of_le (by omega)
  have htwo : ¬ (0xC0 ≤ a ∧ a ≤ 0xDF) := fun h => absurd (Nat.le_trans hlow h.2) (by decide)
  have hrange : 0xE0 ≤ a ∧ a ≤ 0xEF := ⟨hlow, hhigh⟩
  rw [decodeChars?.eq_def]
  simp only [if_neg hascii, if_neg htwo, if_pos hrange, hx, hy, hch]
  cases decodeChars? r <;> rfl

theorem decodeChars?_four (hlow : 0xF0 ≤ a.toNat) (hhigh : a.toNat ≤ 0xF7) (hx : tailBits? b = some x)
    (hy : tailBits? c = some y) (hz : tailBits? d = some z)
    (hch : char? 0x10000 ((((a.toNat - 0xF0) * 64 + x) * 64 + y) * 64 + z) = some ch) :
    decodeChars? (a :: b :: c :: d :: r) = (decodeChars? r).map (ch :: ·) := by
  have hascii : ¬ a < 0x80 := not_lt_of_le (by omega)
  have htwo : ¬ (0xC0 ≤ a ∧ a ≤ 0xDF) := fun h => absurd (Nat.le_trans hlow h.2) (by decide)
  have hthree : ¬ (0xE0 ≤ a ∧ a ≤ 0xEF) := fun h => absurd (Nat.le_trans hlow h.2) (by decide)
  have hrange : 0xF0 ≤ a ∧ a ≤ 0xF7 := ⟨hlow, hhigh⟩
  rw [decodeChars?.eq_def]
  simp only [if_neg hascii, if_neg htwo, if_neg hthree, if_pos hrange, hx, hy, hz, hch]
  cases decodeChars? r <;> rfl

end Steps

theorem toNat_char_lt (ch : Char) : ch.toNat < 0x110000 := by
  obtain h | h := ch.valid
  · exact Nat.lt_trans h (by decide)
  · exact h.2

/-- What is written is read back, whatever follows it. -/
theorem decodeChars?_encodeChar (ch : Char) (r : Bytes) :
    decodeChars? (encodeChar ch ++ r) = (decodeChars? r).map (ch :: ·) := by
  have hlt := toNat_char_lt ch
  have hmod : ∀ n, n % 64 < 64 := fun n => Nat.mod_lt n (by decide)
  by_cases hone : ch.toNat < 0x80
  · have ha : (UInt8.ofNat ch.toNat).toNat = ch.toNat := UInt8.toNat_ofNat_of_lt' (show _ < 256 by omega)
    rw [encodeChar_one hone, List.singleton_append, decodeChars?_one (by omega), ha, Char.ofNat_toNat]
  by_cases htwo : ch.toNat < 0x800
  · have ha : (UInt8.ofNat (0xC0 + ch.toNat / 64)).toNat = 0xC0 + ch.toNat / 64 :=
      UInt8.toNat_ofNat_of_lt' (show _ < 256 by omega)
    rw [encodeChar_two (k := ch.toNat / 64) (by omega) (hmod ch.toNat) (by omega) (by omega)]
    refine decodeChars?_two (by omega) (by omega) (tailBits?_ofNat (hmod _)) ?_
    rw [char?_eq_some_iff]
    omega
  by_cases hthree : ch.toNat < 0x10000
  · have ha : (UInt8.ofNat (0xE0 + ch.toNat / 4096)).toNat = 0xE0 + ch.toNat / 4096 :=
      UInt8.toNat_ofNat_of_lt' (show _ < 256 by omega)
    rw [encodeChar_three (k := ch.toNat / 4096) (x := ch.toNat / 64 % 64) (by omega) (hmod _)
      (hmod ch.toNat) (by omega) (by omega)]
    refine decodeChars?_three (by omega) (by omega) (tailBits?_ofNat (hmod _))
      (tailBits?_ofNat (hmod _)) ?_
    rw [char?_eq_some_iff]
    omega
  · have ha : (UInt8.ofNat (0xF0 + ch.toNat / 262144)).toNat = 0xF0 + ch.toNat / 262144 :=
      UInt8.toNat_ofNat_of_lt' (show _ < 256 by omega)
    rw [encodeChar_four (k := ch.toNat / 262144) (x := ch.toNat / 4096 % 64) (y := ch.toNat / 64 % 64)
      (by omega) (hmod _) (hmod _) (hmod ch.toNat) (by omega)]
    refine decodeChars?_four (by omega) (by omega) (tailBits?_ofNat (hmod _))
      (tailBits?_ofNat (hmod _)) (tailBits?_ofNat (hmod _)) ?_
    rw [char?_eq_some_iff]
    omega

theorem decodeChars?_flatMap_encodeChar (cs : List Char) :
    decodeChars? (cs.flatMap encodeChar) = some cs := by
  induction cs with
  | nil => rfl
  | cons c cs ih => rw [List.flatMap_cons, decodeChars?_encodeChar, ih, Option.map_some]

/-- Bytes are read as the text that is written so. -/
theorem decode?_eq_some_iff {bs : Bytes} {s : String} : decode? bs = some s ↔ bs = encode s := by
  rw [decode?, encode, Option.map_eq_some_iff]
  constructor
  · intro h
    obtain ⟨cs, hcs, rfl⟩ := h
    rw [String.toList_ofList]
    exact eq_flatMap_encodeChar hcs
  · intro h
    exact ⟨s.toList, h ▸ decodeChars?_flatMap_encodeChar s.toList, String.ofList_toList⟩

end Utf8
end Appraisal
