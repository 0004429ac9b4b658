import Appraisal.Proofs.Measurement.Satisfaction
import Appraisal.Proofs.Text.Hex

/-!
# Appraisal.Proofs.Measurement.Masking

Masks digit by digit. A reference agrees with what was received exactly when, at every position of the mask,
the digits of both are the same under the mask, where a text that has ended goes on with zeros.

* `nibble?`: the digit at a position of a text.
* `applyMask_eq_ok_iff`: what a masked value is, position by position.
* `VendorInfo.ofText_none`: leaving the mask out is giving one that covers every byte of the value.
* `VendorInfo.agrees_nibbles`: agreement, position by position.
-/

namespace Appraisal
namespace Measurement

/-- The digit at a position of a text: zero behind its end, and none where another character stands. -/
def nibble? (cs : List Char) (i : Nat) : Option Nat := (cs[i]?.map Hex.digit?).getD (some 0)

section Nibbles

variable {cs value mask masked : List Char} {i a : Nat}

theorem nibble?_zero (cs : List Char) : nibble? cs 0 = Hex.digit? (cs.headD '0') := by
  cases cs with
  | nil => rfl
  | cons c cs => rfl

theorem nibble?_succ (cs : List Char) (i : Nat) : nibble? cs (i + 1) = nibble? cs.tail i := by
  cases cs with
  | nil => rfl
  | cons c cs => rfl

theorem nibble?_of_getElem? {c : Char} (h : cs[i]? = some c) : nibble? cs i = Hex.digit? c := by
  simp [nibble?, h]

theorem nibble?_of_length_le (h : cs.length ≤ i) : nibble? cs i = some 0 := by
  simp [nibble?, List.getElem?_eq_none h]

theorem exists_nibble?_iff : (∃ a, nibble? cs i = some a) ↔ ∀ c ∈ cs[i]?, Hex.isDigit c = true := by
  by_cases hi : i < cs.length
  · have hget := List.getElem?_eq_getElem hi
    rw [nibble?_of_getElem? hget, hget]
    simp [Hex.isDigit, Option.isSome_iff_exists]
  · have hle := Nat.le_of_not_lt hi
    simp [nibble?_of_length_le hle, List.getElem?_eq_none hle]

theorem exists_nibble? (h : ∀ c ∈ cs, Hex.isDigit c = true) (i : Nat) : ∃ a, nibble? cs i = some a :=
  exists_nibble?_iff.mpr fun c hc => h c (List.mem_of_getElem? hc)

theorem nibble?_lt (h : nibble? cs i = some a) : a < 16 := by
  by_cases hi : i < cs.length
  · rw [nibble?_of_getElem? (List.getElem?_eq_getElem hi)] at h
    exact Hex.digit?_lt h
  · rw [nibble?_of_length_le (Nat.le_of_not_lt hi)] at h
    cases h
    decide

theorem nibble?_and_lt (h : nibble? cs i = some a) (b : Nat) : a &&& b < 16 :=
  Nat.lt_of_le_of_lt Nat.and_le_left (nibble?_lt h)

/-- Digits have their values in either case. -/
theorem nibble?_toUpper (cs : List Char) (i : Nat) :
    nibble? (cs.map Char.toUpper) i = nibble? cs i := by
  by_cases hi : i < cs.length
  · have hget := List.getElem?_eq_getElem hi
    rw [nibble?_of_getElem? hget, ← Hex.digit?_toUpper]
    exact nibble?_of_getElem? (by rw [List.getElem?_map, hget, Option.map_some])
  · have hle := Nat.le_of_not_lt hi
    rw [nibble?_of_length_le hle, nibble?_of_length_le (by rwa [List.length_map])]

theorem nibble?_congr_take {ds : List Char} {n : Nat} (h : cs.take n = ds.take n) (hi : i < n) :
    nibble? cs i = nibble? ds i := by
  have hget : cs[i]? = ds[i]? := by
    rw [← List.getElem?_take_of_lt hi, h, List.getElem?_take_of_lt hi]
  rw [nibble?, nibble?, hget]

/-- `masked` is as long as `mask`, and has at each position, in upper case, the digit of `value` under that
of `mask`. -/
structure MaskedTo (value mask masked : List Char) : Prop where
  length : masked.length = mask.length
  digits : ∀ i < mask.length, ∃ a b, nibble? value i = some a ∧ nibble? mask i = some b ∧
    masked[i]? = some (Hex.upperDigit (a &&& b))

theorem maskedTo_nil_iff : MaskedTo value [] masked ↔ masked = [] := by
  constructor
  · intro h
    exact List.length_eq_zero_iff.mp h.length
  · intro h
    subst h
    exact ⟨rfl, fun i hi => absurd hi (Nat.not_lt_zero i)⟩

theorem maskedTo_cons_iff {m : Char} :
    MaskedTo value (m :: mask) masked ↔
      ∃ a b rest, Hex.digit? (value.headD '0') = some a ∧ Hex.digit? m = some b ∧
        MaskedTo value.tail mask rest ∧ masked = Hex.upperDigit (a &&& b) :: rest := by
  constructor
  · intro h
    obtain ⟨a, b, ha, hb, hfirst⟩ := h.digits 0 (by simp)
    cases masked with
    | nil => cases hfirst
    | cons d rest =>
      cases hfirst
      refine ⟨a, b, rest, nibble?_zero value ▸ ha, hb, ⟨Nat.succ.inj h.length, ?_⟩, rfl⟩
      intro i hi
      simpa [nibble?_succ] using h.digits (i + 1) (by simpa using hi)
  · intro h
    obtain ⟨a, b, rest, ha, hb, hrest, rfl⟩ := h
    refine ⟨congrArg Nat.succ hrest.length, ?_⟩
    intro i hi
    cases i with
    | zero => exact ⟨a, b, (nibble?_zero value).trans ha, hb, rfl⟩
    | succ i => simpa [nibble?_succ] using hrest.digits i (by simpa using hi)

theorem maskDigits_eq_ok_iff {k : Nat} :
    maskDigits k value mask = .ok masked ↔ MaskedTo value mask masked := by
  induction mask generalizing k value masked with
  | nil => rw [maskedTo_nil_iff, maskDigits, Except.ok.injEq, eq_comm]
  | cons m mask ih =>
    simp only [maskedTo_cons_iff, ← ih (k := k + 1), maskDigits]
    split
    · rename_i hvalue
      simp only [hvalue, reduceCtorEq, false_and, exists_false]
    · rename_i hmask
      simp only [hmask, reduceCtorEq, false_and, and_false, exists_false]
    · rename_i a b hvalue hmask
      simp only [hvalue, hmask, Option.some.injEq, exists_and_left, exists_eq_left']
      split
      · rename_i rest hrest
        simp only [hrest, Except.ok.injEq, exists_eq_left', eq_comm]
      · rename_i e hrest
        simp only [hrest, reduceCtorEq, false_and, exists_false]

/-- A mask can be applied where it and the value have digits, and gives the digits of both, ANDed. -/
theorem applyMask_eq_ok_iff {value mask masked : String} :
    applyMask value mask = .ok masked ↔ MaskedTo value.toList mask.toList masked.toList := by
  rw [← maskDigits_eq_ok_iff (k := 0), applyMask]
  split
  · rename_i ds h
    rw [h, Except.ok.injEq, Except.ok.injEq, ← String.toList_inj, String.toList_ofList]
  · rename_i e h
    simp [h]

theorem exists_maskedTo_iff :
    (∃ masked, MaskedTo value mask masked) ↔
      ∀ i < mask.length, ∃ a b, nibble? value i = some a ∧ nibble? mask i = some b := by
  constructor
  · intro h i hi
    obtain ⟨masked, hmasked⟩ := h
    obtain ⟨a, b, ha, hb, -⟩ := hmasked.digits i hi
    exact ⟨a, b, ha, hb⟩
  · intro h
    refine ⟨(List.range mask.length).map fun i =>
      Hex.upperDigit ((nibble? value i).getD 0 &&& (nibble? mask i).getD 0), by simp, ?_⟩
    intro i hi
    obtain ⟨a, b, ha, hb⟩ := h i hi
    exact ⟨a, b, ha, hb, by simp [hi, ha, hb]⟩

/-- Two values are masked to the same text when their digits are the same under the mask. -/
theorem MaskedTo.iff_same {actual : List Char} (h : MaskedTo value mask masked) :
    MaskedTo actual mask masked ↔
      ∀ i < mask.length, ∃ m v a, nibble? mask i = some m ∧ nibble? value i = some v ∧
        nibble? actual i = some a ∧ v &&& m = a &&& m := by
  constructor
  · intro hactual i hi
    obtain ⟨v, m, hv, hm, hleft⟩ := h.digits i hi
    obtain ⟨a, m', ha, hm', hright⟩ := hactual.digits i hi
    rw [hm] at hm'
    cases hm'
    rw [hleft, Option.some.injEq] at hright
    exact ⟨m, v, a, hm, hv, ha, Hex.upperDigit_inj (nibble?_and_lt hv m) (nibble?_and_lt ha m) hright⟩
  · intro hsame
    refine ⟨h.length, ?_⟩
    intro i hi
    obtain ⟨v, m, hv, hm, hdigit⟩ := h.digits i hi
    obtain ⟨m', v', a, hm', hv', ha, hand⟩ := hsame i hi
    rw [hm] at hm'
    rw [hv] at hv'
    cases hm'
    cases hv'
    exact ⟨a, m, ha, hm, hand ▸ hdigit⟩

/-- A masked text has digits only, so that a value which is one, up to case, can be masked itself. -/
theorem MaskedTo.exists_of_upper {actual : List Char}
    (h : MaskedTo actual mask (value.map Char.toUpper)) : ∃ masked, MaskedTo value mask masked := by
  rw [exists_maskedTo_iff]
  intro i hi
  obtain ⟨a, m, ha, hm, hdigit⟩ := h.digits i hi
  have hv := nibble?_of_getElem? hdigit
  rw [nibble?_toUpper, Hex.digit?_upperDigit (nibble?_and_lt ha m)] at hv
  exact ⟨_, m, hv, hm⟩

/-- The case of a value and of a mask does not show in what is masked. -/
theorem maskedTo_map_toUpper :
    MaskedTo (value.map Char.toUpper) (mask.map Char.toUpper) masked ↔ MaskedTo value mask masked := by
  constructor
  · intro h
    exact ⟨by simpa using h.length, by simpa [nibble?_toUpper] using h.digits⟩
  · intro h
    exact ⟨by simpa using h.length, by simpa [nibble?_toUpper] using h.digits⟩

theorem maskedTo_map_toUpper_mask :
    MaskedTo value (mask.map Char.toUpper) masked ↔ MaskedTo value mask masked := by
  constructor
  · intro h
    exact ⟨by simpa using h.length, by simpa [nibble?_toUpper] using h.digits⟩
  · intro h
    exact ⟨by simpa using h.length, by simpa [nibble?_toUpper] using h.digits⟩

/-- What is masked stays as it is under the same mask. -/
theorem MaskedTo.again (h : MaskedTo value mask masked) : MaskedTo masked mask masked := by
  refine ⟨h.length, ?_⟩
  intro i hi
  obtain ⟨a, b, ha, hb, hdigit⟩ := h.digits i hi
  refine ⟨a &&& b, b, ?_, hb, ?_⟩
  · rw [nibble?_of_getElem? hdigit, Hex.digit?_upperDigit (nibble?_and_lt ha b)]
  · rw [Nat.and_assoc, Nat.and_self]
    exact hdigit

theorem applyMask_upper {value mask masked : String} :
    applyMask (Ascii.upper value) (Ascii.upper mask) = .ok masked ↔
      MaskedTo value.toList mask.toList masked.toList := by
  rw [applyMask_eq_ok_iff, Ascii.toList_upper, Ascii.toList_upper, maskedTo_map_toUpper]

end Nibbles

namespace VendorInfo

variable {value actual mask : String}

/-- A reference with a mask holds what is masked, or the value as it is where that cannot be masked. -/
theorem ofText_some (value mask : String) :
    (∃ masked : String, MaskedTo value.toList mask.toList masked.toList ∧
      ofText value (some mask) = ⟨masked, Ascii.upper mask⟩) ∨
    (¬ ∃ masked, MaskedTo value.toList mask.toList masked) ∧
      ofText value (some mask) = ⟨Ascii.upper value, Ascii.upper mask⟩ := by
  cases h : applyMask (Ascii.upper value) (Ascii.upper mask) with
  | ok masked =>
    left
    exact ⟨masked, applyMask_upper.mp h, by simp [ofText, h]⟩
  | error e =>
    right
    refine ⟨?_, by simp [ofText, h]⟩
    intro hmasked
    obtain ⟨masked, hmasked⟩ := hmasked
    rw [← String.toList_ofList (l := masked), ← applyMask_upper, h] at hmasked
    cases hmasked

/-- A mask of all digits leaves the digits of a value as they are. -/
theorem eq_upper_of_maskedTo_replicate {masked : String}
    (h : MaskedTo value.toList (List.replicate value.utf8ByteSize 'F') masked.toList) :
    masked = Ascii.upper value := by
  have hdigit : ∀ i, (hi : i < value.toList.length) →
      ∃ d, Hex.digit? value.toList[i] = some d ∧ masked.toList[i]? = some (Hex.upperDigit d) := by
    intro i hi
    have hle := Hex.length_le_utf8ByteSize value
    obtain ⟨a, b, ha, hb, hmasked⟩ := h.digits i (by rw [List.length_replicate]; omega)
    rw [nibble?_of_getElem? (List.getElem?_eq_getElem hi)] at ha
    rw [nibble?_of_getElem? (List.getElem?_replicate_of_lt (by omega))] at hb
    have hf : Hex.digit? 'F' = some 15 := by decide
    have hand : a &&& 15 = a := by
      rw [Nat.and_two_pow_sub_one_eq_mod a 4, Nat.mod_eq_of_lt (Hex.digit?_lt ha)]
    rw [hf] at hb
    cases hb
    exact ⟨a, ha, hand ▸ hmasked⟩
  have hsingle : ∀ c ∈ value.toList, c.utf8Size = 1 := by
    intro c hc
    obtain ⟨i, hi, rfl⟩ := List.getElem_of_mem hc
    obtain ⟨d, hd, -⟩ := hdigit i hi
    exact Hex.utf8Size_of_digit? hd
  have hsize := Hex.utf8ByteSize_ofList hsingle
  rw [String.ofList_toList] at hsize
  have hlength := h.length
  rw [List.length_replicate] at hlength
  rw [← String.toList_inj, Ascii.toList_upper]
  apply List.ext_getElem?
  intro i
  by_cases hi : i < value.toList.length
  · obtain ⟨d, hd, hmasked⟩ := hdigit i hi
    rw [hmasked, List.getElem?_map, List.getElem?_eq_getElem hi, Option.map_some,
      Hex.toUpper_eq_upperDigit hd]
  · rw [List.getElem?_eq_none (by omega), List.getElem?_eq_none (by rw [List.length_map]; omega)]

/-- Leaving the mask out is giving one with an `F` for every byte of the value. -/
theorem ofText_none (value : String) :
    ofText value none =
      ofText value (some (String.ofList (List.replicate value.utf8ByteSize 'F'))) := by
  have hmask : Ascii.upper (String.ofList (List.replicate value.utf8ByteSize 'F')) =
      String.ofList (List.replicate value.utf8ByteSize 'F') := by
    rw [Ascii.upper, String.toList_ofList, List.map_replicate]
    rfl
  have hnone : ofText value none =
      ⟨Ascii.upper value, String.ofList (List.replicate value.utf8ByteSize 'F')⟩ := by
    rw [ofText, Ascii.utf8ByteSize_upper]
  obtain ⟨masked, hmasked, hsome⟩ | ⟨-, hsome⟩ :=
    ofText_some value (String.ofList (List.replicate value.utf8ByteSize 'F'))
  · rw [String.toList_ofList] at hmasked
    rw [hnone, hsome, hmask, eq_upper_of_maskedTo_replicate hmasked]
  · rw [hnone, hsome, hmask]

/-- Vendor information from bytes: their digits, with a mask that covers all of them. -/
def ofBytes (data : Bytes) : VendorInfo :=
  ⟨Hex.upper data, String.ofList (List.replicate (2 * data.length) 'F')⟩

theorem ofText_upper (data : Bytes) : ofText (Hex.upper data) none = ofBytes data := by
  rw [ofText, Hex.upper_upper, Hex.utf8ByteSize_upper]
  rfl

theorem agrees_ofText_some_iff :
    (ofText value (some mask)).agrees (ofText actual none) = true ↔
      ∀ i < mask.toList.length, ∃ m v a, nibble? mask.toList i = some m ∧
        nibble? value.toList i = some v ∧ nibble? actual.toList i = some a ∧ v &&& m = a &&& m := by
  have hactual : (ofText actual none).value = Ascii.upper actual := rfl
  rw [agrees_iff, hactual]
  obtain ⟨masked, hmasked, hsome⟩ | ⟨hnot, hsome⟩ := ofText_some value mask
  · rw [hsome, applyMask_upper, hmasked.iff_same]
  · rw [hsome, applyMask_upper, Ascii.toList_upper]
    constructor
    · intro h
      exact absurd h.exists_of_upper hnot
    · intro h
      refine absurd (exists_maskedTo_iff.mpr ?_) hnot
      intro i hi
      obtain ⟨m, v, a, hm, hv, -, -⟩ := h i hi
      exact ⟨v, m, hv, hm⟩

/-- The mask that counts: the one given, or an `F` for every byte of the value. -/
def maskOf (value : String) (mask : Option String) : List Char :=
  (mask.map String.toList).getD (List.replicate value.utf8ByteSize 'F')

theorem agrees_ofText_iff (value actual : String) (mask : Option String) :
    (ofText value mask).agrees (ofText actual none) = true ↔
      ∀ i < (maskOf value mask).length, ∃ m v a, nibble? (maskOf value mask) i = some m ∧
        nibble? value.toList i = some v ∧ nibble? actual.toList i = some a ∧ v &&& m = a &&& m := by
  cases mask with
  | some mask => exact agrees_ofText_some_iff
  | none =>
    rw [ofText_none value, agrees_ofText_some_iff, String.toList_ofList]
    rfl

/-- A reference agrees with what was received exactly when both have digits at every position of the mask,
which are the same under the digit of the mask there. So another character within the mask, in any of the
three, never agrees, and what stands behind the mask does not matter. -/
theorem agrees_nibbles (value actual : String) (mask : Option String) :
    ((ofText value mask).agrees (ofText actual none) = true ↔
      ∀ i < (maskOf value mask).length, ∃ m v a, nibble? (maskOf value mask) i = some m ∧
        nibble? value.toList i = some v ∧ nibble? actual.toList i = some a ∧ v &&& m = a &&& m) ∧
    (∀ i < (maskOf value mask).length,
      nibble? (maskOf value mask) i = none ∨ nibble? value.toList i = none ∨
        nibble? actual.toList i = none →
      (ofText value mask).agrees (ofText actual none) = false) ∧
    ∀ value' actual' : String, maskOf value' mask = maskOf value mask →
      value'.toList.take (maskOf value mask).length = value.toList.take (maskOf value mask).length →
      actual'.toList.take (maskOf value mask).length = actual.toList.take (maskOf value mask).length →
      (ofText value' mask).agrees (ofText actual' none) =
        (ofText value mask).agrees (ofText actual none) := by
  refine ⟨agrees_ofText_iff value actual mask, ?_, ?_⟩
  · intro i hi hnone
    rw [← Bool.not_eq_true, agrees_ofText_iff]
    intro h
    obtain ⟨m, v, a, hm, hv, ha, -⟩ := h i hi
    simp [hm, hv, ha] at hnone
  · intro value' actual' hmask hvalue hactual
    rw [Bool.eq_iff_iff, agrees_ofText_iff, agrees_ofText_iff, hmask]
    refine forall_congr' fun i => forall_congr' fun hi => ?_
    rw [nibble?_congr_take hvalue hi, nibble?_congr_take hactual hi]

/-- Digits that the mask leaves out may differ, and a value that has ended goes on with zeros. -/
example : (ofText "12" (some "ff0f")).agrees (ofText "129000" none) = true := by decide +kernel

/-- A character that is no digit does not agree even where the mask is zero. -/
example : (ofText "12" (some "ff0f")).agrees (ofText "12x000" none) = false := by decide +kernel

end VendorInfo
end Measurement
end Appraisal
