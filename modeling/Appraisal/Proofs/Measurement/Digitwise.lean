import Appraisal.Proofs.Measurement.Masking

/-!
# Appraisal.Proofs.Measurement.Digitwise

What comes of masking any two texts. Either every compared character is a digit, and the digits are ANDed
one by one, or the first that is none is named. On digits, masking twice is masking once with the mask
masked.

* `exists_maskedTo_iff_digits`: where masking succeeds.
* `FirstFault`, `applyMask_eq_error_iff`: which character it names where it does not.
* `MaskedTo.comp`: masks compose.
* `applyMask_digitwise`: all of it.
-/

namespace Appraisal
namespace Measurement

variable {value mask masked : List Char} {i a b : Nat} {c : Char}

/-! ## Success -/

theorem forall_exists_nibble?_iff (value : List Char) (n : Nat) :
    (∀ i < n, ∃ a, nibble? value i = some a) ↔ ∀ c ∈ value.take n, Hex.isDigit c = true := by
  simp only [exists_nibble?_iff]
  constructor
  · intro h c hc
    obtain ⟨i, hi, rfl⟩ := List.getElem_of_mem hc
    rw [List.length_take] at hi
    rw [List.getElem_take]
    exact h i (by omega) _ (List.getElem?_eq_getElem _)
  · intro h i hi c hc
    obtain ⟨hlt, rfl⟩ := List.getElem?_eq_some_iff.mp hc
    refine h _ (List.mem_take_iff_getElem.mpr ⟨i, by omega, rfl⟩)

/-- A mask can be applied where all of it and as much of the value are digits. -/
theorem exists_maskedTo_iff_digits :
    (∃ masked, MaskedTo value mask masked) ↔
      (∀ c ∈ mask, Hex.isDigit c = true) ∧ ∀ c ∈ value.take mask.length, Hex.isDigit c = true := by
  have hmask := forall_exists_nibble?_iff mask mask.length
  rw [List.take_length] at hmask
  rw [exists_maskedTo_iff, ← hmask, ← forall_exists_nibble?_iff]
  constructor
  · intro h
    refine ⟨fun i hi => ?_, fun i hi => ?_⟩
    · obtain ⟨-, b, -, hb⟩ := h i hi
      exact ⟨b, hb⟩
    · obtain ⟨a, -, ha, -⟩ := h i hi
      exact ⟨a, ha⟩
  · rintro ⟨hmask, hvalue⟩ i hi
    obtain ⟨a, ha⟩ := hvalue i hi
    obtain ⟨b, hb⟩ := hmask i hi
    exact ⟨a, b, ha, hb⟩

/-! ## Faults -/

/-- At position `i` of the mask stands the first character that is no digit, `c`: of those of the value and
of the mask at one position, the value's. -/
structure FirstFault (value mask : List Char) (i : Nat) (c : Char) : Prop where
  index_lt : i < mask.length
  digits : ∀ j < i, nibble? value j ≠ none ∧ nibble? mask j ≠ none
  not_digit : Hex.digit? c = none
  stands : value[i]? = some c ∨ nibble? value i ≠ none ∧ mask[i]? = some c

theorem not_firstFault_nil : ¬ FirstFault value [] i c :=
  fun h => absurd h.index_lt (Nat.not_lt_zero i)

theorem firstFault_cons_zero {m : Char} :
    FirstFault value (m :: mask) 0 c ↔
      Hex.digit? c = none ∧ (value.headD '0' = c ∨ Hex.digit? (value.headD '0') ≠ none ∧ m = c) := by
  have hzero : Hex.digit? '0' ≠ none := by decide
  have hstands : Hex.digit? c = none →
      (value[0]? = some c ↔ value.headD '0' = c) := by
    intro hc
    cases value with
    | nil =>
      -- Behind the end of a value stand zeros, and those are digits.
      simp only [List.getElem?_nil, reduceCtorEq, List.headD_nil, false_iff]
      rintro rfl
      exact hzero hc
    | cons v value => simp
  constructor
  · intro h
    have hstand := h.stands
    rw [hstands h.not_digit, nibble?_zero, List.getElem?_cons_zero, Option.some.injEq] at hstand
    exact ⟨h.not_digit, hstand⟩
  · rintro ⟨hc, hstand⟩
    refine ⟨by simp, fun j hj => absurd hj (Nat.not_lt_zero j), hc, ?_⟩
    rwa [hstands hc, nibble?_zero, List.getElem?_cons_zero, Option.some.injEq]

theorem firstFault_cons_succ {m : Char} :
    FirstFault value (m :: mask) (i + 1) c ↔
      Hex.digit? (value.headD '0') ≠ none ∧ Hex.digit? m ≠ none ∧ FirstFault value.tail mask i c := by
  have hvalue : value[i + 1]? = value.tail[i]? := by rw [List.getElem?_tail]
  constructor
  · intro h
    have hhead := h.digits 0 (Nat.succ_pos i)
    rw [nibble?_zero, nibble?_zero] at hhead
    have hstand := h.stands
    rw [hvalue, nibble?_succ, List.getElem?_cons_succ] at hstand
    refine ⟨hhead.1, hhead.2, Nat.lt_of_succ_lt_succ h.index_lt, fun j hj => ?_, h.not_digit, hstand⟩
    have htail := h.digits (j + 1) (Nat.succ_lt_succ hj)
    rwa [nibble?_succ, nibble?_succ] at htail
  · rintro ⟨hv, hm, h⟩
    refine ⟨Nat.succ_lt_succ h.index_lt, fun j hj => ?_, h.not_digit, ?_⟩
    · cases j with
      | zero => exact ⟨nibble?_zero value ▸ hv, hm⟩
      | succ j =>
        rw [nibble?_succ, nibble?_succ]
        exact h.digits j (Nat.lt_of_succ_lt_succ hj)
    · rw [hvalue, nibble?_succ, List.getElem?_cons_succ]
      exact h.stands

/-- Masking from position `k` on names the first fault, by its distance from there. -/
theorem maskDigits_eq_error_iff (k : Nat) (value mask : List Char) (e : MaskError) :
    maskDigits k value mask = .error e ↔ ∃ i, e.index = k + i ∧ FirstFault value mask i e.char := by
  induction mask generalizing k value with
  | nil => simp [maskDigits, not_firstFault_nil]
  | cons m mask ih =>
    -- The fault is at the front, or in what is behind.
    rw [← Nat.or_exists_add_one]
    simp only [Nat.add_zero, ← Nat.add_assoc, Nat.add_right_comm k _ 1]
    simp only [firstFault_cons_zero, firstFault_cons_succ, maskDigits]
    split
    · rename_i hvalue
      obtain ⟨char, index⟩ := e
      simp only [hvalue, ne_eq, not_true_eq_false, false_and, and_false, or_false, exists_false,
        Except.error.injEq, MaskError.mk.injEq]
      constructor
      · rintro ⟨rfl, rfl⟩
        exact ⟨rfl, hvalue, rfl⟩
      · rintro ⟨rfl, -, rfl⟩
        exact ⟨rfl, rfl⟩
    · rename_i a hvalue hmask
      obtain ⟨char, index⟩ := e
      simp only [hvalue, hmask, ne_eq, not_true_eq_false, false_and, and_false, or_false, exists_false,
        Except.error.injEq, MaskError.mk.injEq, reduceCtorEq, not_false_eq_true, true_and]
      constructor
      · rintro ⟨rfl, rfl⟩
        exact ⟨rfl, hmask, .inr rfl⟩
      · rintro ⟨rfl, hchar, rfl | rfl⟩
        · rw [hvalue] at hchar
          cases hchar
        · exact ⟨rfl, rfl⟩
    · rename_i a b hvalue hmask
      have hfront : ¬ (Hex.digit? e.char = none ∧ (value.headD '0' = e.char ∨ m = e.char)) := by
        rintro ⟨hchar, heq | heq⟩
        · rw [← heq, hvalue] at hchar
          cases hchar
        · rw [← heq, hmask] at hchar
          cases hchar
      simp only [hvalue, hmask, ne_eq, reduceCtorEq, not_false_eq_true, true_and, hfront, and_false,
        false_or, ← ih (k := k + 1)]
      split
      · rename_i ds hrest
        simp [hrest]
      · rename_i e' hrest
        rw [hrest]

theorem applyMask_eq_error_iff {value mask : String} {e : MaskError} :
    applyMask value mask = .error e ↔ FirstFault value.toList mask.toList e.index e.char := by
  have hfault := maskDigits_eq_error_iff 0 value.toList mask.toList e
  simp only [Nat.zero_add, exists_eq_left'] at hfault
  rw [← hfault, applyMask]
  split
  · rename_i ds hds
    simp [hds]
  · rename_i e' he'
    simp [he']

/-! ## Composition -/

/-- Everywhere the text has a digit, where zeros go on behind its end. -/
def Digital (cs : List Char) : Prop := ∀ i, ∃ a, nibble? cs i = some a

/-- Everywhere, also behind its end, a masked text has the digits of the value and of the mask, ANDed. -/
theorem MaskedTo.nibble?_eq (h : MaskedTo value mask masked) (ha : nibble? value i = some a)
    (hb : nibble? mask i = some b) : nibble? masked i = some (a &&& b) := by
  by_cases hi : i < mask.length
  · obtain ⟨a', b', ha', hb', hdigit⟩ := h.digits i hi
    cases ha.symm.trans ha'
    cases hb.symm.trans hb'
    rw [nibble?_of_getElem? hdigit, Hex.digit?_upperDigit (nibble?_and_lt ha b)]
  · have hle := Nat.le_of_not_lt hi
    rw [nibble?_of_length_le hle] at hb
    cases hb
    rw [Nat.and_zero]
    exact nibble?_of_length_le (h.length ▸ hle)

/-- Masking twice is masking once, with the first mask under the second. -/
theorem MaskedTo.comp {mask' both twice : List Char} (hvalue : Digital value) (hmask : Digital mask)
    (h : MaskedTo value mask masked) (hboth : MaskedTo mask mask' both)
    (htwice : MaskedTo masked mask' twice) : MaskedTo value both twice := by
  refine ⟨htwice.length.trans hboth.length.symm, ?_⟩
  intro i hi
  obtain ⟨x, d, hx, hd, hdigit⟩ := htwice.digits i (hboth.length ▸ hi)
  obtain ⟨a, ha⟩ := hvalue i
  obtain ⟨b, hb⟩ := hmask i
  have hab := h.nibble?_eq ha hb
  cases hx.symm.trans hab
  refine ⟨a, b &&& d, ha, hboth.nibble?_eq hb hd, ?_⟩
  rw [← Nat.and_assoc]
  exact hdigit

theorem MaskedTo.digital (hvalue : Digital value) (hmask : Digital mask) (h : MaskedTo value mask masked) :
    Digital masked := by
  intro i
  obtain ⟨a, ha⟩ := hvalue i
  obtain ⟨b, hb⟩ := hmask i
  exact ⟨a &&& b, h.nibble?_eq ha hb⟩

theorem exists_applyMask_iff {value mask : String} :
    (∃ masked, applyMask value mask = .ok masked) ↔
      ∃ masked, MaskedTo value.toList mask.toList masked := by
  simp only [applyMask_eq_ok_iff]
  constructor
  · rintro ⟨masked, h⟩
    exact ⟨masked.toList, h⟩
  · rintro ⟨masked, h⟩
    exact ⟨String.ofList masked, by rwa [String.toList_ofList]⟩

theorem exists_applyMask_of_digital {value mask : String} (hvalue : Digital value.toList)
    (hmask : Digital mask.toList) : ∃ masked, applyMask value mask = .ok masked := by
  refine exists_applyMask_iff.mpr (exists_maskedTo_iff.mpr fun i _ => ?_)
  obtain ⟨a, ha⟩ := hvalue i
  obtain ⟨b, hb⟩ := hmask i
  exact ⟨a, b, ha, hb⟩

theorem applyMask_comp {value mask mask' : String} (hvalue : Digital value.toList)
    (hmask : Digital mask.toList) (hmask' : Digital mask'.toList) :
    ∃ masked both twice, applyMask value mask = .ok masked ∧ applyMask mask mask' = .ok both ∧
      applyMask masked mask' = .ok twice ∧ applyMask value both = .ok twice := by
  obtain ⟨masked, hmasked⟩ := exists_applyMask_of_digital hvalue hmask
  obtain ⟨both, hboth⟩ := exists_applyMask_of_digital hmask hmask'
  have hcut := applyMask_eq_ok_iff.mp hmasked
  obtain ⟨twice, htwice⟩ := exists_applyMask_of_digital (hcut.digital hvalue hmask) hmask'
  refine ⟨masked, both, twice, hmasked, hboth, htwice, applyMask_eq_ok_iff.mpr ?_⟩
  exact hcut.comp hvalue hmask (applyMask_eq_ok_iff.mp hboth) (applyMask_eq_ok_iff.mp htwice)

/-- Masking any two texts. It succeeds exactly where the mask and as much of the value are digits, and gives
as many digits as the mask has, in upper case, each the value's (zero where that has ended) under the mask's.
Elsewhere it names the first character that is none, at its position, the value's before the mask's. On
digits of any lengths, masking twice is masking with one mask under the other. -/
theorem applyMask_digitwise (value mask : String) :
    ((∃ masked, applyMask value mask = .ok masked) ↔
      (∀ c ∈ mask.toList, Hex.isDigit c = true) ∧
        ∀ c ∈ value.toList.take mask.toList.length, Hex.isDigit c = true) ∧
    (∀ masked, applyMask value mask = .ok masked ↔
      MaskedTo value.toList mask.toList masked.toList) ∧
    (∀ e, applyMask value mask = .error e ↔ FirstFault value.toList mask.toList e.index e.char) ∧
    ∀ mask' : String, (∀ c ∈ value.toList, Hex.isDigit c = true) →
      (∀ c ∈ mask.toList, Hex.isDigit c = true) → (∀ c ∈ mask'.toList, Hex.isDigit c = true) →
      ∃ masked both twice, applyMask value mask = .ok masked ∧ applyMask mask mask' = .ok both ∧
        applyMask masked mask' = .ok twice ∧ applyMask value both = .ok twice := by
  refine ⟨?_, fun masked => applyMask_eq_ok_iff, fun e => applyMask_eq_error_iff, ?_⟩
  · rw [exists_applyMask_iff, exists_maskedTo_iff_digits]
  · intro mask' hvalue hmask hmask'
    exact applyMask_comp (exists_nibble? hvalue) (exists_nibble? hmask) (exists_nibble? hmask')

/-- A short value under two masks, the second longer than the first, in both cases. -/
theorem applyMask_digitwise_longer :
    (∃ masked both twice, applyMask "aB" "fF0" = .ok masked ∧ applyMask "fF0" "ff3ff" = .ok both ∧
      applyMask masked "ff3ff" = .ok twice ∧ applyMask "aB" both = .ok twice) ∧
    applyMask "aB" "fF0" = .ok "AB0" := by
  obtain ⟨-, hok, -, hcomp⟩ := applyMask_digitwise "aB" "fF0"
  have hdigits (text : String) (h : text.toList.all Hex.isDigit = true) :
      ∀ c ∈ text.toList, Hex.isDigit c = true := List.all_eq_true.mp h
  have htwice := hcomp "ff3ff" (hdigits "aB" rfl) (hdigits "fF0" rfl) (hdigits "ff3ff" rfl)
  refine ⟨htwice, (hok "AB0").mpr ⟨rfl, ?_⟩⟩
  intro i hi
  match i, hi with
  | 0, _ => exact ⟨10, 15, rfl, rfl, rfl⟩
  | 1, _ => exact ⟨11, 15, rfl, rfl, rfl⟩
  | 2, _ => exact ⟨0, 0, rfl, rfl, rfl⟩

/-- The value's character is named before the mask's, and positions count characters. -/
example : applyMask "0é1" "0éé" = .error ⟨'é', 1⟩ := by rfl

end Measurement
end Appraisal
