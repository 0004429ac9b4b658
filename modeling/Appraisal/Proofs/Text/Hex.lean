import Appraisal.Text.Ascii
import Appraisal.Text.Hex

/-!
# Appraisal.Proofs.Text.Hex

Hexadecimal text in either case. A digit has its value whatever its case, is written in one byte, and is in
upper case what the writer writes for its value.

* `digit?_toUpper`, `toUpper_eq_upperDigit`: a digit and its upper case.
* `Ascii.upper_upper`, `Ascii.utf8ByteSize_upper`: what upper case leaves as it is.
* `isSome_decode?_iff`: the texts that write bytes are pairs of digits.
-/

namespace Appraisal
namespace Ascii

/-- What holds of a table of the first 128 characters holds of each of them. -/
theorem of_table {P : Char → Prop} (h : ∀ n : Fin 128, P (Char.ofNat n.val)) {c : Char}
    (hc : c.toNat < 128) : P c := by
  have := h ⟨c.toNat, hc⟩
  rwa [Char.ofNat_toNat] at this

theorem toUpper_of_not_lt {c : Char} (h : ¬ c.toNat < 128) : c.toUpper = c := by
  unfold Char.toUpper
  rw [dif_neg]
  intro hc
  have hle : c.toNat ≤ 122 := hc.2
  omega

theorem toUpper_toUpper (c : Char) : c.toUpper.toUpper = c.toUpper := by
  by_cases h : c.toNat < 128
  · exact of_table (P := fun c => c.toUpper.toUpper = c.toUpper) (by decide) h
  · rw [toUpper_of_not_lt h, toUpper_of_not_lt h]

theorem utf8Size_toUpper (c : Char) : c.toUpper.utf8Size = c.utf8Size := by
  by_cases h : c.toNat < 128
  · exact of_table (P := fun c => c.toUpper.utf8Size = c.utf8Size) (by decide) h
  · rw [toUpper_of_not_lt h]

@[simp] theorem toList_upper (s : String) : (upper s).toList = s.toList.map Char.toUpper :=
  String.toList_ofList

theorem upper_upper (s : String) : upper (upper s) = upper s := by
  rw [upper, toList_upper, List.map_map, upper]
  congr 1
  exact List.map_congr_left fun c _ => toUpper_toUpper c

theorem utf8ByteSize_upper (s : String) : (upper s).utf8ByteSize = s.utf8ByteSize := by
  have hlist : ∀ cs : List Char,
      (String.ofList (cs.map Char.toUpper)).utf8ByteSize = (String.ofList cs).utf8ByteSize := by
    intro cs
    induction cs with
    | nil => rfl
    | cons c cs ih =>
      rw [List.map_cons, String.ofList_cons, String.utf8ByteSize_append, ih, String.ofList_cons,
        String.utf8ByteSize_append, String.utf8ByteSize_singleton, String.utf8ByteSize_singleton,
        utf8Size_toUpper]
  rw [upper, hlist, String.ofList_toList]

end Ascii

namespace Hex

variable {c : Char} {d : Nat}

theorem toNat_lt_of_digit? (h : digit? c = some d) : c.toNat < 128 := by
  unfold digit? at h
  split at h
  · rename_i hc
    have hle : c.toNat ≤ 57 := hc.2
    omega
  · split at h
    · rename_i hc
      have hle : c.toNat ≤ 102 := hc.2
      omega
    · split at h
      · rename_i hc
        have hle : c.toNat ≤ 70 := hc.2
        omega
      · cases h

theorem digit?_lt (h : digit? c = some d) : d < 16 :=
  Ascii.of_table (P := fun c => ∀ d ∈ digit? c, d < 16) (by decide) (toNat_lt_of_digit? h) d h

/-- In upper case a digit is the one that is written for its value. -/
theorem toUpper_eq_upperDigit (h : digit? c = some d) : c.toUpper = upperDigit d :=
  Ascii.of_table (P := fun c => ∀ d ∈ digit? c, c.toUpper = upperDigit d) (by decide)
    (toNat_lt_of_digit? h) d h

theorem utf8Size_of_digit? (h : digit? c = some d) : c.utf8Size = 1 :=
  Ascii.of_table (P := fun c => ∀ d ∈ digit? c, c.utf8Size = 1) (by decide) (toNat_lt_of_digit? h) d h

theorem digit?_toUpper (c : Char) : digit? c.toUpper = digit? c := by
  by_cases h : c.toNat < 128
  · exact Ascii.of_table (P := fun c => digit? c.toUpper = digit? c) (by decide) h
  · rw [Ascii.toUpper_of_not_lt h]

theorem upperDigit_inj {m n : Nat} (hm : m < 16) (hn : n < 16) (h : upperDigit m = upperDigit n) :
    m = n := by
  have := digit?_upperDigit hm
  rw [h, digit?_upperDigit hn] at this
  exact (Option.some.inj this).symm

theorem map_digits {f : Char → Char} {digit digit' : Nat → Char}
    (h : ∀ n, n < 16 → f (digit n) = digit' n) (bs : Bytes) :
    (digits digit bs).map f = digits digit' bs := by
  induction bs with
  | nil => rfl
  | cons b bs ih =>
    have hb := b.toNat_lt
    simp only [digits, List.flatMap_cons, List.map_append, List.map_cons, List.map_nil] at ih ⊢
    rw [ih, h (b.toNat / 16) (by omega), h (b.toNat % 16) (by omega)]

/-- In upper case the case that bytes were written in does not show. -/
theorem upper_lower (bs : Bytes) : Ascii.upper (lower bs) = upper bs := by
  rw [Ascii.upper, lower, String.toList_ofList, map_digits, upper]
  exact fun n hn => toUpper_eq_upperDigit (digit?_lowerDigit hn)

theorem upper_upper (bs : Bytes) : Ascii.upper (upper bs) = upper bs := by
  rw [Ascii.upper, upper, String.toList_ofList, map_digits]
  exact fun n hn => toUpper_eq_upperDigit (digit?_upperDigit hn)

/-- Bytes can be read back from their text. -/
theorem upper_inj {x y : Bytes} : upper x = upper y ↔ x = y := by
  constructor
  · intro h
    have hdigits : digits upperDigit x = digits upperDigit y := String.ofList_injective h
    have hx := decodeDigits?_digits (fun _ => digit?_upperDigit) x
    rw [hdigits, decodeDigits?_digits fun _ => digit?_upperDigit] at hx
    exact (Option.some.inj hx).symm
  · rintro rfl
    rfl

theorem utf8ByteSize_ofList {cs : List Char} (h : ∀ c ∈ cs, c.utf8Size = 1) :
    (String.ofList cs).utf8ByteSize = cs.length := by
  induction cs with
  | nil => rfl
  | cons c cs ih =>
    obtain ⟨hc, hcs⟩ := List.forall_mem_cons.mp h
    rw [String.ofList_cons, String.utf8ByteSize_append, String.utf8ByteSize_singleton, hc, ih hcs,
      List.length_cons, Nat.add_comm]

theorem length_le_utf8ByteSize (s : String) : s.toList.length ≤ s.utf8ByteSize := by
  have hlist : ∀ cs : List Char, cs.length ≤ (String.ofList cs).utf8ByteSize := by
    intro cs
    induction cs with
    | nil => exact Nat.le_refl 0
    | cons c cs ih =>
      have hc := c.utf8Size_pos
      rw [String.ofList_cons, String.utf8ByteSize_append, String.utf8ByteSize_singleton,
        List.length_cons]
      omega
  simpa using hlist s.toList

/-- What holds of every digit holds of all that bytes are written with. -/
theorem forall_mem_digits {P : Char → Prop} {digit : Nat → Char} (h : ∀ n < 16, P (digit n))
    (bs : Bytes) : ∀ c ∈ digits digit bs, P c := by
  intro c hc
  obtain ⟨b, -, hc⟩ := List.mem_flatMap.mp hc
  have hb := b.toNat_lt
  simp only [List.mem_cons, List.not_mem_nil, or_false] at hc
  rcases hc with rfl | rfl
  · exact h _ (by omega)
  · exact h _ (by omega)

theorem utf8ByteSize_upper (bs : Bytes) : (upper bs).utf8ByteSize = 2 * bs.length := by
  rw [upper, utf8ByteSize_ofList, length_digits]
  exact forall_mem_digits (fun n hn => utf8Size_of_digit? (digit?_upperDigit hn)) bs

theorem isDigit_of_mem_upper {bs : Bytes} : ∀ c ∈ (upper bs).toList, isDigit c = true := by
  rw [upper, String.toList_ofList]
  refine forall_mem_digits (fun n hn => ?_) bs
  rw [isDigit, digit?_upperDigit hn]
  rfl

theorem isSome_decodeDigits?_iff {cs : List Char} :
    (decodeDigits? cs).isSome ↔ (∀ c ∈ cs, isDigit c = true) ∧ cs.length % 2 = 0 := by
  induction cs using decodeDigits?.induct with
  | case1 => simp [decodeDigits?]
  | case2 => simp [decodeDigits?]
  | case3 h l r ih =>
    have hstep : (decodeDigits? (h :: l :: r)).isSome =
        (isDigit h && (isDigit l && (decodeDigits? r).isSome)) := by
      cases hh : digit? h <;> cases hl : digit? l <;> cases hr : decodeDigits? r <;>
        simp [decodeDigits?, isDigit, hh, hl, hr]
    have hlength : (h :: l :: r).length % 2 = r.length % 2 := by
      simp only [List.length_cons]
      omega
    rw [hstep, hlength, Bool.and_eq_true, Bool.and_eq_true, ih, List.forall_mem_cons,
      List.forall_mem_cons, and_assoc, and_assoc]

/-- The texts that write bytes are the digits, in pairs. -/
theorem isSome_decode?_iff {s : String} :
    (decode? s).isSome ↔ (∀ c ∈ s.toList, isDigit c = true) ∧ s.length % 2 = 0 := by
  rw [decode?, isSome_decodeDigits?_iff, String.length_toList]

end Hex
end Appraisal
