import Appraisal.Wire.Convert

/-!
# Appraisal.Proofs.Wire.Conversion

The conversion of a field by any table of byte orders, also by one that lacks the field or lists it more
than once. Of the entries for a field the first counts. Its order decides which lengths the firmware's layout
admits, and at which position of the field each converted byte was; a conversion that succeeds is undone by
the same conversion.

* `FirstListed`: the order that a table gives a field.
* `ByteOrder.Fits`, `ByteOrder.origin`: the lengths of an order, and where its bytes come from.
* `getElem?_reverseGroups`, `ByteOrder.getElem?_arrange`: the converted field, byte by byte.
* `convert_eq_ok_iff`, `convert_eq_error_iff`: both ways that a conversion can go.
* `convert_involutive`: all of it, for every table, field, endpoint and byte string.
-/

namespace Appraisal
namespace Wire

variable {table : OrderTable} {f : Field} {o o' : ByteOrder} {e : Endpoint} {bs cs : Bytes} {err : Error}

/-! ## Tables -/

/-- The table gives `f` the order `o` in an entry with no other for `f` in front of it. -/
def FirstListed (table : OrderTable) (f : Field) (o : ByteOrder) : Prop :=
  ∃ before after, table = before ++ (f, o) :: after ∧ ∀ entry ∈ before, entry.1 ≠ f

theorem orderOf?_eq_some_iff : table.orderOf? f = some o ↔ FirstListed table f o := by
  simp only [OrderTable.orderOf?, Option.map_eq_some_iff, List.find?_eq_some_iff_append, FirstListed]
  constructor
  · rintro ⟨⟨g, _⟩, ⟨hg, before, after, rfl, hbefore⟩, rfl⟩
    obtain rfl : g = f := by simpa using hg
    exact ⟨before, after, rfl, by simpa using hbefore⟩
  · rintro ⟨before, after, rfl, hbefore⟩
    exact ⟨(f, o), ⟨by simp, before, after, rfl, by simpa using hbefore⟩, rfl⟩

theorem orderOf?_eq_none_iff : table.orderOf? f = none ↔ ∀ o, (f, o) ∉ table := by
  simp only [OrderTable.orderOf?, Option.map_eq_none_iff, List.find?_eq_none, beq_iff_eq]
  constructor
  · exact fun hnone o hmem => hnone _ hmem rfl
  · rintro hnone ⟨_, o⟩ hmem rfl
    exact hnone o hmem

theorem FirstListed.mem (h : FirstListed table f o) : (f, o) ∈ table := by
  obtain ⟨before, after, rfl, -⟩ := h
  simp

theorem FirstListed.unique (h : FirstListed table f o) (h' : FirstListed table f o') : o = o' := by
  rw [← orderOf?_eq_some_iff] at h h'
  exact Option.some.inj (h.symm.trans h')

/-- A field that a table lists at all, it lists first somewhere. -/
theorem exists_firstListed (h : (f, o) ∈ table) : ∃ o', FirstListed table f o' := by
  cases horder : table.orderOf? f with
  | none => exact absurd h (orderOf?_eq_none_iff.mp horder o)
  | some o' => exact ⟨o', orderOf?_eq_some_iff.mp horder⟩

/-! ## Lengths -/

/-- The lengths of a field that has the order in the firmware's layout. -/
def ByteOrder.Fits : ByteOrder → Nat → Prop
  | kept, _ => True
  | words32, n => 4 ∣ n
  | words64, n => 8 ∣ n
  | integer, n => n = 2 ∨ n = 4 ∨ n = 8

theorem ByteOrder.admits_iff_fits {n : Nat} : o.admits n = true ↔ o.Fits n := by
  cases o <;> simp [admits, Fits, Nat.dvd_iff_mod_eq_zero, or_assoc]

instance (o : ByteOrder) (n : Nat) : Decidable (o.Fits n) :=
  decidable_of_iff (o.admits n = true) ByteOrder.admits_iff_fits

/-! ## Positions -/

/-- The position that lies opposite `j` in its group of `w`. -/
def opposite (w j : Nat) : Nat := w * (j / w) + (w - 1 - j % w)

theorem opposite_of_lt {w j : Nat} (h : j < w) : opposite w j = w - 1 - j := by
  rw [opposite, Nat.div_eq_of_lt h, Nat.mod_eq_of_lt h, Nat.mul_zero, Nat.zero_add]

theorem opposite_add {w : Nat} (h : 0 < w) (j : Nat) : opposite w (w + j) = w + opposite w j := by
  rw [opposite, opposite, Nat.add_div_left j h, Nat.add_mod_left, Nat.mul_succ]
  omega

/-- The reversal of whole groups takes each byte from the position opposite. -/
theorem getElem?_reverseGroups {w j : Nat} (h : w + 1 ∣ bs.length) (hj : j < bs.length) :
    (reverseGroups w bs)[j]? = bs[opposite (w + 1) j]? := by
  fun_induction reverseGroups w bs generalizing j with
  | case1 bs hle =>
    have hshort := Nat.le_of_dvd (Nat.zero_lt_of_lt hj) h
    omega
  | case2 bs hgt ih =>
    have hgroup : (bs.take (w + 1)).length = w + 1 := by
      rw [List.length_take]
      omega
    rcases Nat.lt_or_ge j (w + 1) with hfirst | hlater
    · rw [List.getElem?_append_left (by rw [List.length_reverse]; omega),
        List.getElem?_reverse (by omega), hgroup, List.getElem?_take_of_lt (by omega),
        opposite_of_lt hfirst]
    · -- as far behind the first group as in a field without it
      obtain ⟨k, rfl⟩ := Nat.exists_eq_add_of_le hlater
      have hrest : (bs.drop (w + 1)).length = bs.length - (w + 1) := List.length_drop
      have hdvd : w + 1 ∣ (bs.drop (w + 1)).length := hrest ▸ Nat.dvd_sub h (Nat.dvd_refl _)
      rw [List.getElem?_append_right (by rw [List.length_reverse]; omega), List.length_reverse,
        hgroup, Nat.add_sub_cancel_left, ih hdvd (by omega), List.getElem?_drop,
        opposite_add (Nat.succ_pos w)]

namespace ByteOrder

/-- Where the byte at `j` of a converted field of `n` bytes was before. -/
def origin (n j : Nat) : ByteOrder → Endpoint → Nat
  | _, .service | kept, .firmware => j
  | words32, .firmware => opposite 4 j
  | words64, .firmware => opposite 8 j
  | integer, .firmware => n - 1 - j

theorem getElem?_arrange {j : Nat} (h : e = .firmware → o.Fits bs.length) (hj : j < bs.length) :
    (o.arrange e bs)[j]? = bs[o.origin bs.length j e]? := by
  cases e with
  | service => rfl
  | firmware =>
    cases o with
    | kept => rfl
    | words32 => exact getElem?_reverseGroups (h rfl) hj
    | words64 => exact getElem?_reverseGroups (h rfl) hj
    | integer => exact List.getElem?_reverse hj

/-- A field that may have the order is itself again behind two conversions. -/
theorem arrange_arrange_of_fits (h : e = .firmware → o.Fits bs.length) :
    o.arrange e (o.arrange e bs) = bs := by
  cases e with
  | service => rfl
  | firmware => exact arrange_arrange (admits_iff_fits.mpr (h rfl))

end ByteOrder

/-! ## Outcomes -/

/-- Why a field of `n` bytes is not converted. -/
inductive Refused (table : OrderTable) (f : Field) (n : Nat) : Endpoint → Error → Prop
  | unlisted {e : Endpoint} (h : ∀ o, (f, o) ∉ table) : Refused table f n e (.missingByteOrder f)
  | words32 (h : FirstListed table f .words32) (hn : ¬ ByteOrder.words32.Fits n) :
    Refused table f n .firmware (.invalidSwapWindow n 4)
  | words64 (h : FirstListed table f .words64) (hn : ¬ ByteOrder.words64.Fits n) :
    Refused table f n .firmware (.invalidSwapWindow n 8)
  | integer (h : FirstListed table f .integer) (hn : ¬ ByteOrder.integer.Fits n) :
    Refused table f n .firmware (.invalidIntegerWidth f n)

/-- A field that the table lists is converted, in the service's layout at any length. -/
theorem convert_of_fits (hlisted : FirstListed table f o) (hfits : e = .firmware → o.Fits bs.length) :
    convert table f bs e = .ok (o.arrange e bs) := by
  rw [convert, orderOf?_eq_some_iff.mpr hlisted]
  cases e with
  | service => rfl
  | firmware =>
    have hadmits := ByteOrder.admits_iff_fits.mpr (hfits rfl)
    simp [ByteOrder.violation?, hadmits, ByteOrder.arrange]

theorem convert_of_refused (h : Refused table f bs.length e err) :
    convert table f bs e = .error err := by
  rw [convert]
  cases h with
  | unlisted h => rw [orderOf?_eq_none_iff.mpr h]
  | words32 h hn | words64 h hn | integer h hn =>
    have hadmits := mt ByteOrder.admits_iff_fits.mp hn
    simp [orderOf?_eq_some_iff.mpr h, ByteOrder.violation?, hadmits]

/-- Every field is one or the other, so nothing else can come of a conversion. -/
theorem fits_or_refused (table : OrderTable) (f : Field) (n : Nat) (e : Endpoint) :
    (∃ o, FirstListed table f o ∧ (e = .firmware → o.Fits n)) ∨ ∃ err, Refused table f n e err := by
  cases horder : table.orderOf? f with
  | none => exact .inr ⟨_, .unlisted (orderOf?_eq_none_iff.mp horder)⟩
  | some o =>
    have hlisted := orderOf?_eq_some_iff.mp horder
    by_cases hfits : e = .firmware → o.Fits n
    · exact .inl ⟨o, hlisted, hfits⟩
    · obtain ⟨rfl, hn⟩ := Classical.not_imp.mp hfits
      cases o with
      | kept => exact absurd trivial hn
      | words32 => exact .inr ⟨_, .words32 hlisted hn⟩
      | words64 => exact .inr ⟨_, .words64 hlisted hn⟩
      | integer => exact .inr ⟨_, .integer hlisted hn⟩

theorem convert_eq_ok_iff :
    convert table f bs e = .ok cs ↔
      ∃ o, FirstListed table f o ∧ (e = .firmware → o.Fits bs.length) ∧ o.arrange e bs = cs := by
  constructor
  · intro hok
    rcases fits_or_refused table f bs.length e with ⟨o, hlisted, hfits⟩ | ⟨err, hrefused⟩
    · rw [convert_of_fits hlisted hfits] at hok
      exact ⟨o, hlisted, hfits, Except.ok.inj hok⟩
    · rw [convert_of_refused hrefused] at hok
      cases hok
  · rintro ⟨o, hlisted, hfits, rfl⟩
    exact convert_of_fits hlisted hfits

theorem convert_eq_error_iff :
    convert table f bs e = .error err ↔ Refused table f bs.length e err := by
  refine ⟨fun herr => ?_, convert_of_refused⟩
  rcases fits_or_refused table f bs.length e with ⟨o, hlisted, hfits⟩ | ⟨err', hrefused⟩
  · rw [convert_of_fits hlisted hfits] at herr
    cases herr
  · rw [convert_of_refused hrefused] at herr
    exact Except.error.inj herr ▸ hrefused

/-- A field is converted exactly when the table lists it and, for the firmware, the first order that it lists
fits the length; otherwise the conversion says what is wrong. The converted field has the length of the
field and its bytes, each from the position that the order gives it, and is the field again behind the same
conversion. -/
theorem convert_involutive (table : OrderTable) (f : Field) (bs : Bytes) (e : Endpoint) :
    ((∃ cs, convert table f bs e = .ok cs) ↔
      (∃ o, (f, o) ∈ table) ∧ (e = .firmware → ∀ o, FirstListed table f o → o.Fits bs.length)) ∧
    (∀ err, convert table f bs e = .error err ↔ Refused table f bs.length e err) ∧
    (∀ o cs, FirstListed table f o → convert table f bs e = .ok cs →
      cs.length = bs.length ∧ ∀ j < bs.length, cs[j]? = bs[o.origin bs.length j e]?) ∧
    ∀ cs, convert table f bs e = .ok cs → convert table f cs e = .ok bs := by
  refine ⟨⟨?_, ?_⟩, fun err => convert_eq_error_iff, ?_, ?_⟩
  · rintro ⟨cs, hok⟩
    obtain ⟨o, hlisted, hfits, -⟩ := convert_eq_ok_iff.mp hok
    exact ⟨⟨o, hlisted.mem⟩, fun he o' hlisted' => hlisted.unique hlisted' ▸ hfits he⟩
  · rintro ⟨⟨o, hmem⟩, hfits⟩
    obtain ⟨o', hlisted⟩ := exists_firstListed hmem
    exact ⟨_, convert_of_fits hlisted fun he => hfits he o' hlisted⟩
  · intro o cs hlisted hok
    obtain ⟨o', hlisted', hfits, rfl⟩ := convert_eq_ok_iff.mp hok
    obtain rfl := hlisted.unique hlisted'
    exact ⟨ByteOrder.length_arrange o e bs, fun j hj => ByteOrder.getElem?_arrange hfits hj⟩
  · intro cs hok
    obtain ⟨o, hlisted, hfits, rfl⟩ := convert_eq_ok_iff.mp hok
    have hfits' : e = .firmware → o.Fits (o.arrange e bs).length := by
      rwa [ByteOrder.length_arrange]
    rw [convert_of_fits hlisted hfits', ByteOrder.arrange_arrange_of_fits hfits]

/-- The first of two orders for a field, behind one for another field. -/
theorem convert_involutive_repeated :
    let table : OrderTable := [(⟨.sigmaM2, .mac⟩, .integer), (⟨.sigmaM2, .publicEfuseValues⟩, .words32),
      (⟨.sigmaM2, .publicEfuseValues⟩, .words64)]
    convert table ⟨.sigmaM2, .publicEfuseValues⟩ [1, 2, 3, 4, 5, 6, 7, 8] .firmware =
      .ok [4, 3, 2, 1, 8, 7, 6, 5] ∧
    convert table ⟨.sigmaM2, .publicEfuseValues⟩ [4, 3, 2, 1, 8, 7, 6, 5] .firmware =
      .ok [1, 2, 3, 4, 5, 6, 7, 8] := by
  intro table
  obtain ⟨hok, -, hbytes, hback⟩ :=
    convert_involutive table ⟨.sigmaM2, .publicEfuseValues⟩ [1, 2, 3, 4, 5, 6, 7, 8] .firmware
  have hlisted : FirstListed table ⟨.sigmaM2, .publicEfuseValues⟩ .words32 :=
    orderOf?_eq_some_iff.mp rfl
  obtain ⟨cs, hcs⟩ := hok.mpr ⟨⟨_, hlisted.mem⟩, fun _ o ho => hlisted.unique ho ▸ by decide⟩
  obtain ⟨hlength, hpositions⟩ := hbytes _ cs hlisted hcs
  have horigin : ∀ j < 8, ([1, 2, 3, 4, 5, 6, 7, 8] : Bytes)[ByteOrder.words32.origin 8 j .firmware]? =
      ([4, 3, 2, 1, 8, 7, 6, 5] : Bytes)[j]? := by decide
  obtain rfl : cs = [4, 3, 2, 1, 8, 7, 6, 5] := by
    refine List.ext_getElem? fun j => ?_
    rcases Nat.lt_or_ge j 8 with hj | hj
    · exact (hpositions j hj).trans (horigin j hj)
    · rw [List.getElem?_eq_none (hlength ▸ hj), List.getElem?_eq_none hj]
  exact ⟨hcs, hback _ hcs⟩

end Wire
end Appraisal
