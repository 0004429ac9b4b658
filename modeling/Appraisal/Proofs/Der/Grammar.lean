import Appraisal.Der.Element
import Mathlib.Data.List.Forall2

/-!
# Appraisal.Proofs.Der.Grammar

How DER elements are written: identifier, length and content, one after the other. Besides the shortest forms
there are longer ones, for the tag number and for the length; every form that is read is here. Tag numbers
have 32 bits, and what is written above them does not count.

* `septets`, `base128`: numbers in base 128, with every byte marked that has another behind it.
* `Identifies`, `LengthOctets`, `Element.Written`: the written forms of the parts and of an element.
* `Element.read?_eq_some_iff`: an element is read from the bytes that begin with a written form of it.
* `elements?_eq_some_iff`: elements are read from their written forms in a row.
* `Element.read?_prefix`: of an element that is cut off nothing is read.
-/

namespace Appraisal
namespace Der

/-- The number that digits in base 128 write, most significant first, behind those that write `acc`. -/
def base128 (acc : Nat) (ds : List Nat) : Nat := ds.foldl (fun n d => n * 128 + d) acc

/-- The bytes of digits in base 128: all but the last are marked. -/
def septets : List Nat → Bytes
  | [] => []
  | [d] => [UInt8.ofNat d]
  | d :: ds => UInt8.ofNat (0x80 + d) :: septets ds

def TagClass.mark : TagClass → Nat
  | universal => 0
  | application => 0x40
  | contextSpecific => 0x80
  | privateUse => 0xC0

/-- The first identifier byte: class, form, and a number up to 31. -/
def leading (c : TagClass) (constructed : Bool) (low : Nat) : UInt8 :=
  UInt8.ofNat (c.mark + constructed.toNat * 0x20 + low)

/-- The identifier bytes of a tag: one for a number below 31, else its digits in base 128, five at most. -/
inductive Identifies (c : TagClass) (constructed : Bool) : Nat → Bytes → Prop where
  | low {n : Nat} : n < 31 → Identifies c constructed n [leading c constructed n]
  | high {ds : List Nat} : ds ≠ [] → ds.length ≤ 5 → (∀ d ∈ ds, d < 128) →
      Identifies c constructed (base128 0 ds % 0x100000000) (leading c constructed 31 :: septets ds)

/-- The length bytes of a content: one for a length below 128, else their number and the length in them. -/
inductive LengthOctets : Nat → Bytes → Prop where
  | short {n : Nat} : n < 0x80 → LengthOctets n [UInt8.ofNat n]
  | long {bs : Bytes} : bs ≠ [] → bs.length < 0x7F →
      LengthOctets (Bytes.toNatBE bs) (UInt8.ofNat (0x80 + bs.length) :: bs)

/-- The written forms of an element. -/
inductive Element.Written (e : Element) : Bytes → Prop where
  | mk {i l : Bytes} : Identifies e.tagClass e.constructed e.tag i → LengthOctets e.content.length l →
      Written e (i ++ (l ++ e.content))

/-- Elements in a row. -/
def InRow (es : List Element) (bs : Bytes) : Prop :=
  ∃ ws, List.Forall₂ Element.Written es ws ∧ bs = ws.flatten

section Identifier

variable {b : UInt8} {c : TagClass} {k : Bool} {n m left acc : Nat} {bs r : Bytes} {ds : List Nat}

theorem base128_mod_congr (h : acc % m = n % m) : base128 acc ds % m = base128 n ds % m := by
  induction ds generalizing acc n with
  | nil => exact h
  | cons d ds ih =>
    refine ih ?_
    rw [Nat.add_mod, Nat.mul_mod, h, ← Nat.mul_mod, ← Nat.add_mod]

theorem base128_cons_mod (acc d : Nat) (ds : List Nat) (m : Nat) :
    base128 acc (d :: ds) % m = base128 ((acc * 128 + d) % m) ds % m :=
  base128_mod_congr (Nat.mod_mod (acc * 128 + d) m).symm

theorem septets_ne_nil (h : ds ≠ []) : septets ds ≠ [] := by
  cases ds with
  | nil => exact absurd rfl h
  | cons d ds => cases ds <;> simp [septets]

theorem septets_cons (d : Nat) (h : ds ≠ []) :
    septets (d :: ds) = UInt8.ofNat (0x80 + d) :: septets ds := by
  cases ds with
  | nil => exact absurd rfl h
  | cons d' ds => rfl

/-- A byte that is not marked is the last digit. -/
theorem eq_singleton_of_septets (hb : b.toNat < 0x80) (hds : ds ≠ []) (hdigits : ∀ d ∈ ds, d < 128)
    (h : b :: bs = septets ds ++ r) : ds = [b.toNat] ∧ bs = r := by
  obtain ⟨d, ds, rfl⟩ := List.exists_cons_of_ne_nil hds
  obtain ⟨hd, -⟩ := List.forall_mem_cons.mp hdigits
  cases ds with
  | nil =>
    obtain ⟨rfl, rfl⟩ := List.cons.inj h
    rw [UInt8.toNat_ofNat_of_lt' (show d < 256 by omega)]
    exact ⟨rfl, rfl⟩
  | cons d' ds =>
    obtain ⟨rfl, -⟩ := List.cons.inj h
    rw [UInt8.toNat_ofNat_of_lt' (show 0x80 + d < 256 by omega)] at hb
    omega

/-- A byte that is marked is a digit with others behind it. -/
theorem eq_cons_of_septets (hb : 0x80 ≤ b.toNat) (hds : ds ≠ []) (hdigits : ∀ d ∈ ds, d < 128)
    (h : b :: bs = septets ds ++ r) :
    ∃ rest, ds = b.toNat % 128 :: rest ∧ rest ≠ [] ∧ bs = septets rest ++ r := by
  obtain ⟨d, ds, rfl⟩ := List.exists_cons_of_ne_nil hds
  obtain ⟨hd, -⟩ := List.forall_mem_cons.mp hdigits
  cases ds with
  | nil =>
    obtain ⟨rfl, -⟩ := List.cons.inj h
    rw [UInt8.toNat_ofNat_of_lt' (show d < 256 by omega)] at hb
    omega
  | cons d' ds =>
    obtain ⟨rfl, rfl⟩ := List.cons.inj h
    rw [UInt8.toNat_ofNat_of_lt' (show 0x80 + d < 256 by omega)]
    refine ⟨d' :: ds, ?_, List.cons_ne_nil _ _, rfl⟩
    rw [show (0x80 + d) % 128 = d by omega]

theorem cons_eq_septets_cons (hb : 0x80 ≤ b.toNat) (hds : ds ≠ []) (r : Bytes) :
    b :: (septets ds ++ r) = septets (b.toNat % 128 :: ds) ++ r := by
  have hlt := b.toNat_lt
  rw [septets_cons _ hds, show 0x80 + b.toNat % 128 = b.toNat by omega, UInt8.ofNat_toNat,
    List.cons_append]

/-- A tag number is read from its digits, of which there may be as many as are left. -/
theorem highTag?_eq_some_iff :
    highTag? acc left bs = some (n, r) ↔
      ∃ ds, ds ≠ [] ∧ ds.length ≤ left ∧ (∀ d ∈ ds, d < 128) ∧ bs = septets ds ++ r ∧
        n = base128 acc ds % 0x100000000 := by
  -- On the bytes; what is read already has to stay open, since each digit changes it.
  induction bs generalizing acc left with
  | nil =>
    have hnone : highTag? acc left [] = none := by cases left <;> rfl
    rw [hnone]
    constructor
    · intro h
      cases h
    · intro h
      obtain ⟨ds, hds, -, -, hbs, -⟩ := h
      exact absurd (List.append_eq_nil_iff.mp hbs.symm).1 (septets_ne_nil hds)
  | cons b bs ih =>
    cases left with
    | zero =>
      constructor
      · intro h
        cases h
      · intro h
        obtain ⟨ds, hds, hlength, -⟩ := h
        exact absurd (List.length_eq_zero_iff.mp (Nat.le_zero.mp hlength)) hds
    | succ left =>
      rw [highTag?]
      by_cases hlast : b < 0x80
      · have hlt : b.toNat < 0x80 := hlast
        rw [if_pos hlast, Nat.mod_eq_of_lt hlt]
        constructor
        · intro h
          cases h
          exact ⟨[b.toNat], by simp, by simp, by simpa using hlt, by simp [septets], rfl⟩
        · intro h
          obtain ⟨ds, hds, -, hdigits, hbs, rfl⟩ := h
          obtain ⟨rfl, rfl⟩ := eq_singleton_of_septets hlt hds hdigits hbs
          rfl
      · have hge : 0x80 ≤ b.toNat := Nat.not_lt.mp hlast
        rw [if_neg hlast, ih]
        constructor
        · intro h
          obtain ⟨ds, hds, hlength, hdigits, rfl, rfl⟩ := h
          refine ⟨b.toNat % 128 :: ds, by simp, by simpa using hlength, ?_,
            cons_eq_septets_cons hge hds r, by rw [base128_cons_mod]⟩
          exact List.forall_mem_cons.mpr ⟨Nat.mod_lt _ (by decide), hdigits⟩
        · intro h
          obtain ⟨ds, hds, hlength, hdigits, hbs, rfl⟩ := h
          obtain ⟨rest, rfl, hrest, rfl⟩ := eq_cons_of_septets hge hds hdigits hbs
          exact ⟨rest, hrest, by simpa using hlength, (List.forall_mem_cons.mp hdigits).2, rfl,
            by rw [base128_cons_mod]⟩

/-- A leading byte tells class, form and number apart. -/
theorem leading_parts (hn : n < 32) :
    TagClass.ofIdentifier (leading c k n) = c ∧ ((leading c k n).toNat / 32 % 2 == 1) = k ∧
      (leading c k n).toNat % 32 = n := by
  have htable : ∀ n : Fin 32, TagClass.ofIdentifier (leading c k n.val) = c ∧
      ((leading c k n.val).toNat / 32 % 2 == 1) = k ∧ (leading c k n.val).toNat % 32 = n.val := by
    cases c <;> cases k <;> decide
  exact htable ⟨n, hn⟩

theorem eq_leading (b : UInt8) :
    b = leading (.ofIdentifier b) (b.toNat / 32 % 2 == 1) (b.toNat % 32) := by
  have htable : ∀ n : Fin 256, UInt8.ofNat n.val = leading (.ofIdentifier (UInt8.ofNat n.val))
      ((UInt8.ofNat n.val).toNat / 32 % 2 == 1) ((UInt8.ofNat n.val).toNat % 32) := by
    decide +kernel
  have := htable ⟨b.toNat, b.toNat_lt⟩
  rwa [UInt8.ofNat_toNat] at this

/-- A leading byte and the tag number that is read behind it are an identifier. -/
theorem tag?_eq_some_iff :
    (∃ b bs', bs = b :: bs' ∧ TagClass.ofIdentifier b = c ∧ (b.toNat / 32 % 2 == 1) = k ∧
      tag? b bs' = some (n, r)) ↔ ∃ i, Identifies c k n i ∧ bs = i ++ r := by
  constructor
  · intro h
    obtain ⟨b, bs, rfl, rfl, rfl, htag⟩ := h
    unfold tag? at htag
    split at htag
    · rename_i hlow
      obtain ⟨ds, hds, hlength, hdigits, rfl, rfl⟩ := highTag?_eq_some_iff.mp htag
      refine ⟨_, .high hds hlength hdigits, ?_⟩
      rw [← hlow, ← eq_leading]
      rfl
    · rename_i hlow
      cases htag
      have hlt : b.toNat % 32 < 31 := by omega
      refine ⟨_, .low hlt, ?_⟩
      rw [← eq_leading]
      rfl
  · intro h
    obtain ⟨i, hi, rfl⟩ := h
    cases hi with
    | low hn =>
      obtain ⟨hclass, hform, hnumber⟩ := leading_parts (c := c) (k := k) (show n < 32 by omega)
      refine ⟨_, _, rfl, hclass, hform, ?_⟩
      rw [tag?, hnumber, if_neg (by omega)]
      rfl
    | high hds hlength hdigits =>
      obtain ⟨hclass, hform, hnumber⟩ := leading_parts (c := c) (k := k) (show 31 < 32 by decide)
      refine ⟨_, _, rfl, hclass, hform, ?_⟩
      rw [tag?, hnumber, if_pos rfl]
      exact highTag?_eq_some_iff.mpr ⟨_, hds, hlength, hdigits, rfl, rfl⟩

end Identifier

section Length

variable {n : Nat} {bs r w : Bytes}

/-- A length is read from its bytes, whatever follows them. -/
theorem length?_append (h : LengthOctets n w) (r : Bytes) : length? (w ++ r) = some (n, r) := by
  cases h with
  | short hn =>
    have hb : (UInt8.ofNat n).toNat = n := UInt8.toNat_ofNat_of_lt' (show n < 256 by omega)
    have hlt : UInt8.ofNat n < 0x80 := by
      rw [UInt8.lt_iff_toNat_lt, hb]
      exact hn
    rw [List.singleton_append, length?, if_pos hlt, hb]
  | @long bs hne hlength =>
    have hpos := List.length_pos_of_ne_nil hne
    have hb : (UInt8.ofNat (0x80 + bs.length)).toNat = 0x80 + bs.length :=
      UInt8.toNat_ofNat_of_lt' (show 0x80 + bs.length < 256 by omega)
    have hlt : ¬ UInt8.ofNat (0x80 + bs.length) < 0x80 := by
      rw [UInt8.lt_iff_toNat_lt, hb]
      exact Nat.not_lt.mpr (Nat.le_add_right _ _)
    have hdefinite : ¬ (UInt8.ofNat (0x80 + bs.length) = 0x80 ∨
        UInt8.ofNat (0x80 + bs.length) = 0xFF) := by
      rw [← UInt8.toNat_inj, ← UInt8.toNat_inj, hb]
      show ¬ (0x80 + bs.length = 0x80 ∨ 0x80 + bs.length = 0xFF)
      omega
    rw [List.cons_append, length?, if_neg hlt, if_neg hdefinite]
    dsimp only
    rw [hb, Nat.add_sub_cancel_left, if_pos (by simp), List.take_left, List.drop_left]

theorem exists_of_length? (h : length? bs = some (n, r)) : ∃ w, LengthOctets n w ∧ bs = w ++ r := by
  cases bs with
  | nil => cases h
  | cons b bs =>
    have hb := b.toNat_lt
    rw [length?] at h
    split at h
    · rename_i hlt
      cases h
      exact ⟨[UInt8.ofNat b.toNat], .short hlt, by simp⟩
    · rename_i hge
      split at h
      · cases h
      · rename_i hdefinite
        have hge : 0x80 ≤ b.toNat := Nat.not_lt.mp hge
        have hne : ¬ (b.toNat = 0x80 ∨ b.toNat = 0xFF) := by
          rw [← UInt8.toNat_inj, ← UInt8.toNat_inj] at hdefinite
          exact hdefinite
        dsimp only at h
        split at h
        · rename_i hle
          obtain ⟨rfl, rfl⟩ := Prod.mk.inj (Option.some.inj h)
          have hlength : (bs.take (b.toNat - 0x80)).length = b.toNat - 0x80 := by
            rw [List.length_take]
            omega
          have hne : bs.take (b.toNat - 0x80) ≠ [] := List.ne_nil_of_length_pos (by omega)
          refine ⟨_, .long hne (by omega), ?_⟩
          · rw [hlength, Nat.add_sub_cancel' hge, UInt8.ofNat_toNat, List.cons_append,
              List.take_append_drop]
        · cases h

end Length

theorem Header.read?_eq_some_iff {hd : Header} {bs r : Bytes} :
    Header.read? bs = some (hd, r) ↔
      ∃ i l, Identifies hd.tagClass hd.constructed hd.tag i ∧ LengthOctets hd.length l ∧
        bs = i ++ (l ++ r) := by
  constructor
  · intro h
    cases bs with
    | nil => cases h
    | cons b bs =>
      rw [Header.read?] at h
      split at h
      · cases h
      · rename_i tag mid htag
        split at h
        · cases h
        · rename_i n rest hlength
          cases h
          obtain ⟨i, hi, hbs⟩ := tag?_eq_some_iff.mp ⟨b, bs, rfl, rfl, rfl, htag⟩
          obtain ⟨l, hl, rfl⟩ := exists_of_length? hlength
          exact ⟨i, l, hi, hl, hbs⟩
  · intro h
    obtain ⟨i, l, hi, hl, rfl⟩ := h
    obtain ⟨b, bs, hbs, hclass, hform, htag⟩ := tag?_eq_some_iff.mpr ⟨i, hi, rfl⟩
    rw [hbs, Header.read?, htag]
    simp only [length?_append hl, hclass, hform]

namespace Element

variable {e e' : Element} {es : List Element} {bs p r w x : Bytes}

/-- An element is read from the bytes that begin with a written form of it, and in no other way. -/
theorem read?_eq_some_iff : read? bs = some (e, r) ↔ ∃ w, e.Written w ∧ bs = w ++ r := by
  constructor
  · intro h
    unfold read? at h
    split at h
    · cases h
    · rename_i hd rest hheader
      obtain ⟨i, l, hi, hl, rfl⟩ := Header.read?_eq_some_iff.mp hheader
      split at h
      · rename_i hle
        cases h
        refine ⟨i ++ (l ++ rest.take hd.length), .mk hi ?_, ?_⟩
        · rwa [List.length_take, Nat.min_eq_left hle]
        · rw [List.append_assoc, List.append_assoc, List.take_append_drop]
      · cases h
  · intro h
    obtain ⟨w, hw, rfl⟩ := h
    obtain ⟨hi, hl⟩ := hw
    rename_i i l
    have hheader : Header.read? (i ++ (l ++ (e.content ++ r))) =
        some (⟨e.tagClass, e.constructed, e.tag, e.content.length⟩, e.content ++ r) :=
      Header.read?_eq_some_iff.mpr ⟨i, l, hi, hl, rfl⟩
    rw [List.append_assoc, List.append_assoc, read?, hheader]
    simp

theorem written_iff : e.Written w ↔ read? w = some (e, []) := by
  rw [read?_eq_some_iff]
  constructor
  · intro h
    exact ⟨w, h, (List.append_nil w).symm⟩
  · intro h
    obtain ⟨w', hw', rfl⟩ := h
    rwa [List.append_nil]

theorem read?_append (h : read? bs = some (e, r)) (x : Bytes) : read? (bs ++ x) = some (e, r ++ x) := by
  obtain ⟨w, hw, rfl⟩ := read?_eq_some_iff.mp h
  exact read?_eq_some_iff.mpr ⟨w, hw, List.append_assoc ..⟩

/-- Of an element that is cut off nothing is read. -/
theorem read?_prefix (h : e.Written w) (hp : p <+: w) (hne : p ≠ w) : read? p = none := by
  obtain ⟨x, rfl⟩ := hp
  cases hread : read? p with
  | none => rfl
  | some result =>
    obtain ⟨e', r⟩ := result
    have hwhole := read?_append hread x
    rw [written_iff.mp h] at hwhole
    simp only [Option.some.injEq, Prod.mk.injEq, List.nil_eq, List.append_eq_nil_iff] at hwhole
    rw [hwhole.2.2, List.append_nil] at hne
    exact absurd rfl hne

end Element

theorem inRow_nil_iff {bs : Bytes} : InRow [] bs ↔ bs = [] := by
  constructor
  · intro h
    obtain ⟨ws, hws, rfl⟩ := h
    cases hws
    rfl
  · intro h
    subst h
    exact ⟨[], .nil, rfl⟩

theorem inRow_cons_iff {e : Element} {es : List Element} {bs : Bytes} :
    InRow (e :: es) bs ↔ ∃ w r, e.Written w ∧ InRow es r ∧ bs = w ++ r := by
  constructor
  · intro h
    obtain ⟨ws, hws, rfl⟩ := h
    cases hws with
    | cons hw hrest => exact ⟨_, _, hw, ⟨_, hrest, rfl⟩, rfl⟩
  · intro h
    obtain ⟨w, r, hw, ⟨ws, hws, rfl⟩, rfl⟩ := h
    exact ⟨w :: ws, .cons hw hws, rfl⟩

theorem inRow_singleton_iff {e : Element} {bs : Bytes} : InRow [e] bs ↔ e.Written bs := by
  simp [inRow_cons_iff, inRow_nil_iff]

/-- Elements are read from their written forms in a row, and in no other way. -/
theorem elements?_eq_some_iff {es : List Element} {bs : Bytes} :
    elements? bs = some es ↔ InRow es bs := by
  constructor
  · intro h
    fun_induction elements? bs generalizing es with
    | case1 =>
      cases h
      exact inRow_nil_iff.mpr rfl
    | case2 => cases h
    | case3 => cases h
    | case4 bs hne e r hread _ es' hrest ih =>
      cases h
      obtain ⟨w, hw, rfl⟩ := Element.read?_eq_some_iff.mp hread
      exact inRow_cons_iff.mpr ⟨w, r, hw, ih hrest, rfl⟩
  · intro h
    induction es generalizing bs with
    | nil => rw [elements?, if_pos (inRow_nil_iff.mp h)]
    | cons e es ih =>
      obtain ⟨w, r, hw, hr, rfl⟩ := inRow_cons_iff.mp h
      have hread := Element.read?_append (Element.written_iff.mp hw) r
      rw [List.nil_append] at hread
      have hne : w ++ r ≠ [] := by
        intro hnil
        rw [hnil] at hread
        cases hread
      rw [elements?, if_neg hne]
      split
      · rename_i hnone
        rw [hread] at hnone
        cases hnone
      · rename_i e' r' hsome
        rw [hread] at hsome
        cases hsome
        rw [ih hr]

end Der
end Appraisal
