import Appraisal.Json.Shape

/-!
# Appraisal.Proofs.Json.Likeness

When two values are written differently and say the same. The order of members never matters, and a record
does not see members that it has no name for.

* `Shape`: what is read from a value, and from what is inside it.
* `Alike`: values that differ only in the order of members, at any depth, and in members that no record on the
  way to them knows.
* `Value.slots?_alike`: alike records have alike members.
* `Respects`: readers for which alike values are the same; texts, numbers, lists and what may be left out.
-/

namespace Appraisal
namespace Json

/-- What is read from a value: text or a number, a list of one shape, or a record whose members have shapes
by their names. -/
inductive Shape where
  | leaf
  | list (item : Shape)
  | record (slots : List Slot) (member : String → Shape)

namespace Shape

/-- The shape of what stands under a key, as the key is written. -/
def underKey : Shape → Bytes → Shape
  | record _ member, key => (unquote? key).elim leaf member
  | _, _ => leaf

/-- The shape of what stands in an array at a position. A record may be written as one. -/
def atIndex : Shape → Nat → Shape
  | leaf, _ => leaf
  | list item, _ => item
  | record slots member, i => slots[i]?.elim leaf fun slot => member slot.name

end Shape

/-- Two values that differ only in the order of members, at any depth, and in unknown members of records. -/
inductive Alike : Shape → Value → Value → Prop where
  | refl (s : Shape) (v : Value) : Alike s v v
  | symm {s : Shape} {v w : Value} : Alike s v w → Alike s w v
  | trans {s : Shape} {u v w : Value} : Alike s u v → Alike s v w → Alike s u w
  | order {s : Shape} {ms ns : List (Bytes × Value)} : ms.Perm ns → Alike s (.object ms) (.object ns)
  | unknown {slots : List Slot} {member : String → Shape} {key : Bytes} {name : String} {x : Value}
      {ms : List (Bytes × Value)} : unquote? key = some name → (∀ slot ∈ slots, slot.name ≠ name) →
      Alike (.record slots member) (.object ((key, x) :: ms)) (.object ms)
  | member {s : Shape} {key : Bytes} {x y : Value} {ms : List (Bytes × Value)} :
      Alike (s.underKey key) x y → Alike s (.object ((key, x) :: ms)) (.object ((key, y) :: ms))
  | item {s : Shape} {vs ws : List Value} {x y : Value} : Alike (s.atIndex vs.length) x y →
      Alike s (.array (vs ++ x :: ws)) (.array (vs ++ y :: ws))

/-- A reader that reads the same from alike values. -/
def Respects {α : Type} (s : Shape) (read : Value → Option α) : Prop :=
  ∀ v w, Alike s v w → read v = read w

section Readers

variable {α : Type} {s : Shape} {v w : Value} {a b : Option Value} {read : Value → Option α}

/-- What is neither an array nor an object is alike to itself only. -/
theorem Respects.of_scalar (hobject : ∀ ms, read (.object ms) = none)
    (harray : ∀ vs, read (.array vs) = none) : Respects s read := by
  intro v w h
  induction h with
  | refl => rfl
  | symm _ ih => exact ih.symm
  | trans _ _ ih₁ ih₂ => exact ih₁.trans ih₂
  | order | unknown | member => rw [hobject, hobject]
  | item => rw [harray, harray]

theorem respects_text (s : Shape) : Respects s text? := .of_scalar (fun _ => rfl) (fun _ => rfl)

theorem respects_int (s : Shape) : Respects s int? := .of_scalar (fun _ => rfl) (fun _ => rfl)

theorem all?_append_congr {x y : Value} (h : read x = read y) (vs ws : List Value) :
    all? read (vs ++ x :: ws) = all? read (vs ++ y :: ws) := by
  induction vs with
  | nil => rw [List.nil_append, List.nil_append, all?, all?, h]
  | cons v vs ih => rw [List.cons_append, List.cons_append, all?, all?, ih]

theorem Respects.list (hread : Respects s read) : Respects (.list s) (listOf? read) := by
  intro v w h
  generalize hshape : Shape.list s = t at h
  -- Objects are no lists, whatever changes in them.
  induction h with
  | refl => rfl
  | symm _ ih => exact (ih hshape).symm
  | trans _ _ ih₁ ih₂ => exact (ih₁ hshape).trans (ih₂ hshape)
  | order | unknown | member => rfl
  | @item t vs ws x y hitem =>
    subst hshape
    exact all?_append_congr (hread x y hitem) vs ws

theorem Alike.null_iff (h : Alike s v w) : v = .null ↔ w = .null := by
  induction h with
  | refl => exact Iff.rfl
  | symm _ ih => exact ih.symm
  | trans _ _ ih₁ ih₂ => exact ih₁.trans ih₂
  | order | unknown | member | item => simp

theorem Respects.optional (hread : Respects s read) (h : Option.Rel (Alike s) a b) :
    optional? read a = optional? read b := by
  cases h with
  | none => rfl
  | @some v w h =>
    by_cases hnull : v = .null
    · rw [hnull, h.null_iff.mp hnull]
    · have hnull' : w ≠ .null := fun hw => hnull (h.null_iff.mpr hw)
      rw [optional?, optional?, hread v w h]
      · exact hnull'
      · exact hnull

theorem Respects.required (hread : Respects s read) (h : Option.Rel (Alike s) a b) :
    required? read a = required? read b := by
  cases h with
  | none => rfl
  | some h => exact hread _ _ h

theorem Respects.withDefault (hread : Respects s read) (d : α) (h : Option.Rel (Alike s) a b) :
    withDefault? d read a = withDefault? d read b := by
  cases h with
  | none => rfl
  | some h => exact hread _ _ h

end Readers

section Both

variable {α : Type} {R : α → α → Prop} {a b c : Option α}

theorem optionRel_refl (h : ∀ x, R x x) (a : Option α) : Option.Rel R a a := by
  cases a with
  | none => exact .none
  | some x => exact .some (h x)

theorem optionRel_symm (h : ∀ {x y}, R x y → R y x) (hab : Option.Rel R a b) : Option.Rel R b a := by
  cases hab with
  | none => exact .none
  | some hxy => exact .some (h hxy)

theorem optionRel_trans (h : ∀ {x y z}, R x y → R y z → R x z) (hab : Option.Rel R a b)
    (hbc : Option.Rel R b c) : Option.Rel R a c := by
  cases hab with
  | none => exact hbc
  | some hxy =>
    cases hbc with
    | some hyz => exact .some (h hxy hyz)

end Both

section Names

variable {ms ns : List (Bytes × Value)}

theorem named?_cons (key : Bytes) (v : Value) (ms : List (Bytes × Value)) :
    named? ((key, v) :: ms) = (unquote? key).bind fun name => (named? ms).map ((name, v) :: ·) := by
  rw [named?]
  cases unquote? key <;> cases named? ms <;> rfl

theorem named?_perm (h : ms.Perm ns) : Option.Rel List.Perm (named? ms) (named? ns) := by
  induction h with
  | nil => exact .some .nil
  | @cons m ms ns h ih =>
    rw [named?_cons, named?_cons]
    generalize named? ms = rs at ih ⊢
    generalize named? ns = ss at ih ⊢
    cases unquote? m.1 with
    | none => exact .none
    | some name =>
      cases ih with
      | none => exact .none
      | some ih => exact .some (ih.cons _)
  | swap m n ms =>
    rw [named?_cons, named?_cons, named?_cons, named?_cons]
    cases unquote? m.1 <;> cases unquote? n.1 <;> cases named? ms <;>
      first | exact .none | exact .some (.swap ..)
  | trans _ _ ih₁ ih₂ => exact optionRel_trans List.Perm.trans ih₁ ih₂

end Names

section Members

variable {ms ns : List (String × Value)} {name : String} {x y : Value} {R : Value → Value → Prop}

theorem member?_perm (h : ms.Perm ns) (name : String) : member? ms name = member? ns name := by
  have hfilter := h.filter fun m => m.1 == name
  rw [member?, member?]
  generalize ms.filter (fun m => m.1 == name) = as at hfilter
  generalize ns.filter (fun m => m.1 == name) = bs at hfilter
  rcases as with - | ⟨a, - | ⟨a', as⟩⟩
  · rw [List.nil_perm.mp hfilter]
  · rw [List.singleton_perm.mp hfilter]
  · have hlength := hfilter.length_eq
    rcases bs with - | ⟨b, - | ⟨b', bs⟩⟩
    · cases hlength
    · cases hlength
    · rfl

theorem member?_cons_of_ne {n : String} (h : n ≠ name) (x : Value) (ms : List (String × Value)) :
    member? ((n, x) :: ms) name = member? ms name := by
  rw [member?, List.filter_cons_of_neg (by simpa using h), ← member?]

/-- A member under a name counts unless there is another one. -/
theorem member?_cons_self (h : R x y) (name : String) (ms : List (String × Value)) :
    Option.Rel (Option.Rel R) (member? ((name, x) :: ms) name) (member? ((name, y) :: ms) name) := by
  rw [member?, member?, List.filter_cons_of_pos (by simp), List.filter_cons_of_pos (by simp)]
  cases ms.filter fun m => m.1 == name with
  | nil => exact .some (.some h)
  | cons m ms => exact .none

end Members

/-- The members of two records, slot by slot: both lack one, or both have one and these are alike. -/
inductive SlotsAlike (member : String → Shape) : List Slot → List (Option Value) → List (Option Value) → Prop where
  | nil : SlotsAlike member [] [] []
  | cons {slot : Slot} {slots : List Slot} {a b : Option Value} {as bs : List (Option Value)} :
      Option.Rel (Alike (member slot.name)) a b → SlotsAlike member slots as bs →
      SlotsAlike member (slot :: slots) (a :: as) (b :: bs)

namespace SlotsAlike

variable {member : String → Shape} {slots : List Slot} {as bs cs : List (Option Value)}

theorem refl (h : as.length = slots.length) : SlotsAlike member slots as as := by
  induction slots generalizing as with
  | nil =>
    rw [List.length_eq_zero_iff.mp h]
    exact .nil
  | cons slot slots ih =>
    obtain ⟨a, as, rfl⟩ := List.exists_cons_of_length_eq_add_one h
    exact .cons (optionRel_refl (Alike.refl _) a) (ih (Nat.succ.inj h))

theorem symm (h : SlotsAlike member slots as bs) : SlotsAlike member slots bs as := by
  induction h with
  | nil => exact .nil
  | cons hfirst _ ih => exact .cons (optionRel_symm .symm hfirst) ih

theorem trans (h : SlotsAlike member slots as bs) (h' : SlotsAlike member slots bs cs) :
    SlotsAlike member slots as cs := by
  induction h generalizing cs with
  | nil => exact h'
  | cons hfirst _ ih =>
    cases h' with
    | cons hfirst' hrest' => exact .cons (optionRel_trans .trans hfirst hfirst') (ih hrest')

end SlotsAlike

section Slots

variable {member : String → Shape} {slots : List Slot} {as : List (Option Value)}
  {ms ns : List (String × Value)} {vs ws : List Value} {x y v w : Value} {name : String}

theorem length_of_objectSlots? (h : objectSlots? ms slots = some as) : as.length = slots.length := by
  induction slots generalizing as with
  | nil =>
    cases h
    rfl
  | cons slot slots ih =>
    rw [objectSlots?] at h
    split at h
    · rename_i hrest
      cases h
      rw [List.length_cons, List.length_cons, ih hrest]
    · cases h

theorem length_of_arraySlots? (h : arraySlots? vs slots = some as) : as.length = slots.length := by
  induction slots generalizing vs as with
  | nil =>
    cases vs with
    | nil =>
      cases h
      rfl
    | cons v vs => cases h
  | cons slot slots ih =>
    cases vs with
    | nil =>
      rw [arraySlots?] at h
      split at h
      · obtain ⟨rest, hrest, rfl⟩ := Option.map_eq_some_iff.mp h
        rw [List.length_cons, List.length_cons, ih hrest]
      · cases h
    | cons v vs =>
      rw [arraySlots?] at h
      obtain ⟨rest, hrest, rfl⟩ := Option.map_eq_some_iff.mp h
      rw [List.length_cons, List.length_cons, ih hrest]

theorem length_of_slots? (h : v.slots? slots = some as) : as.length = slots.length := by
  cases v with
  | object ms =>
    rw [Value.slots?] at h
    split at h
    · exact length_of_objectSlots? h
    · cases h
  | array vs => exact length_of_arraySlots? h
  | null | bool | number | string => cases h

theorem slots?_refl (member : String → Shape) (slots : List Slot) (v : Value) :
    Option.Rel (SlotsAlike member slots) (v.slots? slots) (v.slots? slots) := by
  cases h : v.slots? slots with
  | none => exact .none
  | some as => exact .some (.refl (length_of_slots? h))

/-- Objects whose members are alike, name by name. -/
theorem objectSlots?_alike
    (h : ∀ slot ∈ slots, Option.Rel (Option.Rel (Alike (member slot.name))) (member? ms slot.name)
      (member? ns slot.name)) :
    Option.Rel (SlotsAlike member slots) (objectSlots? ms slots) (objectSlots? ns slots) := by
  induction slots with
  | nil => exact .some .nil
  | cons slot slots ih =>
    obtain ⟨hfirst, hrest⟩ := List.forall_mem_cons.mp h
    have hrest := ih hrest
    rw [objectSlots?, objectSlots?]
    generalize member? ms slot.name = a at hfirst
    generalize member? ns slot.name = b at hfirst
    generalize objectSlots? ms slots = as at hrest
    generalize objectSlots? ns slots = bs at hrest
    cases hfirst with
    | none => exact .none
    | some hfirst =>
      cases hrest with
      | none => exact .none
      | some hrest => exact .some (.cons hfirst hrest)

/-- Names that are not asked for do not count. -/
theorem objectSlots?_congr (h : ∀ slot ∈ slots, member? ms slot.name = member? ns slot.name) :
    objectSlots? ms slots = objectSlots? ns slots := by
  induction slots with
  | nil => rfl
  | cons slot slots ih =>
    obtain ⟨hfirst, hrest⟩ := List.forall_mem_cons.mp h
    rw [objectSlots?, objectSlots?, hfirst, ih hrest]

theorem arraySlots?_alike (h : Alike ((Shape.record slots member).atIndex vs.length) x y) :
    Option.Rel (SlotsAlike member slots) (arraySlots? (vs ++ x :: ws) slots)
      (arraySlots? (vs ++ y :: ws) slots) := by
  induction vs generalizing slots with
  | nil =>
    cases slots with
    | nil => exact .none
    | cons slot slots =>
      rw [List.nil_append, List.nil_append, arraySlots?, arraySlots?]
      cases hrest : arraySlots? ws slots with
      | none => exact .none
      | some as => exact .some (.cons (.some h) (.refl (length_of_arraySlots? hrest)))
  | cons v vs ih =>
    cases slots with
    | nil => exact .none
    | cons slot slots =>
      have hrest := @ih slots h
      rw [List.cons_append, List.cons_append, arraySlots?, arraySlots?]
      generalize arraySlots? (vs ++ x :: ws) slots = as at hrest
      generalize arraySlots? (vs ++ y :: ws) slots = bs at hrest
      cases hrest with
      | none => exact .none
      | some hrest => exact .some (.cons (.some (.refl _ v)) hrest)

/-- Alike records have alike members. -/
theorem Value.slots?_alike (h : Alike (.record slots member) v w) :
    Option.Rel (SlotsAlike member slots) (v.slots? slots) (w.slots? slots) := by
  generalize hshape : Shape.record slots member = s at h
  -- A change of the order or of an unknown member leaves every slot as it is; the others change one slot.
  induction h with
  | refl _ v => exact slots?_refl member slots v
  | symm _ ih => exact optionRel_symm SlotsAlike.symm (ih hshape)
  | trans _ _ ih₁ ih₂ => exact optionRel_trans SlotsAlike.trans (ih₁ hshape) (ih₂ hshape)
  | @order s ms ns hperm =>
    have hslots : (Value.object ms).slots? slots = (Value.object ns).slots? slots := by
      have hnamed := named?_perm hperm
      rw [Value.slots?, Value.slots?]
      generalize named? ms = as at hnamed
      generalize named? ns = bs at hnamed
      cases hnamed with
      | none => rfl
      | some hnamed => exact objectSlots?_congr fun slot _ => member?_perm hnamed slot.name
    rw [hslots]
    exact slots?_refl member slots _
  | @unknown slots' member' key name x ms hname hunknown =>
    cases hshape
    have hslots : (Value.object ((key, x) :: ms)).slots? slots = (Value.object ms).slots? slots := by
      rw [Value.slots?, Value.slots?, named?_cons, hname]
      cases named? ms with
      | none => rfl
      | some as =>
        exact objectSlots?_congr fun slot hslot =>
          member?_cons_of_ne (Ne.symm (hunknown slot hslot)) x as
    rw [hslots]
    exact slots?_refl member slots _
  | @member s key x y ms halike =>
    subst hshape
    rw [Value.slots?, Value.slots?, named?_cons, named?_cons]
    cases hname : unquote? key with
    | none => exact .none
    | some name =>
      rw [Shape.underKey, hname] at halike
      cases named? ms with
      | none => exact .none
      | some as =>
        refine objectSlots?_alike fun slot _ => ?_
        by_cases hslot : name = slot.name
        · subst hslot
          exact member?_cons_self halike _ as
        · rw [member?_cons_of_ne hslot, member?_cons_of_ne hslot]
          exact optionRel_refl (optionRel_refl (Alike.refl _)) _
  | @item s vs ws x y halike =>
    subst hshape
    exact arraySlots?_alike halike

end Slots

end Json
end Appraisal
