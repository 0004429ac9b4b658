import Appraisal.Wire.Format

/-!
# Appraisal.Proofs.Wire.Reader

What a reader accepts, said by what a writer would have written: each lemma gives, for one reader,
the bytes in front of which it stops with a given value. Reading and writing are two views of one
equation, so a statement about a whole message is put together from these and holds in both
directions.

* `field_eq_ok_iff`, `fieldWord_eq_ok_iff`, `fieldHalf_eq_ok_iff`: parts of a message, in either
  layout.
* `Span.Fits`, `Span.write_eq_ok_iff`: a span is written when its fields keep their limits.
-/

namespace Appraisal

theorem Bytes.ofNatBE_toNatBE_of_length {w : Nat} {x : Bytes} (h : x.length = w) :
    Bytes.ofNatBE w (Bytes.toNatBE x) = x := by
  subst h
  exact Bytes.ofNatBE_toNatBE x

theorem Bytes.ofNatLE_toNatLE_of_length {w : Nat} {x : Bytes} (h : x.length = w) :
    Bytes.ofNatLE w (Bytes.toNatLE x) = x := by
  subst h
  exact Bytes.ofNatLE_toNatLE x

theorem Bytes.toNatBE_inj {w : Nat} {x y : Bytes} (hx : x.length = w) (hy : y.length = w)
    (h : Bytes.toNatBE x = Bytes.toNatBE y) : x = y := by
  rw [← ofNatBE_toNatBE_of_length hx, h, ofNatBE_toNatBE_of_length hy]

namespace Wire
namespace Reader

theorem bind_of_ok {α β : Type} {r : Reader α} {f : α → Reader β} {bs rest : Bytes} {x : α}
    (h : r bs = .ok (x, rest)) : (r >>= f) bs = f x rest := by
  simp only [bind, StateT.bind, Except.bind, h]

theorem bind_of_error {α β : Type} {r : Reader α} {f : α → Reader β} {bs : Bytes} {err : Error}
    (h : r bs = .error err) : (r >>= f) bs = .error err := by
  simp only [bind, StateT.bind, Except.bind, h]

theorem value_eq_ok_iff {α : Type} {r : Reader α} {bs : Bytes} {x : α} :
    r.value bs = .ok x ↔ ∃ rest, r bs = .ok (x, rest) := by
  rw [value]
  split
  · rename_i y rest h
    simp [h]
  · rename_i err h
    simp [h]

theorem value_eq_error_iff {α : Type} {r : Reader α} {bs : Bytes} {err : Error} :
    r.value bs = .error err ↔ r bs = .error err := by
  rw [value]
  split
  · rename_i y rest h
    simp [h]
  · rename_i err h
    simp [h]

theorem take_eq_ok_iff {n : Nat} {bs x rest : Bytes} :
    take n bs = .ok (x, rest) ↔ x.length = n ∧ bs = x ++ rest := by
  constructor
  · intro h
    obtain ⟨h, hlen⟩ := take_eq_ok h
    exact ⟨hlen, h⟩
  · intro h
    obtain ⟨hlen, rfl⟩ := h
    exact take_append hlen rest

theorem exactly_eq_ok_iff {n : Nat} {bs x rest : Bytes} :
    exactly n bs = .ok (x, rest) ↔ x.length = n ∧ bs = x ∧ rest = [] := by
  unfold exactly
  constructor
  · intro h
    split at h
    · rename_i hlen
      cases h
      exact ⟨hlen, rfl, rfl⟩
    · cases h
  · intro h
    obtain ⟨hlen, rfl, rfl⟩ := h
    rw [if_pos hlen]

theorem rest_eq_ok_iff {bs x rest : Bytes} : Reader.rest bs = .ok (x, rest) ↔ bs = x ∧ rest = [] := by
  constructor
  · intro h
    cases h
    exact ⟨rfl, rfl⟩
  · intro h
    obtain ⟨rfl, rfl⟩ := h
    rfl

theorem remaining_eq_ok_iff {n : Nat} {bs rest : Bytes} :
    remaining bs = .ok (n, rest) ↔ bs.length = n ∧ bs = rest := by
  constructor
  · intro h
    cases h
    exact ⟨rfl, rfl⟩
  · intro h
    obtain ⟨rfl, rfl⟩ := h
    rfl

theorem byte_eq_ok_iff {b : UInt8} {bs rest : Bytes} :
    byte bs = .ok (b, rest) ↔ bs = b :: rest := by
  constructor
  · exact byte_eq_ok
  · rintro rfl
    rfl

theorem lift_eq_ok_iff {α : Type} {x : Except Error α} {a : α} {bs rest : Bytes} :
    (liftM x : Reader α) bs = .ok (a, rest) ↔ x = .ok a ∧ bs = rest := by
  cases x with
  | error e =>
    constructor
    · intro h; cases h
    · rintro ⟨h, -⟩; cases h
  | ok b =>
    constructor
    · intro h; cases h; exact ⟨rfl, rfl⟩
    · rintro ⟨h, rfl⟩; cases h; rfl

/-- A reader that first refuses what meets `c`. -/
theorem refuse_eq_ok_iff {α : Type} {c : Prop} [Decidable c] {err : Error} {r : Reader α} {x : α}
    {bs rest : Bytes} :
    (if c then (throw err : Reader PUnit) >>= fun _ => r else r) bs = .ok (x, rest) ↔
      ¬ c ∧ r bs = .ok (x, rest) := by
  by_cases h : c
  · rw [if_pos h]
    constructor
    · intro hx; cases hx
    · rintro ⟨hc, -⟩; exact absurd h hc
  · simp [h]

theorem field_eq_ok_iff {e : Endpoint} {p : Part} {n : Nat} (h : p.order.admits n = true)
    {bs x rest : Bytes} :
    field e p n bs = .ok (x, rest) ↔ x.length = n ∧ bs = (Piece.part p x).render e ++ rest := by
  simp only [field, bind_eq_ok, pure_eq_ok, take_eq_ok_iff, Piece.render, Piece.order, Piece.bytes]
  constructor
  · intro h
    obtain ⟨y, mid, ⟨hlen, rfl⟩, rfl, rfl⟩ := h
    rw [ByteOrder.arrange_arrange (by rw [hlen]; exact h)]
    exact ⟨by simp [hlen], rfl⟩
  · intro h
    obtain ⟨hlen, rfl⟩ := h
    exact ⟨_, rest, ⟨by simp [hlen], rfl⟩, ByteOrder.arrange_arrange (by rw [hlen]; exact h), rfl⟩

theorem fieldWord_eq_ok_iff {e : Endpoint} {p : Part} (h : p.order.admits 4 = true) {w : UInt32}
    {bs rest : Bytes} :
    fieldWord e p bs = .ok (w, rest) ↔ bs = (Piece.word p w).render e ++ rest := by
  simp only [fieldWord, bind_eq_ok, pure_eq_ok, field_eq_ok_iff h]
  constructor
  · intro h
    obtain ⟨x, mid, ⟨hlen, rfl⟩, rfl, rfl⟩ := h
    have hlt : Bytes.toNatBE x < Bytes.count 4 := hlen ▸ Bytes.toNatBE_lt x
    rw [Piece.word, UInt32.toNat_ofNat_of_lt' hlt, Bytes.ofNatBE_toNatBE_of_length hlen]
  · rintro rfl
    refine ⟨_, rest, ⟨Bytes.length_ofNatBE 4 w.toNat, rfl⟩, ?_, rfl⟩
    have hlt : w.toNat < Bytes.count 4 := w.toNat_lt
    rw [Bytes.toNatBE_ofNatBE, Nat.mod_eq_of_lt hlt, UInt32.ofNat_toNat]

theorem fieldHalf_eq_ok_iff {e : Endpoint} {p : Part} (h : p.order.admits 2 = true) {w : UInt16}
    {bs rest : Bytes} :
    fieldHalf e p bs = .ok (w, rest) ↔ bs = (Piece.half p w.toNat).render e ++ rest := by
  simp only [fieldHalf, bind_eq_ok, pure_eq_ok, field_eq_ok_iff h]
  constructor
  · intro h
    obtain ⟨x, mid, ⟨hlen, rfl⟩, rfl, rfl⟩ := h
    have hlt : Bytes.toNatBE x < Bytes.count 2 := hlen ▸ Bytes.toNatBE_lt x
    rw [Piece.half, UInt16.toNat_ofNat_of_lt' hlt, Bytes.ofNatBE_toNatBE_of_length hlen]
  · rintro rfl
    refine ⟨_, rest, ⟨Bytes.length_ofNatBE 2 w.toNat, rfl⟩, ?_, rfl⟩
    have hlt : w.toNat < Bytes.count 2 := w.toNat_lt
    rw [Bytes.toNatBE_ofNatBE, Nat.mod_eq_of_lt hlt, UInt16.ofNat_toNat]

end Reader

@[simp] theorem Piece.render_plain (e : Endpoint) (bs : Bytes) : (plain bs).render e = bs := by
  cases e <;> rfl

@[simp] theorem Piece.length_render (e : Endpoint) (p : Piece) :
    (p.render e).length = p.bytes.length := ByteOrder.length_arrange _ _ _

theorem Piece.render_kept {p : Part} (h : p.order = .kept) (e : Endpoint) (bs : Bytes) :
    (part p bs).render e = bs := by
  cases e <;> simp [render, order, bytes, h, ByteOrder.arrange, ByteOrder.swap]

@[simp] theorem Piece.render_byte (e : Endpoint) (b : UInt8) : (byte b).render e = [b] :=
  render_plain e [b]

@[simp] theorem render_nil (e : Endpoint) : render e [] = [] := rfl

@[simp] theorem render_cons (e : Endpoint) (p : Piece) (ps : List Piece) :
    render e (p :: ps) = p.render e ++ render e ps := List.flatMap_cons

@[simp] theorem render_append (e : Endpoint) (ps qs : List Piece) :
    render e (ps ++ qs) = render e ps ++ render e qs := List.flatMap_append

@[simp] theorem Limit.holds_exactly {f : String} {n : Nat} {bs : Bytes} :
    (exactly f n bs).holds = true ↔ bs.length = n := beq_iff_eq

@[simp] theorem Limit.holds_atMost {f : String} {n : Nat} {bs : Bytes} :
    (atMost f n bs).holds = true ↔ bs.length ≤ n := decide_eq_true_iff

theorem Limit.check_eq_ok_iff {ls : List Limit} :
    Limit.check ls = .ok () ↔ ∀ l ∈ ls, l.holds = true := by
  induction ls with
  | nil => simp [check]
  | cons l ls ih =>
    rw [check]
    by_cases h : l.holds = true
    · simp [h, ih]
    · simp [h]

namespace Span

variable {α β : Type}

/-- Every field of the span keeps its limit. -/
def Fits (s : Span α) (m : α) : Prop := ∀ l ∈ s.limits m, l.holds = true

@[simp] theorem fits_append {s t : Span α} {m : α} :
    (s.append t).Fits m ↔ s.Fits m ∧ t.Fits m := by
  simp [Fits, append, or_imp, forall_and]

@[simp] theorem pieces_append (s t : Span α) (m : α) :
    (s.append t).pieces m = s.pieces m ++ t.pieces m := rfl

@[simp] theorem pieces_within (s : Span β) (get : α → β) (m : α) :
    (s.within get).pieces m = s.pieces (get m) := rfl

theorem write_eq_ok_iff {s : Span α} {e : Endpoint} {m : α} {bs : Bytes} :
    s.write e m = .ok bs ↔ s.Fits m ∧ bs = render e (s.pieces m) := by
  rw [Fits, ← Limit.check_eq_ok_iff, write]
  split
  · rename_i h
    simp [h, eq_comm]
  · rename_i h
    simp [h]

end Span
end Wire
end Appraisal
