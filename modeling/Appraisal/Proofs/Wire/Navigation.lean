import Appraisal.Proofs.Wire.Reader
import Appraisal.Proofs.Wire.Sentinel

/-!
# Appraisal.Proofs.Wire.Navigation

A cursor over any sequence of operations. Each of them does all it was asked or fails and leaves the position
where it was, so the position never leaves the buffer, and what is read in turn stands in the buffer one
piece behind the other. The same operations are also carried out on a bare position, in numbers of 64 bits
and with every range checked; they never trap, and do what the cursor does. A buffer has fewer than `2 ^ 63`
bytes, the most that memory can hold, so a position in it is far from the last number there is.

* `Operation`, `Cursor.step`, `Cursor.steps`: operations, one and in turn.
* `Effect`, `Cursor.effect_step`: what an operation does, one rule for each way it can go.
* `Checked.perform_eq`, `Checked.steps_eq`: the operations on a bare position.
* `Tiles`, `Cursor.tiles_pieces`: pieces that follow one another in the buffer.
* `steps_stay_inside`: all of it, for every buffer and every sequence.
-/

namespace Appraisal
namespace Wire

/-! ## Operations -/

inductive Read where
  | slice (n : Nat)
  | bytes (n : Nat)
  | fixed (n : Nat)
  | byte
  | halfLE
  | wordLE
  | wordBE
  /-- The last field of a message. -/
  | exactly (n : Nat)
  | rest
deriving DecidableEq, Repr

inductive Operation where
  | read (r : Read)
  | skip (n : Nat)
  | seek (position : Nat)
  | find (value : UInt32)
deriving DecidableEq, Repr

inductive Reply where
  | bytes (bs : Bytes)
  | number (n : Nat)
  | done
deriving DecidableEq, Repr

namespace Read

variable {left : Nat} {r : Read}

/-- How many bytes are asked for where `left` are left. -/
def width (left : Nat) : Read → Nat
  | slice n | bytes n | fixed n | exactly n => n
  | byte => 1
  | halfLE => 2
  | wordLE | wordBE => 4
  | rest => left

/-- Whether nothing may be left behind the bytes. -/
def isLast : Read → Bool
  | exactly _ => true
  | _ => false

def Admitted (left : Nat) (r : Read) : Prop :=
  r.width left ≤ left ∧ (r.isLast = true → r.width left = left)

instance (left : Nat) (r : Read) : Decidable (r.Admitted left) :=
  inferInstanceAs (Decidable (_ ∧ _))

/-- How the bytes are taken. -/
def reader : Read → Reader Bytes
  | slice n | bytes n | fixed n => Reader.take n
  | byte => Reader.take 1
  | halfLE => Reader.take 2
  | wordLE | wordBE => Reader.take 4
  | exactly n => Reader.exactly n
  | rest => Reader.rest

/-- What is made of the bytes. -/
def reply : Read → Bytes → Reply
  | slice _, bs | bytes _, bs | fixed _, bs | exactly _, bs | rest, bs => .bytes bs
  | byte, bs | wordBE, bs => .number (Bytes.toNatBE bs)
  | halfLE, bs | wordLE, bs => .number (Bytes.toNatLE bs)

/-- The bytes that a reply was made of. -/
def piece : Read → Reply → Bytes
  | byte, .number n => Bytes.ofNatBE 1 n
  | halfLE, .number n => Bytes.ofNatLE 2 n
  | wordLE, .number n => Bytes.ofNatLE 4 n
  | wordBE, .number n => Bytes.ofNatBE 4 n
  | _, .bytes bs => bs
  | _, _ => []

def refusal (left : Nat) : Read → Error
  | exactly n => .remainingLengthMismatch left n
  | r => .bufferUnderflow left (r.width left)

theorem piece_reply {bs : Bytes} (h : bs.length = r.width left) : r.piece (r.reply bs) = bs := by
  cases r with
  | byte => exact Bytes.ofNatBE_toNatBE_of_length h
  | halfLE => exact Bytes.ofNatLE_toNatLE_of_length h
  | wordLE => exact Bytes.ofNatLE_toNatLE_of_length h
  | wordBE => exact Bytes.ofNatBE_toNatBE_of_length h
  | _ => rfl

end Read

namespace Cursor

variable {c : Cursor} {α β : Type}

/-- The cursor `n` bytes further on, or at the end. -/
def advance (c : Cursor) (n : Nat) : Cursor :=
  ⟨c.buffer, min (c.position + n) c.buffer.length, Nat.min_le_right _ _⟩

theorem position_advance {n : Nat} (h : n ≤ c.remaining) : (c.advance n).position = c.position + n := by
  have := c.position_le
  unfold remaining at h
  exact Nat.min_eq_left (by omega)

/-- An answer of some kind as a reply. -/
def answer (f : α → Reply) (x : Except Error (α × Cursor)) : Except Error (Reply × Cursor) :=
  x.map fun q => (f q.1, q.2)

/-- An operation, with the cursor behind it if it does not fail. -/
def perform (c : Cursor) : Operation → Except Error (Reply × Cursor)
  | .read (.slice n) | .read (.bytes n) | .read (.fixed n) => answer .bytes (c.read n)
  | .read .byte => answer .number c.readByte
  | .read .halfLE => answer .number (c.readLE 2)
  | .read .wordLE => answer .number (c.readLE 4)
  | .read .wordBE => answer .number (c.readBE 4)
  | .read (.exactly n) => answer .bytes (c.readExactRemaining n)
  | .read .rest => answer .bytes c.readRest
  | .skip n => (c.skip n).map fun c' => (.done, c')
  | .seek position => (c.seek position).map fun c' => (.done, c')
  | .find value => (c.findFirst value).map fun distance => (.number distance, c)

/-- What an operation gives, with the cursor behind it: where it fails, the one before it. -/
def settle (c : Cursor) : Except Error (α × Cursor) → Except Error α × Cursor
  | .ok (x, c') => (.ok x, c')
  | .error err => (.error err, c)

def step (c : Cursor) (op : Operation) : Except Error Reply × Cursor := c.settle (c.perform op)

/-- Operations in turn, with the cursor behind them. -/
def steps (c : Cursor) : List Operation → List (Except Error Reply) × Cursor
  | [] => ([], c)
  | op :: ops => ((c.step op).1 :: ((c.step op).2.steps ops).1, ((c.step op).2.steps ops).2)

theorem length_rest : c.rest.length = c.remaining := List.length_drop

/-- What a reader takes from the bytes behind the position, the cursor moves over. -/
theorem run_of_ok {r : Reader α} {x : α} {left : Bytes} {n : Nat} (h : r c.rest = .ok (x, left))
    (hn : left.length + n = c.remaining) : c.run r = .ok (x, c.advance n) := by
  have hle := c.position_le
  have hadvance : (⟨c.buffer, c.buffer.length - left.length, Nat.sub_le _ _⟩ : Cursor) = c.advance n := by
    unfold remaining at hn
    simp only [advance, mk.injEq, true_and]
    omega
  rw [run, h, ← hadvance]

theorem run_of_error {r : Reader α} {err : Error} (h : r c.rest = .error err) : c.run r = .error err := by
  rw [run, h]

theorem take_rest (n : Nat) : c.rest.take n = c.buffer.extract c.position (c.position + n) := by
  rw [rest, List.extract_eq_take_drop, Nat.add_sub_cancel_left]

theorem run_take (n : Nat) : c.run (Reader.take n) =
    if n ≤ c.remaining then .ok (c.buffer.extract c.position (c.position + n), c.advance n)
    else .error (.bufferUnderflow c.remaining n) := by
  have htake : Reader.take n c.rest = if n ≤ c.rest.length then .ok (c.rest.take n, c.rest.drop n)
    else .error (.bufferUnderflow c.rest.length n) := rfl
  rw [length_rest, take_rest] at htake
  by_cases h : n ≤ c.remaining
  · rw [if_pos h] at htake ⊢
    exact run_of_ok htake (by rw [List.length_drop, length_rest]; omega)
  · rw [if_neg h] at htake ⊢
    exact run_of_error htake

theorem run_exactly (n : Nat) : c.run (Reader.exactly n) =
    if n = c.remaining then .ok (c.buffer.extract c.position (c.position + n), c.advance n)
    else .error (.remainingLengthMismatch c.remaining n) := by
  have hexactly : Reader.exactly n c.rest = if c.rest.length = n then .ok (c.rest, [])
    else .error (.remainingLengthMismatch c.rest.length n) := rfl
  rw [length_rest] at hexactly
  by_cases h : n = c.remaining
  · rw [if_pos h.symm] at hexactly
    rw [if_pos h, run_of_ok (n := n) hexactly (by rw [List.length_nil, Nat.zero_add, h]), ← take_rest, h,
      ← length_rest, List.take_length]
  · rw [if_neg (Ne.symm h)] at hexactly
    rw [if_neg h]
    exact run_of_error hexactly

theorem run_rest : c.run Reader.rest =
    .ok (c.buffer.extract c.position (c.position + c.remaining), c.advance c.remaining) := by
  have hrest : Reader.rest c.rest = .ok (c.rest, []) := rfl
  rw [run_of_ok hrest (Nat.zero_add _), ← take_rest, ← length_rest, List.take_length]

theorem run_map (f : α → β) (r : Reader α) :
    c.run (f <$> r) = (c.run r).map fun q => (f q.1, q.2) := by
  have hmap : (f <$> r) c.rest = (r c.rest).map fun q => (f q.1, q.2) := by
    show (r c.rest >>= fun q => pure (f q.1, q.2)) = _
    cases r c.rest <;> rfl
  rw [run, run, hmap]
  cases r c.rest <;> rfl

theorem run_reader (r : Read) : c.run r.reader =
    if r.Admitted c.remaining then
      .ok (c.buffer.extract c.position (c.position + r.width c.remaining), c.advance (r.width c.remaining))
    else .error (r.refusal c.remaining) := by
  have htake : r.isLast = false →
      r.refusal c.remaining = .bufferUnderflow c.remaining (r.width c.remaining) →
      c.run (Reader.take (r.width c.remaining)) = if r.Admitted c.remaining then
        .ok (c.buffer.extract c.position (c.position + r.width c.remaining), c.advance (r.width c.remaining))
      else .error (r.refusal c.remaining) := by
    intro hlast hrefusal
    have hadmitted : r.Admitted c.remaining ↔ r.width c.remaining ≤ c.remaining := by
      simp [Read.Admitted, hlast]
    simp only [run_take, hrefusal, hadmitted]
  cases r with
  | slice n | bytes n | fixed n => exact htake rfl rfl
  | byte | halfLE | wordLE | wordBE => exact htake rfl rfl
  | exactly n =>
    have hadmitted : (Read.exactly n).Admitted c.remaining ↔ n = c.remaining :=
      ⟨fun h => h.2 rfl, fun h => ⟨Nat.le_of_eq h, fun _ => h⟩⟩
    simp only [Read.reader, run_exactly, hadmitted]
    rfl
  | rest => exact run_rest.trans (if_pos ⟨Nat.le_refl _, fun h => absurd h (by decide)⟩).symm

theorem perform_read (r : Read) :
    c.perform (.read r) = (c.run r.reader).map fun q => (r.reply q.1, q.2) := by
  cases r with
  | slice n | bytes n | fixed n | exactly n | rest => rfl
  | byte | halfLE | wordLE | wordBE =>
    simp only [perform, answer, readByte, readLE, readBE, run_map, Read.reader]
    cases c.run (Reader.take _) <;> rfl

theorem perform_skip (n : Nat) : c.perform (.skip n) =
    if n ≤ c.remaining then .ok (.done, c.advance n) else .error (.bufferUnderflow c.remaining n) := by
  rw [perform, skip, read, run_take]
  by_cases h : n ≤ c.remaining
  · simp only [if_pos h]
    rfl
  · simp only [if_neg h]
    rfl

theorem perform_seek (position : Nat) : c.perform (.seek position) =
    if h : position ≤ c.buffer.length then .ok (.done, ⟨c.buffer, position, h⟩)
    else .error (.invalidPosition c.buffer.length position) := by
  rw [perform, seek]
  by_cases h : position ≤ c.buffer.length
  · simp only [dif_pos h]
    rfl
  · simp only [dif_neg h]
    rfl

theorem perform_find (value : UInt32) :
    c.perform (.find value) = (c.findFirst value).map fun distance => (.number distance, c) := rfl

end Cursor

/-! ## Effects -/

/-- What an operation gives at a position of a buffer, and the position behind it. -/
inductive Effect (buffer : Bytes) (position : Nat) : Operation → Except Error Reply → Nat → Prop where
  | read {r : Read} : r.Admitted (buffer.length - position) →
      Effect buffer position (.read r)
        (.ok (r.reply (buffer.extract position (position + r.width (buffer.length - position)))))
        (position + r.width (buffer.length - position))
  | refused {r : Read} : ¬ r.Admitted (buffer.length - position) →
      Effect buffer position (.read r) (.error (r.refusal (buffer.length - position))) position
  | skip {n : Nat} : n ≤ buffer.length - position →
      Effect buffer position (.skip n) (.ok .done) (position + n)
  | short {n : Nat} : buffer.length - position < n →
      Effect buffer position (.skip n) (.error (.bufferUnderflow (buffer.length - position) n)) position
  | seek {p : Nat} : p ≤ buffer.length → Effect buffer position (.seek p) (.ok .done) p
  | beyond {p : Nat} : buffer.length < p →
      Effect buffer position (.seek p) (.error (.invalidPosition buffer.length p)) position
  | find {value : UInt32} {reply : Except Error Reply} : Effect buffer position (.find value) reply position

namespace Cursor

variable {c : Cursor}

theorem effect_step (c : Cursor) (op : Operation) :
    Effect c.buffer c.position op (c.step op).1 (c.step op).2.position := by
  cases op with
  | read r =>
    rw [step, perform_read, run_reader]
    by_cases h : r.Admitted c.remaining
    · rw [if_pos h, Except.map, settle, position_advance h.1]
      exact .read h
    · rw [if_neg h]
      exact .refused h
  | skip n =>
    rw [step, perform_skip]
    by_cases h : n ≤ c.remaining
    · rw [if_pos h, settle, position_advance h]
      exact .skip h
    · rw [if_neg h]
      exact .short (Nat.lt_of_not_le h)
  | seek position =>
    rw [step, perform_seek]
    by_cases h : position ≤ c.buffer.length
    · rw [dif_pos h]
      exact .seek h
    · rw [dif_neg h]
      exact .beyond (Nat.lt_of_not_le h)
  | find value =>
    rw [step, perform_find]
    cases c.findFirst value with
    | ok distance => exact .find
    | error err => exact .find

/-- What fails leaves the cursor as it is. -/
theorem step_of_error {op : Operation} {err : Error} (h : (c.step op).1 = .error err) :
    (c.step op).2 = c := by
  unfold step at h ⊢
  cases hperform : c.perform op with
  | ok q =>
    rw [hperform] at h
    cases h
  | error err' => rfl

theorem step_find (value : UInt32) : c.step (.find value) = ((c.findFirst value).map .number, c) := by
  rw [step, perform_find]
  cases c.findFirst value <;> rfl

@[simp] theorem buffer_step (c : Cursor) (op : Operation) : (c.step op).2.buffer = c.buffer := by
  cases op with
  | read r =>
    rw [step, perform_read, run_reader]
    split
    · rfl
    · rfl
  | skip n =>
    rw [step, perform_skip]
    split
    · rfl
    · rfl
  | seek position =>
    rw [step, perform_seek]
    split
    · rfl
    · rfl
  | find value => rw [step_find]

@[simp] theorem buffer_steps (c : Cursor) (ops : List Operation) : (c.steps ops).2.buffer = c.buffer := by
  induction ops generalizing c with
  | nil => rfl
  | cons op ops ih => rw [steps, ih, buffer_step]

end Cursor

/-! ## A bare position -/

namespace Checked

/-- What acts on a position of a buffer, and may move it whether it fails or not. -/
abbrev Act (α : Type) := Bytes → Nat → Except Trap (Except Error α × Nat)

def Act.map {α β : Type} (f : α → β) (act : Act α) : Act β := fun buffer position => do
  let (result, position) ← act buffer position
  pure (result.map f, position)

def remaining (buffer : Bytes) (position : Nat) : Except Trap Nat := sub buffer.length position

def readSlice (n : Nat) : Act Bytes := fun buffer position => do
  let left ← remaining buffer position
  if left < n then pure (.error (.bufferUnderflow left n), position)
  else do
    let stop ← add position n
    let bs ← slice buffer position stop
    let position ← add position n
    pure (.ok bs, position)

/-- The bytes are copied to an array of their number. -/
def readFixed (n : Nat) : Act Bytes := fun buffer position => do
  let (result, position) ← readSlice n buffer position
  match result with
  | .ok bs => if bs.length = n then pure (.ok bs, position) else .error .outOfRange
  | .error err => pure (.error err, position)

def readExactRemaining (n : Nat) : Act Bytes := fun buffer position => do
  let left ← remaining buffer position
  if left = n then readSlice n buffer position
  else pure (.error (.remainingLengthMismatch left n), position)

def readRest : Act Bytes := fun buffer position => do
  let bs ← slice buffer position buffer.length
  pure (.ok bs, buffer.length)

def skip (n : Nat) : Act Unit := fun buffer position => do
  let left ← remaining buffer position
  if left < n then pure (.error (.bufferUnderflow left n), position)
  else do
    let position ← add position n
    pure (.ok (), position)

def seek (target : Nat) : Act Unit := fun buffer position =>
  if buffer.length < target then .ok (.error (.invalidPosition buffer.length target), position)
  else .ok (.ok (), target)

def take : Read → Act Bytes
  | .slice n | .bytes n => readSlice n
  | .fixed n => readFixed n
  | .byte => readFixed 1
  | .halfLE => readFixed 2
  | .wordLE | .wordBE => readFixed 4
  | .exactly n => readExactRemaining n
  | .rest => readRest

def perform : Operation → Act Reply
  | .read r => (take r).map r.reply
  | .skip n => (skip n).map fun _ => .done
  | .seek position => (seek position).map fun _ => .done
  | .find value => Act.map .number (findFirst value)

/-- Operations in turn, up to the first that traps. -/
def steps (buffer : Bytes) (position : Nat) : List Operation → Except Trap (List (Except Error Reply) × Nat)
  | [] => .ok ([], position)
  | op :: ops => do
    let (reply, position) ← perform op buffer position
    let (replies, position) ← steps buffer position ops
    pure (reply :: replies, position)

variable {c : Cursor} {n : Nat}

/-- On the bare position of a cursor `act` does what the cursor does, and does not trap. -/
def Follows {α : Type} (act : Act α) (c : Cursor) (x : Except Error (α × Cursor)) : Prop :=
  act c.buffer c.position = .ok ((c.settle x).1, (c.settle x).2.position)

theorem Follows.map {α β : Type} {act : Act α} {x : Except Error (α × Cursor)} (h : Follows act c x)
    (f : α → β) : Follows (act.map f) c (x.map fun q => (f q.1, q.2)) := by
  rw [Follows, Act.map, h]
  cases x <;> rfl

theorem remaining_eq (c : Cursor) : remaining c.buffer c.position = .ok c.remaining :=
  sub_of_le c.position_le

/-- That the bytes are there is known before the position behind them is computed. -/
theorem follows_readSlice (h : c.buffer.length < 2 ^ 63) :
    Follows (readSlice n) c (c.run (Reader.take n)) := by
  have hle := c.position_le
  rw [Follows, readSlice, remaining_eq, Cursor.run_take]
  simp only [bind, Except.bind]
  by_cases hn : n ≤ c.remaining
  · have hstop : c.position + n ≤ c.buffer.length := by
      unfold Cursor.remaining at hn
      omega
    rw [if_neg (Nat.not_lt_of_le hn), if_pos hn, Cursor.settle, Cursor.position_advance hn]
    simp only [add_of_lt (show c.position + n < 2 ^ 64 by omega),
      slice_of_le (Nat.le_add_right c.position n) hstop]
    rfl
  · rw [if_pos (Nat.lt_of_not_le hn), if_neg hn]
    rfl

/-- What is read has the length that was asked for, so that it can be copied. -/
theorem follows_readFixed (h : c.buffer.length < 2 ^ 63) :
    Follows (readFixed n) c (c.run (Reader.take n)) := by
  have hslice := follows_readSlice (n := n) h
  rw [Follows] at hslice ⊢
  rw [readFixed, hslice, Cursor.run_take]
  simp only [bind, Except.bind]
  by_cases hn : n ≤ c.remaining
  · have hlength : (c.buffer.extract c.position (c.position + n)).length = n := by
      unfold Cursor.remaining at hn
      simp [List.extract_eq_take_drop, hn]
    rw [if_pos hn, Cursor.settle]
    simp only [hlength, if_true]
    rfl
  · rw [if_neg hn]
    rfl

theorem follows_readExactRemaining (h : c.buffer.length < 2 ^ 63) :
    Follows (readExactRemaining n) c (c.run (Reader.exactly n)) := by
  have hslice := follows_readSlice (n := n) h
  rw [Follows, Cursor.run_take] at hslice
  rw [Follows, readExactRemaining, remaining_eq, Cursor.run_exactly]
  simp only [bind, Except.bind]
  by_cases hn : n = c.remaining
  · rw [if_pos (Nat.le_of_eq hn)] at hslice
    rw [if_pos hn.symm, if_pos hn, hslice]
  · rw [if_neg (Ne.symm hn), if_neg hn]
    rfl

theorem follows_readRest : Follows readRest c (c.run Reader.rest) := by
  have hle := c.position_le
  have hstop : c.position + c.remaining = c.buffer.length := Nat.add_sub_of_le hle
  rw [Follows, readRest, Cursor.run_rest, Cursor.settle, Cursor.position_advance (Nat.le_refl _), hstop,
    slice_of_le hle (Nat.le_refl _)]
  rfl

theorem follows_take (h : c.buffer.length < 2 ^ 63) (r : Read) : Follows (take r) c (c.run r.reader) := by
  cases r with
  | slice n | bytes n => exact follows_readSlice h
  | fixed n | byte | halfLE | wordLE | wordBE => exact follows_readFixed h
  | exactly n => exact follows_readExactRemaining h
  | rest => exact follows_readRest

theorem follows_skip (h : c.buffer.length < 2 ^ 63) :
    Follows ((skip n).map fun _ => .done) c (c.perform (.skip n)) := by
  have hle := c.position_le
  rw [Follows, Act.map, skip, remaining_eq, Cursor.perform_skip]
  simp only [bind, Except.bind]
  by_cases hn : n ≤ c.remaining
  · have hfit : c.position + n < 2 ^ 64 := by
      unfold Cursor.remaining at hn
      omega
    rw [if_neg (Nat.not_lt_of_le hn), if_pos hn, Cursor.settle, Cursor.position_advance hn, add_of_lt hfit]
    rfl
  · rw [if_pos (Nat.lt_of_not_le hn), if_neg hn]
    rfl

theorem follows_seek : Follows ((seek n).map fun _ => .done) c (c.perform (.seek n)) := by
  rw [Follows, Act.map, seek, Cursor.perform_seek]
  by_cases hn : n ≤ c.buffer.length
  · rw [if_neg (Nat.not_lt_of_le hn), dif_pos hn]
    rfl
  · rw [if_pos (Nat.lt_of_not_le hn), dif_neg hn]
    rfl

theorem follows_perform (h : c.buffer.length < 2 ^ 63) (op : Operation) :
    Follows (perform op) c (c.perform op) := by
  cases op with
  | read r =>
    rw [Cursor.perform_read]
    exact (follows_take h r).map r.reply
  | skip n => exact follows_skip h
  | seek position => exact follows_seek
  | find value =>
    rw [Cursor.perform_find, Follows, perform, Act.map, findFirst_eq c value h]
    cases c.findFirst value <;> rfl

theorem perform_eq (h : c.buffer.length < 2 ^ 63) (op : Operation) :
    perform op c.buffer c.position = .ok ((c.step op).1, (c.step op).2.position) :=
  follows_perform h op

/-- Operations in turn never trap: they give what the cursor gives, and move as it moves. -/
theorem steps_eq (c : Cursor) (h : c.buffer.length < 2 ^ 63) (ops : List Operation) :
    steps c.buffer c.position ops = .ok ((c.steps ops).1, (c.steps ops).2.position) := by
  induction ops generalizing c with
  | nil => rfl
  | cons op ops ih =>
    have hrest := ih (c.step op).2 (by rwa [Cursor.buffer_step])
    rw [Cursor.buffer_step] at hrest
    rw [steps, perform_eq h]
    simp only [bind, Except.bind, hrest]
    rfl

end Checked

/-! ## Pieces -/

/-- Pieces of a buffer that follow one another from a position to another. -/
inductive Tiles (buffer : Bytes) : Nat → List Bytes → Nat → Prop where
  | done {p : Nat} : Tiles buffer p [] p
  | piece {p q : Nat} {x : Bytes} {xs : List Bytes} : p + x.length ≤ buffer.length →
      x = buffer.extract p (p + x.length) → Tiles buffer (p + x.length) xs q → Tiles buffer p (x :: xs) q

theorem extract_append_extract {buffer : Bytes} {p m q : Nat} (hp : p ≤ m) (hq : m ≤ q) :
    buffer.extract p m ++ buffer.extract m q = buffer.extract p q := by
  have hcut : q - p = (m - p) + (q - m) := by omega
  have hdrop : buffer.drop m = (buffer.drop p).drop (m - p) := by
    rw [List.drop_drop, Nat.add_sub_of_le hp]
  simp only [List.extract_eq_take_drop]
  rw [hcut, List.take_add, hdrop]

/-- Together, pieces that follow one another are a slice. -/
theorem Tiles.flatten {buffer : Bytes} {p q : Nat} {xs : List Bytes} (h : Tiles buffer p xs q) :
    p ≤ q ∧ xs.flatten = buffer.extract p q := by
  induction h with
  | done => simp [List.extract_eq_take_drop]
  | @piece p q x xs hfit hx htail ih =>
    obtain ⟨hle, hflat⟩ := ih
    refine ⟨by omega, ?_⟩
    rw [List.flatten_cons, hflat, ← extract_append_extract (Nat.le_add_right p x.length) hle, ← hx]

def Operation.moves : Operation → Bool
  | .skip _ | .seek _ => true
  | .read _ | .find _ => false

/-- The bytes that an operation read, if it read any. -/
def Operation.piece? : Operation → Except Error Reply → Option Bytes
  | .read r, .ok reply => some (r.piece reply)
  | _, _ => none

/-- The pieces that operations in turn read, by what they gave. -/
def pieces : List Operation → List (Except Error Reply) → List Bytes
  | op :: ops, reply :: replies => (op.piece? reply).toList ++ pieces ops replies
  | _, _ => []

/-- Where an operation neither skips nor seeks, it moves behind what it reads. -/
theorem Effect.piece_of_moves {buffer : Bytes} {p q : Nat} {op : Operation} {reply : Except Error Reply}
    (h : Effect buffer p op reply q) (hp : p ≤ buffer.length) (hop : op.moves = false) :
    (op.piece? reply = none ∧ q = p) ∨
      ∃ x, op.piece? reply = some x ∧ p + x.length ≤ buffer.length ∧
        x = buffer.extract p (p + x.length) ∧ q = p + x.length := by
  cases h with
  | @read r hadmitted =>
    right
    have hle := hadmitted.1
    have hlength : (buffer.extract p (p + r.width (buffer.length - p))).length =
        r.width (buffer.length - p) := by
      simp [List.extract_eq_take_drop, hle]
    refine ⟨buffer.extract p (p + r.width (buffer.length - p)), ?_, ?_⟩
    · rw [Operation.piece?, Read.piece_reply hlength]
    · rw [hlength]
      exact ⟨by omega, rfl, rfl⟩
  | refused => exact .inl ⟨rfl, rfl⟩
  | find => exact .inl ⟨rfl, rfl⟩
  | skip | short | seek | beyond => cases hop

/-- Without a skip or a seek between them, what is read stands one piece behind the other. -/
theorem Cursor.tiles_pieces (c : Cursor) {ops : List Operation} (h : ∀ op ∈ ops, op.moves = false) :
    Tiles c.buffer c.position (pieces ops (c.steps ops).1) (c.steps ops).2.position := by
  induction ops generalizing c with
  | nil => exact .done
  | cons op ops ih =>
    obtain ⟨hop, hops⟩ := List.forall_mem_cons.mp h
    have hrest := ih (c.step op).2 hops
    rw [buffer_step] at hrest
    have hpiece := (effect_step c op).piece_of_moves c.position_le hop
    rw [steps, pieces]
    obtain ⟨hnone, hposition⟩ | ⟨x, hsome, hfit, hx, hposition⟩ := hpiece
    · rw [hnone, ← hposition]
      exact hrest
    · rw [hsome]
      exact .piece hfit hx (hposition ▸ hrest)

/-- Whatever operations are carried out on a buffer, they never trap on a bare position and move it as the
cursor moves, inside the buffer. What each of them does next is said by its effect; what fails moves nothing,
and neither does a search. Further operations without a skip or a seek read pieces of the buffer one behind
the other, which together are a slice of it. -/
theorem steps_stay_inside (buffer : Bytes) (h : buffer.length < 2 ^ 63) (ops : List Operation) :
    ∃ replies c, (Cursor.ofBytes buffer).steps ops = (replies, c) ∧
      Checked.steps buffer 0 ops = .ok (replies, c.position) ∧
      c.buffer = buffer ∧ c.position ≤ buffer.length ∧
      Checked.remaining buffer c.position = .ok c.remaining ∧
      c.remaining = buffer.length - c.position ∧
      (∀ op, Effect buffer c.position op (c.step op).1 (c.step op).2.position) ∧
      (∀ op err, (c.step op).1 = .error err → (c.step op).2 = c) ∧
      (∀ value, (c.step (.find value)).2 = c) ∧
      ∀ more, (∀ op ∈ more, op.moves = false) →
        Tiles buffer c.position (pieces more (c.steps more).1) (c.steps more).2.position ∧
        (pieces more (c.steps more).1).flatten =
          buffer.extract c.position (c.steps more).2.position := by
  have hbuffer : ((Cursor.ofBytes buffer).steps ops).2.buffer = buffer :=
    Cursor.buffer_steps (Cursor.ofBytes buffer) ops
  have hsteps := Checked.steps_eq (Cursor.ofBytes buffer) h ops
  generalize hc : (Cursor.ofBytes buffer).steps ops = run at hbuffer hsteps
  obtain ⟨replies, c⟩ := run
  subst hbuffer
  refine ⟨replies, c, rfl, hsteps, rfl, c.position_le, Checked.remaining_eq c, rfl, c.effect_step,
    fun op err => Cursor.step_of_error, fun value => by rw [Cursor.step_find], fun more hmore => ?_⟩
  have htiles := c.tiles_pieces hmore
  exact ⟨htiles, htiles.flatten.2⟩

/-- Reads that succeed and fail around a move back, and a skip as far as numbers go. -/
theorem steps_stay_inside_back :
    let buffer : Bytes := [1, 2, 3, 4, 5, 6]
    let ops : List Operation :=
      [.read (.slice 4), .read .wordLE, .seek 1, .read .halfLE, .skip (2 ^ 64 - 1), .read (.exactly 3)]
    Checked.steps buffer 0 ops = .ok
      ([.ok (.bytes [1, 2, 3, 4]), .error (.bufferUnderflow 2 4), .ok .done, .ok (.number 0x0302),
        .error (.bufferUnderflow 3 (2 ^ 64 - 1)), .ok (.bytes [4, 5, 6])], 6) := by
  intro buffer ops
  obtain ⟨replies, c, hsteps, hchecked, -⟩ := steps_stay_inside buffer (by decide) ops
  have hreplies : ((Cursor.ofBytes buffer).steps ops).1 = replies := congrArg Prod.fst hsteps
  have hposition : ((Cursor.ofBytes buffer).steps ops).2.position = c.position :=
    congrArg (fun run => run.2.position) hsteps
  rw [hchecked, ← hreplies, ← hposition]
  decide +kernel

end Wire
end Appraisal
