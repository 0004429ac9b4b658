import Appraisal.Cose.Sign1
import Appraisal.Proofs.Text.Utf8

/-!
# Appraisal.Proofs.Cose.SignedBytes

What a signature covers, read back. The bytes that are signed write an array of four items, and these are
told apart by the lengths in front of them: no other covered header and no other payload have the same bytes.

* `Cbor.Head.read?_encode`: a head is read as it was written.
* `Cbor.Value.Written`: a value is what bytes write, whatever stands behind them.
* `written_encodeBytes`, `written_encodeText`, `written_encodeArray`: the three writers.
* `Sign1.decode?_signedBytes`, `Sign1.signedBytes_inj`: the items of the signed bytes, and what they fix.
-/

namespace Appraisal
namespace Cbor

/-! ## Heads -/

namespace Head

variable {major info k n : Nat} {r rest : Bytes}

theorem argument?_ofNatBE (hk : k < 4) (hn : n < Bytes.count (1 <<< k)) (rest : Bytes) :
    argument? (24 + k) (Bytes.ofNatBE (1 <<< k) n ++ rest) = some (some n, rest) := by
  have hlen : (Bytes.ofNatBE (1 <<< k) n).length = 1 <<< k := Bytes.length_ofNatBE ..
  have hlong : ¬ (Bytes.ofNatBE (1 <<< k) n ++ rest).length < 1 <<< k := by
    rw [List.length_append, hlen]
    omega
  rw [argument?, if_neg (by omega), if_pos (by omega), Nat.add_sub_cancel_left]
  simp only [if_neg hlong]
  rw [List.take_left' hlen, List.drop_left' hlen, Bytes.toNatBE_ofNatBE, Nat.mod_eq_of_lt hn]

theorem read?_cons {argument : Option Nat} {h : Head} (hmajor : major < 8) (hinfo : info < 32)
    (hargument : argument? info r = some (argument, rest))
    (hparts : ofParts? major info argument = some h) :
    read? (UInt8.ofNat (32 * major + info) :: r) = some (h, rest) := by
  have hfirst : (UInt8.ofNat (32 * major + info)).toNat = 32 * major + info :=
    UInt8.toNat_ofNat_of_lt' (show _ < 256 by omega)
  have hhigh : (32 * major + info) / 32 = major := by omega
  have hlow : (32 * major + info) % 32 = info := by omega
  simp only [read?, hfirst, hhigh, hlow, hargument, hparts]

/-- A head of a kind that has a number is read as it was written. -/
theorem read?_encode {h : Head} (hmajor : major < 8) (hn : n < Bytes.count 8)
    (hparts : ∀ info, ofParts? major info (some n) = some h) (rest : Bytes) :
    read? (encode major n ++ rest) = some (h, rest) := by
  have long : ∀ k < 4, n < Bytes.count (1 <<< k) →
      read? (UInt8.ofNat (32 * major + (24 + k)) :: Bytes.ofNatBE (1 <<< k) n ++ rest) = some (h, rest) := by
    intro k hk hfits
    exact read?_cons hmajor (by omega) (argument?_ofNatBE hk hfits rest) (hparts _)
  simp only [encode]
  split
  · rename_i hsmall
    have hargument : argument? n rest = some (some n, rest) := if_pos hsmall
    exact read?_cons hmajor (by omega) hargument (hparts n)
  · split
    · rename_i hfits
      exact long 0 (by decide) hfits
    · split
      · rename_i hfits
        exact long 1 (by decide) hfits
      · split
        · rename_i hfits
          exact long 2 (by decide) hfits
        · exact long 3 (by decide) hn

end Head

/-! ## Values -/

/-- The bytes write a value that nests at most `depth` deep, whatever stands behind them. -/
def Value.Written (depth : Nat) (v : Value) (item : Bytes) : Prop :=
  ∀ rest, read? depth (item ++ rest) = some (v, rest)

section Values

variable {depth : Nat} {v : Value} {item bs rest : Bytes}

theorem Value.Written.ne_nil (h : v.Written depth item) : item ≠ [] := by
  rintro rfl
  have hread := h []
  cases depth <;> cases hread

theorem Value.Written.decode?_eq (h : v.Written maxDepth item) : decode? item = some v := by
  have hread := h []
  rw [List.append_nil] at hread
  rw [decode?, hread]

theorem take?_append (bs rest : Bytes) : take? bs.length (bs ++ rest) = some (bs, rest) := by
  simp [take?]

/-- Where a head decides alone, and what may stand inside has no influence. -/
theorem Value.Written.of_head (h : Head) (body : Bytes)
    (hhead : ∀ rest, Head.read? (item ++ rest) = some (h, body ++ rest))
    (hvalue : ∀ inner rest, ofHead? inner (body ++ rest) h = some (v, rest)) : v.Written depth item := by
  intro rest
  cases depth with
  | zero =>
    rw [read?, hhead]
    exact hvalue none rest
  | succ depth =>
    rw [read?, hhead]
    exact hvalue (some (read? depth)) rest

theorem written_encodeBytes (hbs : bs.length < Bytes.count 8) :
    (Value.bytes bs).Written depth (encodeBytes bs) := by
  refine .of_head (.bytes (some bs.length)) bs ?_ ?_
  · intro rest
    rw [encodeBytes, List.append_assoc]
    exact Head.read?_encode (by omega) hbs (fun _ => rfl) _
  · intro inner rest
    simp [Value.ofHead?, string?, take?_append]

theorem written_encodeText {s : String} (hs : (Utf8.encode s).length < Bytes.count 8) :
    (Value.text s).Written depth (encodeText s) := by
  have htext : Utf8.decode? (Utf8.encode s) = some s := Utf8.decode?_eq_some_iff.mpr rfl
  refine .of_head (.text (some (Utf8.encode s).length)) (Utf8.encode s) ?_ ?_
  · intro rest
    rw [encodeText, List.append_assoc]
    exact Head.read?_encode (by omega) hs (fun _ => rfl) _
  · intro inner rest
    simp [Value.ofHead?, string?, take?_append, htext]

/-- Items in turn, with a round for each of them and one more. -/
theorem items?_flatten {ps : List (Value × Bytes)} {fuel : Nat}
    (hps : ∀ p ∈ ps, p.1.Written depth p.2) (hfuel : ps.length < fuel) (rest : Bytes) :
    items? (Value.read? depth) fuel (some ps.length) ((ps.map Prod.snd).flatten ++ rest) =
      some (ps.map Prod.fst, rest) := by
  induction ps generalizing fuel with
  | nil =>
    obtain ⟨fuel, rfl⟩ := Nat.exists_eq_add_of_lt hfuel
    rfl
  | cons p ps ih =>
    obtain ⟨hp, hrest⟩ := List.forall_mem_cons.mp hps
    obtain ⟨fuel, rfl⟩ : ∃ k, fuel = k + 1 := Nat.exists_eq_succ_of_ne_zero (by omega)
    rw [List.length_cons, List.map_cons, List.flatten_cons, List.append_assoc, items?, hp]
    simp only [ih hrest (Nat.lt_of_succ_lt_succ hfuel), List.map_cons]

/-- No item is empty, so there are as many bytes as items at least. -/
theorem length_le_flatten {ps : List (Value × Bytes)} (hps : ∀ p ∈ ps, p.1.Written depth p.2) :
    ps.length ≤ (ps.map Prod.snd).flatten.length := by
  induction ps with
  | nil => exact Nat.le_refl _
  | cons p ps ih =>
    obtain ⟨hp, hrest⟩ := List.forall_mem_cons.mp hps
    have hpos := List.length_pos_iff.mpr hp.ne_nil
    have hle := ih hrest
    rw [List.length_cons, List.map_cons, List.flatten_cons, List.length_append]
    omega

theorem written_encodeArray (ps : List (Value × Bytes)) (hps : ∀ p ∈ ps, p.1.Written depth p.2)
    (hlen : ps.length < Bytes.count 8) :
    (Value.array (ps.map Prod.fst)).Written (depth + 1) (encodeArray (ps.map Prod.snd)) := by
  intro rest
  have hhead : Head.read? (Head.encode 4 ps.length ++ ((ps.map Prod.snd).flatten ++ rest)) =
      some (.array (some ps.length), (ps.map Prod.snd).flatten ++ rest) :=
    Head.read?_encode (by omega) hlen (fun _ => rfl) _
  have hfuel : ps.length < ((ps.map Prod.snd).flatten ++ rest).length + 1 := by
    have hle := length_le_flatten hps
    rw [List.length_append]
    omega
  rw [encodeArray, List.length_map, List.append_assoc]
  simp only [Value.read?, hhead, Value.ofHead?, Option.bind_eq_bind, Option.bind_some,
    items?_flatten hps hfuel, Option.pure_def]

end Values
end Cbor

namespace Cose

variable {d d' : Sign1} {payload payload' : Bytes}

/-- The signed bytes are an array of what they are for, the covered header as it was received, no further data
and the payload. -/
theorem Sign1.decode?_signedBytes (hcovered : d.coveredBytes.length < Bytes.count 8)
    (hpayload : payload.length < Bytes.count 8) :
    Cbor.decode? (d.signedBytes payload) =
      some (.array [.text "Signature1", .bytes d.coveredBytes, .bytes [], .bytes payload]) := by
  let items : List (Cbor.Value × Bytes) :=
    [(.text "Signature1", Cbor.encodeText "Signature1"),
      (.bytes d.coveredBytes, Cbor.encodeBytes d.coveredBytes), (.bytes [], Cbor.encodeBytes []),
      (.bytes payload, Cbor.encodeBytes payload)]
  have hpurpose : (Cbor.Value.text "Signature1").Written 255 (Cbor.encodeText "Signature1") :=
    Cbor.written_encodeText (by decide)
  have hnothing : (Cbor.Value.bytes []).Written 255 (Cbor.encodeBytes []) :=
    Cbor.written_encodeBytes (by decide)
  have hitems : ∀ p ∈ items, p.1.Written 255 p.2 := by
    simp only [items, List.forall_mem_cons]
    exact ⟨hpurpose, Cbor.written_encodeBytes hcovered, hnothing, Cbor.written_encodeBytes hpayload,
      List.forall_mem_nil _⟩
  have hfour : items.length < Bytes.count 8 := (by decide : 4 < Bytes.count 8)
  exact (Cbor.written_encodeArray items hitems hfour).decode?_eq

/-- Signed bytes fix the covered header and the payload. -/
theorem Sign1.signedBytes_inj (hcovered : d.coveredBytes.length < Bytes.count 8)
    (hpayload : payload.length < Bytes.count 8) (hcovered' : d'.coveredBytes.length < Bytes.count 8)
    (hpayload' : payload'.length < Bytes.count 8)
    (h : d.signedBytes payload = d'.signedBytes payload') :
    d.coveredBytes = d'.coveredBytes ∧ payload = payload' := by
  have hitems := decode?_signedBytes hcovered hpayload
  rw [h, decode?_signedBytes hcovered' hpayload'] at hitems
  simp only [Option.some.injEq, Cbor.Value.array.injEq, List.cons.injEq, Cbor.Value.bytes.injEq] at hitems
  obtain ⟨-, hheader, -, hbody, -⟩ := hitems
  exact ⟨hheader.symm, hbody.symm⟩

end Cose
end Appraisal
