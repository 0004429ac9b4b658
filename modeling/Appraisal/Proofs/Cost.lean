import Appraisal.Proofs.Transcript

/-!
# Appraisal.Proofs.Cost

How much a computation asks at most, whatever is answered. Every question has a price, so that one
bound counts the questions of a kind and another one all of them.

* `Dialogue.cost`: the price of a transcript.
* `Dialogue.CostsAtMost`: a bound for all runs, which adds up over a sequence.
-/

namespace Appraisal
namespace Dialogue

variable {α β : Type} {price : Query → Nat} {m n : Nat}

/-- The price of all that was asked. -/
def cost (price : Query → Nat) : Transcript → Nat
  | [] => 0
  | x :: t => price x.query + cost price t

@[simp] theorem cost_nil : cost price [] = 0 := rfl

@[simp] theorem cost_cons {x : Exchange} {t : Transcript} :
    cost price (x :: t) = price x.query + cost price t := rfl

@[simp] theorem cost_append {t t' : Transcript} :
    cost price (t ++ t') = cost price t + cost price t' := by
  induction t with
  | nil => simp
  | cons x t ih => rw [List.cons_append, cost_cons, ih, cost_cons, Nat.add_assoc]

/-- Parts that cost `n` at most each. -/
theorem cost_flatMap_le {ι : Type} {parts : List ι} {asked : ι → Transcript}
    (h : ∀ i ∈ parts, cost price (asked i) ≤ n) :
    cost price (parts.flatMap asked) ≤ parts.length * n := by
  induction parts with
  | nil => simp
  | cons i parts ih =>
    have hi := h i (List.mem_cons_self ..)
    have hparts := ih fun j hj => h j (List.mem_cons_of_mem _ hj)
    rw [List.flatMap_cons, cost_append, List.length_cons, Nat.succ_mul]
    omega

/-- Whatever is answered, the questions of `d` cost `n` at most. -/
def CostsAtMost (price : Query → Nat) (n : Nat) (d : Dialogue α) : Prop :=
  ∀ t r, d.Runs t r → cost price t ≤ n

theorem CostsAtMost.mono {d : Dialogue α} (hd : d.CostsAtMost price m) (h : m ≤ n) :
    d.CostsAtMost price n :=
  fun t r hrun => Nat.le_trans (hd t r hrun) h

theorem costsAtMost_done {x : Except Error α} : (done x).CostsAtMost price n := by
  intro t r h
  obtain ⟨rfl, -⟩ := runs_done.mp h
  exact Nat.zero_le _

theorem costsAtMost_question {q : Query} {f : q.Reply → Except Error α} :
    (ask q fun reply => done (f reply)).CostsAtMost price (price q) := by
  intro t r h
  obtain ⟨reply, rfl, -⟩ := runs_question.mp h
  exact Nat.le_refl _

/-- What is computed without a question costs nothing. -/
theorem CostsAtMost.lift_bind {x : Except Error α} {f : α → Dialogue β}
    (hf : ∀ a, (f a).CostsAtMost price n) :
    ((liftM x : Dialogue α) >>= f).CostsAtMost price n := by
  intro t r h
  obtain ⟨a, t₁, t₂, rfl, hx, hrun⟩ | ⟨e, he, -⟩ := runs_bind.mp h
  · obtain ⟨rfl, -⟩ := runs_lift.mp hx
    exact hf a _ _ hrun
  · obtain ⟨rfl, -⟩ := runs_lift.mp he
    exact Nat.zero_le _

/-- Bounds add up, as a failure only leaves the second part out. -/
theorem CostsAtMost.bind {d : Dialogue α} {f : α → Dialogue β} (hd : d.CostsAtMost price m)
    (hf : ∀ a, (f a).CostsAtMost price n) : (d >>= f).CostsAtMost price (m + n) := by
  intro t r h
  obtain ⟨a, t₁, t₂, rfl, h₁, h₂⟩ | ⟨e, he, -⟩ := runs_bind.mp h
  · rw [cost_append]
    exact Nat.add_le_add (hd _ _ h₁) (hf a _ _ h₂)
  · exact Nat.le_trans (hd _ _ he) (Nat.le_add_right ..)

end Dialogue
end Appraisal
