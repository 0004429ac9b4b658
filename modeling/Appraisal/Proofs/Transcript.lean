import Appraisal.Dialogue

/-!
# Appraisal.Proofs.Transcript

What can be asked and answered while a computation runs. A transcript lists the questions in order,
each with its answer; nothing is assumed about the services, which may keep a state, fail, or answer
the same question differently the next time.

* `Runs d t r`: on some services, `d` asks what `t` lists, hears what `t` lists, and ends in `r`.
* `runs_bind`: a run of a sequence is a run of its first part and, unless that failed, a run of the
  second.
* `Asks P d`: whatever is answered, `d` only asks what satisfies `P`.
* `AsksBehind gate d before`: behind what was said `before`, each question of `d` is one that `gate` admits.
* `Gated gate d before`: behind what was said `before`, `d` asks what `gate` lets it ask next, and goes
  on with one answer only.
* `run_eq_iff`, `runs_run`: with any services that keep any state, the result is that of a run. So
  what holds of all runs holds with all services.
* `runs_iff_of_answers`: services that are functions of the question fix the run, `log` with `result`.
-/

namespace Appraisal

theorem except_bind_eq_ok_iff {α β : Type} {x : Except Error α} {f : α → Except Error β} {b : β} :
    (x >>= f) = .ok b ↔ ∃ a, x = .ok a ∧ f a = .ok b := by
  cases x with
  | error e =>
    constructor
    · intro h
      cases h
    · intro h
      obtain ⟨a, h, -⟩ := h
      cases h
  | ok a =>
    constructor
    · intro h
      exact ⟨a, rfl, h⟩
    · intro h
      obtain ⟨b, h, hf⟩ := h
      cases h
      exact hf

theorem except_eq_ok_of_toOption {ε α : Type} {x : Except ε α} {a : α} (h : x.toOption = some a) :
    x = .ok a := by
  cases x with
  | error e => cases h
  | ok b =>
    cases h
    rfl

/-- A list goes through when each of its members does. -/
theorem except_mapM_eq_ok_iff {α β : Type} {f : α → Except Error β} {xs : List α} {ys : List β} :
    xs.mapM f = .ok ys ↔ xs.map f = ys.map .ok := by
  induction xs generalizing ys with
  | nil => cases ys <;> simp [pure, Except.pure]
  | cons x xs ih =>
    rw [List.mapM_cons, except_bind_eq_ok_iff]
    simp only [except_bind_eq_ok_iff, ih]
    cases ys with
    | nil => simp [pure, Except.pure]
    | cons y ys =>
      constructor
      · intro h
        obtain ⟨y', hx, ys', hxs, hys⟩ := h
        cases hys
        rw [List.map_cons, List.map_cons, hx, hxs]
      · intro h
        obtain ⟨hx, hxs⟩ := List.cons.inj h
        exact ⟨y, hx, ys, hxs, rfl⟩

theorem exists_map_eq_map_ok_iff {α β : Type} {f : α → Except Error β} {xs : List α} :
    (∃ ys : List β, xs.map f = ys.map .ok) ↔ ∀ x ∈ xs, ∃ y, f x = .ok y := by
  induction xs with
  | nil => exact ⟨fun _ => List.forall_mem_nil _, fun _ => ⟨[], rfl⟩⟩
  | cons x xs ih =>
    rw [List.forall_mem_cons, ← ih]
    constructor
    · intro h
      obtain ⟨ys, hys⟩ := h
      cases ys with
      | nil => cases hys
      | cons y ys =>
        obtain ⟨hx, hxs⟩ := List.cons.inj hys
        exact ⟨⟨y, hx⟩, ys, hxs⟩
    · intro h
      obtain ⟨⟨y, hx⟩, ys, hxs⟩ := h
      exact ⟨y :: ys, by rw [List.map_cons, List.map_cons, hx, hxs]⟩

/-- A question and the answer to it. -/
structure Exchange where
  query : Query
  reply : query.Reply

/-- What was asked and answered, in order. -/
abbrev Transcript := List Exchange

namespace Dialogue

/-- On some services, `d` asks and hears what `t` lists, and ends in `r`. -/
inductive Runs {α : Type} : Dialogue α → Transcript → Except Error α → Prop
  | done {r : Except Error α} : Runs (done r) [] r
  | ask {q : Query} {next : q.Reply → Dialogue α} {reply : q.Reply} {rest : Transcript}
      {r : Except Error α} (h : Runs (next reply) rest r) :
      Runs (ask q next) (⟨q, reply⟩ :: rest) r

section Sequence

variable {α β : Type} {t : Transcript}

@[simp] theorem runs_done {x r : Except Error α} : (done x).Runs t r ↔ t = [] ∧ r = x := by
  constructor
  · intro h
    cases h
    exact ⟨rfl, rfl⟩
  · intro h
    obtain ⟨rfl, rfl⟩ := h
    exact .done

theorem runs_ask {q : Query} {next : q.Reply → Dialogue α} {r : Except Error α} :
    (ask q next).Runs t r ↔
      ∃ reply rest, t = ⟨q, reply⟩ :: rest ∧ (next reply).Runs rest r := by
  constructor
  · intro h
    cases h with
    | ask h => exact ⟨_, _, rfl, h⟩
  · intro h
    obtain ⟨reply, rest, rfl, h⟩ := h
    exact .ask h

@[simp] theorem runs_pure {a : α} {r : Except Error α} :
    (pure a : Dialogue α).Runs t r ↔ t = [] ∧ r = .ok a := runs_done

@[simp] theorem runs_fail {e : Error} {r : Except Error α} :
    (fail e : Dialogue α).Runs t r ↔ t = [] ∧ r = .error e := runs_done

@[simp] theorem runs_lift {x r : Except Error α} :
    (liftM x : Dialogue α).Runs t r ↔ t = [] ∧ r = x := runs_done

/-- A run of a sequence: the first part succeeds and the second runs behind it, or the first part
fails and so does the whole. -/
theorem runs_bind {d : Dialogue α} {f : α → Dialogue β} {r : Except Error β} :
    (d >>= f).Runs t r ↔
      (∃ a t₁ t₂, t = t₁ ++ t₂ ∧ d.Runs t₁ (.ok a) ∧ (f a).Runs t₂ r) ∨
      (∃ e, d.Runs t (.error e) ∧ r = .error e) := by
  show (d.bind f).Runs t r ↔ _
  induction d generalizing t with
  | done x =>
    cases x with
    | ok a =>
      constructor
      · intro h
        exact .inl ⟨a, [], t, rfl, .done, h⟩
      · intro h
        obtain ⟨b, t₁, t₂, rfl, h, hf⟩ | ⟨e, h, -⟩ := h
        · cases h
          exact hf
        · cases h
    | error e =>
      constructor
      · intro h
        cases h
        exact .inr ⟨e, .done, rfl⟩
      · intro h
        obtain ⟨a, t₁, t₂, rfl, h, -⟩ | ⟨e, h, rfl⟩ := h
        · cases h
        · cases h
          exact .done
  | ask q next ih =>
    simp only [Dialogue.bind, runs_ask, ih]
    constructor
    · intro h
      obtain ⟨reply, rest, rfl, ⟨a, t₁, t₂, rfl, hd, hf⟩ | ⟨e, hd, rfl⟩⟩ := h
      · exact .inl ⟨a, ⟨q, reply⟩ :: t₁, t₂, rfl, ⟨reply, t₁, rfl, hd⟩, hf⟩
      · exact .inr ⟨e, ⟨reply, rest, rfl, hd⟩, rfl⟩
    · intro h
      obtain ⟨a, t₁, t₂, rfl, ⟨reply, rest, rfl, hd⟩, hf⟩ | ⟨e, ⟨reply, rest, rfl, hd⟩, rfl⟩ := h
      · exact ⟨reply, rest ++ t₂, rfl, .inl ⟨a, rest, t₂, rfl, hd, hf⟩⟩
      · exact ⟨reply, rest, rfl, .inr ⟨e, hd, rfl⟩⟩

/-- A sequence succeeds when both parts do. -/
theorem runs_bind_ok {d : Dialogue α} {f : α → Dialogue β} {b : β} :
    (d >>= f).Runs t (.ok b) ↔
      ∃ a t₁ t₂, t = t₁ ++ t₂ ∧ d.Runs t₁ (.ok a) ∧ (f a).Runs t₂ (.ok b) := by
  simp [runs_bind]

@[simp] theorem runs_attempt {d : Dialogue α} {r : Except Error (Except Error α)} :
    d.attempt.Runs t r ↔ ∃ x, r = .ok x ∧ d.Runs t x := by
  induction d generalizing t with
  | done x =>
    constructor
    · intro h
      cases h
      exact ⟨x, rfl, .done⟩
    · intro h
      obtain ⟨y, rfl, h⟩ := h
      cases h
      exact .done
  | ask q next ih =>
    simp only [attempt, runs_ask, ih]
    constructor
    · intro h
      obtain ⟨reply, rest, rfl, x, rfl, h⟩ := h
      exact ⟨x, rfl, reply, rest, rfl, h⟩
    · intro h
      obtain ⟨x, rfl, reply, rest, rfl, h⟩ := h
      exact ⟨reply, rest, rfl, x, rfl, h⟩

/-- What is computed without a question runs for nothing. -/
theorem runs_lift_bind_ok {x : Except Error α} {f : α → Dialogue β} {b : β} :
    ((liftM x : Dialogue α) >>= f).Runs t (.ok b) ↔ ∃ a, x = .ok a ∧ (f a).Runs t (.ok b) := by
  rw [runs_bind_ok]
  constructor
  · intro h
    obtain ⟨a, t₁, t₂, rfl, hx, hf⟩ := h
    obtain ⟨rfl, ha⟩ := runs_lift.mp hx
    exact ⟨a, ha.symm, hf⟩
  · intro h
    obtain ⟨a, rfl, hf⟩ := h
    exact ⟨a, [], t, rfl, runs_lift.mpr ⟨rfl, rfl⟩, hf⟩

/-- A check that fails unless `c` holds. -/
theorem runs_guard_ok {c : Prop} [Decidable c] {d : Dialogue α} {e : Error} {a : α} :
    (if c then d else fail e).Runs t (.ok a) ↔ c ∧ d.Runs t (.ok a) := by
  by_cases h : c <;> simp [h]

/-- Answers fix the run: of two runs that hear the same as far as both go, neither goes further. -/
theorem Runs.eq_of_isPrefix {d : Dialogue α} {u t' : Transcript} {r r' : Except Error α}
    (h : d.Runs t r) (h' : d.Runs t' r') (ht : t <+: u) (ht' : t' <+: u) : t = t' ∧ r = r' := by
  induction h generalizing t' u with
  | done =>
    cases h'
    exact ⟨rfl, rfl⟩
  | @ask q next reply rest r h ih =>
    obtain ⟨reply', rest', rfl, hnext⟩ := runs_ask.mp h'
    obtain ⟨later, rfl⟩ := ht
    obtain ⟨hx, hrest⟩ := List.cons_prefix_cons.mp ht'
    cases hx
    obtain ⟨rfl, rfl⟩ := ih hnext (List.prefix_append ..) hrest
    exact ⟨rfl, rfl⟩

end Sequence

section Questions

variable {t : Transcript}

/-- A single question, whose answer is worked up by `f`. -/
theorem runs_question {α : Type} {q : Query} {f : q.Reply → Except Error α} {r : Except Error α} :
    (ask q fun reply => done (f reply)).Runs t r ↔ ∃ reply, t = [⟨q, reply⟩] ∧ r = f reply := by
  constructor
  · intro h
    obtain ⟨reply, rest, rfl, hend⟩ := runs_ask.mp h
    cases hend
    exact ⟨reply, rfl, rfl⟩
  · intro h
    obtain ⟨reply, rfl, rfl⟩ := h
    exact .ask .done

/-- A single question in front of the rest, where `ok` are the answers that give a value. -/
theorem runs_question_bind_ok {α β : Type} {q : Query} {f : q.Reply → Except Error α}
    {ok : α → q.Reply} (hok : ∀ reply a, f reply = .ok a ↔ reply = ok a) {g : α → Dialogue β}
    {b : β} :
    ((ask q fun reply => done (f reply)) >>= g).Runs t (.ok b) ↔
      ∃ a rest, t = ⟨q, ok a⟩ :: rest ∧ (g a).Runs rest (.ok b) := by
  rw [runs_bind_ok]
  constructor
  · intro h
    obtain ⟨a, t₁, t₂, rfl, hask, hg⟩ := h
    obtain ⟨reply, rfl, ha⟩ := runs_question.mp hask
    exact ⟨a, t₂, by rw [(hok reply a).mp ha.symm]; rfl, hg⟩
  · intro h
    obtain ⟨a, rest, rfl, hg⟩ := h
    exact ⟨a, [⟨q, ok a⟩], rest, rfl, runs_question.mpr ⟨ok a, rfl, ((hok _ a).mpr rfl).symm⟩, hg⟩

section Bind

variable {β : Type} {b : β}

theorem runs_isTrusted_bind_ok {chain : List Bytes} {f : Bool → Dialogue β} :
    (isTrusted chain >>= f).Runs t (.ok b) ↔
      ∃ (v : Bool) (rest : Transcript), t = ⟨.isTrusted chain, v⟩ :: rest ∧
        (f v).Runs rest (.ok b) :=
  runs_question_bind_ok fun _ _ => by rw [Except.ok.injEq]

theorem runs_checkSignature_bind_ok {key data signature : Bytes} {f : Bool → Dialogue β} :
    (checkSignature key data signature >>= f).Runs t (.ok b) ↔
      ∃ (v : Bool) (rest : Transcript), t = ⟨.checkSignature key data signature, .ok v⟩ :: rest ∧
        (f v).Runs rest (.ok b) :=
  runs_question_bind_ok fun _ _ => Iff.rfl

theorem runs_fetch_bind_ok {url : Url} {f : Bytes → Dialogue β} :
    (fetch url >>= f).Runs t (.ok b) ↔
      ∃ (document : Bytes) (rest : Transcript), t = ⟨.fetch url, .ok document⟩ :: rest ∧
        (f document).Runs rest (.ok b) :=
  runs_question_bind_ok fun _ _ => Iff.rfl

theorem runs_computeMac_bind_ok {data : Bytes} {f : Bytes → Dialogue β} :
    (computeMac data >>= f).Runs t (.ok b) ↔
      ∃ (mac : Bytes) (rest : Transcript), t = ⟨.computeMac data, .ok mac⟩ :: rest ∧
        (f mac).Runs rest (.ok b) :=
  runs_question_bind_ok fun _ _ => Iff.rfl

theorem runs_decrypt_bind_ok {iv ciphertext : Bytes} {f : Bytes → Dialogue β} :
    (decrypt iv ciphertext >>= f).Runs t (.ok b) ↔
      ∃ (plaintext : Bytes) (rest : Transcript), t = ⟨.decrypt iv ciphertext, .ok plaintext⟩ :: rest ∧
        (f plaintext).Runs rest (.ok b) :=
  runs_question_bind_ok fun _ _ => Iff.rfl

end Bind

@[simp] theorem runs_fetch {url : Url} {r : Except Error Bytes} :
    (fetch url).Runs t r ↔ ∃ reply, t = [⟨.fetch url, reply⟩] ∧ r = reply :=
  runs_question

end Questions

section Asks

variable {α β : Type} {P : Query → Prop}

/-- Whatever is answered, every question satisfies `P`. -/
def Asks (P : Query → Prop) : Dialogue α → Prop
  | done _ => True
  | ask q next => P q ∧ ∀ reply, (next reply).Asks P

theorem Asks.bind {d : Dialogue α} {f : α → Dialogue β} (hd : d.Asks P)
    (hf : ∀ a, (f a).Asks P) : (d >>= f).Asks P := by
  show (d.bind f).Asks P
  induction d with
  | done x =>
    cases x with
    | ok a => exact hf a
    | error e => trivial
  | ask q next ih => exact ⟨hd.1, fun reply => ih reply (hd.2 reply)⟩

theorem Asks.attempt {d : Dialogue α} (hd : d.Asks P) : d.attempt.Asks P := by
  induction d with
  | done x => trivial
  | ask q next ih => exact ⟨hd.1, fun reply => ih reply (hd.2 reply)⟩

/-- What is asked in a run is asked whatever is answered. -/
theorem Asks.of_runs {d : Dialogue α} {t : Transcript} {r : Except Error α} (hd : d.Asks P)
    (h : d.Runs t r) : ∀ x ∈ t, P x.query := by
  induction h with
  | done => simp
  | @ask q next reply rest r h ih =>
    intro x hx
    rcases List.mem_cons.mp hx with rfl | hx
    · exact hd.1
    · exact ih (hd.2 reply) x hx

end Asks

section Behind

variable {α β : Type} {gate : Transcript → Query → Prop} {before : Transcript}

/-- Behind what was said `before`, and whatever is answered, each question is one that `gate` admits behind what
was said by then. -/
def AsksBehind (gate : Transcript → Query → Prop) : Dialogue α → (before : Transcript) → Prop
  | done _, _ => True
  | ask q next, before => gate before q ∧
      ∀ reply, (next reply).AsksBehind gate (before ++ [⟨q, reply⟩])

theorem asksBehind_lift_bind {x : Except Error α} {f : α → Dialogue β}
    (h : ∀ a, x = .ok a → (f a).AsksBehind gate before) :
    ((liftM x : Dialogue α) >>= f).AsksBehind gate before := by
  cases x with
  | ok a => exact h a rfl
  | error e => trivial

theorem AsksBehind.bind {d : Dialogue α} {f : α → Dialogue β} (hd : d.AsksBehind gate before)
    (hf : ∀ t a, d.Runs t (.ok a) → (f a).AsksBehind gate (before ++ t)) :
    (d >>= f).AsksBehind gate before := by
  show (d.bind f).AsksBehind gate before
  induction d generalizing before with
  | done x =>
    cases x with
    | ok a => simpa [bind_done_ok] using hf [] a .done
    | error e => trivial
  | ask q next ih =>
    refine ⟨hd.1, fun reply => ih reply (hd.2 reply) ?_⟩
    intro t a h
    simpa using hf (⟨q, reply⟩ :: t) a (.ask h)

theorem AsksBehind.of_runs {d : Dialogue α} {t : Transcript} {r : Except Error α}
    (hd : d.AsksBehind gate before) (h : d.Runs t r) {mid after : Transcript} {x : Exchange}
    (ht : t = mid ++ x :: after) : gate (before ++ mid) x.query := by
  induction h generalizing before mid with
  | done => simp at ht
  | @ask q next reply rest r hrun ih =>
    cases mid with
    | nil =>
      cases ht
      simpa using hd.1
    | cons y mid =>
      obtain ⟨rfl, hrest⟩ := List.cons.inj ht
      simpa using ih (hd.2 reply) hrest

end Behind

section Gates

variable {α β : Type} {gate : Transcript → Exchange → Prop} {before : Transcript}

/-- Behind what was said `before`, each question is one that `gate` admits there. It admits one answer
with it, and any other ends in an error. -/
def Gated (gate : Transcript → Exchange → Prop) : Dialogue α → (before : Transcript) → Prop
  | done _, _ => True
  | ask q next, before => ∃ pass, gate before ⟨q, pass⟩ ∧
      (next pass).Gated gate (before ++ [⟨q, pass⟩]) ∧
      ∀ reply, reply ≠ pass → ∃ err, next reply = done (.error err)

theorem gated_lift_bind {x : Except Error α} {f : α → Dialogue β}
    (h : ∀ a, x = .ok a → (f a).Gated gate before) :
    ((liftM x : Dialogue α) >>= f).Gated gate before := by
  cases x with
  | ok a => exact h a rfl
  | error e => trivial

/-- Trust that is needed to go on. -/
theorem gated_isTrusted_bind {chain : List Bytes} {f : Bool → Dialogue α}
    (hgate : gate before ⟨.isTrusted chain, true⟩)
    (htrusted : (f true).Gated gate (before ++ [⟨.isTrusted chain, true⟩]))
    (hfail : ∃ err, f false = done (.error err)) : (isTrusted chain >>= f).Gated gate before := by
  refine ⟨true, hgate, htrusted, ?_⟩
  intro reply hne
  cases reply with
  | false => exact hfail
  | true => exact absurd rfl hne

theorem Gated.bind {d : Dialogue α} {f : α → Dialogue β} (hd : d.Gated gate before)
    (hf : ∀ t a, d.Runs t (.ok a) → (f a).Gated gate (before ++ t)) :
    (d >>= f).Gated gate before := by
  show (d.bind f).Gated gate before
  induction d generalizing before with
  | done x =>
    cases x with
    | ok a => simpa [bind_done_ok] using hf [] a .done
    | error e => trivial
  | ask q next ih =>
    obtain ⟨pass, hgate, hnext, hfail⟩ := hd
    refine ⟨pass, hgate, ih pass hnext ?_, ?_⟩
    · intro t a h
      simpa using hf (⟨q, pass⟩ :: t) a (.ask h)
    · intro reply hne
      obtain ⟨err, herr⟩ := hfail reply hne
      exact ⟨err, congrArg (·.bind f) herr⟩

/-- Behind gates only what they admit is asked. -/
theorem Gated.asks {P : Query → Prop} {d : Dialogue α} (hd : d.Gated gate before)
    (h : ∀ said x, gate said x → P x.query) : d.Asks P := by
  induction d generalizing before with
  | done x => trivial
  | ask q next ih =>
    obtain ⟨pass, hgate, hnext, hfail⟩ := hd
    refine ⟨h before ⟨q, pass⟩ hgate, ?_⟩
    intro reply
    by_cases hreply : reply = pass
    · rw [hreply]
      exact ih pass hnext
    · obtain ⟨err, herr⟩ := hfail reply hreply
      rw [herr]
      trivial

/-- In a run every question passes its gate, and an answer that the gate does not admit is the last. -/
theorem Gated.of_runs {d : Dialogue α} {t : Transcript} {r : Except Error α}
    (hd : d.Gated gate before) (h : d.Runs t r) {mid after : Transcript} {x : Exchange}
    (ht : t = mid ++ x :: after) :
    ∃ pass, gate (before ++ mid) ⟨x.query, pass⟩ ∧
      (x.reply ≠ pass → after = [] ∧ ∃ err, r = .error err) := by
  induction h generalizing before mid with
  | done => simp at ht
  | @ask q next reply rest r hrun ih =>
    obtain ⟨pass, hgate, hnext, hfail⟩ := hd
    -- Behind another answer than `pass` nothing is asked, so the split is at this question.
    by_cases hreply : reply = pass
    · subst hreply
      cases mid with
      | nil =>
        cases ht
        exact ⟨reply, by simpa using hgate, fun hne => absurd rfl hne⟩
      | cons y mid =>
        obtain ⟨rfl, hrest⟩ := List.cons.inj ht
        simpa using ih hnext hrest
    · obtain ⟨err, herr⟩ := hfail reply hreply
      rw [herr] at hrun
      obtain ⟨rfl, rfl⟩ := runs_done.mp hrun
      cases mid with
      | nil =>
        cases ht
        exact ⟨pass, by simpa using hgate, fun _ => ⟨rfl, err, rfl⟩⟩
      | cons y mid => simp at ht

end Gates

section States

variable {α σ : Type} {answer : (q : Query) → StateM σ q.Reply}

/-- Services in the state `s` give the answers of a transcript and are then in the state `s'`. -/
def Heard (answer : (q : Query) → StateM σ q.Reply) : Transcript → σ → σ → Prop
  | [], s, s' => s' = s
  | x :: t, s, s' => (answer x.query s).1 = x.reply ∧ Heard answer t (answer x.query s).2 s'

theorem heard_append {t₁ t₂ : Transcript} {s s' : σ} :
    Heard answer (t₁ ++ t₂) s s' ↔ ∃ s₁, Heard answer t₁ s s₁ ∧ Heard answer t₂ s₁ s' := by
  induction t₁ generalizing s with
  | nil => simp [Heard]
  | cons x t₁ ih => simp [Heard, ih, and_assoc]

/-- With services that keep a state, a run ends in the result, and it is the one they answer. -/
theorem run_eq_iff {d : Dialogue α} {s s' : σ} {r : Except Error α} :
    d.run answer s = (r, s') ↔ ∃ t, d.Runs t r ∧ Heard answer t s s' := by
  induction d generalizing s with
  | done x =>
    constructor
    · rintro h
      cases h
      exact ⟨[], .done, rfl⟩
    · intro h
      obtain ⟨t, h, hs⟩ := h
      cases h
      cases hs
      rfl
  | ask q next ih =>
    show (next (answer q s).1).run answer (answer q s).2 = (r, s') ↔ _
    rw [ih]
    constructor
    · intro h
      obtain ⟨t, hrun, ht⟩ := h
      exact ⟨⟨q, (answer q s).1⟩ :: t, .ask hrun, rfl, ht⟩
    · intro h
      obtain ⟨t, hrun, hs⟩ := h
      obtain ⟨reply, rest, rfl, hrest⟩ := runs_ask.mp hrun
      obtain ⟨hr, hs⟩ := hs
      obtain rfl : (answer q s).1 = reply := hr
      exact ⟨rest, hrest, hs⟩

/-- Whatever the services answer, and whatever state they keep, the result is that of a run. -/
theorem runs_run (answer : (q : Query) → StateM σ q.Reply) (d : Dialogue α) (s : σ) :
    ∃ t, d.Runs t (d.run answer s).1 := by
  obtain ⟨t, h, -⟩ := run_eq_iff.mp (rfl : d.run answer s = ((d.run answer s).1, _))
  exact ⟨t, h⟩

end States

section Functions

variable {α : Type} (answer : (q : Query) → q.Reply)

/-- The result with services that are functions of the question. -/
def result (d : Dialogue α) : Except Error α := d.run (m := Id) answer

/-- What is asked of services that are functions of the question, and what they answer. -/
def log : Dialogue α → Transcript
  | done _ => []
  | ask q next => ⟨q, answer q⟩ :: (next (answer q)).log

/-- Such services fix the run. -/
theorem runs_iff_of_answers {d : Dialogue α} {t : Transcript} {r : Except Error α} :
    d.Runs t r ∧ (∀ x ∈ t, x.reply = answer x.query) ↔ t = d.log answer ∧ r = d.result answer := by
  induction d generalizing t with
  | done x =>
    constructor
    · intro h
      obtain ⟨hrun, -⟩ := h
      cases hrun
      exact ⟨rfl, rfl⟩
    · intro h
      obtain ⟨rfl, rfl⟩ := h
      exact ⟨.done, by simp [log]⟩
  | ask q next ih =>
    constructor
    · intro h
      obtain ⟨hrun, ha⟩ := h
      obtain ⟨reply, rest, rfl, hrest⟩ := runs_ask.mp hrun
      obtain rfl : reply = answer q := ha _ (List.mem_cons_self ..)
      obtain ⟨rfl, rfl⟩ := (ih _).mp ⟨hrest, fun x hx => ha x (List.mem_cons_of_mem _ hx)⟩
      exact ⟨rfl, rfl⟩
    · intro h
      obtain ⟨rfl, rfl⟩ := h
      obtain ⟨hrun, ha⟩ := (ih _).mpr ⟨rfl, rfl⟩
      refine ⟨.ask hrun, ?_⟩
      intro x hx
      rcases List.mem_cons.mp hx with rfl | hx
      · rfl
      · exact ha x hx

theorem runs_log (d : Dialogue α) : d.Runs (d.log answer) (d.result answer) :=
  ((runs_iff_of_answers answer).mpr ⟨rfl, rfl⟩).1

/-- There is a run to a value that some services lead to. -/
theorem exists_runs_of_toOption {d : Dialogue α} {a : α} (h : (d.result answer).toOption = some a) :
    ∃ t, d.Runs t (.ok a) := by
  refine ⟨d.log answer, ?_⟩
  rw [← except_eq_ok_of_toOption h]
  exact runs_log answer d

end Functions
end Dialogue
end Appraisal
