import Appraisal.Error
import Appraisal.Url.Basic

/-!
# Appraisal.Dialogue

What the verifier asks of the services that it relies on: one that trusts certificate chains, one
that checks signatures, one that fetches documents, one that computes message authentication codes
and one that decrypts. A computation that asks them is a tree: each question is a node, each answer
picks a branch, and every branch ends in a result. So a property of the tree holds for all services,
whatever they answer and whether they keep a state.

* `Query`, `Query.Reply`: the questions, and the answers to them.
* `Dialogue`: a computation that asks.
* `Dialogue.run`: its result with given services.
-/

namespace Appraisal

inductive Query where
  | isTrusted (chain : List Bytes)
  | checkSignature (key data signature : Bytes)
  | fetch (url : Url)
  | computeMac (data : Bytes)
  | decrypt (iv ciphertext : Bytes)
deriving DecidableEq, Repr

/-- The answers to a question. Only trust is always decided; every other service may fail. -/
abbrev Query.Reply : Query → Type
  | isTrusted _ => Bool
  | checkSignature _ _ _ => Except Error Bool
  | fetch _ => Except Error Bytes
  | computeMac _ => Except Error Bytes
  | decrypt _ _ => Except Error Bytes

/-- A computation that asks questions, one at a time, and ends in a value or an error. -/
inductive Dialogue (α : Type) where
  | done (result : Except Error α)
  | ask (q : Query) (next : q.Reply → Dialogue α)

namespace Dialogue

def fail (e : Error) : Dialogue α := done (.error e)

/-- Goes on with the value that a computation ends in; an error ends the whole. -/
def bind : Dialogue α → (α → Dialogue β) → Dialogue β
  | done (.error e), _ => done (.error e)
  | done (.ok a), f => f a
  | ask q next, f => ask q fun r => (next r).bind f

instance : Monad Dialogue where
  pure a := done (.ok a)
  bind := bind

instance : MonadLift (Except Error) Dialogue where
  monadLift := done

def attempt : Dialogue α → Dialogue (Except Error α)
  | done result => done (.ok result)
  | ask q next => ask q fun r => (next r).attempt

def isTrusted (chain : List Bytes) : Dialogue Bool := ask (.isTrusted chain) fun r => done (.ok r)

/-- Asks whether a signature is one of the data under the key. -/
def checkSignature (key data signature : Bytes) : Dialogue Bool :=
  ask (.checkSignature key data signature) done

def fetch (url : Url) : Dialogue Bytes := ask (.fetch url) done

def computeMac (data : Bytes) : Dialogue Bytes := ask (.computeMac data) done

def decrypt (iv ciphertext : Bytes) : Dialogue Bytes := ask (.decrypt iv ciphertext) done

def run [Monad m] (answer : (q : Query) → m q.Reply) : Dialogue α → m (Except Error α)
  | done result => pure result
  | ask q next => do (next (← answer q)).run answer

theorem bind_done_ok (a : α) (f : α → Dialogue β) : (done (.ok a)).bind f = f a := rfl

end Dialogue
end Appraisal
