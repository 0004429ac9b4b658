import Appraisal.Fetch.Locator

/-!
# Appraisal.Fetch.Session

Fetching over the life of a process. The process-wide switch for files is set, fetchers are made and
documents are fetched with them, in any order. A fetcher takes the switch as it stands when it is made,
and keeps to that.

* `FetchEvent`: what happens.
* `FetchSession.step`, `FetchSession.run`: what comes of an event, and of events in turn.
-/

namespace Appraisal

inductive FetchEvent where
  | setSwitch (allowed : Bool)
  /-- A fetcher is made. Fetchers are numbered from zero. -/
  | make (options : FetchOptions)
  | fetch (number : Nat) (url : Url)
deriving DecidableEq, Repr

/-- A process that fetches documents: its switch for files, and the fetchers made so far. -/
structure FetchSession where
  filesAllowed : Bool := false
  fetchers : List LocatorFetcher := []
deriving DecidableEq, Repr

namespace FetchSession

/-- What comes of an event: the process behind it, and the document if one was fetched. Nothing is
fetched with a fetcher that was not made. -/
def step (web : Url → Except Error Bytes) (store : FileStore) (s : FetchSession) :
    FetchEvent → FetchSession × Option (Except Error Bytes)
  | .setSwitch allowed => ({ s with filesAllowed := allowed }, none)
  | .make options =>
    ({ s with fetchers := s.fetchers ++ [LocatorFetcher.ofOptions s.filesAllowed options] }, none)
  | .fetch number url => (s, s.fetchers[number]?.map fun f => f.fetch web store url)

/-- What comes of events in turn: the process behind them, and the documents fetched. -/
def run (web : Url → Except Error Bytes) (store : FileStore) (s : FetchSession) :
    List FetchEvent → FetchSession × List (Except Error Bytes)
  | [] => (s, [])
  | e :: es =>
    let (s, first) := s.step web store e
    let (s, rest) := run web store s es
    (s, first.toList ++ rest)

end FetchSession
end Appraisal
