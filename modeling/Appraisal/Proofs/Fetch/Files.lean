import Appraisal.Fetch.Session
import Mathlib.Algebra.Group.Nat.Defs

/-!
# Appraisal.Proofs.Fetch.Files

Who may read files, and how much of them. A process sets its switch, makes fetchers and fetches with them in
any order; whether a fetcher reads files is settled when it is made, by its options or else by the switch as
it was last set. A file is then given as a whole or not at all, and never if it is larger than the limit.

* `FetchSession.filesAllowed_run`, `FetchSession.fetcher_run`: the switch is the last one set, and a fetcher
  stays as it was made.
* `fetchFile_bytes`, `length_le_of_fetchFile`: the limit, checked before a file is read and behind that.
* `fetchFile_congr`: how much of a file is read.
* `Guarded`: what a permission and a limit promise.
* `files_guarded`: what is promised of every fetcher, over the whole life of a process.
-/

namespace Appraisal

variable {web : Url → Except Error Bytes} {store : FileStore} {url : Url} {path : Bytes}

/-! ## The life of a process -/

namespace FetchEvent

/-- How an event sets the switch, if it does. -/
def switch? : FetchEvent → Option Bool
  | setSwitch allowed => some allowed
  | _ => none

/-- The options of the fetcher that an event makes. -/
def options? : FetchEvent → Option FetchOptions
  | make options => some options
  | _ => none

/-- The switch as it was last set. -/
def lastSwitch? (es : List FetchEvent) : Option Bool := (es.filterMap switch?).getLast?

/-- The options of the fetchers that events make, by their numbers. -/
def made (es : List FetchEvent) : List FetchOptions := es.filterMap options?

theorem lastSwitch?_cons (e : FetchEvent) (es : List FetchEvent) :
    lastSwitch? (e :: es) = (lastSwitch? es).or e.switch? := by
  rw [lastSwitch?, lastSwitch?, List.filterMap_cons]
  cases e with
  | setSwitch allowed =>
    simp only [switch?, List.getLast?_cons]
    cases (es.filterMap switch?).getLast? <;> rfl
  | make options => simp only [switch?, Option.or_none]
  | fetch number url => simp only [switch?, Option.or_none]

theorem length_made_cons (e : FetchEvent) (es : List FetchEvent) :
    (made (e :: es)).length = e.options?.toList.length + (made es).length := by
  rw [made, made, List.filterMap_cons]
  cases e with
  | make options => exact Nat.add_comm _ 1
  | setSwitch allowed => exact (Nat.zero_add _).symm
  | fetch number url => exact (Nat.zero_add _).symm

end FetchEvent

namespace FetchSession

open FetchEvent (lastSwitch? made)

theorem filesAllowed_step (s : FetchSession) (e : FetchEvent) :
    (s.step web store e).1.filesAllowed = e.switch?.getD s.filesAllowed := by
  cases e <;> rfl

theorem fetchers_step (s : FetchSession) (e : FetchEvent) :
    (s.step web store e).1.fetchers =
      s.fetchers ++ (e.options?.map (LocatorFetcher.ofOptions s.filesAllowed)).toList := by
  cases e with
  | make options => rfl
  | setSwitch allowed => exact (List.append_nil _).symm
  | fetch number url => exact (List.append_nil _).symm

theorem run_cons (s : FetchSession) (e : FetchEvent) (es : List FetchEvent) :
    s.run web store (e :: es) = (((s.step web store e).1.run web store es).1,
      (s.step web store e).2.toList ++ ((s.step web store e).1.run web store es).2) := rfl

theorem run_append (s : FetchSession) (es fs : List FetchEvent) :
    s.run web store (es ++ fs) = (((s.run web store es).1.run web store fs).1,
      (s.run web store es).2 ++ ((s.run web store es).1.run web store fs).2) := by
  induction es generalizing s with
  | nil => rfl
  | cons e es ih => simp only [List.cons_append, run_cons, ih, List.append_assoc]

/-- Behind events the switch is as the last of them set it. -/
theorem filesAllowed_run (s : FetchSession) (es : List FetchEvent) :
    (s.run web store es).1.filesAllowed = (lastSwitch? es).getD s.filesAllowed := by
  induction es generalizing s with
  | nil => rfl
  | cons e es ih =>
    rw [run_cons, ih, filesAllowed_step, FetchEvent.lastSwitch?_cons]
    cases lastSwitch? es <;> rfl

theorem length_fetchers_run (s : FetchSession) (es : List FetchEvent) :
    (s.run web store es).1.fetchers.length = s.fetchers.length + (made es).length := by
  induction es generalizing s with
  | nil => rfl
  | cons e es ih =>
    rw [run_cons, ih, fetchers_step, FetchEvent.length_made_cons, List.length_append, Nat.add_assoc]
    cases e.options? <;> rfl

/-- A fetcher stays as it was made. -/
theorem fetcher_run {s : FetchSession} {n : Nat} {f : LocatorFetcher} (h : s.fetchers[n]? = some f)
    (es : List FetchEvent) : (s.run web store es).1.fetchers[n]? = some f := by
  induction es generalizing s with
  | nil => exact h
  | cons e es ih =>
    obtain ⟨hlt, -⟩ := List.getElem?_eq_some_iff.mp h
    rw [run_cons]
    refine ih ?_
    rw [fetchers_step, List.getElem?_append_left hlt, h]

/-- A fetcher is made by its options, and the switch as it is then. -/
theorem fetcher_made (before after : List FetchEvent) (o : FetchOptions) :
    (run web store {} (before ++ .make o :: after)).1.fetchers[(made before).length]? =
      some (LocatorFetcher.ofOptions ((lastSwitch? before).getD false) o) := by
  have hlength : (run web store {} before).1.fetchers.length = 0 + (made before).length :=
    length_fetchers_run {} before
  have hallowed : (run web store {} before).1.filesAllowed = (lastSwitch? before).getD false :=
    filesAllowed_run {} before
  rw [Nat.zero_add] at hlength
  rw [run_append, run_cons]
  refine fetcher_run ?_ after
  rw [fetchers_step, ← hlength, ← hallowed]
  exact List.getElem?_concat_length

end FetchSession

/-! ## Files -/

namespace FileContent

theorem read_of_le (content : FileContent) {n m : Nat} (h : n ≤ m) :
    content.read n = (content.read m).take n := by
  cases content with
  | bytes bs => rw [read, read, List.take_take, Nat.min_eq_left h]
  | endless byte => rw [read, read, List.take_replicate, Nat.min_eq_left h]

end FileContent

theorem FileStore.find?_empty (path : Bytes) : FileStore.find? ⟨[]⟩ path = none := by
  rw [find?]
  cases walk? ⟨[]⟩ [] (splitWhere (· == 0x2F) path) <;> rfl

section Files

variable {limit : Nat} {content : FileContent}

def oversized (url : Url) (size limit : Nat) : Error :=
  fetchFailure url s!"body of {size} bytes exceeds the limit of {limit} bytes"

theorem readLimit_le (limit : Nat) : readLimit limit ≤ limit + 1 := Nat.min_le_left _ _

/-- What comes of a file: its size, as it is reported and as it is read, is checked. -/
theorem fetchFile_of_find? (hpath : url.filePath? = some path) (hfile : store.find? path = some content) :
    fetchFile store limit url =
      if content.reportedSize ≤ limit then
        if (content.read (readLimit limit)).length ≤ limit then .ok (content.read (readLimit limit))
        else .error (oversized url (content.read (readLimit limit)).length limit)
      else .error (oversized url content.reportedSize limit) := by
  rw [fetchFile, hpath]
  simp only [hfile, checkSize]
  split
  · split <;> rfl
  · rfl

/-- A file with an end is given as a whole if it is within the limit, and refused otherwise. -/
theorem fetchFile_bytes {bs : Bytes} (hlimit : limit < 2 ^ 64) (hpath : url.filePath? = some path)
    (hfile : store.find? path = some (.bytes bs)) :
    fetchFile store limit url =
      if bs.length ≤ limit then .ok bs else .error (oversized url bs.length limit) := by
  rw [fetchFile_of_find? hpath hfile, FileContent.reportedSize]
  by_cases h : bs.length ≤ limit
  · -- Also at the top of 64 bits, what is read is no shorter than the file.
    have hread : FileContent.read (readLimit limit) (.bytes bs) = bs :=
      List.take_of_length_le (by unfold readLimit; omega)
    rw [if_pos h, if_pos h, hread, if_pos h]
  · rw [if_neg h, if_neg h]

/-- Whatever the file, it is given within the limit or is too large. -/
theorem fetchFile_cases (limit : Nat) (hpath : url.filePath? = some path)
    (hfile : store.find? path = some content) :
    (∃ body, body.length ≤ limit ∧ fetchFile store limit url = .ok body) ∨
      ∃ size, limit < size ∧ fetchFile store limit url = .error (oversized url size limit) := by
  rw [fetchFile_of_find? hpath hfile]
  by_cases hreported : content.reportedSize ≤ limit
  · rw [if_pos hreported]
    by_cases hread : (content.read (readLimit limit)).length ≤ limit
    · exact .inl ⟨_, hread, if_pos hread⟩
    · exact .inr ⟨_, Nat.lt_of_not_le hread, if_neg hread⟩
  · exact .inr ⟨_, Nat.lt_of_not_le hreported, if_neg hreported⟩

theorem fetchFile_missing (hpath : url.filePath? = some path) (hfile : store.find? path = none) :
    fetchFile store limit url = .error .file := by
  rw [fetchFile, hpath]
  simp only [hfile]

theorem fetchFile_ne_missing (hpath : url.filePath? = some path)
    (hfile : store.find? path = some content) : fetchFile store limit url ≠ .error .file := by
  intro h
  obtain ⟨body, -, hbody⟩ | ⟨size, -, hsize⟩ := fetchFile_cases limit hpath hfile
  · cases hbody.symm.trans h
  · cases hsize.symm.trans h

theorem length_le_of_fetchFile {body : Bytes} (h : fetchFile store limit url = .ok body) :
    body.length ≤ limit := by
  cases hpath : url.filePath? with
  | none =>
    rw [fetchFile, hpath] at h
    cases h
  | some path =>
    cases hfile : store.find? path with
    | none => cases (fetchFile_missing hpath hfile).symm.trans h
    | some content =>
      obtain ⟨body', hle, hbody⟩ | ⟨size, -, hsize⟩ := fetchFile_cases limit hpath hfile
      · cases hbody.symm.trans h
        exact hle
      · cases hsize.symm.trans h

/-- Of a file, only the size that is reported and the front up to one byte behind the limit count. -/
theorem fetchFile_congr {store' : FileStore} {content' : FileContent} (hpath : url.filePath? = some path)
    (hfile : store.find? path = some content) (hfile' : store'.find? path = some content')
    (hsize : content.reportedSize = content'.reportedSize)
    (hfront : content.read (limit + 1) = content'.read (limit + 1)) :
    fetchFile store limit url = fetchFile store' limit url := by
  have hread : content.read (readLimit limit) = content'.read (readLimit limit) := by
    rw [content.read_of_le (readLimit_le limit), hfront, ← content'.read_of_le (readLimit_le limit)]
  rw [fetchFile_of_find? hpath hfile, fetchFile_of_find? hpath hfile', hsize, hread]

end Files

/-! ## Fetchers -/

/-- What is promised of documents: a permission to read files, and a limit on how much of them. -/
structure Guarded (permitted : Bool) (limit : Nat)
    (document : (Url → Except Error Bytes) → FileStore → Url → Except Error Bytes) : Prop where
  /-- Without the permission nothing is read, whatever the files are. -/
  refused : ∀ {web store url}, permitted = false → url.scheme = "file" →
    document web store url = .error (fetchFailure url "file locators are not allowed")
  /-- A file is read exactly with the permission: its absence is noticed. -/
  reads_iff : ∀ {web store url path}, url.scheme = "file" → url.filePath? = some path →
    (store.find? path).isSome →
      (permitted = true ↔ document web ⟨[]⟩ url ≠ document web store url)
  /-- Of a file, its reported size is read, and no more than one byte behind the limit. -/
  front : ∀ {web store web' store' url path content content'}, url.scheme = "file" →
    url.filePath? = some path → store.find? path = some content → store'.find? path = some content' →
      content.reportedSize = content'.reportedSize →
      content.read (limit + 1) = content'.read (limit + 1) →
        document web store url = document web' store' url
  /-- A file with an end is given as a whole if it is within the limit, and refused otherwise. -/
  whole : ∀ {web store url path bs}, permitted = true → url.scheme = "file" → url.filePath? = some path →
    store.find? path = some (.bytes bs) →
      (document web store url = .ok bs ↔ bs.length ≤ limit) ∧
        (limit < bs.length → document web store url = .error (oversized url bs.length limit))
  /-- No more of a file is given than the limit, also if it has no end. -/
  within : ∀ {web store url body}, url.scheme = "file" → document web store url = .ok body →
    body.length ≤ limit
  unsupported : ∀ {web store url}, url.scheme ≠ "http" → url.scheme ≠ "https" → url.scheme ≠ "file" →
    document web store url = .error (fetchFailure url ("unsupported scheme " ++ url.scheme))

namespace LocatorFetcher

variable {f : LocatorFetcher}

theorem fetch_file (h : url.scheme = "file") :
    f.fetch web store url = if f.allowFileLocators = true then fetchFile store f.maxSize url
      else .error (fetchFailure url "file locators are not allowed") := by
  rw [fetch, h]
  rfl

theorem fetch_unsupported (hhttp : url.scheme ≠ "http") (hhttps : url.scheme ≠ "https")
    (hfile : url.scheme ≠ "file") :
    f.fetch web store url = .error (fetchFailure url ("unsupported scheme " ++ url.scheme)) := by
  rw [fetch]
  split
  · contradiction
  · contradiction
  · contradiction
  · rfl

theorem fetch_permitted (h : f.allowFileLocators = true) (hscheme : url.scheme = "file") :
    f.fetch web store url = fetchFile store f.maxSize url := by
  rw [fetch_file hscheme, if_pos h]

theorem fetch_refused (h : f.allowFileLocators = false) (hscheme : url.scheme = "file") :
    f.fetch web store url = .error (fetchFailure url "file locators are not allowed") := by
  rw [fetch_file hscheme, h, if_neg Bool.false_ne_true]

theorem guarded (f : LocatorFetcher) (hlimit : f.maxSize < 2 ^ 64) :
    Guarded f.allowFileLocators f.maxSize f.fetch where
  refused := fetch_refused
  reads_iff := by
    intro web store url path hscheme hpath hfile
    obtain ⟨content, hfile⟩ := Option.isSome_iff_exists.mp hfile
    constructor
    · intro h
      rw [fetch_permitted h hscheme, fetch_permitted h hscheme,
        fetchFile_missing hpath (FileStore.find?_empty path)]
      exact (fetchFile_ne_missing hpath hfile).symm
    · intro h
      cases hallowed : f.allowFileLocators with
      | true => rfl
      | false =>
        rw [fetch_refused hallowed hscheme, fetch_refused hallowed hscheme] at h
        exact absurd rfl h
  front := by
    intro web store web' store' url path content content' hscheme hpath hfile hfile' hsize hfront
    rw [fetch_file hscheme, fetch_file hscheme, fetchFile_congr hpath hfile hfile' hsize hfront]
  whole := by
    intro web store url path bs h hscheme hpath hfile
    rw [fetch_permitted h hscheme, fetchFile_bytes hlimit hpath hfile]
    by_cases hfit : bs.length ≤ f.maxSize
    · rw [if_pos hfit]
      exact ⟨⟨fun _ => hfit, fun _ => rfl⟩, fun hlarge => absurd hfit (Nat.not_le_of_lt hlarge)⟩
    · rw [if_neg hfit]
      refine ⟨⟨fun h => ?_, fun h => absurd h hfit⟩, fun _ => rfl⟩
      cases h
  within := by
    intro web store url body hscheme h
    rw [fetch_file hscheme] at h
    split at h
    · exact length_le_of_fetchFile h
    · cases h
  unsupported := fetch_unsupported

end LocatorFetcher

open FetchEvent (lastSwitch? made) in
/-- Over the whole life of a process, a fetcher reads files exactly if it was allowed to when it was made: by
its options, or else by the switch as it was last set before. What happens between that and a fetch makes no
difference. It gives the file as a whole if it is not larger than the limit it was made with, and fails
otherwise. Nothing is fetched from elsewhere than files and web servers. -/
theorem files_guarded (before : List FetchEvent) (o : FetchOptions)
    (hlimit : ∀ n ∈ o.maxManifestSize, n < 2 ^ 64) :
    ∃ document,
      Guarded (o.allowFileLocators.getD ((lastSwitch? before).getD false))
        (o.maxManifestSize.getD (4 * 1024 * 1024)) document ∧
      ∀ after later url web₀ store₀ web store, ∃ s documents,
        FetchSession.run web₀ store₀ {} (before ++ .make o :: after) = (s, documents) ∧
        s.run web store (.fetch (made before).length url :: later) =
          ((s.run web store later).1, document web store url :: (s.run web store later).2) := by
  let f := LocatorFetcher.ofOptions ((lastSwitch? before).getD false) o
  have hmax : f.maxSize < 2 ^ 64 := by
    show o.maxManifestSize.getD defaultMaxSize < 2 ^ 64
    cases hsize : o.maxManifestSize with
    | none => decide
    | some n => exact hlimit n hsize
  refine ⟨f.fetch, f.guarded hmax, fun after later url web₀ store₀ web store => ?_⟩
  refine ⟨_, _, rfl, ?_⟩
  rw [FetchSession.run_cons, FetchSession.step, FetchSession.fetcher_made]
  rfl

/-- The switch is set, and set back behind a fetcher: a file as large as the limit is given, a larger one
is not. -/
theorem files_guarded_switched_back :
    let url : Url := { scheme := "file", path := .segments ["a"] }
    let store (bs : Bytes) : FileStore := ⟨[([[0x61]], .bytes bs)]⟩
    let web (_ : Url) : Except Error Bytes := .error .file
    let o : FetchOptions := { maxManifestSize := some 3 }
    let events : List FetchEvent := [.setSwitch true, .make o, .setSwitch false, .fetch 0 url]
    (∀ n ∈ o.maxManifestSize, n < 2 ^ 64) ∧
      (FetchSession.run web (store [1, 2, 3]) {} events).2 = [.ok [1, 2, 3]] ∧
      (FetchSession.run web (store [1, 2, 3, 4]) {} events).2 = [.error (oversized url 4 3)] := by
  intro url store web o events
  have hlimit : ∀ n ∈ o.maxManifestSize, n < 2 ^ 64 := by decide
  obtain ⟨document, hguarded, hrun⟩ := files_guarded [.setSwitch true] o hlimit
  have hevents (bs : Bytes) :
      (FetchSession.run web (store bs) {} events).2 = [document web (store bs) url] := by
    obtain ⟨s, documents, hbefore, hbehind⟩ := hrun [.setSwitch false] [] url web (store bs) web (store bs)
    cases hbefore
    exact congrArg Prod.snd hbehind
  have hpath : url.filePath? = some [0x2F, 0x61] := by decide
  have hwhole (bs : Bytes) : (document web (store bs) url = .ok bs ↔ bs.length ≤ 3) ∧
      (3 < bs.length → document web (store bs) url = .error (oversized url bs.length 3)) :=
    hguarded.whole rfl rfl hpath rfl
  refine ⟨hlimit, ?_, ?_⟩
  · rw [hevents, (hwhole _).1.mpr (by decide)]
  · rw [hevents, (hwhole _).2 (by decide)]
    rfl

end Appraisal
