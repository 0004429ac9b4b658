import Appraisal.Manifest.Resolve
import Appraisal.Proofs.Transcript

/-!
# Appraisal.Proofs.Manifest.Visit

The walk along locators as a list of visits. A visit is one URL with what was asked there and what
was found; services may answer the same question differently at every visit.

* `followLevel_runs`: one level visits its candidates in order, up to the limit.
* `followLevels_runs`: the walk visits level by level, and gathers what the visits found.
* `resolve_runs`: a run of `resolve` opens the document and then is such a walk.
-/

namespace Appraisal
namespace Manifest

/-- The URLs among the locators of a level, each once, in the order of their first occurrence. -/
def candidates (locators : List String) : List Url := (locators.filterMap Url.parse?).eraseDups

/-- The candidates that are not among those already seen. -/
def unseen (seen : List Url) (locators : List String) : List Url :=
  ((locators.filterMap Url.parse?).filter (· ∉ seen)).eraseDups

section Candidates

variable {seen : List Url} {locator : String} {locators : List String} {url : Url}

@[simp] theorem unseen_nil : unseen seen [] = [] := rfl

@[simp] theorem unseen_of_none_seen : unseen [] locators = candidates locators := by
  simp only [unseen, candidates, List.not_mem_nil, not_false_eq_true, decide_true]
  rw [List.filter_eq_self.mpr (by simp)]

theorem unseen_cons_of_none (h : Url.parse? locator = none) :
    unseen seen (locator :: locators) = unseen seen locators := by
  simp [unseen, h]

theorem unseen_cons_of_seen (h : Url.parse? locator = some url) (hs : url ∈ seen) :
    unseen seen (locator :: locators) = unseen seen locators := by
  simp [unseen, h, hs]

theorem unseen_cons_of_fresh (h : Url.parse? locator = some url) (hs : url ∉ seen) :
    unseen seen (locator :: locators) = url :: unseen (url :: seen) locators := by
  have hf : ∀ urls : List Url, (urls.filter (· ∉ seen)).filter (fun b => !b == url) =
      urls.filter (· ∉ url :: seen) := by
    intro urls
    simp only [List.filter_filter, List.mem_cons, not_or]
    refine List.filter_congr fun b _ => ?_
    by_cases hb : b = url <;> simp [hb]
  simp only [unseen, List.filterMap_cons, h, List.filter_cons, hs, not_false_eq_true, decide_true,
    if_true, List.eraseDups_cons, hf]

theorem mem_candidates : url ∈ candidates locators ↔ ∃ l ∈ locators, Url.parse? l = some url := by
  simp [candidates]

theorem nodup_unseen : (unseen seen locators).Nodup := by
  induction locators generalizing seen with
  | nil => simp
  | cons locator locators ih =>
    cases h : Url.parse? locator with
    | none => rw [unseen_cons_of_none h]; exact ih
    | some url =>
      by_cases hs : url ∈ seen
      · rw [unseen_cons_of_seen h hs]; exact ih
      · rw [unseen_cons_of_fresh h hs]
        exact List.nodup_cons.mpr ⟨by simp [unseen], ih⟩

theorem nodup_candidates : (candidates locators).Nodup := by
  rw [← unseen_of_none_seen]
  exact nodup_unseen

end Candidates

/-- A URL with what was asked there and what was found. -/
structure Visit where
  url : Url
  asked : Transcript
  found : Except Error Parsed

namespace Visit

/-- What the document held, if it could be opened. -/
def parsed? (v : Visit) : Option Parsed := v.found.toOption

end Visit

/-- What the documents held that could be opened. -/
def opened (visits : List Visit) : List Parsed := visits.filterMap Visit.parsed?

/-- The locators in these documents. -/
def locatorsOf (visits : List Visit) : List String := (opened visits).flatMap (·.locators)

/-- A manifest with the records of documents behind its own. -/
def gather (m : Manifest) (documents : List Parsed) : Manifest :=
  { m with
    records := m.records ++ documents.flatMap (·.manifest.records)
    endorsed := m.endorsed ++ documents.flatMap (·.manifest.endorsed) }

section Gather

variable {m : Manifest} {v : Visit} {vs ws : List Visit}

@[simp] theorem opened_nil : opened [] = [] := rfl

@[simp] theorem opened_append : opened (vs ++ ws) = opened vs ++ opened ws :=
  List.filterMap_append

theorem opened_cons_ok {p : Parsed} (h : v.found = .ok p) : opened (v :: vs) = p :: opened vs := by
  simp [opened, Visit.parsed?, h, Except.toOption]

theorem opened_cons_error {e : Error} (h : v.found = .error e) : opened (v :: vs) = opened vs := by
  simp [opened, Visit.parsed?, h, Except.toOption]

@[simp] theorem locatorsOf_nil : locatorsOf [] = [] := rfl

theorem locatorsOf_append : locatorsOf (vs ++ ws) = locatorsOf vs ++ locatorsOf ws := by
  simp [locatorsOf]

@[simp] theorem gather_nil : gather m [] = m := by simp [gather]

theorem gather_cons {p : Parsed} {ps : List Parsed} :
    gather m (p :: ps) = gather (extend m p.manifest) ps := by
  simp [gather, extend]

theorem gather_append {ps qs : List Parsed} : gather m (ps ++ qs) = gather (gather m ps) qs := by
  simp [gather]

end Gather

/-- Visits that make up all that was asked: each is a run of `fetchDocument`. -/
structure Made (acceptUnsigned : Bool) (visits : List Visit) (t : Transcript) : Prop where
  asked : t = visits.flatMap (·.asked)
  runs : ∀ v ∈ visits, (fetchDocument acceptUnsigned v.url).Runs v.asked v.found

section Made

variable {acceptUnsigned : Bool} {visits more : List Visit} {t t' : Transcript}

theorem Made.nil : Made acceptUnsigned [] [] := ⟨rfl, by simp⟩

theorem Made.cons {v : Visit} (hv : (fetchDocument acceptUnsigned v.url).Runs v.asked v.found)
    (h : Made acceptUnsigned visits t) : Made acceptUnsigned (v :: visits) (v.asked ++ t) := by
  refine ⟨by simp [h.asked], ?_⟩
  intro w hw
  rcases List.mem_cons.mp hw with rfl | hw
  · exact hv
  · exact h.runs w hw

theorem Made.append (h : Made acceptUnsigned visits t) (h' : Made acceptUnsigned more t') :
    Made acceptUnsigned (visits ++ more) (t ++ t') := by
  refine ⟨by simp [h.asked, h'.asked], ?_⟩
  intro w hw
  rcases List.mem_append.mp hw with hw | hw
  · exact h.runs w hw
  · exact h'.runs w hw

end Made

/-- How many more locators a walk may follow. -/
def Walk.left (w : Walk) : Nat := maxLocators - w.followed

/-- The walk behind some more visits. -/
def Walk.after (w : Walk) (visits : List Visit) : Walk :=
  { manifest := gather w.manifest (opened visits), followed := w.followed + visits.length }

@[simp] theorem Walk.after_nil {w : Walk} : w.after [] = w := by simp [Walk.after]

theorem Walk.after_after {w : Walk} {vs ws : List Visit} :
    (w.after vs).after ws = w.after (vs ++ ws) := by
  simp [Walk.after, gather_append, Nat.add_assoc]

/-- One level visits its candidates in order, up to the limit. It hands on the locators found, unless
there was a candidate too many. -/
theorem followLevel_runs {acceptUnsigned : Bool} {seen : List Url} {next locators : List String}
    {w : Walk} {t : Transcript} {r : Except Error (Walk × Option (List String))}
    (hw : w.followed ≤ maxLocators)
    (h : (followLevel acceptUnsigned seen next w locators).Runs t r) :
    ∃ visits, Made acceptUnsigned visits t ∧
      visits.map (·.url) = (unseen seen locators).take w.left ∧
      r = .ok (w.after visits, if (unseen seen locators).length ≤ w.left
        then some (next ++ locatorsOf visits) else none) := by
  induction locators generalizing seen next w t with
  | nil =>
    simp only [followLevel, Dialogue.runs_pure] at h
    obtain ⟨rfl, rfl⟩ := h
    exact ⟨[], Made.nil, by simp, by simp⟩
  | cons locator locators ih =>
    cases hp : Url.parse? locator with
    | none =>
      simp only [followLevel, hp] at h
      rw [unseen_cons_of_none hp]
      exact ih hw h
    | some url =>
      by_cases hs : url ∈ seen
      · simp only [followLevel, hp, hs, if_true] at h
        rw [unseen_cons_of_seen hp hs]
        exact ih hw h
      rw [unseen_cons_of_fresh hp hs]
      by_cases hf : w.followed = maxLocators
      · simp only [followLevel, hp, hs, hf, if_true, if_false, Dialogue.runs_pure] at h
        obtain ⟨rfl, rfl⟩ := h
        have hl : w.left = 0 := by simp [Walk.left, hf]
        exact ⟨[], Made.nil, by simp [hl], by simp [hl]⟩
      simp only [followLevel, hp, hs, hf, if_false] at h
      obtain ⟨x, t₁, t₂, rfl, hx, hrest⟩ | ⟨e, he, -⟩ := Dialogue.runs_bind.mp h
      · obtain ⟨found, hfound, hv⟩ := Dialogue.runs_attempt.mp hx
        cases hfound
        have hnext : (followLevel acceptUnsigned (url :: seen) (next ++ locatorsOf [⟨url, t₁, x⟩])
            (w.after [⟨url, t₁, x⟩]) locators).Runs t₂ r := by
          cases x with
          | ok p => simpa [Walk.after, locatorsOf, opened_cons_ok, gather_cons] using hrest
          | error e => simpa [Walk.after, locatorsOf, opened_cons_error] using hrest
        have hw' : (w.after [⟨url, t₁, x⟩]).followed ≤ maxLocators := by
          simp only [Walk.after, List.length_singleton]
          omega
        obtain ⟨visits, hmade, hurls, rfl⟩ := ih hw' hnext
        -- The visit of this locator takes one of those left.
        have hleft : w.left = (w.after [⟨url, t₁, x⟩]).left + 1 := by
          simp only [Walk.left, Walk.after, List.length_singleton]
          omega
        refine ⟨⟨url, t₁, x⟩ :: visits, hmade.cons hv, ?_, ?_⟩
        · rw [List.map_cons, hurls, hleft, List.take_succ_cons]
        · rw [Walk.after_after, hleft, List.length_cons, List.append_assoc, ← locatorsOf_append]
          simp only [Nat.add_le_add_iff_right, List.singleton_append]
      · obtain ⟨x, hx, -⟩ := Dialogue.runs_attempt.mp he
        cases hx

/-- Visits level by level: those of some locators, then those of the locators found there, and so on
for at most `levels` levels and `left` visits. -/
inductive Follows : (levels left : Nat) → List String → List Visit → Prop
  | stop {left : Nat} {locators : List String} : Follows 0 left locators []
  | level {levels left : Nat} {locators : List String} {level below : List Visit}
      (urls : level.map (·.url) = (candidates locators).take left)
      (rest : Follows levels (left - level.length) (locatorsOf level) below) :
      Follows (levels + 1) left locators (level ++ below)

/-- Where nothing is to be followed, no level has a visit. -/
theorem follows_nil {levels left : Nat} {locators : List String}
    (h : (candidates locators).take left = []) : Follows levels left locators [] := by
  induction levels generalizing locators with
  | zero => exact .stop
  | succ levels ih =>
    have hurls : ([] : List Visit).map (·.url) = (candidates locators).take left := h.symm
    exact .level hurls (ih (by simp [candidates]))

/-- Every URL that is visited stands among the locators at the start or in a document that a visit
opened. -/
theorem Follows.url_mem {levels left : Nat} {locators : List String} {visits : List Visit}
    (h : Follows levels left locators visits) {v : Visit} (hv : v ∈ visits) :
    v.url ∈ candidates locators ∨ ∃ p ∈ opened visits, v.url ∈ candidates p.locators := by
  induction h with
  | stop => cases hv
  | @level levels left locators level below urls rest ih =>
    rcases List.mem_append.mp hv with hv | hv
    · have hurl : v.url ∈ (candidates locators).take left := by
        rw [← urls]
        exact List.mem_map_of_mem hv
      exact .inl (List.mem_of_mem_take hurl)
    · right
      rcases ih hv with h | ⟨p, hp, h⟩
      · obtain ⟨l, hl, hurl⟩ := mem_candidates.mp h
        obtain ⟨p, hp, hl⟩ := List.mem_flatMap.mp hl
        exact ⟨p, by simp [hp], mem_candidates.mpr ⟨l, hl, hurl⟩⟩
      · exact ⟨p, by simp [hp], h⟩

/-- The walk visits level by level, and gathers what it finds. -/
theorem followLevels_runs {acceptUnsigned : Bool} {levels : Nat} {w : Walk}
    {locators : List String} {t : Transcript} {r : Except Error Manifest}
    (hw : w.followed ≤ maxLocators)
    (h : (followLevels acceptUnsigned levels w locators).Runs t r) :
    ∃ visits, Made acceptUnsigned visits t ∧ Follows levels w.left locators visits ∧
      r = .ok (gather w.manifest (opened visits)) := by
  induction levels generalizing w locators t with
  | zero =>
    have h : (pure w.manifest : Dialogue Manifest).Runs t r := by
      cases locators <;> simpa only [followLevels] using h
    obtain ⟨rfl, rfl⟩ := Dialogue.runs_pure.mp h
    exact ⟨[], Made.nil, .stop, by simp⟩
  | succ levels ih =>
    cases locators with
    | nil =>
      simp only [followLevels, Dialogue.runs_pure] at h
      obtain ⟨rfl, rfl⟩ := h
      exact ⟨[], Made.nil, follows_nil (by simp [candidates]), by simp⟩
    | cons locator locators =>
      simp only [followLevels] at h
      obtain ⟨⟨w', next⟩, t₁, t₂, rfl, hlevel, hrest⟩ | ⟨e, he, -⟩ := Dialogue.runs_bind.mp h
      · obtain ⟨level, hmade, hurls, hend⟩ := followLevel_runs hw hlevel
        rw [unseen_of_none_seen] at hurls hend
        have hcount : level.length = min w.left (candidates (locator :: locators)).length := by
          rw [← List.length_map (f := (·.url)), hurls, List.length_take]
        cases hend
        split at hrest
        · rename_i next' hnext
          split at hnext
          · cases hnext
            obtain ⟨below, hmade', hbelow, rfl⟩ :=
              ih (by simp only [Walk.after, Walk.left] at *; omega) hrest
            refine ⟨level ++ below, hmade.append hmade', .level hurls ?_, ?_⟩
            · have hleft : (w.after level).left = w.left - level.length := by
                simp only [Walk.left, Walk.after]
                omega
              rw [← hleft]
              exact hbelow
            · simp [Walk.after, gather_append]
          · cases hnext
        · rename_i hnext
          obtain ⟨rfl, rfl⟩ := Dialogue.runs_pure.mp hrest
          split at hnext
          · cases hnext
          · refine ⟨level ++ [], by simpa using hmade, .level hurls ?_, by simp [Walk.after]⟩
            exact follows_nil (by rw [show w.left - level.length = 0 by omega]; rfl)
      · obtain ⟨level, -, -, hend⟩ := followLevel_runs hw he
        cases hend

/-- A run of `resolve` opens the document and, unless that fails, follows its locators. -/
theorem resolve_runs {acceptUnsigned : Bool} {document : Bytes} {t : Transcript}
    {r : Except Error Manifest} (h : (resolve acceptUnsigned document).Runs t r) :
    (∃ top first rest visits, t = first ++ rest ∧
      (openDocument acceptUnsigned document).Runs first (.ok top) ∧
      Made acceptUnsigned visits rest ∧ Follows maxLevels maxLocators top.locators visits ∧
      r = .ok (gather top.manifest (opened visits))) ∨
    (∃ e, (openDocument acceptUnsigned document).Runs t (.error e) ∧ r = .error e) := by
  obtain ⟨top, first, rest, rfl, htop, hrest⟩ | ⟨e, he, rfl⟩ := Dialogue.runs_bind.mp h
  · obtain ⟨visits, hmade, hfollows, rfl⟩ := followLevels_runs (Nat.zero_le _) hrest
    exact .inl ⟨top, first, rest, visits, rfl, htop, hmade, hfollows, rfl⟩
  · exact .inr ⟨e, he, rfl⟩

theorem resolve_runs_ok {acceptUnsigned : Bool} {document : Bytes} {t : Transcript} {m : Manifest}
    (h : (resolve acceptUnsigned document).Runs t (.ok m)) :
    ∃ top first rest visits, t = first ++ rest ∧
      (openDocument acceptUnsigned document).Runs first (.ok top) ∧
      Made acceptUnsigned visits rest ∧ Follows maxLevels maxLocators top.locators visits ∧
      m = gather top.manifest (opened visits) := by
  obtain ⟨top, first, rest, visits, ht, htop, hmade, hfollows, hm⟩ | ⟨e, -, he⟩ := resolve_runs h
  · cases hm
    exact ⟨top, first, rest, visits, ht, htop, hmade, hfollows, rfl⟩
  · cases he

end Manifest
end Appraisal
