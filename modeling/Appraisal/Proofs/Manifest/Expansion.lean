import Appraisal.Proofs.Manifest.Visit

/-!
# Appraisal.Proofs.Manifest.Expansion

Resolution against its reference, a breadth-first expansion that knows no walk: the levels are
written down as if all of their candidates were visited, and cut off afterwards.

* `levelLocators`: the locators of a level, from what is found behind the URLs of the level above.
* `followed`: the first 64 candidates of 16 levels.
* `resolve_expands`: resolution gives the manifest of the expansion, whatever keeps a state; and
  with services that are functions, it asks what they find behind the followed URLs and no more.
-/

namespace Appraisal
namespace Manifest

section Reference

/-- The locators of a level, counted from 0. `found` is what a URL of a level leads to, if it could be
opened. -/
def levelLocators (found : Nat → Url → Option Parsed) (locators : List String) : Nat → List String
  | 0 => locators
  | k + 1 =>
    ((candidates (levelLocators found locators k)).filterMap (found k)).flatMap (·.locators)

/-- The candidates of the first levels, each with its level. -/
def places (found : Nat → Url → Option Parsed) (locators : List String) (levels : Nat) :
    List (Nat × Url) :=
  (List.range levels).flatMap fun k => (candidates (levelLocators found locators k)).map (k, ·)

/-- The URLs that are followed, each with its level. -/
def followed (found : Nat → Url → Option Parsed) (locators : List String) : List (Nat × Url) :=
  (places found locators 16).take 64

/-- The manifest of a document and of what is found behind the URLs that are followed. -/
def expansion (found : Nat → Url → Option Parsed) (top : Parsed) : Manifest :=
  let documents := (followed found top.locators).filterMap fun p => found p.1 p.2
  { manifestId := top.manifest.manifestId
    records := top.manifest.records ++ documents.flatMap (·.manifest.records)
    endorsed := top.manifest.endorsed ++ documents.flatMap (·.manifest.endorsed) }

variable {found : Nat → Url → Option Parsed} {locators : List String}

theorem levelLocators_succ {k : Nat} :
    levelLocators found locators (k + 1) =
      levelLocators (fun k => found (k + 1))
        (((candidates locators).filterMap (found 0)).flatMap (·.locators)) k := by
  induction k with
  | zero => rfl
  | succ k ih => rw [levelLocators, ih, levelLocators]

theorem places_succ {levels : Nat} :
    places found locators (levels + 1) =
      (candidates locators).map (0, ·) ++
        (places (fun k => found (k + 1))
          (((candidates locators).filterMap (found 0)).flatMap (·.locators)) levels).map
          fun p => (p.1 + 1, p.2) := by
  simp only [places, List.range_succ_eq_map, List.flatMap_cons, List.flatMap_map, List.map_flatMap,
    List.map_map, levelLocators_succ]
  rfl

end Reference

section Visits

variable {otherwise : Url → Option Parsed} {visits : List Visit}

/-- What the visit of a URL found; `otherwise` for a URL that was not visited. -/
def foundBy (otherwise : Url → Option Parsed) : List Visit → Url → Option Parsed
  | [], url => otherwise url
  | v :: visits, url => if v.url = url then v.parsed? else foundBy otherwise visits url

theorem foundBy_of_mem {v : Visit} (hd : (visits.map (·.url)).Nodup) (hv : v ∈ visits) :
    foundBy otherwise visits v.url = v.parsed? := by
  induction visits with
  | nil => cases hv
  | cons w visits ih =>
    obtain ⟨hw, hd⟩ := List.nodup_cons.mp hd
    rcases List.mem_cons.mp hv with rfl | hv
    · simp [foundBy]
    · have hne : w.url ≠ v.url := by
        intro h
        exact hw (List.mem_map.mpr ⟨v, hv, h.symm⟩)
      simp only [foundBy, hne, if_false]
      exact ih hd hv

theorem foundBy_or (url : Url) :
    foundBy otherwise visits url = otherwise url ∨
      ∃ v ∈ visits, v.url = url ∧ foundBy otherwise visits url = v.parsed? := by
  induction visits with
  | nil => exact .inl rfl
  | cons w visits ih =>
    by_cases hw : w.url = url
    · exact .inr ⟨w, List.mem_cons_self .., hw, by simp [foundBy, hw]⟩
    · simp only [foundBy, hw, if_false]
      rcases ih with h | ⟨v, hv, hurl, h⟩
      · exact .inl h
      · exact .inr ⟨v, List.mem_cons_of_mem _ hv, hurl, h⟩

/-- Visits level by level are those of the expansion: all the places, cut off at the limit. -/
theorem Follows.expands (otherwise : Url → Option Parsed) {levels left : Nat} {locators : List String}
    (h : Follows levels left locators visits) :
    ∃ found : Nat → Url → Option Parsed,
      (∀ k url, found k url = otherwise url ∨
        ∃ v ∈ visits, v.url = url ∧ found k url = v.parsed?) ∧
      visits.map (fun v => (v.url, v.parsed?)) =
        ((places found locators levels).take left).map fun p => (p.2, found p.1 p.2) := by
  induction h with
  | stop => exact ⟨fun _ => otherwise, fun _ _ => .inl rfl, by simp [places]⟩
  | @level levels left locators level below urls rest ih =>
    obtain ⟨found, hfound, hbelow⟩ := ih
    let here := foundBy otherwise level
    have hhere : level.map (fun v => (v.url, v.parsed?)) =
        ((candidates locators).take left).map fun url => (url, here url) := by
      rw [← urls, List.map_map]
      refine List.map_congr_left fun v hv => ?_
      have hd : (level.map (·.url)).Nodup := by
        rw [urls]
        exact nodup_candidates.sublist (List.take_sublist ..)
      simp only [Function.comp, here, foundBy_of_mem hd hv]
    refine ⟨fun | 0 => here | k + 1 => found k, ?_, ?_⟩
    · rintro (_ | k) url
      · rcases foundBy_or url with h | ⟨v, hv, h⟩
        · exact .inl h
        · exact .inr ⟨v, List.mem_append_left _ hv, h⟩
      · rcases hfound k url with h | ⟨v, hv, h⟩
        · exact .inl h
        · exact .inr ⟨v, List.mem_append_right _ hv, h⟩
    · have hlength : level.length = min left (candidates locators).length := by
        rw [← List.length_map (f := (·.url)), urls, List.length_take]
      rw [places_succ, List.take_append, List.map_append, List.map_append, hhere, hbelow]
      congr 1
      · simp only [List.map_take, List.map_map]
        rfl
      · by_cases hl : (candidates locators).length ≤ left
        · -- The whole level was visited, so the level below has the locators of the expansion.
          have hlocators : locatorsOf level =
              ((candidates locators).filterMap here).flatMap (·.locators) := by
            rw [List.take_of_length_le hl] at hhere
            have hopened : opened level = (candidates locators).filterMap here := by
              have := congrArg (List.filterMap Prod.snd) hhere
              simpa [opened, List.filterMap_map, Function.comp_def] using this
            rw [locatorsOf, hopened]
          have hleft : left - level.length = left - (candidates locators).length := by omega
          simp only [hlocators, hleft, List.map_take, List.map_map, List.length_map]
          rfl
        · -- The limit was met in this level.
          have h0 : left - level.length = 0 := by omega
          have h1 : left - (candidates locators).length = 0 := by omega
          simp [h0, h1]

/-- What visits gather level by level is the expansion, and they go to the URLs that it follows. -/
theorem Follows.gather_eq (otherwise : Url → Option Parsed) {top : Parsed}
    (h : Follows maxLevels maxLocators top.locators visits) :
    ∃ found : Nat → Url → Option Parsed,
      (∀ k url, found k url = otherwise url ∨
        ∃ v ∈ visits, v.url = url ∧ found k url = v.parsed?) ∧
      visits.map (·.url) = (followed found top.locators).map (·.2) ∧
      gather top.manifest (opened visits) = expansion found top := by
  obtain ⟨found, hfound, hvisits⟩ := h.expands otherwise
  refine ⟨found, hfound, ?_, ?_⟩
  · have hurls := congrArg (List.map Prod.fst) hvisits
    simpa [followed, maxLevels, maxLocators, Function.comp_def] using hurls
  · have hopened : opened visits =
        (followed found top.locators).filterMap fun p => found p.1 p.2 := by
      have hdocuments := congrArg (List.filterMap Prod.snd) hvisits
      rw [List.filterMap_map, List.filterMap_map] at hdocuments
      exact hdocuments
    rw [hopened]
    rfl

end Visits

theorem resolve_of_functions (acceptUnsigned : Bool) (document : Bytes)
    (answer : (q : Query) → q.Reply) :
    let found := fun (_ : Nat) url => ((fetchDocument acceptUnsigned url).result answer).toOption
    let top := (openDocument acceptUnsigned document).result answer
    (resolve acceptUnsigned document).result answer = top.map (expansion found) ∧
    (resolve acceptUnsigned document).log answer =
      (openDocument acceptUnsigned document).log answer ++
        match top with
        | .ok top => (followed found top.locators).flatMap fun p =>
            (fetchDocument acceptUnsigned p.2).log answer
        | .error _ => [] := by
  intro found top
  obtain ⟨hrun, hanswers⟩ := (Dialogue.runs_iff_of_answers answer).mpr
    (⟨rfl, rfl⟩ : _ = (resolve acceptUnsigned document).log answer ∧ _)
  obtain ⟨p, first, rest, visits, ht, htop, hmade, hfollows, hr⟩ | ⟨e, he, hr⟩ := resolve_runs hrun
  · simp only [ht, List.mem_append] at hanswers
    obtain ⟨hfirst, hp⟩ := (Dialogue.runs_iff_of_answers answer).mp
      ⟨htop, fun x hx => hanswers x (.inl hx)⟩
    have hvisits : ∀ v ∈ visits, v.asked = (fetchDocument acceptUnsigned v.url).log answer ∧
        v.found = (fetchDocument acceptUnsigned v.url).result answer := by
      intro v hv
      refine (Dialogue.runs_iff_of_answers answer).mp ⟨hmade.runs v hv, fun x hx => ?_⟩
      refine hanswers x (.inr ?_)
      rw [hmade.asked]
      exact List.mem_flatMap.mpr ⟨v, hv, hx⟩
    obtain ⟨found', hfound, hurls, hgather⟩ := hfollows.gather_eq (found 0)
    obtain rfl : found' = found := by
      funext k url
      rcases hfound k url with h | ⟨v, hv, rfl, h⟩
      · exact h
      · rw [h, Visit.parsed?, (hvisits v hv).2]
    have hrest : rest = (followed found p.locators).flatMap fun p =>
        (fetchDocument acceptUnsigned p.2).log answer := by
      have hasked : visits.flatMap (·.asked) = (visits.map (·.url)).flatMap
          fun url => (fetchDocument acceptUnsigned url).log answer := by
        rw [List.flatMap_map, List.flatMap_def, List.flatMap_def,
          List.map_congr_left fun v hv => (hvisits v hv).1]
      rw [hmade.asked, hasked, hurls, List.flatMap_map]
    have htop : top = .ok p := hp.symm
    refine ⟨?_, ?_⟩
    · rw [hr, hgather, htop]
      rfl
    · rw [ht, hfirst, hrest, htop]
  · obtain ⟨hfirst, hp⟩ := (Dialogue.runs_iff_of_answers answer).mp ⟨he, hanswers⟩
    have htop : top = .error e := hp.symm
    refine ⟨?_, ?_⟩
    · rw [hr, htop]
      rfl
    · rw [hfirst, htop, List.append_nil]

theorem resolve_of_states (acceptUnsigned : Bool) (document : Bytes) {σ : Type}
    (answer : (q : Query) → StateM σ q.Reply) (s : σ) :
    ∃ found : Nat → Url → Option Parsed,
      (∀ k url, ∃ s', found k url =
        ((fetchDocument acceptUnsigned url).run answer s').1.toOption) ∧
      ((resolve acceptUnsigned document).run answer s).1 =
        ((openDocument acceptUnsigned document).run answer s).1.map (expansion found) := by
  obtain ⟨t, hrun, hheard⟩ := Dialogue.run_eq_iff.mp
    (rfl : (resolve acceptUnsigned document).run answer s = (_, _))
  let still := fun url => ((fetchDocument acceptUnsigned url).run answer s).1.toOption
  obtain ⟨p, first, rest, visits, rfl, htop, hmade, hfollows, hr⟩ | ⟨e, he, hr⟩ :=
    resolve_runs hrun
  · obtain ⟨s₁, hfirst, hrest⟩ := Dialogue.heard_append.mp hheard
    obtain ⟨found, hfound, -, hgather⟩ := hfollows.gather_eq still
    refine ⟨found, ?_, ?_⟩
    · intro k url
      rcases hfound k url with h | ⟨v, hv, rfl, h⟩
      · exact ⟨s, h⟩
      · -- The part of the transcript that is the visit starts in some state.
        rw [hmade.asked] at hrest
        obtain ⟨before, after, rfl⟩ := List.append_of_mem hv
        rw [List.flatMap_append, List.flatMap_cons] at hrest
        obtain ⟨s', -, hrest⟩ := Dialogue.heard_append.mp hrest
        obtain ⟨s'', hasked, -⟩ := Dialogue.heard_append.mp hrest
        refine ⟨s', ?_⟩
        rw [h, Visit.parsed?, Dialogue.run_eq_iff.mpr ⟨_, hmade.runs v hv, hasked⟩]
    · rw [hr, hgather, Dialogue.run_eq_iff.mpr ⟨_, htop, hfirst⟩]
      rfl
  · refine ⟨fun _ => still, fun _ _ => ⟨s, rfl⟩, ?_⟩
    rw [hr, Dialogue.run_eq_iff.mpr ⟨_, he, hheard⟩]
    rfl

/-- Resolution is the expansion of the document. Services that are functions of the question make
it one of their functions, and are asked for the document and for the URLs that are followed, in this
order. Services with a state may find something else behind a URL at each level. -/
theorem resolve_expands (acceptUnsigned : Bool) (document : Bytes) :
    (∀ answer : (q : Query) → q.Reply,
      let found := fun (_ : Nat) url => ((fetchDocument acceptUnsigned url).result answer).toOption
      let top := (openDocument acceptUnsigned document).result answer
      (resolve acceptUnsigned document).result answer = top.map (expansion found) ∧
      (resolve acceptUnsigned document).log answer =
        (openDocument acceptUnsigned document).log answer ++
          match top with
          | .ok top => (followed found top.locators).flatMap fun p =>
              (fetchDocument acceptUnsigned p.2).log answer
          | .error _ => []) ∧
    (∀ (σ : Type) (answer : (q : Query) → StateM σ q.Reply) (s : σ),
      ∃ found : Nat → Url → Option Parsed,
        (∀ k url, ∃ s', found k url =
          ((fetchDocument acceptUnsigned url).run answer s').1.toOption) ∧
        ((resolve acceptUnsigned document).run answer s).1 =
          ((openDocument acceptUnsigned document).run answer s).1.map (expansion found)) :=
  ⟨resolve_of_functions acceptUnsigned document,
    fun _ => resolve_of_states acceptUnsigned document⟩

end Manifest
end Appraisal
