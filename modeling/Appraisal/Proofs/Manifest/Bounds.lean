import Appraisal.Proofs.Cost
import Appraisal.Proofs.Manifest.Authenticity

/-!
# Appraisal.Proofs.Manifest.Bounds

Resolution ends soon, whatever the services answer: also one that offers new locators in every
document, or another document at every call.

* `Tariff`: prices for the kinds of questions, so that fetches are counted alone and with all others.
* `openDocument_costs`: a document costs two checks for itself and a fetch and a check for its list.
* `Course`: what a resolution asks, for the document and then level by level, within the limits.
* `resolve_bounded`: every resolution takes such a course, with at most 129 fetches.
-/

namespace Appraisal
namespace Manifest

open Dialogue

/-- Prices for the kinds of questions. -/
structure Tariff where
  trust : Nat := 0
  signature : Nat := 0
  fetch : Nat := 0
  /-- For what only evidence asks. -/
  other : Nat := 0

def Tariff.price (p : Tariff) : Query → Nat
  | .isTrusted _ => p.trust
  | .checkSignature _ _ _ => p.signature
  | .fetch _ => p.fetch
  | .computeMac _ | .decrypt _ _ => p.other

section Documents

variable {p : Tariff} {acceptUnsigned : Bool} {document : Bytes}

theorem unsigned_costs {kind : DocumentKind} :
    (unsigned acceptUnsigned kind document).CostsAtMost p.price 0 := by
  unfold unsigned
  split <;> exact costsAtMost_done

theorem checkedPayload_costs {kind : DocumentKind} {d : Cose.Sign1} {key : Bytes} :
    (checkedPayload kind d key).CostsAtMost p.price p.signature := by
  unfold checkedPayload
  split
  · exact costsAtMost_done
  · refine CostsAtMost.bind (n := 0) costsAtMost_question ?_
    intro valid
    split <;> exact costsAtMost_done

theorem openManifest_costs :
    (openManifest acceptUnsigned document).CostsAtMost p.price (p.trust + p.signature) := by
  unfold openManifest
  split
  · exact (unsigned_costs.bind (n := 0) fun _ => costsAtMost_done).mono (Nat.zero_le _)
  · refine CostsAtMost.lift_bind fun (leaf, issuers) => ?_
    refine CostsAtMost.bind costsAtMost_question fun trusted => ?_
    split
    · refine CostsAtMost.lift_bind fun certificate => ?_
      exact checkedPayload_costs.bind (n := 0) fun _ => costsAtMost_done
    · exact costsAtMost_done

theorem openRevocationList_costs {signerKey : Option Bytes} :
    (openRevocationList acceptUnsigned document signerKey).CostsAtMost p.price p.signature := by
  unfold openRevocationList
  split
  · exact unsigned_costs.mono (Nat.zero_le _)
  · exact costsAtMost_done
  · exact checkedPayload_costs

theorem checkRevocation_costs {q : Parsed} {signerKey : Option Bytes} :
    (checkRevocation acceptUnsigned q signerKey).CostsAtMost p.price (p.fetch + p.signature) := by
  unfold checkRevocation
  split
  · split <;> exact costsAtMost_done
  · split
    · exact costsAtMost_done
    · refine CostsAtMost.bind costsAtMost_question fun list => ?_
      refine openRevocationList_costs.bind (n := 0) fun payload => ?_
      split
      · exact costsAtMost_done
      · exact costsAtMost_done
      · split <;> exact costsAtMost_done

/-- A document costs the two checks of its origin, and a fetch and a check for its list. -/
theorem openDocument_costs :
    (openDocument acceptUnsigned document).CostsAtMost p.price
      (p.trust + p.signature + (p.fetch + p.signature)) := by
  unfold openDocument
  refine openManifest_costs.bind fun opened => ?_
  refine CostsAtMost.lift_bind fun parsed => ?_
  exact checkRevocation_costs.bind (n := 0) fun _ => costsAtMost_done

end Documents

section Fetches

variable {acceptUnsigned : Bool} {document : Bytes} {t : Transcript} {x : Exchange}

/-- The URL that is asked for, if a document is. -/
def fetchedUrl? : Query → Option Url
  | .fetch url => some url
  | _ => none

/-- The URLs that were fetched, in order. -/
def fetchedUrls (t : Transcript) : List Url := t.filterMap (fetchedUrl? ·.query)

@[simp] theorem fetchedUrls_cons :
    fetchedUrls (x :: t) = (fetchedUrl? x.query).toList ++ fetchedUrls t := by
  cases h : fetchedUrl? x.query <;> simp [fetchedUrls, h]

theorem mem_fetchedUrls {url : Url} :
    url ∈ fetchedUrls t ↔ ∃ reply : Except Error Bytes, ⟨.fetch url, reply⟩ ∈ t := by
  simp only [fetchedUrls, List.mem_filterMap]
  constructor
  · intro h
    obtain ⟨⟨q, reply⟩, hx, hq⟩ := h
    cases q with
    | fetch found =>
      cases hq
      exact ⟨reply, hx⟩
    | isTrusted | checkSignature | computeMac | decrypt => cases hq
  · intro h
    obtain ⟨reply, hx⟩ := h
    exact ⟨_, hx, rfl⟩

/-- At a price for fetches only, the cost counts them. -/
theorem cost_fetch : cost (Tariff.price { fetch := 1 }) t = (fetchedUrls t).length := by
  have hprice : ∀ q, Tariff.price { fetch := 1 } q = (fetchedUrl? q).toList.length := by
    intro q
    cases q <;> rfl
  induction t with
  | nil => rfl
  | cons x t ih => rw [cost_cons, hprice, ih, fetchedUrls_cons, List.length_append]

/-- At a price of one for everything, the cost counts all questions. -/
theorem cost_all : cost (Tariff.price ⟨1, 1, 1, 1⟩) t = t.length := by
  have hprice : ∀ q, Tariff.price ⟨1, 1, 1, 1⟩ q = 1 := by
    intro q
    cases q <;> rfl
  induction t with
  | nil => rfl
  | cons x t ih => rw [cost_cons, hprice, ih, List.length_cons, Nat.add_comm]

/-- For a document at most one other is fetched: the list that it names, once its origin was checked
and its payload read. -/
structure OneList (acceptUnsigned : Bool) (document : Bytes) (t : Transcript) : Prop where
  one : (fetchedUrls t).length ≤ 1
  named : ∀ url ∈ fetchedUrls t, ∃ opened asked parsed locator,
    (openManifest acceptUnsigned document).Runs asked (.ok opened) ∧ asked <+: t ∧
      parseDocument opened.payload = .ok parsed ∧ parsed.revocationLocator = some locator ∧
      Url.parse? locator = some url

theorem oneList_of_openDocument {r : Except Error Parsed}
    (h : (openDocument acceptUnsigned document).Runs t r) : OneList acceptUnsigned document t where
  one := by
    rw [← cost_fetch]
    exact openDocument_costs t r h
  named url hurl := by
    obtain ⟨reply, hx⟩ := mem_fetchedUrls.mp hurl
    exact openDocument_fetches h hx

end Fetches

section Levels

variable {acceptUnsigned : Bool} {levels left : Nat} {locators : List String} {visits : List Visit}

/-- Level by level, visits go to the locators that the level above found, each URL once. -/
def Descends : List String → List (List Visit) → Prop
  | _, [] => True
  | locators, level :: below =>
    level.map (·.url) <+: candidates locators ∧ Descends (locatorsOf level) below

theorem Descends.nodup {locators : List String} {visited : List (List Visit)}
    (h : Descends locators visited) : ∀ level ∈ visited, (level.map (·.url)).Nodup := by
  induction visited generalizing locators with
  | nil => simp
  | cons level below ih =>
    obtain ⟨hlevel, hbelow⟩ := h
    intro l hl
    rcases List.mem_cons.mp hl with rfl | hl
    · exact nodup_candidates.sublist hlevel.sublist
    · exact ih hbelow l hl

/-- Visits keep to the levels and to the number that are left. -/
theorem Follows.descends (h : Follows levels left locators visits) :
    ∃ visited : List (List Visit), visited.flatten = visits ∧ visited.length ≤ levels ∧
      visits.length ≤ left ∧ Descends locators visited := by
  induction h with
  | stop => exact ⟨[], rfl, Nat.zero_le _, Nat.zero_le _, trivial⟩
  | @level levels left locators level below urls rest ih =>
    obtain ⟨visited, rfl, hlevels, hleft, hdescends⟩ := ih
    -- The level takes its visits off the number that the levels below it may make.
    have hlength : level.length ≤ left := by
      rw [← List.length_map (f := (·.url)), urls]
      exact List.length_take_le ..
    refine ⟨level :: visited, rfl, ?_, ?_, ?_, hdescends⟩
    · simpa using hlevels
    · rw [List.length_append]
      omega
    · rw [urls]
      exact List.take_prefix ..

/-- A visit fetches its URL, and for the document there one list at most. -/
inductive Visit.Modest (acceptUnsigned : Bool) (v : Visit) : Prop
  | failed {e : Error} (asked : v.asked = [⟨.fetch v.url, .error e⟩])
  | fetched {document : Bytes} {rest : Transcript}
      (asked : v.asked = ⟨.fetch v.url, .ok document⟩ :: rest)
      (list : OneList acceptUnsigned document rest)

theorem Visit.modest {v : Visit} (h : (fetchDocument acceptUnsigned v.url).Runs v.asked v.found) :
    v.Modest acceptUnsigned := by
  obtain ⟨e, hasked, -⟩ | ⟨document, rest, hasked, hopen⟩ := fetchDocument_runs h
  · exact .failed hasked
  · exact .fetched hasked (oneList_of_openDocument hopen)

theorem fetchDocument_costs {p : Tariff} {url : Url} :
    (fetchDocument acceptUnsigned url).CostsAtMost p.price
      (p.fetch + (p.trust + p.signature + (p.fetch + p.signature))) := by
  unfold fetchDocument
  exact CostsAtMost.bind costsAtMost_question fun _ => openDocument_costs

end Levels

/-- What is asked in a resolution: for the document itself, and then for what its locators lead to,
level by level within the limits. -/
structure Course (acceptUnsigned : Bool) (document : Bytes) (t : Transcript) where
  opening : Transcript
  top : Except Error Parsed
  levels : List (List Visit)
  asked : t = opening ++ levels.flatten.flatMap (·.asked)
  opens : (openDocument acceptUnsigned document).Runs opening top
  list : OneList acceptUnsigned document opening
  descends : Descends (top.toOption.elim [] (·.locators)) levels
  depth : levels.length ≤ 16
  count : levels.flatten.length ≤ 64
  once : ∀ level ∈ levels, (level.map (·.url)).Nodup
  modest : ∀ v ∈ levels.flatten, v.Modest acceptUnsigned
  visits : ∀ v ∈ levels.flatten, (fetchDocument acceptUnsigned v.url).Runs v.asked v.found

section Course

variable {acceptUnsigned : Bool} {document : Bytes} {t : Transcript}

theorem course_of_runs {r : Except Error Manifest} (h : (resolve acceptUnsigned document).Runs t r) :
    Nonempty (Course acceptUnsigned document t) := by
  obtain ⟨top, first, rest, visits, rfl, htop, hmade, hfollows, -⟩ | ⟨e, he, -⟩ := resolve_runs h
  · obtain ⟨levels, rfl, hlevels, hcount, hdescends⟩ := hfollows.descends
    exact ⟨{
      opening := first
      top := .ok top
      levels := levels
      asked := by rw [hmade.asked]
      opens := htop
      list := oneList_of_openDocument htop
      descends := hdescends
      depth := hlevels
      count := hcount
      once := hdescends.nodup
      modest := fun v hv => Visit.modest (hmade.runs v hv)
      visits := hmade.runs }⟩
  · -- A document that cannot be opened has no level below it.
    exact ⟨{
      opening := t
      top := .error e
      levels := []
      asked := by simp
      opens := he
      list := oneList_of_openDocument he
      descends := trivial
      depth := Nat.zero_le _
      count := Nat.zero_le _
      once := by simp
      modest := by simp
      visits := by simp }⟩

/-- The document and at most 64 visits, each with a fetch of its own. -/
theorem Course.cost_le (c : Course acceptUnsigned document t) (p : Tariff) :
    cost p.price t ≤ p.trust + p.signature + (p.fetch + p.signature) +
      64 * (p.fetch + (p.trust + p.signature + (p.fetch + p.signature))) := by
  rw [c.asked, cost_append]
  refine Nat.add_le_add (openDocument_costs _ _ c.opens) ?_
  refine Nat.le_trans (cost_flatMap_le fun v hv => fetchDocument_costs _ _ (c.visits v hv)) ?_
  exact Nat.mul_le_mul_right _ c.count

end Course

/-- Resolution is bounded with any services: it ends, after 16 levels and 64 locators at most, none of
which it follows twice in a level; for each document it fetches one list at most. So it fetches 129
times at most, and asks 324 questions in all. -/
theorem resolve_bounded (acceptUnsigned : Bool) (document : Bytes) {σ : Type}
    (answer : (q : Query) → StateM σ q.Reply) (start : σ) :
    ∃ r final t, (resolve acceptUnsigned document).run answer start = (r, final) ∧
      (resolve acceptUnsigned document).Runs t r ∧ Heard answer t start final ∧
      Nonempty (Course acceptUnsigned document t) ∧
      (fetchedUrls t).length ≤ 129 ∧ t.length ≤ 324 := by
  obtain ⟨t, hrun, hheard⟩ := run_eq_iff.mp
    (rfl : (resolve acceptUnsigned document).run answer start = (_, _))
  obtain ⟨c⟩ := course_of_runs hrun
  refine ⟨_, _, t, rfl, hrun, hheard, ⟨c⟩, ?_, ?_⟩
  · rw [← cost_fetch]
    exact c.cost_le { fetch := 1 }
  · rw [← cost_all]
    exact c.cost_le ⟨1, 1, 1, 1⟩

end Manifest
end Appraisal
