import LumenRelay.Routing.Catalog
import Mathlib.Data.Prod.Lex
import Mathlib.Data.String.Basic
import Mathlib.Algebra.Order.Ring.Rat

/-!
# The ranking of the proxies of a country

Of the proxies of a country whose last test was healthy the one with the smallest rank is
preferred.  A rank ends with the id, so no two proxies have the same one and the order in which
they are looked at does not matter.
-/

namespace Routing

open Lib Py

variable (rt : Runtime)

/-- `records_for_country`; without a code, all records. -/
def recordsForCountry (records : Dict String Record) (code : String) : List Record :=
  let normalized := strip (rt.upper code)
  records.values.filter fun row => normalized = "" || row.code = normalized

/-- What candidates are compared by: the negated score, the three latencies and the id. -/
abbrev Rank := ℤ ×ₗ ℚ ×ₗ ℚ ×ₗ ℚ ×ₗ String

/-- The id that a rank ends with. -/
def Rank.id (r : Rank) : String := (ofLex (ofLex (ofLex (ofLex r).2).2).2).2

/-- The rank of a proxy by the result of its last test. -/
def rankOf (proxyId : String) (result : Obj) : Except PyErr Rank := do
  let score ← performanceScore rt result
  let total ← averageCheckMs rt result "total_ms"
  let connect ← averageCheckMs rt result "connect_ms"
  let request ← averageCheckMs rt result "request_ms"
  return toLex (-score, toLex (total, toLex (connect, toLex (request, proxyId))))

/-- The rank of a proxy that is healthy. -/
def candidate (results : Dict String Obj) (proxyId : String) : Except PyErr (Option Rank) := do
  match results.get? proxyId with
  | none => return none
  | some result =>
    if ← currentHealthy (some result) then return some (← rankOf rt proxyId result) else return none

/-- `preferred_proxy_id`. -/
def preferredProxyId (recordIds : List String) (results : Dict String Obj) :
    Except PyErr (Option String) := do
  let candidates ← recordIds.mapM (candidate rt results)
  return ((candidates.filterMap id).min?).map Rank.id

/-! ## The best one -/

/-- The proxy is healthy. -/
def IsHealthy (results : Dict String Obj) (proxyId : String) : Prop :=
  ∃ result, results.get? proxyId = some result ∧ currentHealthy (some result) = .ok true

/-- The rank of a proxy by its stored result. -/
def HasRank (results : Dict String Obj) (proxyId : String) (rank : Rank) : Prop :=
  ∃ result, results.get? proxyId = some result ∧ rankOf rt proxyId result = .ok rank

/-- Of some proxies, a healthy one with the smallest rank. -/
structure IsBest (recordIds : List String) (results : Dict String Obj) (proxyId : String) : Prop where
  mem : proxyId ∈ recordIds
  healthy : IsHealthy results proxyId
  least : ∃ rank, HasRank rt results proxyId rank ∧
    ∀ other ∈ recordIds, IsHealthy results other →
      ∃ rank', HasRank rt results other rank' ∧ rank ≤ rank'

variable {rt} {results : Dict String Obj} {recordIds : List String} {proxyId : String}

lemma rankOf_id {result : Obj} {rank : Rank} (h : rankOf rt proxyId result = .ok rank) :
    rank.id = proxyId := by
  unfold rankOf at h
  obtain ⟨_, -, h⟩ := bind_eq_ok h
  obtain ⟨_, -, h⟩ := bind_eq_ok h
  obtain ⟨_, -, h⟩ := bind_eq_ok h
  obtain ⟨_, -, h⟩ := bind_eq_ok h
  obtain rfl := Except.ok.inj h
  rfl

lemma candidate_eq_some {rank : Rank} (h : candidate rt results proxyId = .ok (some rank)) :
    ∃ result, results.get? proxyId = some result ∧ currentHealthy (some result) = .ok true ∧
      rankOf rt proxyId result = .ok rank := by
  unfold candidate at h
  cases hresult : results.get? proxyId with
  | none =>
    rw [hresult] at h
    cases h
  | some result =>
    rw [hresult] at h
    obtain ⟨healthy, hhealthy, h⟩ := bind_eq_ok h
    cases healthy with
    | false => cases h
    | true =>
      obtain ⟨rank', hrank, h⟩ := bind_eq_ok h
      obtain rfl := Option.some.inj (Except.ok.inj h)
      exact ⟨result, rfl, hhealthy, hrank⟩

lemma candidate_eq_none (h : candidate rt results proxyId = .ok none) : ¬ IsHealthy results proxyId := by
  rintro ⟨result, hresult, hhealthy⟩
  unfold candidate at h
  rw [hresult] at h
  dsimp only at h
  rw [hhealthy] at h
  obtain ⟨rank, -, h⟩ := bind_eq_ok (show (rankOf rt proxyId result >>= _) = _ from h)
  cases h

/-- The candidates are the ranks of the healthy proxies. -/
lemma mem_candidates {candidates : List (Option Rank)}
    (h : recordIds.mapM (candidate rt results) = .ok candidates) {rank : Rank} :
    rank ∈ candidates.filterMap id ↔
      ∃ proxyId ∈ recordIds, candidate rt results proxyId = .ok (some rank) := by
  simp [mem_of_mapM h]

/-- Each proxy has been looked at. -/
lemma looked_at {candidates : List (Option Rank)}
    (h : recordIds.mapM (candidate rt results) = .ok candidates) (hid : proxyId ∈ recordIds) :
    ∃ found, candidate rt results proxyId = .ok found := by
  have hall := forall₂_of_mapM h
  clear h
  induction hall with
  | nil => cases hid
  | @cons id found _ _ hfound _ ih =>
    rcases List.mem_cons.mp hid with rfl | hid
    · exact ⟨found, hfound⟩
    · exact ih hid

/-- The proxy that is preferred is the best one. -/
lemma preferredProxyId_some (h : preferredProxyId rt recordIds results = .ok (some proxyId)) :
    IsBest rt recordIds results proxyId := by
  unfold preferredProxyId at h
  obtain ⟨candidates, hcandidates, h⟩ := bind_eq_ok h
  obtain ⟨rank, hmin, rfl⟩ := Option.map_eq_some_iff.mp (Except.ok.inj h)
  obtain ⟨hmem, hleast⟩ := List.min?_eq_some_iff.mp hmin
  obtain ⟨proxyId, hid, hcandidate⟩ := (mem_candidates hcandidates).mp hmem
  obtain ⟨result, hresult, hhealthy, hrank⟩ := candidate_eq_some hcandidate
  rw [rankOf_id hrank]
  refine ⟨hid, ⟨result, hresult, hhealthy⟩, rank, ⟨result, hresult, hrank⟩, ?_⟩
  intro other hother hhealthy'
  obtain ⟨found, hfound⟩ := looked_at hcandidates hother
  cases found with
  | none => exact absurd hhealthy' (candidate_eq_none hfound)
  | some rank' =>
    obtain ⟨result', hresult', -, hrank'⟩ := candidate_eq_some hfound
    exact ⟨rank', ⟨result', hresult', hrank'⟩,
      hleast rank' ((mem_candidates hcandidates).mpr ⟨other, hother, hfound⟩)⟩

/-- No proxy is preferred only when none is healthy. -/
lemma preferredProxyId_none (h : preferredProxyId rt recordIds results = .ok none) :
    ∀ other ∈ recordIds, ¬ IsHealthy results other := by
  intro other hother
  unfold preferredProxyId at h
  obtain ⟨candidates, hcandidates, h⟩ := bind_eq_ok h
  have hnil := List.min?_eq_none_iff.mp (Option.map_eq_none_iff.mp (Except.ok.inj h))
  obtain ⟨found, hfound⟩ := looked_at hcandidates hother
  cases found with
  | none => exact candidate_eq_none hfound
  | some rank =>
    have hmem : rank ∈ candidates.filterMap id :=
      (mem_candidates hcandidates).mpr ⟨other, hother, hfound⟩
    rw [hnil] at hmem
    cases hmem

/-- There is one best proxy. -/
lemma IsBest.unique {other : String} (h : IsBest rt recordIds results proxyId)
    (h' : IsBest rt recordIds results other) : other = proxyId := by
  have hinj : ∀ {id : String} {rank rank' : Rank}, HasRank rt results id rank →
      HasRank rt results id rank' → rank' = rank := by
    rintro id rank rank' ⟨result, hresult, hrank⟩ ⟨result', hresult', hrank'⟩
    obtain rfl := Option.some.inj (hresult.symm.trans hresult')
    exact Except.ok.inj (hrank'.symm.trans hrank)
  obtain ⟨rank, hrank, hleast⟩ := h.least
  obtain ⟨rank', hrank', hleast'⟩ := h'.least
  obtain ⟨r', hr', hle⟩ := hleast other h'.mem h'.healthy
  obtain ⟨r, hr, hle'⟩ := hleast' proxyId h.mem h.healthy
  obtain rfl := hinj hrank' hr'
  obtain rfl := hinj hrank hr
  have heq : r' = r := le_antisymm hle' hle
  obtain ⟨_, -, hid⟩ := hrank
  obtain ⟨_, -, hid'⟩ := hrank'
  rw [← rankOf_id hid, ← rankOf_id hid', heq]

/-- What is best does not depend on the order of the proxies. -/
lemma IsBest.congr {recordIds' : List String} (hmem : ∀ id, id ∈ recordIds' ↔ id ∈ recordIds)
    (h : IsBest rt recordIds results proxyId) : IsBest rt recordIds' results proxyId := by
  obtain ⟨rank, hrank, hleast⟩ := h.least
  exact ⟨(hmem _).mpr h.mem, h.healthy, rank, hrank, fun other hother => hleast other ((hmem _).mp hother)⟩

/-! ## Results that are kept -/

/-- The result is one that `sanitize_proxy_test_result` has returned for the proxy. -/
def Sanitized (rt : Runtime) (proxyId : String) (result : Obj) : Prop :=
  ∃ key raw, sanitizeProxyTestResult rt key raw = .ok (some (proxyId, result))

/-- All results are sanitized. -/
def Kept (rt : Runtime) (results : Dict String Obj) : Prop :=
  ∀ proxyId result, results.get? proxyId = some result → Sanitized rt proxyId result

lemma averageCheckMs_congr {o o' : Obj} (h : o'.get "checks" = o.get "checks") (field : String) :
    averageCheckMs rt o' field = averageCheckMs rt o field := by
  unfold averageCheckMs
  rw [h]

lemma performanceScore_congr {o o' : Obj} (hchecks : o'.get "checks" = o.get "checks")
    (hsamples : o'.get "sample_count" = o.get "sample_count")
    (hsuccesses : o'.get "success_count" = o.get "success_count") :
    performanceScore rt o' = performanceScore rt o := by
  unfold performanceScore
  rw [hsamples, hsuccesses, averageCheckMs_congr hchecks, averageCheckMs_congr hchecks,
    averageCheckMs_congr hchecks]

/-- A result that has a score has a rank. -/
lemma rankOf_ok {result : Obj} {score : ℤ} (h : performanceScore rt result = .ok score)
    (proxyId : String) : ∃ rank, rankOf rt proxyId result = .ok rank := by
  have hscore := h
  unfold performanceScore at h
  obtain ⟨_, -, h⟩ := bind_eq_ok h
  obtain ⟨_, -, h⟩ := bind_eq_ok h
  obtain ⟨_, htotal, h⟩ := bind_eq_ok h
  obtain ⟨_, hconnect, h⟩ := bind_eq_ok h
  obtain ⟨_, hrequest, h⟩ := bind_eq_ok h
  unfold rankOf
  rw [hscore, ok_bind, htotal, ok_bind, hconnect, ok_bind, hrequest, ok_bind]
  exact ⟨_, rfl⟩

lemma sanitizeCheck_target {item check : Obj} (h : sanitizeCheck rt item = .ok check) :
    check.get "target" = .str ((item.get "target").text rt) := by
  unfold sanitizeCheck at h
  obtain ⟨_, -, h⟩ := bind_eq_ok h
  obtain ⟨_, -, h⟩ := bind_eq_ok h
  obtain ⟨_, -, h⟩ := bind_eq_ok h
  obtain ⟨_, -, h⟩ := bind_eq_ok h
  obtain ⟨_, -, h⟩ := bind_eq_ok h
  obtain rfl := Except.ok.inj h
  rfl

lemma exists_of_mem_mapM {α β : Type} {f : α → Option β} {l : List α} {bs : List β}
    (h : l.mapM f = some bs) {b : β} (hb : b ∈ bs) : ∃ a ∈ l, f a = some b := by
  induction l generalizing bs with
  | nil =>
    cases h
    cases hb
  | cons a l ih =>
    rw [List.mapM_cons, Option.bind_eq_bind, Option.bind_eq_some_iff] at h
    obtain ⟨b', hb', h⟩ := h
    rw [Option.bind_eq_bind, Option.bind_eq_some_iff] at h
    obtain ⟨bs', hbs', h⟩ := h
    obtain rfl := Option.some.inj h
    rcases List.mem_cons.mp hb with rfl | hb
    · exact ⟨a, List.mem_cons_self, hb'⟩
    · obtain ⟨a', ha', hfa'⟩ := ih hbs' hb
      exact ⟨a', List.mem_cons_of_mem a ha', hfa'⟩

/-- The check that is kept for a target names it. -/
lemma sanitizeChecks_target {items : List Json} {byTarget byTarget' : List (String × Obj)}
    (hstart : ∀ e ∈ byTarget, e.2.get "target" = .str e.1)
    (h : sanitizeChecks rt items byTarget = .ok byTarget') :
    ∀ e ∈ byTarget', e.2.get "target" = .str e.1 := by
  induction items generalizing byTarget with
  | nil =>
    obtain rfl := Except.ok.inj h
    exact hstart
  | cons item items ih =>
    cases item with
    | obj o =>
      rw [sanitizeChecks] at h
      split at h
      · exact ih hstart h
      · obtain ⟨check, hcheck, h⟩ := bind_eq_ok h
        refine ih ?_ h
        intro e he
        rcases List.mem_append.mp he with he | he
        · exact hstart e he
        · rw [List.mem_singleton.mp he]
          exact sanitizeCheck_target hcheck
    | _ => exact ih hstart h

/-- What a result that has been kept looks like. -/
structure IsKept (rt : Runtime) (proxyId : String) (raw result : Obj) (items : List Obj)
    (ok : Bool) : Prop where
  key : result.get "proxy_id" = .str proxyId
  named : (Obj.get raw "proxy_id").text rt = proxyId
  status : result.get "overall_status" = .str (if ok then "healthy" else "unhealthy")
  checks : result.get "checks" = .arr (items.map Json.obj)
  targets : ∀ check ∈ items, ∃ target, Obj.get check "target" = .str target
  probe : ok = true → Obj.get raw "ok" ≠ .null → (Obj.get raw "ok").truthy
  score : ok = true → ∃ score, performanceScore rt result = .ok score
  counts : ∃ sampleCount successCount, sanitizeCounts rt raw ok = .ok (sampleCount, successCount) ∧
    result.get "sample_count" = .int sampleCount ∧ result.get "success_count" = .int successCount

lemma sanitizeProxyTestResult_some {key raw : Json} {result : Obj}
    (h : sanitizeProxyTestResult rt key raw = .ok (some (proxyId, result))) :
    proxyId ≠ "" ∧ ∃ fields items ok, raw = .obj fields ∧ IsKept rt proxyId fields result items ok := by
  unfold sanitizeProxyTestResult at h
  dsimp only at h
  split at h
  · rename_i fields
    split at h
    · cases h
    · rename_i hid
      obtain ⟨items, -, h⟩ := bind_eq_ok h
      obtain ⟨byTarget, hbyTarget, h⟩ := bind_eq_ok h
      split at h
      · cases h
      · rename_i checks hchecks
        obtain ⟨⟨sampleCount, successCount⟩, hcounts, h⟩ := bind_eq_ok h
        have htargets : ∀ check ∈ checks, ∃ target, Obj.get check "target" = .str target := by
          intro check hcheck
          obtain ⟨target, -, hlookup⟩ := exists_of_mem_mapM hchecks hcheck
          exact ⟨target,
            sanitizeChecks_target (by simp) hbyTarget (target, check) (Assoc.mem_of_lookup hlookup)⟩
        have hne : strip (key.text rt) ≠ "" := fun hempty => hid (.inl hempty)
        have hnamed : (Obj.get fields "proxy_id").text rt = strip (key.text rt) := by
          by_contra hnamed
          exact hid (.inr hnamed)
        generalize hok : ((if Obj.get fields "ok" ≠ .null then (Obj.get fields "ok").truthy
          else Obj.get fields "overall_status" = .str "healthy") &&
            checks.all fun check => (Obj.get check "ok").truthy) = ok at h hcounts
        have hprobe : ok = true → Obj.get fields "ok" ≠ .null → (Obj.get fields "ok").truthy := by
          intro hok' hnull
          rw [hok', Bool.and_eq_true, if_pos hnull] at hok
          exact hok.1
        cases ok with
        | false =>
          obtain ⟨rfl, rfl⟩ := Prod.mk.inj (Option.some.inj (Except.ok.inj h))
          exact ⟨hne, fields, checks, false, rfl, rfl, hnamed, rfl, rfl, htargets, hprobe, by simp,
            sampleCount, successCount, hcounts, rfl, rfl⟩
        | true =>
          obtain ⟨score, hscore, h⟩ := bind_eq_ok h
          obtain ⟨rfl, rfl⟩ := Prod.mk.inj (Option.some.inj (Except.ok.inj h))
          refine ⟨hne, fields, checks, true, rfl, rfl, hnamed, rfl, rfl, htargets, hprobe, fun _ => ⟨score, ?_⟩,
            sampleCount, successCount, hcounts, rfl, rfl⟩
          rw [← hscore]
          exact performanceScore_congr rfl rfl rfl
  · cases h

lemma IsKept.currentHealthy {raw result : Obj} {items : List Obj} {ok : Bool}
    (h : IsKept rt proxyId raw result items ok) :
    ∃ healthy, currentHealthy (some result) = .ok healthy ∧ (healthy = true → ok = true) := by
  unfold Routing.currentHealthy
  dsimp only
  rw [h.status, h.checks]
  cases ok with
  | false => exact ⟨false, by simp, by simp⟩
  | true =>
    have hitems : (items.map Json.obj).filterMap Json.asObj = items := by
      rw [List.filterMap_map]
      exact List.filterMap_some
    have htargets : ((items.map fun o => Obj.get o "target").any fun t => !t.hashable) = false := by
      rw [List.any_eq_false]
      intro target htarget
      obtain ⟨check, hcheck, rfl⟩ := List.mem_map.mp htarget
      obtain ⟨name, hname⟩ := h.targets check hcheck
      rw [hname]
      simp [Json.hashable]
    have hor : (Json.arr (items.map Json.obj)).or (.arr []) = .arr (items.map Json.obj) := by
      cases items <;> rfl
    rw [if_neg (by simp), hor]
    dsimp only
    rw [hitems, htargets, if_neg (by simp)]
    exact ⟨_, rfl, fun _ => rfl⟩

/-- A result that is kept can be ranked. -/
lemma candidate_kept (h : Kept rt results) (proxyId : String) :
    ∃ found, candidate rt results proxyId = .ok found := by
  unfold candidate
  cases hresult : results.get? proxyId with
  | none => exact ⟨none, rfl⟩
  | some result =>
    obtain ⟨key, raw, hsanitize⟩ := h proxyId result hresult
    obtain ⟨_, _, _, ok, -, hkept⟩ := sanitizeProxyTestResult_some hsanitize
    obtain ⟨healthy, hhealthy, hok⟩ := hkept.currentHealthy
    dsimp only
    rw [hhealthy, ok_bind]
    cases healthy with
    | false => exact ⟨none, rfl⟩
    | true =>
      obtain ⟨score, hscore⟩ := hkept.score (hok rfl)
      obtain ⟨rank, hrank⟩ := rankOf_ok hscore proxyId
      rw [if_pos rfl, hrank, ok_bind]
      exact ⟨some rank, rfl⟩

/-- Of proxies whose results are kept the preferred one can be chosen. -/
lemma preferredProxyId_kept (h : Kept rt results) (recordIds : List String) :
    ∃ found, preferredProxyId rt recordIds results = .ok found := by
  obtain ⟨candidates, hcandidates⟩ := mapM_ok fun proxyId (_ : proxyId ∈ recordIds) => candidate_kept h proxyId
  unfold preferredProxyId
  rw [hcandidates, ok_bind]
  exact ⟨_, rfl⟩

end Routing
