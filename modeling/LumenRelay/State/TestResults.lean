import LumenRelay.Py.Sample
import LumenRelay.Routing.Persisted
import LumenRelay.State.Load

/-!
# Test results through a restart

`save_state` writes the results of the proxy tests and `load_state` reads each of them with the
sanitiser.  The results that were stored come back with the same health, the same score and the same
rank; one value in the file that the sanitiser cannot read stops the start.
-/

namespace State

open Lib Py Routing

variable {rt : Runtime} {tests : Dict String Obj} {proxyId : String}

/-- What a stored result is read for stays the same. -/
structure SameMeaning (rt : Runtime) (proxyId : String) (result result' : Obj) : Prop where
  healthy : currentHealthy (some result') = currentHealthy (some result)
  score : performanceScore rt result' = performanceScore rt result
  rank : rankOf rt proxyId result' = rankOf rt proxyId result

/-- A result that is kept can be read under its id. -/
lemma kept_reread (spec : StoreSpec rt) {result : Obj} (h : Sanitized rt proxyId result) :
    ∃ result', sanitizeProxyTestResult rt (.str proxyId) (.obj result) =
      .ok (some (proxyId, result')) := by
  obtain ⟨key, raw, hsanitized⟩ := h
  obtain ⟨-, fields, -, -, rfl, -⟩ := sanitizeProxyTestResult_some hsanitized
  obtain ⟨⟨hid, hne, -⟩, checks, ok, counts, hkept⟩ := sanitizeProxyTestResult_eq_some.mp hsanitized
  obtain ⟨result', hagain⟩ := hkept.reread spec
  have hstrip : proxyId = strip ((Json.str proxyId).text rt) := by
    rw [Json.text_str, hid, strip_strip]
  have hnamed : (Obj.get result "proxy_id").text rt = proxyId := by
    obtain ⟨score, -, rfl⟩ := hkept.record
    exact Json.text_str rt proxyId
  exact ⟨result', sanitizeProxyTestResult_eq_some.mpr
    ⟨⟨hstrip, hne, hnamed⟩, checks, ok, _, hagain⟩⟩

/-- The body of the loop over the stored results. -/
def loadTest (rt : Runtime) (loaded : Dict String Obj) (e : String × Json) :
    Except PyErr (Dict String Obj) := do
  match ← sanitizeProxyTestResult rt (.str e.1) e.2 with
  | some (proxyId, safe) => return loaded.set proxyId safe
  | none => return loaded

lemma loadTest_kept {loaded : Dict String Obj} {result result' : Obj}
    (h : sanitizeProxyTestResult rt (.str proxyId) (.obj result) = .ok (some (proxyId, result'))) :
    loadTest rt loaded (proxyId, .obj result) = .ok (loaded.set proxyId result') := by
  unfold loadTest
  dsimp only
  rw [h]
  rfl

/-- The loop over results that are kept keeps each of them as it is read. -/
lemma loadTests_fold {entries : List (String × Obj)} (hnodup : (entries.map Prod.fst).Nodup)
    (h : ∀ e ∈ entries, ∃ result', sanitizeProxyTestResult rt (.str e.1) (.obj e.2) =
      .ok (some (e.1, result'))) (start : Dict String Obj) :
    ∃ loaded, (entries.map fun e => (e.1, Json.obj e.2)).foldlM (loadTest rt) start = .ok loaded ∧
      (∀ e ∈ entries, ∃ result', sanitizeProxyTestResult rt (.str e.1) (.obj e.2) =
        .ok (some (e.1, result')) ∧ loaded.get? e.1 = some result') ∧
      ∀ id, id ∉ entries.map Prod.fst → loaded.get? id = start.get? id := by
  induction entries generalizing start with
  | nil => exact ⟨start, rfl, nofun, fun _ _ => rfl⟩
  | cons e entries ih =>
    obtain ⟨proxyId, result⟩ := e
    rw [List.map_cons, List.nodup_cons] at hnodup
    obtain ⟨hfresh, hnodup⟩ := hnodup
    obtain ⟨result', hresult⟩ := h (proxyId, result) List.mem_cons_self
    obtain ⟨loaded, hloaded, hentries, hothers⟩ :=
      ih hnodup (fun e he => h e (List.mem_cons_of_mem _ he)) (start.set proxyId result')
    refine ⟨loaded, ?_, ?_, ?_⟩
    · rw [List.map_cons, List.foldlM_cons, loadTest_kept hresult, ok_bind]
      exact hloaded
    · intro e he
      rcases List.mem_cons.mp he with rfl | he
      · -- no later entry has the same id
        exact ⟨result', hresult, by rw [hothers _ hfresh, Dict.get?_set_self]⟩
      · exact hentries e he
    · intro id hid
      rw [List.map_cons, List.mem_cons, not_or] at hid
      rw [hothers id hid.2, Dict.get?_set_ne hid.1]

/-- Results that are kept are all loaded. -/
lemma loadTests_kept (spec : StoreSpec rt) (h : Kept rt tests) :
    ∃ loaded, loadTests rt (recordsJson tests) = .ok loaded ∧
      ∀ proxyId result, tests.get? proxyId = some result →
        ∃ result', sanitizeProxyTestResult rt (.str proxyId) (.obj result) =
          .ok (some (proxyId, result')) ∧ loaded.get? proxyId = some result' := by
  have hkeys : (tests.entries.map fun e => (e.1, Json.obj e.2)).map Prod.fst =
      tests.entries.map Prod.fst := by
    rw [List.map_map]
    rfl
  have hentries := Dict.entries_ofList (l := tests.entries.map fun e => (e.1, Json.obj e.2))
    (by rw [hkeys]; exact tests.nodup)
  obtain ⟨loaded, hloaded, hall, -⟩ := loadTests_fold tests.nodup
    (fun e he => kept_reread spec (h e.1 e.2 (Dict.mem_entries_iff.mp he))) .empty
  refine ⟨loaded, ?_, fun proxyId result hresult => ?_⟩
  · change ((Dict.ofList _).entries.foldlM (loadTest rt) .empty) = _
    rw [hentries]
    exact hloaded
  · exact hall (proxyId, result) (Dict.mem_entries_iff.mpr hresult)

/-! ## Results that were stored -/

lemma previousCounts_nonneg {previous : Obj} {counts : ℤ × ℤ}
    (h : previousCounts rt previous = .ok counts) : 0 ≤ counts.2 := by
  unfold previousCounts at h
  dsimp only at h
  split at h
  · obtain rfl := Except.ok.inj h
    exact le_rfl
  · obtain rfl := Except.ok.inj h
    exact le_rfl
  · obtain ⟨a, -, h⟩ := bind_eq_ok h
    obtain ⟨b, -, h⟩ := bind_eq_ok h
    obtain rfl := Except.ok.inj h
    exact le_max_left _ _

/-- A result that was stored is read as it is. -/
lemma stored_reread (spec : StoreSpec rt) {record : Record} {m : Measurement} {testedAt : String}
    {result : Obj} (h : storeProxyTestResult rt tests record m testedAt = .ok result) :
    sanitizeProxyTestResult rt (.str record.id) (.obj result) = .ok (some (record.id, result)) := by
  unfold storeProxyTestResult at h
  obtain ⟨counts, hcounts, h⟩ := bind_eq_ok h
  obtain ⟨found, hfound, h⟩ := bind_eq_ok h
  cases found with
  | none => cases h
  | some found =>
    obtain ⟨proxyId, result'⟩ := found
    obtain rfl := Except.ok.inj h
    have hnonneg := previousCounts_nonneg hcounts
    obtain ⟨hproxy, hok, -, -, hsuccess⟩ := @countedResult_get record m testedAt counts
    obtain ⟨⟨hid, hne, hnamed⟩, checks, ok, kept, hkept⟩ :=
      sanitizeProxyTestResult_eq_some.mp hfound
    rw [hproxy, Json.text_str] at hnamed
    subst hnamed
    refine sanitizeProxyTestResult_eq_some.mpr ⟨⟨hid, hne, ?_⟩, checks, ok, kept,
      hkept.again spec fun hhealthy => ?_⟩
    · obtain ⟨score, -, rfl⟩ := hkept.record
      exact Json.text_str rt record.id
    · -- a healthy result counts the success of its own test
      have hgood : m.ok = true := by
        have hprobe := hkept.health
        rw [hhealthy] at hprobe
        unfold healthy at hprobe
        rw [hok, if_pos (by simp)] at hprobe
        exact (Bool.and_eq_true_iff.mp hprobe.symm).1
      rw [hgood, if_pos rfl] at hsuccess
      have hsuccesses : successesOf (countedResult record m testedAt counts) ok = .int (counts.2 + 1) := by
        unfold successesOf
        rw [hsuccess, Json.or, if_pos (by simp [Json.truthy]; omega)]
      have hcounted := hkept.counted
      cases hsamples : (samplesOf (countedResult record m testedAt counts)).toInt rt with
      | error e =>
        rcases toInt_error hsamples with hvalue | htype | ⟨rfl, -⟩
        · rw [sanitizeCounts_forgotten (.inl hvalue) (.inl hsamples), hhealthy] at hcounted
          obtain rfl := Except.ok.inj hcounted
          exact Int.one_pos
        · rw [sanitizeCounts_forgotten (.inr htype) (.inl hsamples), hhealthy] at hcounted
          obtain rfl := Except.ok.inj hcounted
          exact Int.one_pos
        · unfold sanitizeCounts at hcounted
          rw [hsamples] at hcounted
          cases hcounted
      | ok n =>
        rw [sanitizeCounts_read (k := counts.2 + 1) hsamples (by rw [hsuccesses]; rfl)] at hcounted
        obtain rfl := Except.ok.inj hcounted
        dsimp only
        omega

/-- A value that is stored as the result of a proxy is read without harm, and what is kept of it is
kept as it is, exactly when it is sound; and in any state that is saved and read again a result that
was stored by a test has the health, the score and the rank that it had. -/
theorem test_results_keep_meaning_iff (spec : StoreSpec rt) :
    (∀ key value, KeepsMeaning rt key value ↔ StoredSound rt key value) ∧
      ∀ (panel : Panel) (now : ℤ) (style : JsonStyle) (bytes : List UInt8),
        Kept rt panel.tests →
        rt.jsonDumps style (.obj (statePayload rt now panel)) = some bytes →
        ∃ data loaded, rt.decodeUtf8 bytes >>= rt.jsonLoads = some (.obj data) ∧
          loadTests rt (Obj.getD data "proxy_test_results" (.obj [])) = .ok loaded ∧
          ∀ (before : Dict String Obj) (record : Record) (m : Measurement) (testedAt : String)
            (result : Obj), storeProxyTestResult rt before record m testedAt = .ok result →
            panel.tests.get? record.id = some result →
            ∃ result', loaded.get? record.id = some result' ∧ SameMeaning rt record.id result result' := by
  refine ⟨keepsMeaning_iff spec, fun panel now style bytes hkept hdumps => ?_⟩
  obtain ⟨loaded, hloaded, hall⟩ := loadTests_kept spec hkept
  refine ⟨statePayload rt now panel, loaded, rt.jsonLoads_dumps style _ bytes hdumps, hloaded, ?_⟩
  intro before record m testedAt result hstored hresult
  obtain ⟨result', hread, hget⟩ := hall record.id result hresult
  have hsame := stored_reread spec hstored
  rw [hsame] at hread
  obtain ⟨-, rfl⟩ := Prod.mk.inj (Option.some.inj (Except.ok.inj hread))
  exact ⟨result, hget, rfl, rfl, rfl⟩

/-! ## Values that are not read, and results that change -/

/-- A result of a proxy with good answers of both targets, and some more fields. -/
def goodResult (more : Obj) : Json :=
  .obj ([("proxy_id", .str "p"), ("ok", .bool true),
    ("checks", .arr (requiredTargets.map fun target =>
      .obj [("target", .str target), ("ok", .bool true), ("total_ms", .float (.fin (1 / 2)))]))] ++ more)

/-- What is kept of a value of the proxy. -/
def keptOf (value : Json) : Obj :=
  match sanitizeProxyTestResult .ascii (.str "p") value with
  | .ok (some (_, result)) => result
  | _ => []

/-- A number instead of the checks and an infinite counter are not read, and then the start of the
panel fails; and a counter of successes below zero is kept as zero and read as one. -/
theorem test_results_lose_meaning :
    (sanitizeProxyTestResult .ascii (.str "p") (.obj [("proxy_id", .str "p"), ("checks", .int 5)]) =
        .error .typeError ∧
      loadTests .ascii (.obj [("p", .obj [("proxy_id", .str "p"), ("checks", .int 5)])]) =
        .error .typeError ∧
      sanitizeProxyTestResult .ascii (.str "p")
        (goodResult [("sample_count", .float (.inf false))]) = .error .overflowError) ∧
      ∃ result result', sanitizeProxyTestResult .ascii (.str "p")
          (goodResult [("success_count", .int (-1))]) = .ok (some ("p", result)) ∧
        sanitizeProxyTestResult .ascii (.str "p") (.obj result) = .ok (some ("p", result')) ∧
        countsOf result = (1, 0) ∧ result.get "score" = .int (-210010) ∧
        countsOf result' = (1, 1) ∧ result'.get "score" = .int 789990 :=
  ⟨by decide +kernel, keptOf (goodResult [("success_count", .int (-1))]),
    keptOf (.obj (keptOf (goodResult [("success_count", .int (-1))]))), by decide +kernel⟩

lemma storeSpec_sample : StoreSpec .sample where
  near q hnonneg hle := ⟨q, rfl, hnonneg, hle, by norm_num⟩
  again _ _ _ h := nomatch h
  stripped _ _ _ h := nomatch h
  upper_ascii _ _ := rfl

/-- A proxy. -/
def testedRecord : Record := ⟨"p", "http://192.0.2.1:8080", "http", "Germany", "DE", "", 0⟩

/-- The result of a test that failed. -/
def testedResult : Obj :=
  match storeProxyTestResult .sample .empty testedRecord (.raised "TimeoutError") "2026-01-01" with
  | .ok result => result
  | .error _ => []

/-- A panel with that result. -/
def testedPanel : Panel := ⟨.empty, .empty, Dict.empty.set "p" testedResult, .empty, .null⟩

/-- A good result is sound, and the result of a test that failed comes back. -/
theorem test_results_keep_meaning_failed : StoredSound .sample (.str "p") (goodResult []) ∧
    ∃ bytes data loaded result',
      Runtime.sample.jsonDumps .compact (.obj (statePayload .sample 0 testedPanel)) = some bytes ∧
      Runtime.sample.decodeUtf8 bytes >>= Runtime.sample.jsonLoads = some (.obj data) ∧
      loadTests .sample (Obj.getD data "proxy_test_results" (.obj [])) = .ok loaded ∧
      loaded.get? "p" = some result' ∧ SameMeaning .sample "p" testedResult result' := by
  obtain ⟨hiff, hreload⟩ := test_results_keep_meaning_iff storeSpec_sample
  constructor
  · refine (hiff _ _).mp ⟨some ("p", keptOf (goodResult [])), by decide +kernel, ?_⟩
    intro proxyId result hfound
    obtain ⟨rfl, rfl⟩ := Prod.mk.inj (Option.some.inj hfound)
    decide +kernel
  · have hstored : storeProxyTestResult .sample .empty testedRecord (.raised "TimeoutError")
        "2026-01-01" = .ok testedResult := by decide +kernel
    have hkept : Kept .sample testedPanel.tests := by
      intro proxyId result hget
      rw [testedPanel, Dict.get?_set] at hget
      split at hget
      · rename_i hid
        obtain rfl := Option.some.inj hget
        rw [hid]
        exact storeProxyTestResult_sanitized hstored
      · cases hget
    obtain ⟨bytes, hbytes⟩ : ∃ bytes, Runtime.sample.jsonDumps .compact
        (.obj (statePayload .sample 0 testedPanel)) = some bytes := by
      have hwritable : JsonText.writable JsonText.encodable
          (.obj (statePayload .sample 0 testedPanel)) = true := by decide +kernel
      have hdumps : Runtime.sample.jsonDumps = JsonText.dumps := rfl
      rw [hdumps, JsonText.dumps]
      rw [if_pos hwritable]
      exact ⟨_, rfl⟩
    obtain ⟨data, loaded, hdata, hloaded, hall⟩ := hreload testedPanel 0 .compact bytes hkept hbytes
    obtain ⟨result', hget, hsame⟩ := hall .empty testedRecord _ _ testedResult hstored
      (Dict.get?_set_self _ _ _)
    exact ⟨bytes, data, loaded, result', hbytes, hdata, hloaded, hget, hsame⟩

end State
