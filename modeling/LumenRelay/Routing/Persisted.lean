import LumenRelay.Routing.FixedPoint

/-!
# When a stored result keeps its meaning

A stored result is read with the sanitiser that made it.  It raises for a list of checks that is a
number, for a latency beyond the largest float and for a counter that is infinite, and it changes
the counters of a healthy proxy without successes; any other value is kept as it is, or dropped.
-/

namespace Routing

open Lib Py

variable {rt : Runtime}

/-! ## Checks -/

/-- The latencies of a check. -/
def latencyFields : List String :=
  ["total_ms", "latency_ms", "connect_ms", "handshake_ms", "request_ms"]

/-- None of the latencies of a check is too large. -/
def Readable (rt : Runtime) (item : Obj) : Prop :=
  ∀ field ∈ latencyFields, ¬ TooLarge rt (item.get field)

lemma readable_iff {item : Obj} : Readable rt item ↔ Check rt item := by
  unfold Readable latencyFields
  simp only [← measurable_iff, List.forall_mem_cons, List.not_mem_nil, false_implies, implies_true,
    and_true]
  constructor
  · rintro ⟨total, latency, connect, handshake, request⟩
    exact ⟨connect, handshake, request, total, latency⟩
  · intro h
    exact ⟨h.total, h.latency, h.connect, h.handshake, h.request⟩

/-- The status that is kept. -/
def keptStatus : Json → Json
  | .bool b => .int (if b then 1 else 0)
  | .int n => if 0 ≤ n ∧ n ≤ 999 then .int n else .null
  | _ => .null

lemma keptStatus_again (status : Json) : keptStatus (keptStatus status) = keptStatus status := by
  cases status with
  | bool b => cases b <;> rfl
  | int n =>
    by_cases hrange : 0 ≤ n ∧ n ≤ 999
    · simp [keptStatus, hrange]
    · simp [keptStatus, hrange]
  | _ => rfl

/-- The check that is kept, with its latencies. -/
def keptCheck (rt : Runtime) (item : Obj) (connect handshake request total : Json) : Obj :=
  [("target", .str ((item.get "target").text rt)), ("ok", .bool (item.get "ok").truthy),
    ("status", keptStatus (item.get "status")), ("connect_ms", connect),
    ("handshake_ms", handshake), ("request_ms", request), ("total_ms", total),
    ("latency_ms", total),
    ("error", if (item.get "ok").truthy then .null
      else .str (safeDiagText rt (item.get "error") 80))]

/-- A check is kept with the latencies that were read. -/
lemma sanitizeCheck_eq_ok {item check : Obj} : sanitizeCheck rt item = .ok check ↔
    ∃ total latency connect handshake request, boundedMs rt (item.get "total_ms") = .ok total ∧
      boundedMs rt (item.get "latency_ms") = .ok latency ∧
      boundedMs rt (item.get "connect_ms") = .ok connect ∧
      boundedMs rt (item.get "handshake_ms") = .ok handshake ∧
      boundedMs rt (item.get "request_ms") = .ok request ∧
      check = keptCheck rt item connect handshake request
        (if total ≠ .null then total else latency) := by
  constructor
  · intro h
    unfold sanitizeCheck at h
    obtain ⟨total, htotal, h⟩ := bind_eq_ok h
    obtain ⟨latency, hlatency, h⟩ := bind_eq_ok h
    obtain ⟨connect, hconnect, h⟩ := bind_eq_ok h
    obtain ⟨handshake, hhandshake, h⟩ := bind_eq_ok h
    obtain ⟨request, hrequest, h⟩ := bind_eq_ok h
    exact ⟨total, latency, connect, handshake, request, htotal, hlatency, hconnect, hhandshake,
      hrequest, (Except.ok.inj h).symm⟩
  · rintro ⟨total, latency, connect, handshake, request, htotal, hlatency, hconnect, hhandshake,
      hrequest, rfl⟩
    unfold sanitizeCheck
    dsimp only
    rw [htotal, ok_bind, hlatency, ok_bind, hconnect, ok_bind, hhandshake, ok_bind, hrequest,
      ok_bind]
    rfl

lemma sanitizeCheck_check {item check : Obj} (h : sanitizeCheck rt item = .ok check) :
    Check rt item := by
  obtain ⟨total, latency, connect, handshake, request, htotal, hlatency, hconnect, hhandshake,
    hrequest, -⟩ := sanitizeCheck_eq_ok.mp h
  exact ⟨⟨connect, hconnect⟩, ⟨handshake, hhandshake⟩, ⟨request, hrequest⟩, ⟨total, htotal⟩,
    ⟨latency, hlatency⟩⟩

lemma sanitizeCheck_health {item check : Obj} (h : sanitizeCheck rt item = .ok check) :
    Obj.get check "ok" = .bool (Obj.get item "ok").truthy := by
  obtain ⟨_, _, _, _, _, -, -, -, -, -, rfl⟩ := sanitizeCheck_eq_ok.mp h
  rfl

/-- A check that is kept is kept again. -/
lemma StoreSpec.sanitizeCheck (spec : StoreSpec rt) {item check : Obj}
    (h : sanitizeCheck rt item = .ok check) : Routing.sanitizeCheck rt check = .ok check := by
  obtain ⟨total, latency, connect, handshake, request, htotal, hlatency, hconnect, hhandshake,
    hrequest, rfl⟩ := sanitizeCheck_eq_ok.mp h
  have hkept : Routing.boundedMs rt (if total ≠ .null then total else latency) =
      .ok (if total ≠ .null then total else latency) := by
    split
    · exact spec.boundedMs htotal
    · exact spec.boundedMs hlatency
  generalize (if total ≠ .null then total else latency) = kept at hkept
  refine sanitizeCheck_eq_ok.mpr ⟨kept, kept, connect, handshake, request, hkept, hkept,
    spec.boundedMs hconnect, spec.boundedMs hhandshake, spec.boundedMs hrequest, ?_⟩
  have hsame : (if kept ≠ .null then kept else kept) = kept := by split <;> rfl
  have htarget : (Json.str ((Obj.get item "target").text rt)).text rt =
      (Obj.get item "target").text rt := Json.text_str rt _
  have herror : (if (Obj.get item "ok").truthy then Json.null
      else .str (safeDiagText rt (if (Obj.get item "ok").truthy then .null
        else .str (safeDiagText rt (Obj.get item "error") 80)) 80)) =
      if (Obj.get item "ok").truthy then .null
        else .str (safeDiagText rt (Obj.get item "error") 80) := by
    split
    · rfl
    · rw [safeDiagText_again]
  rw [hsame]
  change keptCheck rt item connect handshake request kept =
    [("target", .str ((Json.str ((Obj.get item "target").text rt)).text rt)),
      ("ok", .bool (Obj.get item "ok").truthy),
      ("status", keptStatus (keptStatus (Obj.get item "status"))), ("connect_ms", connect),
      ("handshake_ms", handshake), ("request_ms", request), ("total_ms", kept),
      ("latency_ms", kept), ("error", if (Obj.get item "ok").truthy then Json.null
        else .str (safeDiagText rt (if (Obj.get item "ok").truthy then .null
          else .str (safeDiagText rt (Obj.get item "error") 80)) 80))]
  rw [htarget, keptStatus_again, herror]
  rfl

/-! ## The checks of a result -/

/-- The check of a target that counts. -/
def firstCheck (rt : Runtime) (target : String) (items : List Json) : Option Obj :=
  (items.filterMap Json.asObj).find? fun item => (Obj.get item "target").text rt = target

section Checks

variable {items : List Json} {byTarget byTarget' : List (String × Obj)} {target : String}

lemma firstCheck_obj (item : Obj) :
    firstCheck rt target (.obj item :: items) =
      if (Obj.get item "target").text rt = target then some item else firstCheck rt target items := by
  unfold firstCheck
  have hitem : (Json.obj item).asObj = some item := rfl
  rw [List.filterMap_cons_some hitem, List.find?_cons]
  by_cases h : (Obj.get item "target").text rt = target <;> simp [h]

lemma lookup_append_self {check : Obj} (h : List.lookup target byTarget = none) :
    List.lookup target (byTarget ++ [(target, check)]) = some check := by
  simp [List.lookup_append, h]

lemma lookup_append_ne {other : String} {check : Obj} (h : target ≠ other) :
    List.lookup target (byTarget ++ [(other, check)]) = List.lookup target byTarget := by
  have hne : (target == other) = false := by simpa using h
  simp [List.lookup_append, List.lookup_cons, hne]

/-- A check that has been kept stays. -/
lemma sanitizeChecks_keeps {check : Obj} (h : sanitizeChecks rt items byTarget = .ok byTarget')
    (hcheck : List.lookup target byTarget = some check) :
    List.lookup target byTarget' = some check := by
  induction items generalizing byTarget with
  | nil =>
    obtain rfl := Except.ok.inj h
    exact hcheck
  | cons item items ih =>
    cases item with
    | obj o =>
      rw [sanitizeChecks] at h
      split at h
      · exact ih h hcheck
      · obtain ⟨kept, -, h⟩ := bind_eq_ok h
        refine ih h ?_
        rw [List.lookup_append, hcheck]
        rfl
    | _ => exact ih h hcheck

/-- A target has the check that is its first one. -/
lemma sanitizeChecks_first (h : sanitizeChecks rt items byTarget = .ok byTarget')
    (htarget : target ∈ requiredTargets) (hnone : List.lookup target byTarget = none) :
    (firstCheck rt target items = none → List.lookup target byTarget' = none) ∧
      ∀ item, firstCheck rt target items = some item →
        ∃ check, sanitizeCheck rt item = .ok check ∧ List.lookup target byTarget' = some check := by
  induction items generalizing byTarget with
  | nil =>
    obtain rfl := Except.ok.inj h
    exact ⟨fun _ => hnone, by rintro item ⟨⟩⟩
  | cons item items ih =>
    cases item with
    | obj o =>
      rw [sanitizeChecks] at h
      rw [firstCheck_obj]
      split at h
      · rename_i hskip
        have hne : (Obj.get o "target").text rt ≠ target := by
          rintro heq
          rw [heq, hnone] at hskip
          exact hskip.elim (fun hmem => hmem htarget) (by simp)
        rw [if_neg hne]
        exact ih h hnone
      · obtain ⟨kept, hkept, h⟩ := bind_eq_ok h
        by_cases heq : (Obj.get o "target").text rt = target
        · rw [if_pos heq]
          rw [heq] at h
          refine ⟨by rintro ⟨⟩, fun item hitem => ?_⟩
          obtain rfl := Option.some.inj hitem
          exact ⟨kept, hkept, sanitizeChecks_keeps h (lookup_append_self hnone)⟩
        · rw [if_neg heq]
          refine ih h ?_
          rw [lookup_append_ne (Ne.symm heq), hnone]
    | _ => exact ih h hnone

/-- The checks can be read when the first one of each target can. -/
lemma sanitizeChecks_readable (h : ∀ target ∈ requiredTargets, List.lookup target byTarget = none →
      ∀ item ∈ firstCheck rt target items, Check rt item) :
    ∃ byTarget', sanitizeChecks rt items byTarget = .ok byTarget' := by
  induction items generalizing byTarget with
  | nil => exact ⟨byTarget, rfl⟩
  | cons item items ih =>
    cases item with
    | obj o =>
      simp only [firstCheck_obj] at h
      rw [sanitizeChecks]
      split
      · rename_i hskip
        refine ih fun target htarget hnone item hitem => h target htarget hnone item ?_
        have hne : (Obj.get o "target").text rt ≠ target := by
          rintro rfl
          rw [hnone] at hskip
          exact hskip.elim (fun hmem => hmem htarget) (by simp)
        rw [if_neg hne]
        exact hitem
      · rename_i hkeep
        obtain ⟨hmem, hfree⟩ := not_or.mp hkeep
        have hnone : List.lookup ((Obj.get o "target").text rt) byTarget = none := by
          rw [← Option.not_isSome_iff_eq_none]
          exact hfree
        have hcheck : Check rt o := h _ (not_not.mp hmem) hnone o (by simp)
        obtain ⟨kept, hkept, -⟩ := sanitizeCheck_ok hcheck
        rw [hkept, ok_bind]
        refine ih fun target htarget hnone' item hitem => ?_
        have hne : target ≠ (Obj.get o "target").text rt := by
          rintro rfl
          rw [lookup_append_self hnone] at hnone'
          cases hnone'
        rw [lookup_append_ne hne] at hnone'
        refine h target htarget hnone' item ?_
        rw [if_neg hne.symm]
        exact hitem
    | _ => exact ih h

/-- The checks of the two targets, when both are there. -/
lemma mapM_requiredTargets {find : String → Option Obj} {checks : List Obj} :
    requiredTargets.mapM find = some checks ↔ ∃ cloudflare google,
      find "https://cloudflare.com" = some cloudflare ∧ find "https://google.com" = some google ∧
        checks = [cloudflare, google] := by
  cases hc : find "https://cloudflare.com" <;> cases hg : find "https://google.com" <;>
    simp [requiredTargets, hc, hg, eq_comm]

end Checks

/-! ## The counters of a result -/

section Counts

variable {fields : Obj} {ok : Bool}

/-- What `sample_count` is read from. -/
abbrev samplesOf (fields : Obj) : Json := (fields.get "sample_count").or (.int 1)

/-- What `success_count` is read from; `ok` is what the test says. -/
abbrev successesOf (fields : Obj) (ok : Bool) : Json :=
  (fields.get "success_count").or (.int (if ok then 1 else 0))

/-- The counters are not infinite, and those of a healthy proxy leave a success. -/
structure CountsSound (rt : Runtime) (fields : Obj) (ok : Bool) : Prop where
  samples : ∀ negative, samplesOf fields ≠ .float (.inf negative)
  successes : ∀ n, (samplesOf fields).toInt rt = .ok n →
    ∀ negative, successesOf fields ok ≠ .float (.inf negative)
  positive : ok = true → ∀ n, (samplesOf fields).toInt rt = .ok n →
    ∀ k, (successesOf fields ok).toInt rt = .ok k → 0 < k

/-- Only an infinity makes a conversion raise what is not caught. -/
lemma toInt_error {value : Json} {e : PyErr} (h : value.toInt rt = .error e) :
    (∃ message, e = .valueError message) ∨ e = .typeError ∨
      e = .overflowError ∧ ∃ negative, value = .float (.inf negative) := by
  cases value with
  | bool b => cases h
  | int n => cases h
  | float x =>
    cases x with
    | fin q => cases h
    | nan => exact .inl ⟨_, (Except.error.inj h).symm⟩
    | inf negative => exact .inr (.inr ⟨(Except.error.inj h).symm, negative, rfl⟩)
  | str s =>
    unfold Json.toInt at h
    dsimp only at h
    split at h
    · cases h
    · exact .inl ⟨_, (Except.error.inj h).symm⟩
  | null => exact .inr (.inl (Except.error.inj h).symm)
  | arr l => exact .inr (.inl (Except.error.inj h).symm)
  | obj o => exact .inr (.inl (Except.error.inj h).symm)

/-- Counters that cannot be read are forgotten. -/
lemma sanitizeCounts_forgotten {e : PyErr} (hcaught : (∃ message, e = .valueError message) ∨ e = .typeError)
    (h : (samplesOf fields).toInt rt = .error e ∨ ∃ n, (samplesOf fields).toInt rt = .ok n ∧
      (successesOf fields ok).toInt rt = .error e) :
    sanitizeCounts rt fields ok = .ok (1, if ok then 1 else 0) := by
  unfold sanitizeCounts
  rcases h with h | ⟨n, hn, h⟩
  · rw [h]
    rcases hcaught with ⟨message, rfl⟩ | rfl <;> rfl
  · rw [hn, ok_bind]
    dsimp only
    rw [h]
    rcases hcaught with ⟨message, rfl⟩ | rfl <;> rfl

/-- Counters that can be read are bounded. -/
lemma sanitizeCounts_read {n k : ℤ} (hn : (samplesOf fields).toInt rt = .ok n)
    (hk : (successesOf fields ok).toInt rt = .ok k) :
    sanitizeCounts rt fields ok =
      .ok (max 1 (min n 10000), max 0 (min k (max 1 (min n 10000)))) := by
  unfold sanitizeCounts
  rw [hn, ok_bind]
  dsimp only
  rw [hk]
  rfl

/-- The counters are sound when they can be sanitised and leave a success. -/
lemma countsSound_iff : CountsSound rt fields ok ↔
    ∃ n k, sanitizeCounts rt fields ok = .ok (n, k) ∧ (ok = true → 0 < k) := by
  have hdefault : ok = true → (0 : ℤ) < if ok then 1 else 0 := by
    rintro rfl
    decide
  cases hn : (samplesOf fields).toInt rt with
  | error e =>
    rcases toInt_error hn with hvalue | htype | ⟨rfl, negative, hinf⟩
    · refine iff_of_true ⟨?_, by simp [hn], by simp [hn]⟩
        ⟨_, _, sanitizeCounts_forgotten (.inl hvalue) (.inl hn), hdefault⟩
      intro negative hinf
      obtain ⟨message, rfl⟩ := hvalue
      rw [hinf] at hn
      cases hn
    · refine iff_of_true ⟨?_, by simp [hn], by simp [hn]⟩
        ⟨_, _, sanitizeCounts_forgotten (.inr htype) (.inl hn), hdefault⟩
      intro negative hinf
      rw [hinf, htype] at hn
      cases hn
    · refine iff_of_false (fun h => h.samples negative hinf) ?_
      rintro ⟨n, k, hcounts, -⟩
      unfold sanitizeCounts at hcounts
      rw [hn] at hcounts
      cases hcounts
  | ok n =>
    have hsamples : ∀ negative, samplesOf fields ≠ .float (.inf negative) := by
      intro negative hinf
      rw [hinf] at hn
      cases hn
    cases hk : (successesOf fields ok).toInt rt with
    | error e =>
      have hsuccesses : ∀ negative, e ≠ .overflowError →
          successesOf fields ok ≠ .float (.inf negative) := by
        intro negative hne hinf
        rw [hinf] at hk
        exact hne (Except.error.inj hk).symm
      rcases toInt_error hk with hvalue | htype | ⟨rfl, negative, hinf⟩
      · obtain ⟨message, rfl⟩ := hvalue
        exact iff_of_true ⟨hsamples, fun _ _ negative => hsuccesses negative nofun, by simp [hk]⟩
          ⟨_, _, sanitizeCounts_forgotten (.inl ⟨message, rfl⟩) (.inr ⟨n, hn, hk⟩), hdefault⟩
      · exact iff_of_true
          ⟨hsamples, fun _ _ negative => hsuccesses negative (by rw [htype]; nofun), by simp [hk]⟩
          ⟨_, _, sanitizeCounts_forgotten (.inr htype) (.inr ⟨n, hn, hk⟩), hdefault⟩
      · refine iff_of_false (fun h => h.successes n hn negative hinf) ?_
        rintro ⟨m, k, hcounts, -⟩
        unfold sanitizeCounts at hcounts
        rw [hn, ok_bind] at hcounts
        dsimp only at hcounts
        rw [hk] at hcounts
        cases hcounts
    | ok k =>
      have hread := sanitizeCounts_read hn hk
      constructor
      · intro h
        refine ⟨_, _, hread, fun hok => ?_⟩
        have hpos := h.positive hok n hn k hk
        omega
      · rintro ⟨n', k', hcounts, hpos⟩
        rw [hread] at hcounts
        obtain ⟨rfl, rfl⟩ := Prod.mk.inj (Except.ok.inj hcounts)
        refine ⟨hsamples, fun _ _ negative hinf => ?_, fun hok n' _ k' hk' => ?_⟩
        · rw [hinf] at hk
          cases hk
        · obtain rfl := Except.ok.inj (hk.symm.trans hk')
          have hpos := hpos hok
          omega

/-- Counters that are kept are kept again, except that the successes of a healthy proxy are one
where there are none. -/
lemma sanitizeCounts_again {n k : ℤ} (h : Counted fields n k) (ok : Bool) :
    sanitizeCounts rt fields ok = .ok (n, if ok = true ∧ k = 0 then 1 else k) := by
  obtain ⟨hsample, hsuccess, hpos, hcap, hnonneg, hle⟩ := h
  have hn : (samplesOf fields).toInt rt = .ok n := by
    unfold samplesOf
    rw [hsample, Json.or, if_pos (by simp [Json.truthy]; omega)]
    rfl
  have hk : (successesOf fields ok).toInt rt = .ok (if ok = true ∧ k = 0 then 1 else k) := by
    unfold successesOf
    rw [hsuccess, Json.or]
    by_cases hzero : k = 0
    · rw [if_neg (by simp [Json.truthy, hzero]), hzero]
      cases ok <;> rfl
    · rw [if_pos (by simpa [Json.truthy] using hzero), if_neg fun h => hzero h.2]
      rfl
  rw [sanitizeCounts_read hn hk]
  congr 2
  · omega
  · split <;> omega

end Counts

/-! ## The result that is kept -/

/-- The result is healthy: the test says so, and all its checks do. -/
def healthy (fields : Obj) (checks : List Obj) : Bool :=
  (if Obj.get fields "ok" ≠ .null then (Obj.get fields "ok").truthy
    else Obj.get fields "overall_status" = .str "healthy") &&
    checks.all fun check => (Obj.get check "ok").truthy

/-- The address of the exit that is kept. -/
def keptExitIp (rt : Runtime) (value : Json) : String :=
  let exitIp := strip (value.text rt)
  if exitIp = "" then "" else ((rt.ipAddress exitIp).map Prod.snd).getD ""

/-- The result that is kept, without its score. -/
def keptRecord (rt : Runtime) (proxyId : String) (fields : Obj) (checks : List Obj) (ok : Bool)
    (counts : ℤ × ℤ) : Obj :=
  [("proxy_id", .str proxyId), ("country", .str (safeDiagText rt (Obj.get fields "country") 80)),
    ("overall_status", .str (if ok then "healthy" else "unhealthy")),
    ("tested_at", .str (safeDiagText rt (Obj.get fields "tested_at") 48)),
    ("checks", .arr (checks.map Json.obj)), ("exit_ip", .str (keptExitIp rt (Obj.get fields "exit_ip"))),
    ("exit_location", .str (safeDiagText rt (Obj.get fields "exit_location") 160)),
    ("exit_country_code", .str (normalizeCountry rt (Obj.get fields "exit_country_code")).2),
    ("sample_count", .int counts.1), ("success_count", .int counts.2)]

/-- What is kept of the fields of a result. -/
structure KeptOf (rt : Runtime) (proxyId : String) (fields result : Obj) (checks : List Obj)
    (ok : Bool) (counts : ℤ × ℤ) : Prop where
  found : ∃ items byTarget, ((Obj.get fields "checks").or (.arr [])).iterate = .ok items ∧
    sanitizeChecks rt items [] = .ok byTarget ∧
    (requiredTargets.mapM fun t => List.lookup t byTarget) = some checks
  health : ok = healthy fields checks
  counted : sanitizeCounts rt fields ok = .ok counts
  record : ∃ score, (if ok then performanceScore rt (keptRecord rt proxyId fields checks ok counts)
      else .ok 0) = .ok score ∧
    result = keptRecord rt proxyId fields checks ok counts ++ [("score", .int score)]

section Result

variable {proxyId : String} {fields result : Obj} {checks : List Obj} {ok : Bool} {counts : ℤ × ℤ}
  {key : Json}

/-- A result is kept under the id of its proxy. -/
lemma sanitizeProxyTestResult_eq_some :
    sanitizeProxyTestResult rt key (.obj fields) = .ok (some (proxyId, result)) ↔
      (proxyId = strip (key.text rt) ∧ proxyId ≠ "" ∧
        (Obj.get fields "proxy_id").text rt = proxyId) ∧
      ∃ checks ok counts, KeptOf rt proxyId fields result checks ok counts := by
  unfold sanitizeProxyTestResult
  dsimp only
  constructor
  · intro h
    split at h
    · cases h
    · rename_i hid
      obtain ⟨hne, hnamed⟩ := not_or.mp hid
      obtain ⟨items, hitems, h⟩ := bind_eq_ok h
      obtain ⟨byTarget, hbyTarget, h⟩ := bind_eq_ok h
      split at h
      · cases h
      · rename_i checks hchecks
        generalize hok : ((if Obj.get fields "ok" ≠ .null then (Obj.get fields "ok").truthy
          else Obj.get fields "overall_status" = .str "healthy") &&
            checks.all fun check => (Obj.get check "ok").truthy) = ok at h
        obtain ⟨counts, hcounts, h⟩ := bind_eq_ok h
        refine ⟨?_, checks, ok, counts, ⟨items, byTarget, hitems, hbyTarget, hchecks⟩, hok.symm,
          hcounts, ?_⟩
        · cases ok with
          | false =>
            obtain ⟨rfl, -⟩ := Prod.mk.inj (Option.some.inj (Except.ok.inj h))
            exact ⟨rfl, hne, not_not.mp hnamed⟩
          | true =>
            obtain ⟨score, -, h⟩ := bind_eq_ok h
            obtain ⟨rfl, -⟩ := Prod.mk.inj (Option.some.inj (Except.ok.inj h))
            exact ⟨rfl, hne, not_not.mp hnamed⟩
        · cases ok with
          | false =>
            obtain ⟨rfl, rfl⟩ := Prod.mk.inj (Option.some.inj (Except.ok.inj h))
            exact ⟨0, rfl, rfl⟩
          | true =>
            obtain ⟨score, hscore, h⟩ := bind_eq_ok h
            obtain ⟨rfl, rfl⟩ := Prod.mk.inj (Option.some.inj (Except.ok.inj h))
            exact ⟨score, hscore, rfl⟩
  · rintro ⟨⟨rfl, hne, hnamed⟩, checks, ok, counts, ⟨items, byTarget, hitems, hbyTarget, hchecks⟩,
      hok, hcounts, score, hscore, rfl⟩
    have hid : ¬ (strip (key.text rt) = "" ∨
        (Obj.get fields "proxy_id").text rt ≠ strip (key.text rt)) :=
      not_or.mpr ⟨hne, not_not.mpr hnamed⟩
    rw [if_neg hid, hitems, ok_bind, hbyTarget, ok_bind, hchecks]
    dsimp only
    unfold healthy at hok
    rw [← hok, hcounts, ok_bind]
    cases ok with
    | false =>
      obtain rfl := Except.ok.inj hscore
      rfl
    | true =>
      rw [if_pos rfl] at hscore ⊢
      change performanceScore rt (keptRecord rt _ fields checks true counts) >>= _ = _
      rw [hscore]
      rfl

/-- The checks that are kept are those that count, as they are kept. -/
lemma kept_checks {items : List Json} {byTarget : List (String × Obj)}
    (h : sanitizeChecks rt items [] = .ok byTarget) :
    (requiredTargets.mapM fun t => List.lookup t byTarget) = some checks ↔
      ∃ raws, (requiredTargets.mapM fun t => firstCheck rt t items) = some raws ∧
        List.Forall₂ (fun item check => sanitizeCheck rt item = .ok check) raws checks := by
  have hfirst : "https://cloudflare.com" ∈ requiredTargets := by simp [requiredTargets]
  have hsecond : "https://google.com" ∈ requiredTargets := by simp [requiredTargets]
  obtain ⟨hcloudflare, hcloudflare'⟩ := sanitizeChecks_first h hfirst rfl
  obtain ⟨hgoogle, hgoogle'⟩ := sanitizeChecks_first h hsecond rfl
  rw [mapM_requiredTargets]
  constructor
  · rintro ⟨cloudflare, google, hc, hg, rfl⟩
    cases hitem : firstCheck rt "https://cloudflare.com" items with
    | none =>
      rw [hcloudflare hitem] at hc
      cases hc
    | some a =>
      cases hitem' : firstCheck rt "https://google.com" items with
      | none =>
        rw [hgoogle hitem'] at hg
        cases hg
      | some b =>
        obtain ⟨check, hcheck, hlookup⟩ := hcloudflare' a hitem
        obtain ⟨check', hcheck', hlookup'⟩ := hgoogle' b hitem'
        obtain rfl := Option.some.inj (hlookup.symm.trans hc)
        obtain rfl := Option.some.inj (hlookup'.symm.trans hg)
        exact ⟨[a, b], mapM_requiredTargets.mpr ⟨a, b, hitem, hitem', rfl⟩,
          .cons hcheck (.cons hcheck' .nil)⟩
  · rintro ⟨raws, hraws, hchecks⟩
    obtain ⟨a, b, hitem, hitem', rfl⟩ := mapM_requiredTargets.mp hraws
    obtain ⟨check, hcheck, hlookup⟩ := hcloudflare' a hitem
    obtain ⟨check', hcheck', hlookup'⟩ := hgoogle' b hitem'
    cases hchecks with
    | cons ha htail =>
      cases htail with
      | cons hb hnil =>
        cases hnil
        obtain rfl := Except.ok.inj (hcheck.symm.trans ha)
        obtain rfl := Except.ok.inj (hcheck'.symm.trans hb)
        exact ⟨_, _, hlookup, hlookup', rfl⟩

lemma checks_kept {raws : List Obj}
    (h : List.Forall₂ (fun item check => sanitizeCheck rt item = .ok check) raws checks) :
    ∀ check ∈ checks, Check rt check := by
  induction h with
  | nil => nofun
  | cons hcheck _ ih =>
    obtain ⟨kept, hkept, hspec⟩ := sanitizeCheck_ok (sanitizeCheck_check hcheck)
    obtain rfl := Except.ok.inj (hcheck.symm.trans hkept)
    exact List.forall_mem_cons.mpr ⟨hspec, ih⟩

/-- The health of a result is that of the checks as they were. -/
lemma healthy_kept {raws : List Obj}
    (h : List.Forall₂ (fun item check => sanitizeCheck rt item = .ok check) raws checks) :
    healthy fields checks = healthy fields raws := by
  have hall : (checks.all fun check => (Obj.get check "ok").truthy) =
      raws.all fun item => (Obj.get item "ok").truthy := by
    induction h with
    | nil => rfl
    | cons hcheck _ ih =>
      rw [List.all_cons, List.all_cons, ih, sanitizeCheck_health hcheck]
      rfl
  unfold healthy
  rw [hall]

/-- A check that counts has its target. -/
lemma firstCheck_target {items : List Json} {target : String} {item : Obj}
    (h : firstCheck rt target items = some item) : (Obj.get item "target").text rt = target := by
  have hfound := List.find?_some h
  exact of_decide_eq_true hfound

/-- The two checks that are kept. -/
lemma KeptOf.pair (h : KeptOf rt proxyId fields result checks ok counts) :
    ∃ cloudflare google a b, checks = [cloudflare, google] ∧
      sanitizeCheck rt a = .ok cloudflare ∧ sanitizeCheck rt b = .ok google ∧
      Obj.get cloudflare "target" = .str "https://cloudflare.com" ∧
      Obj.get google "target" = .str "https://google.com" := by
  obtain ⟨items, byTarget, -, hbyTarget, hchecks⟩ := h.found
  obtain ⟨raws, hraws, hkept⟩ := (kept_checks hbyTarget).mp hchecks
  obtain ⟨a, b, ha, hb, rfl⟩ := mapM_requiredTargets.mp hraws
  cases hkept with
  | cons hcloudflare htail =>
    cases htail with
    | cons hgoogle hnil =>
      cases hnil
      refine ⟨_, _, a, b, rfl, hcloudflare, hgoogle, ?_, ?_⟩
      · rw [sanitizeCheck_target hcloudflare, firstCheck_target ha]
      · rw [sanitizeCheck_target hgoogle, firstCheck_target hb]

/-- The checks that are kept are kept again. -/
lemma StoreSpec.sanitizeChecks (spec : StoreSpec rt) {cloudflare google a b : Obj}
    (ha : Routing.sanitizeCheck rt a = .ok cloudflare) (hb : Routing.sanitizeCheck rt b = .ok google)
    (hcloudflare : Obj.get cloudflare "target" = .str "https://cloudflare.com")
    (hgoogle : Obj.get google "target" = .str "https://google.com") :
    Routing.sanitizeChecks rt [.obj cloudflare, .obj google] [] =
      .ok [("https://cloudflare.com", cloudflare), ("https://google.com", google)] := by
  simp only [Routing.sanitizeChecks, hcloudflare, hgoogle, Json.text_str]
  rw [if_neg (by simp [requiredTargets]), spec.sanitizeCheck ha, ok_bind,
    if_neg (by simp [requiredTargets, List.lookup_cons]), spec.sanitizeCheck hb]
  rfl

lemma StoreSpec.keptExitIp (spec : StoreSpec rt) (value : Json) :
    Routing.keptExitIp rt (.str (Routing.keptExitIp rt value)) = Routing.keptExitIp rt value := by
  have hblank : Routing.keptExitIp rt (.str "") = "" := by
    have hstrip : strip "" = "" := strip_eq_self (by simp)
    unfold Routing.keptExitIp
    dsimp only
    rw [Json.text_str, hstrip, if_pos rfl]
  by_cases hempty : strip (value.text rt) = ""
  · have hkept : Routing.keptExitIp rt value = "" := if_pos hempty
    rw [hkept, hblank]
  · have hkept : Routing.keptExitIp rt value =
        ((rt.ipAddress (strip (value.text rt))).map Prod.snd).getD "" := if_neg hempty
    cases haddress : rt.ipAddress (strip (value.text rt)) with
    | none =>
      rw [haddress] at hkept
      rw [hkept]
      exact hblank
    | some found =>
      obtain ⟨version, text⟩ := found
      rw [haddress, Option.map_some, Option.getD_some] at hkept
      rw [hkept]
      have hstrip : strip text = text := spec.stripped _ _ _ haddress (strip_strip _)
      unfold Routing.keptExitIp
      dsimp only
      rw [Json.text_str, hstrip, spec.again _ _ _ haddress]
      split
      · symm
        assumption
      · rfl

/-- The texts that are kept are kept again. -/
lemma StoreSpec.keptRecord (spec : StoreSpec rt) (checks' : List Obj) (ok' : Bool)
    (counts' : ℤ × ℤ) (rest : Obj) :
    Routing.keptRecord rt proxyId (Routing.keptRecord rt proxyId fields checks ok counts ++ rest)
        checks' ok' counts' =
      Routing.keptRecord rt proxyId fields checks' ok' counts' := by
  change [_, ("country", Json.str (safeDiagText rt (.str (safeDiagText rt (Obj.get fields "country") 80)) 80)),
    _, ("tested_at", Json.str (safeDiagText rt (.str (safeDiagText rt (Obj.get fields "tested_at") 48)) 48)),
    _, ("exit_ip", Json.str (Routing.keptExitIp rt (.str (Routing.keptExitIp rt (Obj.get fields "exit_ip"))))),
    ("exit_location", Json.str (safeDiagText rt
      (.str (safeDiagText rt (Obj.get fields "exit_location") 160)) 160)),
    ("exit_country_code", Json.str (Routing.normalizeCountry rt
      (.str (Routing.normalizeCountry rt (Obj.get fields "exit_country_code")).2)).2), _, _] = _
  rw [safeDiagText_again, safeDiagText_again, safeDiagText_again, spec.keptExitIp,
    spec.normalizeCountry_again]
  rfl

lemma KeptOf.counters (h : KeptOf rt proxyId fields result checks ok counts) :
    Counted result counts.1 counts.2 := by
  obtain ⟨hpos, hcap, hnonneg, hle⟩ := sanitizeCounts_bounds h.counted
  obtain ⟨score, -, rfl⟩ := h.record
  exact ⟨rfl, rfl, hpos, hcap, hnonneg, hle⟩

/-- A result that is kept is kept again, with its checks and its health. -/
lemma KeptOf.reread (spec : StoreSpec rt) (h : KeptOf rt proxyId fields result checks ok counts) :
    ∃ result', KeptOf rt proxyId result result' checks ok
      (counts.1, if ok = true ∧ counts.2 = 0 then 1 else counts.2) := by
  obtain ⟨cloudflare, google, a, b, rfl, ha, hb, hcloudflare, hgoogle⟩ := h.pair
  have hcounted : sanitizeCounts rt result ok = _ := sanitizeCounts_again h.counters ok
  have hhealth := h.health
  obtain ⟨score, -, rfl⟩ := h.record
  generalize (if ok = true ∧ counts.2 = 0 then 1 else counts.2) = k at hcounted
  obtain ⟨score', hscore'⟩ : ∃ score', (if ok then performanceScore rt
      (keptRecord rt proxyId (keptRecord rt proxyId fields [cloudflare, google] ok counts ++
        [("score", .int score)]) [cloudflare, google] ok (counts.1, k)) else .ok 0) = .ok score' := by
    have hchecks : ∀ check ∈ [cloudflare, google], Check rt check :=
      checks_kept (.cons ha (.cons hb .nil))
    split
    · exact performanceScore_ok rfl hchecks rfl rfl
    · exact ⟨0, rfl⟩
  refine ⟨_, ⟨[.obj cloudflare, .obj google], _, rfl,
    spec.sanitizeChecks ha hb hcloudflare hgoogle, ?_⟩, ?_, hcounted, score', hscore', rfl⟩
  · exact mapM_requiredTargets.mpr ⟨cloudflare, google, rfl, by simp [List.lookup_cons], rfl⟩
  · -- the flag of the test is not kept, and the status tells the same
    unfold healthy at hhealth ⊢
    cases ok with
    | false => rfl
    | true =>
      have hall := (Bool.and_eq_true_iff.mp hhealth.symm).2
      rw [hall, Bool.and_true]
      rfl

/-- A result that is kept is kept as it is, if a healthy one has a success. -/
lemma KeptOf.again (spec : StoreSpec rt) (h : KeptOf rt proxyId fields result checks ok counts)
    (hpos : ok = true → 0 < counts.2) : KeptOf rt proxyId result result checks ok counts := by
  obtain ⟨result', hagain⟩ := h.reread spec
  have hsame : ¬ (ok = true ∧ counts.2 = 0) := by
    rintro ⟨hok, hzero⟩
    have hsuccess := hpos hok
    omega
  rw [if_neg hsame] at hagain
  obtain ⟨score, hscore, hresult⟩ := h.record
  obtain ⟨score', hscore', hresult'⟩ := hagain.record
  have hkept : keptRecord rt proxyId result checks ok counts = keptRecord rt proxyId fields checks ok counts := by
    rw [hresult]
    exact spec.keptRecord checks ok counts _
  rw [hkept] at hscore' hresult'
  obtain rfl := Except.ok.inj (hscore.symm.trans hscore')
  rw [hresult', ← hresult] at hagain
  exact hagain

/-- A healthy result that is kept as it is has a success. -/
lemma KeptOf.success {checks' : List Obj} {ok' : Bool} {counts' : ℤ × ℤ}
    (h : KeptOf rt proxyId fields result checks ok counts)
    (h' : KeptOf rt proxyId result result checks' ok' counts') (hok : ok = true) : 0 < counts.2 := by
  have hcounters := h.counters
  have hcounters' := h'.counters
  have hcounts : counts' = counts := by
    have hn := hcounters'.sample.symm.trans hcounters.sample
    have hk := hcounters'.success.symm.trans hcounters.success
    exact Prod.ext (Json.int.inj hn) (Json.int.inj hk)
  have hhealth : ok' = ok := by
    obtain ⟨score, -, hrecord⟩ := h.record
    obtain ⟨score', -, hrecord'⟩ := h'.record
    have hstatus : Obj.get result "overall_status" = .str (if ok then "healthy" else "unhealthy") := by
      rw [hrecord]
      rfl
    have hstatus' : Obj.get result "overall_status" =
        .str (if ok' then "healthy" else "unhealthy") := by
      rw [hrecord']
      rfl
    rw [hstatus] at hstatus'
    subst hok
    cases ok' with
    | true => rfl
    | false => exact absurd (Json.str.inj hstatus') (by decide)
  have hcounted := h'.counted
  rw [hhealth, hcounts, sanitizeCounts_again hcounters] at hcounted
  have hsuccess := (Prod.mk.inj (Except.ok.inj hcounted)).2
  have hnonneg := hcounters.nonneg
  split at hsuccess
  · omega
  · rename_i hnot
    have hne : counts.2 ≠ 0 := fun hzero => hnot ⟨hok, hzero⟩
    omega

end Result

/-! ## Values that are read without harm -/

/-- Reading a value returns, and what is kept of it is kept as it is. -/
def KeepsMeaning (rt : Runtime) (key value : Json) : Prop :=
  ∃ found, sanitizeProxyTestResult rt key value = .ok found ∧
    ∀ proxyId result, found = some (proxyId, result) →
      sanitizeProxyTestResult rt key (.obj result) = .ok (some (proxyId, result))

/-- The checks are a list, or something that is read like one, the latencies of those that count
are not too large, and the counters are sound. -/
def FieldsSound (rt : Runtime) (fields : Obj) : Prop :=
  ∃ items, ((Obj.get fields "checks").or (.arr [])).iterate = .ok items ∧
    (∀ target ∈ requiredTargets, ∀ item ∈ firstCheck rt target items, Readable rt item) ∧
    ∀ checks, (requiredTargets.mapM fun t => firstCheck rt t items) = some checks →
      CountsSound rt fields (healthy fields checks)

/-- A value that is stored under the id of a proxy can be read, if it is a result of the proxy. -/
def StoredSound (rt : Runtime) (key value : Json) : Prop :=
  ∀ fields, value = .obj fields → strip (key.text rt) ≠ "" →
    (Obj.get fields "proxy_id").text rt = strip (key.text rt) → FieldsSound rt fields

/-- A result of another proxy is dropped. -/
lemma sanitizeProxyTestResult_dropped {key : Json} {fields : Obj}
    (h : strip (key.text rt) = "" ∨ (Obj.get fields "proxy_id").text rt ≠ strip (key.text rt)) :
    sanitizeProxyTestResult rt key (.obj fields) = .ok none := by
  unfold sanitizeProxyTestResult
  dsimp only
  rw [if_pos h]
  rfl

/-- Sanitising a result of the proxy returns only when its parts can be read. -/
lemma fieldsSound_of_keeps {key : Json} {fields : Obj} (hne : strip (key.text rt) ≠ "")
    (hnamed : (Obj.get fields "proxy_id").text rt = strip (key.text rt))
    (h : KeepsMeaning rt key (.obj fields)) : FieldsSound rt fields := by
  obtain ⟨found, hfound, hagain⟩ := h
  have hparts := hfound
  unfold sanitizeProxyTestResult at hparts
  dsimp only at hparts
  rw [if_neg (not_or.mpr ⟨hne, not_not.mpr hnamed⟩)] at hparts
  obtain ⟨items, hitems, hparts⟩ := bind_eq_ok hparts
  obtain ⟨byTarget, hbyTarget, hparts⟩ := bind_eq_ok hparts
  refine ⟨items, hitems, fun target htarget item hitem => ?_, fun raws hraws => ?_⟩
  · obtain ⟨check, hcheck, -⟩ := (sanitizeChecks_first hbyTarget htarget rfl).2 item hitem
    exact readable_iff.mpr (sanitizeCheck_check hcheck)
  · obtain ⟨a, b, ha, hb, rfl⟩ := mapM_requiredTargets.mp hraws
    obtain ⟨check, hcheck, hlookup⟩ :=
      (sanitizeChecks_first hbyTarget (by simp [requiredTargets]) rfl).2 a ha
    obtain ⟨check', hcheck', hlookup'⟩ :=
      (sanitizeChecks_first hbyTarget (by simp [requiredTargets]) rfl).2 b hb
    have hchecks := (kept_checks hbyTarget).mpr ⟨[a, b], hraws, .cons hcheck (.cons hcheck' .nil)⟩
    rw [hchecks] at hparts
    -- both targets have a check, so a result is kept
    cases found with
    | none =>
      dsimp only at hparts
      generalize ((if Obj.get fields "ok" ≠ .null then (Obj.get fields "ok").truthy
        else Obj.get fields "overall_status" = .str "healthy") &&
          [check, check'].all fun check => (Obj.get check "ok").truthy) = ok at hparts
      obtain ⟨counts, -, hparts⟩ := bind_eq_ok hparts
      cases ok with
      | false => cases hparts
      | true =>
        obtain ⟨score, -, hparts⟩ := bind_eq_ok hparts
        cases hparts
    | some found =>
      obtain ⟨proxyId, result⟩ := found
      obtain ⟨-, checks, ok, counts, hkept⟩ := sanitizeProxyTestResult_eq_some.mp hfound
      obtain ⟨-, checks', ok', counts', hkept'⟩ :=
        sanitizeProxyTestResult_eq_some.mp (hagain proxyId result rfl)
      obtain ⟨items', byTarget', hitems', hbyTarget', hchecks'⟩ := hkept.found
      obtain rfl := Except.ok.inj (hitems.symm.trans hitems')
      obtain rfl := Except.ok.inj (hbyTarget.symm.trans hbyTarget')
      obtain rfl := Option.some.inj (hchecks.symm.trans hchecks')
      have hhealthy : healthy fields [a, b] = ok := by
        rw [hkept.health]
        exact (healthy_kept (.cons hcheck (.cons hcheck' .nil))).symm
      rw [hhealthy]
      exact countsSound_iff.mpr ⟨counts.1, counts.2, hkept.counted, hkept.success hkept'⟩

/-- A result whose parts can be read keeps its meaning. -/
lemma keeps_of_fieldsSound (spec : StoreSpec rt) {key : Json} {fields : Obj}
    (hne : strip (key.text rt) ≠ "")
    (hnamed : (Obj.get fields "proxy_id").text rt = strip (key.text rt))
    (h : FieldsSound rt fields) : KeepsMeaning rt key (.obj fields) := by
  obtain ⟨items, hitems, hreadable, hcounts⟩ := h
  obtain ⟨byTarget, hbyTarget⟩ : ∃ byTarget, sanitizeChecks rt items [] = .ok byTarget :=
    sanitizeChecks_readable fun target htarget _ item hitem =>
      readable_iff.mp (hreadable target htarget item hitem)
  cases hchecks : requiredTargets.mapM fun t => List.lookup t byTarget with
  | none =>
    refine ⟨none, ?_, nofun⟩
    unfold sanitizeProxyTestResult
    dsimp only
    rw [if_neg (not_or.mpr ⟨hne, not_not.mpr hnamed⟩), hitems, ok_bind, hbyTarget, ok_bind, hchecks]
    rfl
  | some checks =>
    obtain ⟨raws, hraws, hkept⟩ := (kept_checks hbyTarget).mp hchecks
    have hsound := hcounts raws hraws
    rw [← healthy_kept hkept] at hsound
    obtain ⟨n, k, hcounted, hpos⟩ := countsSound_iff.mp hsound
    obtain ⟨score, hscore⟩ : ∃ score, (if healthy fields checks then
        performanceScore rt (keptRecord rt (strip (key.text rt)) fields checks (healthy fields checks) (n, k))
          else .ok 0) = .ok score := by
      split
      · exact performanceScore_ok rfl (checks_kept hkept) rfl rfl
      · exact ⟨0, rfl⟩
    have hrecord : KeptOf rt (strip (key.text rt)) fields
        (keptRecord rt (strip (key.text rt)) fields checks (healthy fields checks) (n, k) ++
          [("score", .int score)]) checks (healthy fields checks) (n, k) :=
      ⟨⟨items, byTarget, hitems, hbyTarget, hchecks⟩, rfl, hcounted, score, hscore, rfl⟩
    have hreturns := sanitizeProxyTestResult_eq_some.mpr
      ⟨⟨rfl, hne, hnamed⟩, checks, healthy fields checks, (n, k), hrecord⟩
    refine ⟨_, hreturns, fun proxyId result hfound => ?_⟩
    obtain ⟨rfl, rfl⟩ := Prod.mk.inj (Option.some.inj hfound)
    exact sanitizeProxyTestResult_eq_some.mpr
      ⟨⟨rfl, hne, Json.text_str rt _⟩, checks, healthy fields checks, (n, k), hrecord.again spec hpos⟩

/-- What is stored keeps its meaning exactly when it is sound. -/
lemma keepsMeaning_iff (spec : StoreSpec rt) (key value : Json) :
    KeepsMeaning rt key value ↔ StoredSound rt key value := by
  constructor
  · rintro h fields rfl hne hnamed
    exact fieldsSound_of_keeps hne hnamed h
  · intro h
    by_cases hobj : ∃ fields, value = .obj fields
    · obtain ⟨fields, rfl⟩ := hobj
      by_cases hmatch : strip (key.text rt) = "" ∨
          (Obj.get fields "proxy_id").text rt ≠ strip (key.text rt)
      · exact ⟨none, sanitizeProxyTestResult_dropped hmatch, nofun⟩
      · obtain ⟨hne, hnamed⟩ := not_or.mp hmatch
        exact keeps_of_fieldsSound spec hne (not_not.mp hnamed)
          (h fields rfl hne (not_not.mp hnamed))
    · -- what is no object is dropped
      refine ⟨none, ?_, nofun⟩
      cases value with
      | obj fields => exact absurd ⟨fields, rfl⟩ hobj
      | _ => rfl

end Routing
