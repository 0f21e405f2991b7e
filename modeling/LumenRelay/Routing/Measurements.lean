import LumenRelay.Routing.Ranking

/-!
# Measuring a proxy

A test sends one request to each of the two targets through the proxy.  What it measured is
stored with the counters of the proxy, which go on from those of the result before.
-/

namespace Routing

open Lib Py

/-! ## What a test returns -/

/-- What is measured of a request. -/
structure Timing where
  connectMs : Option PyFloat
  handshakeMs : Option PyFloat
  requestMs : PyFloat
  totalMs : PyFloat
deriving DecidableEq

/-- What `_probe_https_target` tells of a target; the body of an answer is not read. -/
inductive Probe
  | answered (status : ℤ) (timing : Timing)
  | failed (exception : String) (timing : Timing)
deriving DecidableEq

namespace Probe

/-- `ok`. -/
def ok : Probe → Bool
  | answered status _ => 200 ≤ status ∧ status < 400
  | failed _ _ => false

def timing : Probe → Timing
  | answered _ t | failed _ t => t

/-- `status or None`. -/
def status : Probe → Json
  | answered status _ => (Json.int status).or .null
  | failed _ _ => .null

/-- The field that only a failure has. -/
def error : Probe → Obj
  | answered _ _ => []
  | failed exception _ => [("error", .str exception)]

/-- A number, if it was measured. -/
def measured : Option PyFloat → Json
  | some x => .float x
  | none => .null

/-- The dictionary that `_probe_https_request` returns. -/
def check (target : String) (probe : Probe) : Obj :=
  [("target", .str target), ("ok", .bool probe.ok), ("status", probe.status),
    ("connect_ms", measured probe.timing.connectMs),
    ("handshake_ms", measured probe.timing.handshakeMs),
    ("request_ms", .float probe.timing.requestMs), ("total_ms", .float probe.timing.totalMs),
    ("latency_ms", .float probe.timing.totalMs)] ++ probe.error

end Probe

/-- What `_exit_identity` tells. -/
structure Identity where
  exitIp : String
  exitLocation : String
  exitCountryCode : String
deriving DecidableEq

/-- How `test_proxy_record` ends: with the answers of the two targets and, when both are good,
the identity of the exit, or with an exception. -/
inductive Measurement
  | tested (cloudflare google : Probe) (identity : Identity)
  | raised (exception : String)
deriving DecidableEq

namespace Measurement

/-- `ok`. -/
def ok : Measurement → Bool
  | tested cloudflare google _ => cloudflare.ok && google.ok
  | raised _ => false

/-- The check that stands for a target that was not asked. -/
def failedCheck (exception target : String) : Obj :=
  [("target", .str target), ("ok", .bool false), ("status", .null), ("error", .str exception)]

/-- The two checks, in the order of the targets. -/
def checks : Measurement → List Obj
  | tested cloudflare google _ =>
    [cloudflare.check "https://cloudflare.com", google.check "https://google.com"]
  | raised exception => requiredTargets.map (failedCheck exception)

/-- What is told of the exit. -/
def identity : Measurement → Obj
  | tested cloudflare google identity =>
    let identity := if cloudflare.ok && google.ok then identity else ⟨"", "", ""⟩
    [("exit_ip", .str identity.exitIp), ("exit_location", .str identity.exitLocation),
      ("exit_country_code", .str identity.exitCountryCode)]
  | raised _ => []

/-- The dictionary that `test_proxy_record` returns, or the one that its callers put in the
place of an exception. -/
def raw (proxyId : String) (m : Measurement) : Obj :=
  [("proxy_id", .str proxyId), ("ok", .bool m.ok), ("checks", .arr (m.checks.map Json.obj))] ++
    m.identity

end Measurement

/-! ## The result to store -/

variable (rt : Runtime)

/-- The counters of the result before; what is not a number is forgotten. -/
def previousCounts (previous : Obj) : Except PyErr (ℤ × ℤ) :=
  let counts : Except PyErr (ℤ × ℤ) := do
    let samples := max 0 (min (← ((previous.get "sample_count").or (.int 0)).toInt rt) 9999)
    let successes := max 0 (min (← ((previous.get "success_count").or (.int 0)).toInt rt) samples)
    return (samples, successes)
  match counts with
  | .error (.valueError _) | .error .typeError => .ok (0, 0)
  | r => r

/-- What `_store_proxy_test_result` hands to the sanitizer. -/
def countedResult (record : Record) (m : Measurement) (testedAt : String) (counts : ℤ × ℤ) : Obj :=
  (m.raw record.id).update
    [("proxy_id", .str record.id), ("country", .str record.country), ("tested_at", .str testedAt),
      ("sample_count", .int (counts.1 + 1)),
      ("success_count", .int (counts.2 + if m.ok then 1 else 0))]

/-- `_store_proxy_test_result`, without the assignment: the result of a test, counted on from
the results that are stored. -/
def storeProxyTestResult (tests : Dict String Obj) (record : Record) (m : Measurement)
    (testedAt : String) : Except PyErr Obj := do
  let counts ← previousCounts rt ((tests.get? record.id).getD [])
  match ← sanitizeProxyTestResult rt (.str record.id)
      (.obj (countedResult record m testedAt counts)) with
  | some (_, result) => return result
  | none => throw (.valueError "proxy test produced an invalid result")

/-! ## No test is refused -/

variable {rt} {tests : Dict String Obj} {proxyId : String}

/-- A value that a latency can be read from. -/
def Measurable (rt : Runtime) (value : Json) : Prop := ∃ x, boundedMs rt value = .ok x

lemma measurable_null : Measurable rt .null := ⟨.null, rfl⟩

lemma measurable_float (x : PyFloat) : Measurable rt (.float x) := by
  cases x with
  | fin q => exact ⟨_, rfl⟩
  | nan => exact ⟨_, rfl⟩
  | inf b => exact ⟨_, rfl⟩

/-- What `bounded_ms` returns can be read again. -/
lemma boundedMs_measurable {value x : Json} (h : boundedMs rt value = .ok x) : Measurable rt x := by
  unfold boundedMs at h
  split at h
  · cases h
    exact measurable_null
  · cases h
    exact measurable_null
  · cases h
  · cases h
    split
    · exact measurable_null
    · exact measurable_float _
  · cases h
    exact measurable_null

/-- A check whose latencies can be read. -/
structure Check (rt : Runtime) (check : Obj) : Prop where
  connect : Measurable rt (check.get "connect_ms")
  handshake : Measurable rt (check.get "handshake_ms")
  request : Measurable rt (check.get "request_ms")
  total : Measurable rt (check.get "total_ms")
  latency : Measurable rt (check.get "latency_ms")

lemma Probe.measurable_measured (x : Option PyFloat) : Measurable rt (Probe.measured x) := by
  cases x with
  | none => exact measurable_null
  | some x => exact measurable_float x

lemma Probe.check_spec (target : String) (probe : Probe) : Check rt (probe.check target) :=
  ⟨measurable_measured _, measurable_measured _, measurable_float _, measurable_float _,
    measurable_float _⟩

lemma Measurement.failedCheck_spec (exception target : String) :
    Check rt (failedCheck exception target) :=
  ⟨measurable_null, measurable_null, measurable_null, measurable_null, measurable_null⟩

/-- A check is kept, and its latencies can be read again. -/
lemma sanitizeCheck_ok {item : Obj} (h : Check rt item) :
    ∃ check, sanitizeCheck rt item = .ok check ∧ Check rt check := by
  obtain ⟨connect, hconnect⟩ := h.connect
  obtain ⟨handshake, hhandshake⟩ := h.handshake
  obtain ⟨request, hrequest⟩ := h.request
  obtain ⟨total, htotal⟩ := h.total
  obtain ⟨latency, hlatency⟩ := h.latency
  have htotals : Measurable rt (if total ≠ .null then total else latency) := by
    split
    · exact boundedMs_measurable htotal
    · exact boundedMs_measurable hlatency
  unfold sanitizeCheck
  dsimp only
  rw [htotal, ok_bind, hlatency, ok_bind, hconnect, ok_bind, hhandshake, ok_bind, hrequest, ok_bind]
  exact ⟨_, rfl, boundedMs_measurable hconnect, boundedMs_measurable hhandshake,
    boundedMs_measurable hrequest, htotals, htotals⟩

/-- A latency is averaged over checks that can be read. -/
lemma averageCheckMs_ok {result : Obj} {items : List Obj} {field : String}
    (hitems : result.get "checks" = .arr (items.map Json.obj))
    (h : ∀ item ∈ items, Measurable rt (item.get field)) :
    ∃ average, averageCheckMs rt result field = .ok average := by
  have hor : (Json.arr (items.map Json.obj)).or (.arr []) = .arr (items.map Json.obj) := by
    cases items <;> rfl
  unfold averageCheckMs
  rw [hitems, hor]
  change ∃ average, (Except.ok (items.map Json.obj) >>= _) = _
  rw [ok_bind]
  refine exists_ok_bind (filterMapM_ok fun check hcheck => ?_) fun values => ?_
  · obtain ⟨item, hitem, rfl⟩ := List.mem_map.mp hcheck
    obtain ⟨x, hx⟩ := h item hitem
    dsimp only
    rw [hx, ok_bind]
    split
    · split <;> exact ⟨_, rfl⟩
    · exact ⟨none, rfl⟩
  · split <;> exact ⟨_, rfl⟩

/-- A result whose checks can be read, with its counters, has a score. -/
lemma performanceScore_ok {result : Obj} {items : List Obj} {samples successes : ℤ}
    (hitems : result.get "checks" = .arr (items.map Json.obj)) (h : ∀ item ∈ items, Check rt item)
    (hsamples : result.get "sample_count" = .int samples)
    (hsuccesses : result.get "success_count" = .int successes) :
    ∃ score, performanceScore rt result = .ok score := by
  have hint : ∀ (n d : ℤ), ∃ k, ((Json.int n).or (.int d)).toInt rt = .ok k := by
    intro n d
    unfold Json.or
    split <;> exact ⟨_, rfl⟩
  unfold performanceScore
  rw [hsamples, hsuccesses]
  refine exists_ok_bind (hint _ _) fun _ => exists_ok_bind (hint _ _) fun _ => ?_
  refine exists_ok_bind (averageCheckMs_ok hitems fun item hitem => (h item hitem).total) fun _ => ?_
  refine exists_ok_bind (averageCheckMs_ok hitems fun item hitem => (h item hitem).connect) fun _ => ?_
  refine exists_ok_bind (averageCheckMs_ok hitems fun item hitem => (h item hitem).request) fun _ => ?_
  exact ⟨_, rfl⟩

/-- The checks of a measurement are kept. -/
lemma Measurement.sanitizeChecks_ok (m : Measurement) : ∃ cloudflare google,
    sanitizeChecks rt (m.checks.map Json.obj) [] =
      .ok [("https://cloudflare.com", cloudflare), ("https://google.com", google)] ∧
    Check rt cloudflare ∧ Check rt google := by
  obtain ⟨a, b, hchecks, hta, htb, ha, hb⟩ : ∃ a b, m.checks = [a, b] ∧
      Obj.get a "target" = .str "https://cloudflare.com" ∧
      Obj.get b "target" = .str "https://google.com" ∧ Check rt a ∧ Check rt b := by
    cases m with
    | tested cloudflare google identity =>
      exact ⟨_, _, rfl, rfl, rfl, Probe.check_spec _ _, Probe.check_spec _ _⟩
    | raised exception => exact ⟨_, _, rfl, rfl, rfl, failedCheck_spec _ _, failedCheck_spec _ _⟩
  obtain ⟨cloudflare, hcloudflare, hspec⟩ := sanitizeCheck_ok ha
  obtain ⟨google, hgoogle, hspec'⟩ := sanitizeCheck_ok hb
  refine ⟨cloudflare, google, ?_, hspec, hspec'⟩
  rw [hchecks]
  simp only [List.map_cons, List.map_nil, sanitizeChecks, hta, htb, Json.text_str]
  rw [if_neg (by simp [requiredTargets]), hcloudflare, ok_bind, if_neg (by simp [requiredTargets, List.lookup_cons]), hgoogle]
  rfl

/-! ## The counters -/

/-- The number in a field. -/
def number : Json → ℤ
  | .int n => n
  | _ => 0

/-- `sample_count` and `success_count` of a result. -/
def countsOf (result : Obj) : ℤ × ℤ :=
  (number (result.get "sample_count"), number (result.get "success_count"))

/-- The counters of a proxy. -/
def storedCounts (tests : Dict String Obj) (proxyId : String) : ℤ × ℤ :=
  ((tests.get? proxyId).map countsOf).getD (0, 0)

/-- The counters after one more test. -/
def nextCounts (counts : ℤ × ℤ) (ok : Bool) : ℤ × ℤ :=
  (min counts.1 9999 + 1, min counts.2 (min counts.1 9999) + if ok then 1 else 0)

/-- The counters of a result that is kept. -/
structure Counted (result : Obj) (samples successes : ℤ) : Prop where
  sample : result.get "sample_count" = .int samples
  success : result.get "success_count" = .int successes
  pos : 1 ≤ samples
  cap : samples ≤ 10000
  nonneg : 0 ≤ successes
  le : successes ≤ samples

lemma sanitizeCounts_bounds {raw : Obj} {ok : Bool} {samples successes : ℤ}
    (h : sanitizeCounts rt raw ok = .ok (samples, successes)) :
    1 ≤ samples ∧ samples ≤ 10000 ∧ 0 ≤ successes ∧ successes ≤ samples := by
  unfold sanitizeCounts at h
  dsimp only at h
  split at h
  · obtain ⟨rfl, rfl⟩ := Prod.mk.inj (Except.ok.inj h)
    cases ok <;> simp
  · obtain ⟨rfl, rfl⟩ := Prod.mk.inj (Except.ok.inj h)
    cases ok <;> simp
  · obtain ⟨a, -, h⟩ := bind_eq_ok h
    obtain ⟨b, -, h⟩ := bind_eq_ok h
    obtain ⟨rfl, rfl⟩ := Prod.mk.inj (Except.ok.inj h)
    omega

lemma IsKept.counted {raw result : Obj} {items : List Obj} {ok : Bool}
    (h : IsKept rt proxyId raw result items ok) : ∃ samples successes, Counted result samples successes := by
  obtain ⟨samples, successes, hcounts, hsamples, hsuccesses⟩ := h.counts
  obtain ⟨hpos, hcap, hnonneg, hle⟩ := sanitizeCounts_bounds hcounts
  exact ⟨samples, successes, hsamples, hsuccesses, hpos, hcap, hnonneg, hle⟩

/-- The counters of the result before. -/
lemma previousCounts_counted {previous : Obj} {samples successes : ℤ}
    (h : Counted previous samples successes) :
    previousCounts rt previous = .ok (min samples 9999, min successes (min samples 9999)) := by
  have hpos := h.pos
  have hnonneg := h.nonneg
  have hle := h.le
  have hsamples : ((previous.get "sample_count").or (.int 0)).toInt rt = .ok samples := by
    rw [h.sample, Json.or, if_pos (by simp [Json.truthy]; omega)]
    rfl
  have hsuccesses : ((previous.get "success_count").or (.int 0)).toInt rt = .ok successes := by
    rw [h.success, Json.or]
    split
    · rfl
    · rename_i hzero
      have : successes = 0 := by simpa [Json.truthy] using hzero
      rw [this]
      rfl
  unfold previousCounts
  rw [hsamples, ok_bind, hsuccesses, ok_bind]
  have hmax : max 0 (min samples 9999) = min samples 9999 := by omega
  have hmax' : max 0 (min successes (min samples 9999)) = min successes (min samples 9999) := by omega
  simp only [hmax, hmax']
  rfl

/-! ## Storing a result -/

/-- The previous counters of a proxy, when all results are kept. -/
lemma previousCounts_kept (h : Kept rt tests) (proxyId : String) :
    previousCounts rt ((tests.get? proxyId).getD []) =
      .ok (min (storedCounts tests proxyId).1 9999,
        min (storedCounts tests proxyId).2 (min (storedCounts tests proxyId).1 9999)) := by
  unfold storedCounts
  cases hresult : tests.get? proxyId with
  | none => rfl
  | some result =>
    obtain ⟨key, raw, hsanitize⟩ := h proxyId result hresult
    obtain ⟨-, _, _, _, -, hkept⟩ := sanitizeProxyTestResult_some hsanitize
    obtain ⟨samples, successes, hcounted⟩ := hkept.counted
    have hnumbers : countsOf result = (samples, successes) := by
      rw [countsOf, hcounted.sample, hcounted.success]
      rfl
    simpa [hnumbers] using previousCounts_counted hcounted

lemma storedCounts_bounds (h : Kept rt tests) (proxyId : String) :
    0 ≤ (storedCounts tests proxyId).2 ∧
      (storedCounts tests proxyId).2 ≤ (storedCounts tests proxyId).1 ∧
      (storedCounts tests proxyId).1 ≤ 10000 := by
  unfold storedCounts
  cases hresult : tests.get? proxyId with
  | none => simp
  | some result =>
    obtain ⟨key, raw, hsanitize⟩ := h proxyId result hresult
    obtain ⟨-, _, _, _, -, hkept⟩ := sanitizeProxyTestResult_some hsanitize
    obtain ⟨samples, successes, hcounted⟩ := hkept.counted
    have hnumbers : countsOf result = (samples, successes) := by
      rw [countsOf, hcounted.sample, hcounted.success]
      rfl
    simpa [hnumbers] using ⟨hcounted.nonneg, hcounted.le, hcounted.cap⟩

variable {record : Record} {m : Measurement} {testedAt : String}

lemma countedResult_get (counts : ℤ × ℤ) :
    (countedResult record m testedAt counts).get "proxy_id" = .str record.id ∧
      (countedResult record m testedAt counts).get "ok" = .bool m.ok ∧
      (countedResult record m testedAt counts).get "checks" = .arr (m.checks.map Json.obj) ∧
      (countedResult record m testedAt counts).get "sample_count" = .int (counts.1 + 1) ∧
      (countedResult record m testedAt counts).get "success_count" =
        .int (counts.2 + if m.ok then 1 else 0) := by
  have hraw : Obj.get (m.raw record.id) "ok" = .bool m.ok ∧
      Obj.get (m.raw record.id) "checks" = .arr (m.checks.map Json.obj) := ⟨rfl, rfl⟩
  simp [countedResult, Obj.update, Obj.get_set_ne, hraw]

/-- The counters of a test are the ones that it counted. -/
lemma sanitizeCounts_counted {raw : Obj} {counts : ℤ × ℤ} {good ok : Bool}
    (hsamples : raw.get "sample_count" = .int (counts.1 + 1))
    (hsuccesses : raw.get "success_count" = .int (counts.2 + if good then 1 else 0))
    (hnonneg : 0 ≤ counts.2) (hle : counts.2 ≤ counts.1) (hcap : counts.1 ≤ 9999)
    (hok : ok = true → good = true) :
    sanitizeCounts rt raw ok = .ok (counts.1 + 1, counts.2 + if good then 1 else 0) := by
  have hsampleCount : ((raw.get "sample_count").or (.int 1)).toInt rt = .ok (counts.1 + 1) := by
    rw [hsamples, Json.or, if_pos (by simp [Json.truthy]; omega)]
    rfl
  have hsuccessCount : ((raw.get "success_count").or (.int (if ok then 1 else 0))).toInt rt =
      .ok (counts.2 + if good then 1 else 0) := by
    rw [hsuccesses, Json.or]
    by_cases hsum : (counts.2 + if good then 1 else 0) = 0
    · -- no success so far, and this test is none either
      have hgood : good = false := by
        by_contra hgood
        rw [if_pos (by simpa using hgood)] at hsum
        omega
      have hbad : ok = false := by
        by_contra hbad
        simp [hok (by simpa using hbad)] at hgood
      rw [hsum, hbad]
      rfl
    · rw [if_pos (by simpa [Json.truthy] using hsum)]
      rfl
  unfold sanitizeCounts
  rw [hsampleCount, ok_bind]
  dsimp only
  rw [hsuccessCount, ok_bind]
  have hbool : (if good then 1 else 0 : ℤ) = 0 ∨ (if good then 1 else 0 : ℤ) = 1 := by
    cases good <;> simp
  have hmax : max 1 (min (counts.1 + 1) 10000) = counts.1 + 1 := by omega
  have hmax' : max 0 (min (counts.2 + if good then 1 else 0) (counts.1 + 1)) =
      counts.2 + if good then 1 else 0 := by omega
  simp only [hmax, hmax']
  rfl

/-- The result of a test is stored under the id of its proxy, with counters that go on from
the ones before. -/
structure Stored (rt : Runtime) (tests : Dict String Obj) (record : Record) (m : Measurement)
    (result : Obj) : Prop where
  sanitized : Sanitized rt record.id result
  counts : countsOf result = nextCounts (storedCounts tests record.id) m.ok

/-- The sanitizer keeps a result with a check for each target and counters that can be read. -/
lemma sanitizeProxyTestResult_ok {fields cloudflare google : Obj} {items : List Json}
    (hid : proxyId ≠ "") (hstrip : strip proxyId = proxyId)
    (hproxy : fields.get "proxy_id" = .str proxyId)
    (hchecks : ((fields.get "checks").or (.arr [])).iterate = .ok items)
    (htargets : sanitizeChecks rt items [] =
      .ok [("https://cloudflare.com", cloudflare), ("https://google.com", google)])
    (hcloudflare : Check rt cloudflare) (hgoogle : Check rt google)
    (hcounts : ∀ ok : Bool, (ok = true → Obj.get fields "ok" ≠ .null →
      (Obj.get fields "ok").truthy) → ∃ counts, sanitizeCounts rt fields ok = .ok counts) :
    ∃ result, sanitizeProxyTestResult rt (.str proxyId) (.obj fields) =
      .ok (some (proxyId, result)) := by
  have hlookup : requiredTargets.mapM (fun t => List.lookup t
      [("https://cloudflare.com", cloudflare), ("https://google.com", google)]) =
        some [cloudflare, google] := by
    simp [requiredTargets, List.lookup_cons]
  unfold sanitizeProxyTestResult
  dsimp only
  rw [Json.text_str, hstrip, hproxy, Json.text_str, if_neg (by simp [hid]), hchecks, ok_bind,
    htargets, ok_bind, hlookup]
  dsimp only
  generalize hok : ((if Obj.get fields "ok" ≠ .null then (Obj.get fields "ok").truthy
    else Obj.get fields "overall_status" = .str "healthy") &&
      [cloudflare, google].all fun check => (Obj.get check "ok").truthy) = ok
  obtain ⟨⟨samples, successes⟩, hsanitized⟩ := hcounts ok fun hok' hnull => by
    rw [hok', Bool.and_eq_true, if_pos hnull] at hok
    exact hok.1
  rw [hsanitized, ok_bind]
  cases ok with
  | false => exact ⟨_, rfl⟩
  | true =>
    have hbind : ∀ {x : Except PyErr ℤ} {f : ℤ → Obj}, (∃ score, x = .ok score) →
        ∃ result, (x >>= fun score => pure (some (proxyId, f score))) =
          .ok (some (proxyId, result)) := by
      rintro x f ⟨score, rfl⟩
      exact ⟨_, rfl⟩
    rw [if_pos rfl]
    have hitems : ∀ item ∈ [cloudflare, google], Check rt item := by simp [hcloudflare, hgoogle]
    exact hbind (performanceScore_ok rfl hitems rfl rfl)

/-- A result that is returned is one of the proxy. -/
lemma storeProxyTestResult_sanitized {result : Obj}
    (h : storeProxyTestResult rt tests record m testedAt = .ok result) :
    Sanitized rt record.id result := by
  unfold storeProxyTestResult at h
  obtain ⟨counts, -, h⟩ := bind_eq_ok h
  obtain ⟨found, hfound, h⟩ := bind_eq_ok h
  cases found with
  | none => cases h
  | some found =>
    obtain ⟨proxyId, result'⟩ := found
    obtain rfl := Except.ok.inj h
    obtain ⟨-, fields, _, _, hfields, hkept⟩ := sanitizeProxyTestResult_some hfound
    obtain rfl := Json.obj.inj hfields
    have hnamed := hkept.named
    rw [(countedResult_get counts).1, Json.text_str] at hnamed
    subst hnamed
    exact ⟨_, _, hfound⟩

/-- No test of a proxy is refused. -/
theorem storeProxyTestResult_ok (h : Kept rt tests) (hid : record.id ≠ "")
    (hstrip : strip record.id = record.id) (m : Measurement) (testedAt : String) :
    ∃ result, storeProxyTestResult rt tests record m testedAt = .ok result ∧
      Stored rt tests record m result := by
  obtain ⟨hnonneg, hle, hcap⟩ := storedCounts_bounds h record.id
  have hprevious := previousCounts_kept h record.id
  generalize hstored : storedCounts tests record.id = stored at hnonneg hle hcap hprevious
  set counts := (min stored.1 9999, min stored.2 (min stored.1 9999)) with hcounts
  obtain ⟨hproxy, hok, hchecks, hsamples, hsuccesses⟩ :=
    @countedResult_get record m testedAt counts
  have hbounds : 0 ≤ counts.2 ∧ counts.2 ≤ counts.1 ∧ counts.1 ≤ 9999 := by
    simp only [hcounts]
    omega
  obtain ⟨cloudflare, google, htargets, hcloudflare, hgoogle⟩ := @Measurement.sanitizeChecks_ok rt m
  have hiterate : ((Obj.get (countedResult record m testedAt counts) "checks").or (.arr [])).iterate =
      .ok (m.checks.map Json.obj) := by
    rw [hchecks]
    cases m <;> rfl
  have hsanitized : ∀ ok : Bool,
      (ok = true → Obj.get (countedResult record m testedAt counts) "ok" ≠ .null →
        (Obj.get (countedResult record m testedAt counts) "ok").truthy) →
      sanitizeCounts rt (countedResult record m testedAt counts) ok =
        .ok (counts.1 + 1, counts.2 + if m.ok then 1 else 0) := by
    intro ok hprobe
    refine sanitizeCounts_counted hsamples hsuccesses hbounds.1 hbounds.2.1 hbounds.2.2 fun hgood => ?_
    have := hprobe hgood (by rw [hok]; simp)
    rwa [hok] at this
  obtain ⟨result, hresult⟩ := sanitizeProxyTestResult_ok hid hstrip hproxy hiterate htargets
    hcloudflare hgoogle fun ok hprobe => ⟨_, hsanitized ok hprobe⟩
  refine ⟨result, ?_, ⟨_, _, hresult⟩, ?_⟩
  · unfold storeProxyTestResult
    rw [hprevious, ok_bind, hresult, ok_bind]
    rfl
  · obtain ⟨-, fields, items, ok, hfields, hkept⟩ := sanitizeProxyTestResult_some hresult
    obtain rfl := Json.obj.inj hfields
    obtain ⟨samples, successes, hkeptCounts, hsample, hsuccess⟩ := hkept.counts
    rw [hsanitized ok hkept.probe] at hkeptCounts
    obtain ⟨rfl, rfl⟩ := Prod.mk.inj (Except.ok.inj hkeptCounts)
    rw [countsOf, hsample, hsuccess, hstored]
    rfl

/-! ## The ids of a catalog -/

/-- `hexdigest` returns a text of digits and letters. -/
def HexDigest (rt : Runtime) : Prop := ∀ text, ∀ c ∈ (rt.sha256 text).toList, c.isAlphanum = true

lemma strip_proxyIdentity (h : HexDigest rt) (endpoint : String) :
    strip (proxyIdentity rt endpoint) = proxyIdentity rt endpoint := by
  refine strip_eq_self fun c hc => alphanum_not_space c ?_
  rw [proxyIdentity, toList_sliceTo] at hc
  exact h _ c (List.mem_of_mem_take hc)

end Routing
