import LumenRelay.Routing.Countries

/-!
# Proxy test results

A test of a proxy asks two targets through it.  The panel keeps a bounded, credential-free
record of the last test, and calls a proxy healthy when both targets answered.
-/

namespace Routing

open Py

variable (rt : Runtime)

/-- `REQUIRED_TARGETS`, in sorted order. -/
def requiredTargets : List String := ["https://cloudflare.com", "https://google.com"]

/-! ## Measurements -/

/-- The integer nearest to a rational; of two, the even one. -/
def roundHalfEven (q : ℚ) : ℤ :=
  let n := ⌊q⌋
  let r := q - n
  if r < 1 / 2 then n
  else if 1 / 2 < r then n + 1
  else if n % 2 = 0 then n
  else n + 1

/-- `round(x, 3)` of a finite float. -/
def roundMillis (q : ℚ) : PyFloat := rt.roundFloat (roundHalfEven (q * 1000) / 1000)

/-- `bounded_ms`. -/
def boundedMs (value : Json) : Except PyErr Json :=
  match value.toFloat rt with
  | .error (.valueError _) | .error .typeError => .ok .null
  | .error e => .error e
  | .ok (.fin q) => .ok (if q < 0 ∨ 120000 < q then .null else .float (roundMillis rt q))
  | .ok _ => .ok .null

/-- The rational that a float stands for; the model of a measurement is finite. -/
def floatValue : PyFloat → ℚ
  | .fin q => q
  | _ => 0

/-- A sum, difference, product or quotient of floats, rounded to a float. -/
def rounded (q : ℚ) : ℚ := floatValue (rt.roundFloat q)

/-- `average_check_ms`. -/
def averageCheckMs (result : Obj) (field : String) : Except PyErr ℚ := do
  let checks ← ((result.get "checks").or (.arr [])).iterate
  let values ← checks.filterMapM fun check =>
    match check with
    | .obj o =>
      if (Obj.get o "ok").truthy then do
        match ← boundedMs rt (Obj.get o field) with
        | .float x => pure (some (floatValue x))
        | _ => pure none
      else pure none
    | _ => pure none
  if values = [] then return 120000
  let average := rounded rt (values.foldl (fun s v => rounded rt (s + v)) 0 / values.length)
  return floatValue (roundMillis rt average)

/-- `performance_score`. -/
def performanceScore (result : Obj) : Except PyErr ℤ := do
  let samples := max 1 (min (← ((result.get "sample_count").or (.int 1)).toInt rt) 10000)
  let successes := max 0 (min (← ((result.get "success_count").or (.int 0)).toInt rt) samples)
  let reliability := rounded rt (successes / samples)
  let totalMs := min (← averageCheckMs rt result "total_ms") 30000
  let connectMs := min (← averageCheckMs rt result "connect_ms") 30000
  let requestMs := min (← averageCheckMs rt result "request_ms") 30000
  let afterTotal := rounded rt (rounded rt (reliability * 1000000) - rounded rt (totalMs * 20))
  let afterConnect := rounded rt (afterTotal - rounded rt (connectMs * 5))
  return roundHalfEven (rounded rt (afterConnect - rounded rt (requestMs * 2)))

/-- `current_healthy`; the elements of the list that are not objects do not count. -/
def currentHealthy : Option Obj → Except PyErr Bool
  | none => .ok false
  | some result =>
    if result.get "overall_status" ≠ .str "healthy" then .ok false
    else
      match (result.get "checks").or (.arr []) with
      | .arr checks =>
        let items := checks.filterMap Json.asObj
        let targets := items.map fun o => Obj.get o "target"
        if targets.any fun t => !t.hashable then .error .typeError
        else
          .ok (requiredTargets.all (fun t => .str t ∈ targets) &&
            targets.all (fun t => t ∈ requiredTargets.map Json.str) &&
            items.all fun o => (Obj.get o "ok").truthy)
      | _ => .ok false

/-! ## The record that is kept -/

/-- `_safe_diag_text`. -/
def safeDiagText (value : Json) (limit : ℕ) : String :=
  let text := sliceTo limit (keepChars rt.isPrintable (value.text rt))
  String.ofList (text.toList.takeWhile (· ≠ '?'))

/-- One check of a result, as it is kept. -/
def sanitizeCheck (item : Obj) : Except PyErr Obj := do
  let target := (item.get "target").text rt
  let status := match item.get "status" with
    | .bool b => Json.int (if b then 1 else 0)
    | .int n => if 0 ≤ n ∧ n ≤ 999 then .int n else .null
    | _ => .null
  let measured ← boundedMs rt (item.get "total_ms")
  let legacyLatency ← boundedMs rt (item.get "latency_ms")
  let totalMs := if measured ≠ .null then measured else legacyLatency
  return [("target", .str target), ("ok", .bool (item.get "ok").truthy), ("status", status),
    ("connect_ms", ← boundedMs rt (item.get "connect_ms")),
    ("handshake_ms", ← boundedMs rt (item.get "handshake_ms")),
    ("request_ms", ← boundedMs rt (item.get "request_ms")),
    ("total_ms", totalMs), ("latency_ms", totalMs),
    ("error", if (item.get "ok").truthy then .null
      else .str (safeDiagText rt (item.get "error") 80))]

/-- The checks of a result by target; of two checks of a target the first counts. -/
def sanitizeChecks : List Json → List (String × Obj) → Except PyErr (List (String × Obj))
  | [], byTarget => .ok byTarget
  | .obj item :: items, byTarget => do
    let target := (Obj.get item "target").text rt
    if target ∉ requiredTargets ∨ (List.lookup target byTarget).isSome then
      sanitizeChecks items byTarget
    else
      sanitizeChecks items (byTarget ++ [(target, ← sanitizeCheck rt item)])
  | _ :: items, byTarget => sanitizeChecks items byTarget

/-- The two counters of a result; one that is not a number is forgotten. -/
def sanitizeCounts (result : Obj) (ok : Bool) : Except PyErr (ℤ × ℤ) :=
  let counts : Except PyErr (ℤ × ℤ) := do
    let sampleCount := max 1 (min (← ((result.get "sample_count").or (.int 1)).toInt rt) 10000)
    let default := Json.int (if ok then 1 else 0)
    let successCount :=
      max 0 (min (← ((result.get "success_count").or default).toInt rt) sampleCount)
    return (sampleCount, successCount)
  match counts with
  | .error (.valueError _) | .error .typeError => .ok (1, if ok then 1 else 0)
  | r => r

/-- `sanitize_proxy_test_result`: the record to keep, under its proxy id. -/
def sanitizeProxyTestResult (proxyId result : Json) : Except PyErr (Option (String × Obj)) := do
  let proxyId := strip (proxyId.text rt)
  match result with
  | .obj result =>
    if proxyId = "" ∨ (Obj.get result "proxy_id").text rt ≠ proxyId then return none
    let byTarget ← sanitizeChecks rt (← ((Obj.get result "checks").or (.arr [])).iterate) []
    match requiredTargets.mapM fun t => List.lookup t byTarget with
    | none => return none
    | some checks =>
      let probeOk := if Obj.get result "ok" ≠ .null then (Obj.get result "ok").truthy
        else Obj.get result "overall_status" = .str "healthy"
      let ok := probeOk && checks.all fun check => (Obj.get check "ok").truthy
      let (sampleCount, successCount) ← sanitizeCounts rt result ok
      let exitIp := strip ((Obj.get result "exit_ip").text rt)
      let exitIp := if exitIp = "" then "" else ((rt.ipAddress exitIp).map Prod.snd).getD ""
      let exitCountryCode := (normalizeCountry rt (Obj.get result "exit_country_code")).2
      let safe : Obj :=
        [("proxy_id", .str proxyId),
          ("country", .str (safeDiagText rt (Obj.get result "country") 80)),
          ("overall_status", .str (if ok then "healthy" else "unhealthy")),
          ("tested_at", .str (safeDiagText rt (Obj.get result "tested_at") 48)),
          ("checks", .arr (checks.map Json.obj)), ("exit_ip", .str exitIp),
          ("exit_location", .str (safeDiagText rt (Obj.get result "exit_location") 160)),
          ("exit_country_code", .str exitCountryCode), ("sample_count", .int sampleCount),
          ("success_count", .int successCount)]
      let score ← if ok then performanceScore rt safe else pure 0
      return some (proxyId, safe ++ [("score", .int score)])
  | _ => return none

end Routing
