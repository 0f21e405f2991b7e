import LumenRelay.Routing.Scan

/-!
# The history of a proxy

A result carries the number of tests of its proxy and of those that were good.  A scan computes
the counters of a result when a test ends and publishes it later with the others of the country;
a single test in between is overwritten.  Unless this happens, no test is lost.
-/

namespace Routing

open Lib Py

variable {rt : Runtime} {s s' : Scanner rt} {l : ScanLabel rt} {es : List (ScanEvent rt)}
  {events : List (ScanEvent rt)} {proxyId : String}

/-! ## The tests of a proxy -/

/-- How a test of the proxy went. -/
def ScanEvent.outcome (proxyId : String) : ScanEvent rt → Option Bool
  | .measured record ok => if record.id = proxyId then some ok else none
  | .single id ok => if id = proxyId then some ok else none
  | _ => none

/-- How the tests of the proxy went. -/
def outcomes (events : List (ScanEvent rt)) (proxyId : String) : List Bool :=
  events.filterMap (ScanEvent.outcome proxyId)

/-- The result of the proxy that a scan has computed and not yet published. -/
def Scanner.unpublished (s : Scanner rt) (proxyId : String) : Option Obj :=
  match s.worker with
  | .testing _ _ tests => (tests.find? fun e => e.1.id = proxyId).bind Prod.snd
  | _ => none

/-- No single test ends for a proxy of which a scan holds a result. -/
def Undisturbed (s : Scanner rt) : ScanLabel rt → Prop
  | .store n _ _ => ∀ record ∈ s.singles.get? n, s.unpublished record.id = none
  | _ => True

instance (s : Scanner rt) (l : ScanLabel rt) : Decidable (Undisturbed s l) :=
  match l with
  | .store n _ _ =>
    inferInstanceAs (Decidable (∀ record ∈ s.singles.get? n, s.unpublished record.id = none))
  | .refresh _ | .schedule _ | .enqueue _ | .drain | .country | .measure _ _ _ | .publish
  | .requeue | .saved | .leave | .begin _ => .isTrue trivial

/-- The counters of the last result of a proxy, published or not. -/
def Scanner.latest (s : Scanner rt) (proxyId : String) : ℤ × ℤ :=
  (s.unpublished proxyId).elim (storedCounts s.tests proxyId) countsOf

/-- The counters have grown by the tests. -/
def Grown (before : ℤ × ℤ) (outcomes : List Bool) (after : ℤ × ℤ) : Prop :=
  before.1 + outcomes.length ≤ 10000 →
    after = (before.1 + outcomes.length, before.2 + outcomes.count true)

/-! ## One more test -/

lemma Grown.next {before after : ℤ × ℤ} {outcomes : List Bool} (h : Grown before outcomes after)
    (hle : after.2 ≤ after.1) (ok : Bool) :
    Grown before (outcomes ++ [ok]) (nextCounts after ok) := by
  intro hcap
  rw [List.length_append, List.length_singleton, Nat.cast_add, Nat.cast_one] at hcap
  have hafter := h (by omega)
  have hfst : after.1 = before.1 + outcomes.length := by rw [hafter]
  have hsnd : after.2 = before.2 + outcomes.count true := by rw [hafter]
  unfold nextCounts
  rw [List.length_append, List.count_append, List.length_singleton]
  cases ok
  · simp
    omega
  · simp
    omega

/-- A result that is stored counts one test more. -/
lemma countsOf_store (hdigest : HexDigest rt) (hkept : Kept rt s.tests) {record : Record}
    (hrecord : FromCatalog rt record) {m : Measurement} {testedAt : String} {result : Obj}
    (hresult : storeProxyTestResult rt s.tests record m testedAt = .ok result) :
    countsOf result = nextCounts (storedCounts s.tests record.id) m.ok := by
  obtain ⟨result', hresult', hstored⟩ := hrecord.storeProxyTestResult hdigest hkept m testedAt
  obtain rfl := Except.ok.inj (hresult'.symm.trans hresult)
  exact hstored.counts

/-! ## Results that are not published -/

lemma Scanner.unpublished_of_ne (h : ∀ rest code tests, s.worker ≠ .testing rest code tests)
    (proxyId : String) : s.unpublished proxyId = none := by
  unfold unpublished
  split
  · rename_i rest code tests hworker
    exact absurd hworker (h rest code tests)
  · rfl

/-- A test that goes on has no result. -/
lemma Scanner.unpublished_of_mem (hs : s.Sane) {rest : List String} {code : String}
    {tests : List (Record × Option Obj)} (hworker : s.worker = .testing rest code tests)
    {record : Record} (hmem : (record, none) ∈ tests) : s.unpublished record.id = none := by
  have hnodup := (hs.testing rest code tests hworker).nodup
  rw [List.map_map] at hnodup
  simp only [unpublished, hworker]
  cases hfind : tests.find? fun e => e.1.id = record.id with
  | none => rfl
  | some e =>
    have hid : e.1.id = record.id := by simpa using List.find?_some hfind
    have heq := List.inj_on_of_nodup_map hnodup (List.mem_of_find?_eq_some hfind) hmem hid
    rw [heq]
    rfl

lemma find?_withResult (tests : List (Record × Option Obj)) (id : String) (result : Obj) :
    ((Scanner.withResult tests id result).find? fun e => e.1.id = proxyId) =
      (tests.find? fun e => e.1.id = proxyId).map fun e =>
        if e.1.id = id then (e.1, some result) else e := by
  unfold Scanner.withResult
  rw [List.find?_map]
  congr 2
  funext e
  dsimp only [Function.comp]
  split <;> rfl

/-- The proxy of a test that has ended has its result. -/
lemma find?_withResult_self {tests : List (Record × Option Obj)} {record : Record} {result : Obj}
    (hmem : (record, none) ∈ tests) :
    ((Scanner.withResult tests record.id result).find? fun e => e.1.id = record.id).bind Prod.snd =
      some result := by
  rw [find?_withResult]
  cases hfind : tests.find? fun e => e.1.id = record.id with
  | none => exact absurd (List.find?_eq_none.mp hfind _ hmem) (by simp)
  | some e =>
    have hid : e.1.id = record.id := by simpa using List.find?_some hfind
    simp [hid]

/-- The others have what they had. -/
lemma find?_withResult_ne {tests : List (Record × Option Obj)} {id : String} {result : Obj}
    (hne : proxyId ≠ id) :
    ((Scanner.withResult tests id result).find? fun e => e.1.id = proxyId).bind Prod.snd =
      (tests.find? fun e => e.1.id = proxyId).bind Prod.snd := by
  rw [find?_withResult]
  cases hfind : tests.find? fun e => e.1.id = proxyId with
  | none => rfl
  | some e =>
    have hid : e.1.id = proxyId := by simpa using List.find?_some hfind
    simp [hid, hne]

/-! ## The counters of a step -/

/-- The counters stay in their range. -/
structure Bounded (counts : ℤ × ℤ) : Prop where
  nonneg : 0 ≤ counts.2
  le : counts.2 ≤ counts.1
  cap : counts.1 ≤ 10000

lemma Bounded.next {counts : ℤ × ℤ} (h : Bounded counts) (ok : Bool) :
    Bounded (nextCounts counts ok) := by
  obtain ⟨hnonneg, hle, hcap⟩ := h
  unfold nextCounts
  cases ok with
  | false =>
    refine ⟨?_, ?_, ?_⟩ <;> dsimp only <;> omega
  | true =>
    refine ⟨?_, ?_, ?_⟩ <;> dsimp only <;> omega

lemma bounded_storedCounts {tests : Dict String Obj} (h : Kept rt tests) (proxyId : String) :
    Bounded (storedCounts tests proxyId) := by
  obtain ⟨hnonneg, hle, hcap⟩ := storedCounts_bounds h proxyId
  exact ⟨hnonneg, hle, hcap⟩

/-- At most one test has ended, and the counters go on by it. -/
def Continues (before : ℤ × ℤ) (outcomes : List Bool) (after : ℤ × ℤ) : Prop :=
  outcomes = [] ∧ after = before ∨
    ∃ ok, outcomes = [ok] ∧ Bounded before ∧ after = nextCounts before ok

/-- A step outside of the tests of a country. -/
lemma Continues.outside (hes : outcomes es proxyId = [])
    (hworker : ∀ rest code tests, s.worker ≠ .testing rest code tests)
    (hworker' : s'.unpublished proxyId = none) (htests : s'.tests = s.tests) :
    Continues (s.latest proxyId) (outcomes es proxyId) (s'.latest proxyId) := by
  refine .inl ⟨hes, ?_⟩
  rw [Scanner.latest, hworker', Scanner.latest, Scanner.unpublished_of_ne hworker, htests]

/-- The end of a test. -/
lemma Continues.test (record : Record) (ok : Bool)
    (hes : outcomes es proxyId = if record.id = proxyId then [ok] else [])
    (hs : s.Sane) (hunpublished : s.unpublished record.id = none)
    (hlatest : s'.latest record.id = nextCounts (storedCounts s.tests record.id) ok)
    (hother : record.id ≠ proxyId → s'.latest proxyId = s.latest proxyId) :
    Continues (s.latest proxyId) (outcomes es proxyId) (s'.latest proxyId) := by
  rw [hes]
  by_cases hid : record.id = proxyId
  · subst hid
    have hbefore : s.latest record.id = storedCounts s.tests record.id := by
      rw [Scanner.latest, hunpublished]
      rfl
    refine .inr ⟨ok, if_pos rfl, ?_, ?_⟩
    · rw [hbefore]
      exact bounded_storedCounts hs.kept record.id
    · rw [hbefore, hlatest]
  · exact .inl ⟨if_neg hid, hother hid⟩

/-- The results that are published are the latest ones. -/
lemma Continues.publish (hes : outcomes es proxyId = []) (hs : s.Sane) {rest : List String}
    {code : String} {tests : List (Record × Option Obj)} {results : List Obj}
    (hworker : s.worker = .testing rest code tests) (hresults : Scanner.results tests = some results)
    (htests : s'.tests = Scanner.publishAll rt s.tests results)
    (hworker' : s'.unpublished proxyId = none) :
    Continues (s.latest proxyId) (outcomes es proxyId) (s'.latest proxyId) := by
  refine .inl ⟨hes, ?_⟩
  rw [Scanner.latest, hworker', Scanner.latest]
  simp only [Scanner.unpublished, hworker, Option.elim_none]
  rw [storedCounts, htests,
    Scanner.publishAll_get? hresults (hs.testing rest code tests hworker) s.tests proxyId]
  cases (tests.find? fun e => e.1.id = proxyId).bind Prod.snd <;> rfl

/-- What a step does to the counters of a proxy. -/
lemma Scanner.latest_move (hdigest : HexDigest rt) (hs : s.Sane) (hundisturbed : Undisturbed s l)
    (hmove : Move s l s' es) (proxyId : String) :
    Continues (s.latest proxyId) (outcomes es proxyId) (s'.latest proxyId) := by
  cases hmove with
  | called codes hcodes => exact .inl ⟨rfl, rfl⟩
  | ignored => exact .inl ⟨by simp [outcomes], rfl⟩
  | joined => exact .inl ⟨rfl, rfl⟩
  | begun => exact .inl ⟨rfl, rfl⟩
  | started n requested hcall hidle => exact .outside rfl (by simp [hidle]) rfl rfl
  | stopped hready => exact .outside rfl (by simp [hready]) rfl rfl
  | drained hready => exact .outside rfl (by simp [hready]) rfl rfl
  | finished hworker => exact .outside rfl (by simp [hworker]) rfl rfl
  | emptied rest code hworker => exact .outside rfl (by simp [hworker]) rfl rfl
  | requeued rest code hworker => exact .outside rfl (by simp [hworker]) rfl rfl
  | saved hworker => exact .outside rfl (by simp [hworker]) rfl rfl
  | left hworker => exact .outside rfl (by simp [hworker]) rfl rfl
  | opened rest code hworker hsome =>
    refine .outside rfl (by simp [hworker]) ?_ rfl
    simp only [Scanner.unpublished, List.find?_map]
    cases (recordsForCountry rt s.catalog.records code).find? _ <;> rfl
  | chosen rest code tests results preferred found hworker hresults hselect =>
    exact .publish rfl hs hworker hresults rfl rfl
  | changed rest code tests results hworker hresults hselect =>
    exact .publish rfl hs hworker hresults rfl rfl
  | unchosen rest code tests results e hworker hresults hselect =>
    exact .publish rfl hs hworker hresults rfl rfl
  | measured rest code tests record m testedAt result hworker hrecord hresult =>
    have hknown := (hs.testing rest code tests hworker).known record none hrecord
    refine .test record m.ok ?_ hs
      (Scanner.unpublished_of_mem hs hworker hrecord) ?_ ?_
    · simp only [outcomes, List.filterMap_cons, List.filterMap_nil, ScanEvent.outcome]
      split <;> simp_all
    · rw [← countsOf_store hdigest hs.kept hknown hresult, Scanner.latest, Scanner.unpublished]
      simp only [find?_withResult_self hrecord]
      rfl
    · intro hid
      simp only [Scanner.latest, Scanner.unpublished, hworker, find?_withResult_ne (Ne.symm hid)]
  | unmeasured rest code tests record m testedAt e hworker hrecord hresult =>
    have hknown := (hs.testing rest code tests hworker).known record none hrecord
    obtain ⟨result, hok, -⟩ := hknown.storeProxyTestResult hdigest hs.kept m testedAt
    rw [hok] at hresult
    cases hresult
  | stored n record m testedAt result hsingle hresult =>
    have hknown := hs.singles n record hsingle
    have hnone : s.unpublished record.id = none := hundisturbed record hsingle
    refine .test record m.ok ?_ hs hnone ?_ ?_
    · simp only [outcomes, List.filterMap_cons, List.filterMap_nil, ScanEvent.outcome]
      split <;> simp_all
    · rw [← countsOf_store hdigest hs.kept hknown hresult]
      change (s.unpublished record.id).elim
        (storedCounts (s.tests.set record.id result) record.id) countsOf = _
      rw [hnone]
      simp [storedCounts]
    · intro hid
      change (s.unpublished proxyId).elim
        (storedCounts (s.tests.set record.id result) proxyId) countsOf = _
      rw [Scanner.latest, storedCounts, Dict.get?_set_ne (Ne.symm hid), storedCounts]
  | unstored n record m testedAt e hsingle hresult =>
    have hknown := hs.singles n record hsingle
    obtain ⟨result, hok, -⟩ := hknown.storeProxyTestResult hdigest hs.kept m testedAt
    rw [hok] at hresult
    cases hresult

/-! ## The counters of a run -/

/-- The counters of all proxies have grown by the tests that have ended. -/
def History (before : String → ℤ × ℤ) (events : List (ScanEvent rt)) (s : Scanner rt) : Prop :=
  ∀ proxyId, Grown (before proxyId) (outcomes events proxyId) (s.latest proxyId)

variable {before : String → ℤ × ℤ}

lemma outcomes_append (events es : List (ScanEvent rt)) (proxyId : String) :
    outcomes (events ++ es) proxyId = outcomes events proxyId ++ outcomes es proxyId := by
  rw [outcomes, List.filterMap_append, outcomes, outcomes]

lemma History.move (hdigest : HexDigest rt) (hs : s.Sane) (h : History before events s)
    (hundisturbed : Undisturbed s l) (hmove : Move s l s' es) : History before (events ++ es) s' := by
  intro id
  rw [outcomes_append]
  rcases s.latest_move hdigest hs hundisturbed hmove id with ⟨hnone, hsame⟩ | ⟨ok, hes, hbounded, hnext⟩
  · rw [hnone, List.append_nil, hsame]
    exact h id
  · rw [hes, hnext]
    exact (h id).next hbounded.le ok

variable {catalog : Catalog rt} {tests : Dict String Obj} {preferred : Dict String String}
  {visited : List (Scanner rt)}

/-- Where no single test ends for a proxy of which a scan holds a result, the counters of a proxy
grow by the tests that were run and by those that were good. -/
theorem no_test_lost (hdigest : HexDigest rt) (htests : Kept rt tests)
    (hrun : ((scanner rt).restrict Undisturbed).Run (.fresh catalog tests preferred) visited
      events s)
    (hcap : (storedCounts tests proxyId).1 + (outcomes events proxyId).length ≤ 10000)
    (hpublished : s.unpublished proxyId = none) :
    storedCounts s.tests proxyId =
      ((storedCounts tests proxyId).1 + (outcomes events proxyId).length,
        (storedCounts tests proxyId).2 + (outcomes events proxyId).count true) := by
  obtain ⟨-, hhistory⟩ := hrun.invariant_events
    (I := fun events s => s.Sane ∧ History (storedCounts tests) events s)
    ⟨Scanner.sane_fresh htests, fun id _ => by simp [Scanner.latest, Scanner.unpublished, outcomes, Scanner.fresh]⟩
    fun events s l s' es ⟨hs, hhistory⟩ hstep => by
      obtain ⟨hundisturbed, hstep⟩ := Machine.restrict_step.mp hstep
      have hmove := Scanner.step_move hstep
      exact ⟨hs.move hmove, hhistory.move hdigest hs hundisturbed hmove⟩
  have hlatest := hhistory proxyId hcap
  rwa [Scanner.latest, hpublished] at hlatest

/-- Two tests of a proxy, one by a scan and one that ends later, are both counted. -/
theorem no_test_lost_twice : ∃ visited events s,
    ((scanner scanRuntime).restrict Undisturbed).Run (.fresh exampleCatalogs.1 .empty .empty) visited
      events s ∧
      outcomes events (exampleRecord "a" "DE").id = [true, true] ∧
      storedCounts s.tests (exampleRecord "a" "DE").id = (2, 2) := by
  have hends : ∃ visited events s,
      ((scanner scanRuntime).restrict Undisturbed).Run (.fresh exampleCatalogs.1 .empty .empty) visited
        events s ∧
      (outcomes events (exampleRecord "a" "DE").id = [true, true] ∧
        s.unpublished (exampleRecord "a" "DE").id = none) :=
    Machine.exists_run
      [.schedule (some {"DE"}), .enqueue 0, .drain, .country, .begin (exampleRecord "a" "DE").id,
        .measure (exampleRecord "a" "DE").id exampleMeasurement "", .publish,
        .store 1 exampleMeasurement ""] (by decide +kernel)
  obtain ⟨_, _, _, hrun, houtcomes, hpublished⟩ := hends
  have hcounts := no_test_lost scanRuntime_digest (by simp [Kept]) hrun
    (by simp [houtcomes, storedCounts]) hpublished
  rw [houtcomes] at hcounts
  exact ⟨_, _, _, hrun, houtcomes, hcounts⟩

/-- A single test that ends between a test of a scan and its publication is lost. -/
theorem test_lost : ∃ visited events s,
    (scanner scanRuntime).Run (.fresh exampleCatalogs.1 .empty .empty) visited events s ∧
      s.worker = .idle ∧ s.singles = .empty ∧
      outcomes events (exampleRecord "a" "DE").id = [true, true] ∧
      storedCounts s.tests (exampleRecord "a" "DE").id = (1, 1) := by
  exact Machine.exists_run
    [.schedule (some {"DE"}), .enqueue 0, .drain, .country, .begin (exampleRecord "a" "DE").id,
      .measure (exampleRecord "a" "DE").id exampleMeasurement "",
      .store 1 exampleMeasurement "", .publish, .country, .saved, .drain, .leave] (by decide +kernel)

end Routing
