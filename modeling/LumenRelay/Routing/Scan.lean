import LumenRelay.Routing.Measurements
import LumenRelay.Lib.Machine
import Mathlib.Data.List.Sort

/-!
# Scans of the proxies of a country

One worker tests all proxies of the countries that were asked for, publishes the results of a
country together and then chooses its preferred proxy.  Requests come from the panel and from
changes of the catalog; they are collected in a set while a scan is going on.

A step is a piece of the program that runs without giving other tasks a turn.  No lock is held
while a task waits for something else, so none is ever found taken.  The lock of the scans is
nevertheless a place where a task may be held up here, which only adds interleavings.
-/

namespace Routing

open Lib Py

variable (rt : Runtime)

/-! ## State -/

/-- What the worker `_drain_proxy_performance_scans` is about to do. -/
inductive Worker
  /-- There is no worker. -/
  | idle
  /-- It takes the countries that were asked for. -/
  | ready
  /-- It goes on with the next of the countries. -/
  | scanning (rest : List String)
  /-- It waits for the tests of a country, each with its result when there is one. -/
  | testing (rest : List String) (code : String) (tests : List (Record × Option Obj))
  /-- It puts a country back that has changed meanwhile. -/
  | requeueing (rest : List String) (code : String)
  /-- It saves the state. -/
  | saving
  /-- It has found nothing to do, and ends. -/
  | leaving
deriving DecidableEq

/-- The part of the panel that has to do with tests of proxies. -/
structure Scanner where
  catalog : Catalog rt
  /-- `PROXY_TEST_RESULTS`. -/
  tests : Dict String Obj
  /-- `PREFERRED_PROXY_BY_COUNTRY`. -/
  preferred : Dict String String
  /-- `PROXY_PERFORMANCE_PENDING`. -/
  pending : Finset String
  /-- `PROXY_PERFORMANCE_STATE["scope"]`. -/
  scope : List String
  /-- `PROXY_PERFORMANCE_SCAN_TASK`. -/
  worker : Worker
  /-- The calls of `schedule_proxy_performance_scan` that wait for the lock, with the countries
  they ask for. -/
  calls : Dict ℕ (Finset String)
  /-- The tests of single proxies that are going on. -/
  singles : Dict ℕ Record
  /-- The name of the next task. -/
  next : ℕ

/-- What the tasks of the scanner do, one piece at a time. -/
inductive ScanLabel
  | refresh (catalog : Catalog rt)
  | schedule (codes : Option (Finset String))
  | enqueue (call : ℕ)
  | drain
  | country
  | measure (proxyId : String) (result : Measurement) (testedAt : String)
  | publish
  | requeue
  | saved
  | leave
  | begin (proxyId : String)
  | store (test : ℕ) (result : Measurement) (testedAt : String)

/-- What can be seen of a run. -/
inductive ScanEvent
  /-- Countries are asked for, when the catalog is this one. -/
  | asked (call : ℕ) (codes : Finset String) (catalog : Catalog rt)
  /-- A call leaves countries out that are in the scope of the worker. -/
  | dropped (call : ℕ) (codes : Finset String)
  /-- The scan of a country begins with these proxies. -/
  | read (code : String) (ids : Finset String)
  /-- The scan has tested a proxy. -/
  | measured (record : Record) (ok : Bool)
  /-- The preferred proxy of a country is chosen. -/
  | chosen (code : String) (proxyId : Option String)
  /-- The scan of a country that began with these proxies has ended. -/
  | scanned (code : String) (ids : Finset String)
  /-- A single proxy has been tested. -/
  | single (proxyId : String) (ok : Bool)

/-! ## The functions of the program -/

variable {rt}

/-- `sorted(codes)`; insertion sort, since the order does not depend on how it is found. -/
def sortedCodes (codes : Finset String) : List String :=
  Quotient.liftOn codes.val (fun l => l.insertionSort (· ≤ ·)) fun l l' h =>
    List.Perm.eq_of_pairwise' (List.pairwise_insertionSort (· ≤ ·) l)
      (List.pairwise_insertionSort (· ≤ ·) l')
      (((List.perm_insertionSort (· ≤ ·) l).trans h).trans
        (List.perm_insertionSort (· ≤ ·) l').symm)

@[simp] lemma mem_sortedCodes {codes : Finset String} {code : String} :
    code ∈ sortedCodes codes ↔ code ∈ codes := by
  rw [← Finset.mem_val]
  unfold sortedCodes
  induction codes.val using Quotient.inductionOn with
  | h l => exact List.mem_insertionSort (· ≤ ·)

/-- The ids of the proxies of a country. -/
def idsOf (catalog : Catalog rt) (code : String) : Finset String :=
  ((recordsForCountry rt catalog.records code).map Record.id).toFinset

/-- The countries of a request that `schedule_proxy_performance_scan` accepts; without any, those
of all proxies. -/
def requestedCodes (catalog : Catalog rt) (codes : Option (Finset String)) : Finset String :=
  let requested := match codes with
    | none => (catalog.records.values.map Record.code).toFinset
    | some codes => codes.image fun code => strip (rt.upper code)
  requested.filter fun code => isValidCode rt code

/-- The countries that one of two catalogs has a proxy of that the other has not, or elsewhere. -/
def affectedCodes (before after : Catalog rt) : Finset String :=
  let gone (old new : Catalog rt) := new.records.values.filter fun row =>
    (old.records.get? row.id).map Record.code ≠ some row.code
  ((gone before after ++ gone after before).map Record.code).toFinset

/-- `_select_preferred_for_country`: the preferences afterwards, unless the country has to be put
back. -/
def selectPreferredForCountry (catalog : Catalog rt) (tests : Dict String Obj)
    (preferred : Dict String String) (code : String) (expected : Finset String) :
    Except PyErr (Option (Dict String String × Option String)) := do
  if idsOf catalog code ≠ expected then return none
  let ids := (recordsForCountry rt catalog.records code).map Record.id
  let preferredId ← preferredProxyId rt ids tests
  match preferredId.filter (· ≠ "") with
  | some proxyId => return some (preferred.set code proxyId, some proxyId)
  | none => return some (preferred.erase code, none)

/-! ## Steps -/

namespace Scanner

/-- A call of `schedule_proxy_performance_scan` up to the lock. -/
def call (s : Scanner rt) (codes : Option (Finset String)) : Scanner rt × List (ScanEvent rt) :=
  let requested := requestedCodes s.catalog codes
  if requested = ∅ then (s, [])
  else
    ({ s with calls := s.calls.set s.next requested, next := s.next + 1 },
      [.asked s.next requested s.catalog])

/-- A call of `schedule_proxy_performance_scan` that has got the lock. -/
def enqueue (s : Scanner rt) (n : ℕ) (requested : Finset String) :
    Scanner rt × List (ScanEvent rt) :=
  let s := { s with calls := s.calls.erase n }
  if s.worker = .idle then ({ s with pending := s.pending ∪ requested, worker := .ready }, [])
  else
    let active := s.scope.toFinset
    ({ s with pending := s.pending ∪ (requested \ active) }, [.dropped n (requested ∩ active)])

/-- The ids of the proxies that are tested. -/
def testedIds (tests : List (Record × Option Obj)) : Finset String :=
  ((tests.map Prod.fst).map Record.id).toFinset

/-- The results of a country, when all its tests have one. -/
def results (tests : List (Record × Option Obj)) : Option (List Obj) := tests.mapM Prod.snd

/-- The assignments that publish results. -/
def publishAll (rt : Runtime) (tests : Dict String Obj) (results : List Obj) : Dict String Obj :=
  results.foldl (fun tests result => tests.set ((result.get "proxy_id").text rt) result) tests

/-- The end of the tests of a country: all results are published, and the preferred proxy is
chosen. -/
def publish (s : Scanner rt) (rest : List String) (code : String) (expected : Finset String)
    (results : List Obj) : Scanner rt × List (ScanEvent rt) :=
  let tests := publishAll rt s.tests results
  match selectPreferredForCountry s.catalog tests s.preferred code expected with
  -- the exception ends the scan, and the worker goes on
  | .error _ => ({ s with tests := tests, worker := .ready }, [])
  | .ok none => ({ s with tests := tests, worker := .requeueing rest code }, [])
  | .ok (some (preferred, found)) =>
    ({ s with tests := tests, preferred := preferred, worker := .scanning rest },
      [.chosen code found, .scanned code expected])

/-- The tests of a country when one more has a result. -/
def withResult (tests : List (Record × Option Obj)) (proxyId : String) (result : Obj) :
    List (Record × Option Obj) :=
  tests.map fun e => if e.1.id = proxyId then (e.1, some result) else e

/-- One test of a scan has returned. -/
def measure (s : Scanner rt) (rest : List String) (code : String)
    (tests : List (Record × Option Obj)) (record : Record) (m : Measurement) (testedAt : String) :
    Scanner rt × List (ScanEvent rt) :=
  match storeProxyTestResult rt s.tests record m testedAt with
  | .error _ => ({ s with worker := .ready }, [.measured record m.ok])
  | .ok result =>
    ({ s with worker := .testing rest code (withResult tests record.id result) },
      [.measured record m.ok])

/-- A test of a single proxy has returned. -/
def store (s : Scanner rt) (n : ℕ) (record : Record) (m : Measurement) (testedAt : String) :
    Scanner rt × List (ScanEvent rt) :=
  let s := { s with singles := s.singles.erase n }
  match storeProxyTestResult rt s.tests record m testedAt with
  | .error _ => (s, [.single record.id m.ok])
  | .ok result => ({ s with tests := s.tests.set record.id result }, [.single record.id m.ok])

/-- One step of the scanner. -/
def step (s : Scanner rt) : ScanLabel rt → Option (Scanner rt × List (ScanEvent rt))
  | .refresh catalog =>
    -- `_repository_catalog_changed`
    let affected := affectedCodes s.catalog catalog
    let s := { s with catalog := catalog }
    if affected = ∅ then some (s, []) else some (s.call (some affected))
  | .schedule codes => some (s.call codes)
  | .enqueue n => (s.calls.get? n).map (s.enqueue n)
  | .drain =>
    match s.worker with
    | .ready =>
      if s.pending = ∅ then some ({ s with scope := [], worker := .leaving }, [])
      else
        let codes := sortedCodes s.pending
        some ({ s with pending := ∅, scope := codes, worker := .scanning codes }, [])
    | _ => none
  | .country =>
    match s.worker with
    | .scanning [] => some ({ s with worker := .saving }, [])
    | .scanning (code :: rest) =>
      match recordsForCountry rt s.catalog.records code with
      | [] =>
        some ({ s with preferred := s.preferred.erase code, worker := .scanning rest },
          [.read code ∅, .chosen code none, .scanned code ∅])
      | records =>
        some ({ s with worker := .testing rest code (records.map fun record => (record, none)) },
          [.read code (idsOf s.catalog code)])
    | _ => none
  | .measure proxyId m testedAt =>
    match s.worker with
    | .testing rest code tests =>
      (tests.find? fun e => e.1.id = proxyId ∧ e.2 = none).map fun e =>
        s.measure rest code tests e.1 m testedAt
    | _ => none
  | .publish =>
    match s.worker with
    | .testing rest code tests =>
      (results tests).map (s.publish rest code (testedIds tests))
    | _ => none
  | .requeue =>
    match s.worker with
    | .requeueing rest code =>
      some ({ s with pending := insert code s.pending, worker := .scanning rest }, [])
    | _ => none
  | .saved =>
    match s.worker with
    | .saving => some ({ s with worker := .ready }, [])
    | _ => none
  | .leave =>
    match s.worker with
    | .leaving => some ({ s with worker := .idle }, [])
    | _ => none
  | .begin proxyId =>
    (s.catalog.getRecord proxyId).map fun record =>
      ({ s with singles := s.singles.set s.next record, next := s.next + 1 }, [])
  | .store n m testedAt =>
    (s.singles.get? n).map fun record => s.store n record m testedAt

end Scanner

/-- The tasks of the scanner. -/
def scanner (rt : Runtime) : Machine (Scanner rt) (ScanLabel rt) (ScanEvent rt) := ⟨Scanner.step⟩

/-- The scanner at the start of the program. -/
def Scanner.fresh (catalog : Catalog rt) (tests : Dict String Obj)
    (preferred : Dict String String) : Scanner rt :=
  ⟨catalog, tests, preferred, ∅, [], .idle, .empty, .empty, 0⟩

/-! ## What a step can do -/

/-- The steps of the scanner, one constructor for each way in which one can go. -/
inductive Move (s : Scanner rt) :
    ScanLabel rt → Scanner rt → List (ScanEvent rt) → Prop
  | called (l : ScanLabel rt) (catalog : Catalog rt) (codes : Option (Finset String)) :
      requestedCodes catalog codes ≠ ∅ →
      Move s l
        { s with
          catalog := catalog
          calls := s.calls.set s.next (requestedCodes catalog codes)
          next := s.next + 1 }
        [.asked s.next (requestedCodes catalog codes) catalog]
  | ignored (l : ScanLabel rt) (catalog : Catalog rt) : Move s l { s with catalog := catalog } []
  | started (n : ℕ) (requested : Finset String) : s.calls.get? n = some requested →
      s.worker = .idle →
      Move s (.enqueue n)
        { s with calls := s.calls.erase n, pending := s.pending ∪ requested, worker := .ready } []
  | joined (n : ℕ) (requested : Finset String) : s.calls.get? n = some requested →
      s.worker ≠ .idle →
      Move s (.enqueue n)
        { s with
          calls := s.calls.erase n
          pending := s.pending ∪ (requested \ s.scope.toFinset) }
        [.dropped n (requested ∩ s.scope.toFinset)]
  | stopped : s.worker = .ready → s.pending = ∅ →
      Move s .drain { s with scope := [], worker := .leaving } []
  | drained : s.worker = .ready → s.pending ≠ ∅ →
      Move s .drain
        { s with
          pending := ∅
          scope := sortedCodes s.pending
          worker := .scanning (sortedCodes s.pending) } []
  | finished : s.worker = .scanning [] → Move s .country { s with worker := .saving } []
  | emptied (rest : List String) (code : String) : s.worker = .scanning (code :: rest) →
      recordsForCountry rt s.catalog.records code = [] →
      Move s .country { s with preferred := s.preferred.erase code, worker := .scanning rest }
        [.read code ∅, .chosen code none, .scanned code ∅]
  | opened (rest : List String) (code : String) : s.worker = .scanning (code :: rest) →
      recordsForCountry rt s.catalog.records code ≠ [] →
      Move s .country
        { s with
          worker := .testing rest code
            ((recordsForCountry rt s.catalog.records code).map fun record => (record, none)) }
        [.read code (idsOf s.catalog code)]
  | measured (rest : List String) (code : String) (tests : List (Record × Option Obj))
      (record : Record) (m : Measurement) (testedAt : String) (result : Obj) :
      s.worker = .testing rest code tests → (record, none) ∈ tests →
      storeProxyTestResult rt s.tests record m testedAt = .ok result →
      Move s (.measure record.id m testedAt)
        { s with worker := .testing rest code (Scanner.withResult tests record.id result) }
        [.measured record m.ok]
  | unmeasured (rest : List String) (code : String) (tests : List (Record × Option Obj))
      (record : Record) (m : Measurement) (testedAt : String) (e : PyErr) :
      s.worker = .testing rest code tests → (record, none) ∈ tests →
      storeProxyTestResult rt s.tests record m testedAt = .error e →
      Move s (.measure record.id m testedAt) { s with worker := .ready } [.measured record m.ok]
  | chosen (rest : List String) (code : String) (tests : List (Record × Option Obj))
      (results : List Obj) (preferred : Dict String String) (found : Option String) :
      s.worker = .testing rest code tests → Scanner.results tests = some results →
      selectPreferredForCountry s.catalog (Scanner.publishAll rt s.tests results)
        s.preferred code (Scanner.testedIds tests) = .ok (some (preferred, found)) →
      Move s .publish
        { s with
          tests := Scanner.publishAll rt s.tests results
          preferred := preferred
          worker := .scanning rest }
        [.chosen code found, .scanned code (Scanner.testedIds tests)]
  | changed (rest : List String) (code : String) (tests : List (Record × Option Obj))
      (results : List Obj) :
      s.worker = .testing rest code tests → Scanner.results tests = some results →
      selectPreferredForCountry s.catalog (Scanner.publishAll rt s.tests results)
        s.preferred code (Scanner.testedIds tests) = .ok none →
      Move s .publish
        { s with
          tests := Scanner.publishAll rt s.tests results
          worker := .requeueing rest code } []
  | unchosen (rest : List String) (code : String) (tests : List (Record × Option Obj))
      (results : List Obj) (e : PyErr) :
      s.worker = .testing rest code tests → Scanner.results tests = some results →
      selectPreferredForCountry s.catalog (Scanner.publishAll rt s.tests results)
        s.preferred code (Scanner.testedIds tests) = .error e →
      Move s .publish
        { s with tests := Scanner.publishAll rt s.tests results, worker := .ready } []
  | requeued (rest : List String) (code : String) : s.worker = .requeueing rest code →
      Move s .requeue
        { s with pending := insert code s.pending, worker := .scanning rest } []
  | saved : s.worker = .saving → Move s .saved { s with worker := .ready } []
  | left : s.worker = .leaving → Move s .leave { s with worker := .idle } []
  | begun (record : Record) : s.catalog.getRecord record.id = some record →
      Move s (.begin record.id)
        { s with singles := s.singles.set s.next record, next := s.next + 1 } []
  | stored (n : ℕ) (record : Record) (m : Measurement) (testedAt : String) (result : Obj) :
      s.singles.get? n = some record →
      storeProxyTestResult rt s.tests record m testedAt = .ok result →
      Move s (.store n m testedAt)
        { s with singles := s.singles.erase n, tests := s.tests.set record.id result }
        [.single record.id m.ok]
  | unstored (n : ℕ) (record : Record) (m : Measurement) (testedAt : String) (e : PyErr) :
      s.singles.get? n = some record →
      storeProxyTestResult rt s.tests record m testedAt = .error e →
      Move s (.store n m testedAt) { s with singles := s.singles.erase n } [.single record.id m.ok]

variable {s s' : Scanner rt} {l : ScanLabel rt} {es : List (ScanEvent rt)}

lemma Scanner.call_move (catalog : Catalog rt) (codes : Option (Finset String)) :
    Move s l ({ s with catalog := catalog }.call codes).1
      ({ s with catalog := catalog }.call codes).2 := by
  unfold Scanner.call
  dsimp only
  split
  · exact .ignored l catalog
  · rename_i h
    exact .called l catalog codes h

lemma Scanner.enqueue_move {n : ℕ} {requested : Finset String}
    (h : s.calls.get? n = some requested) :
    Move s (.enqueue n) (s.enqueue n requested).1 (s.enqueue n requested).2 := by
  unfold Scanner.enqueue
  dsimp only
  split
  · rename_i hidle
    exact .started n requested h hidle
  · rename_i hbusy
    exact .joined n requested h hbusy

lemma Scanner.measure_move {rest : List String} {code : String}
    {tests : List (Record × Option Obj)} {record : Record} {m : Measurement} {testedAt : String}
    (hworker : s.worker = .testing rest code tests) (hrecord : (record, none) ∈ tests) :
    Move s (.measure record.id m testedAt) (s.measure rest code tests record m testedAt).1
      (s.measure rest code tests record m testedAt).2 := by
  unfold Scanner.measure
  split
  · rename_i e he
    exact .unmeasured rest code tests record m testedAt e hworker hrecord he
  · rename_i result hresult
    exact .measured rest code tests record m testedAt result hworker hrecord hresult

lemma Scanner.publish_move {rest : List String} {code : String}
    {tests : List (Record × Option Obj)} {results : List Obj}
    (hworker : s.worker = .testing rest code tests)
    (hresults : Scanner.results tests = some results) :
    Move s .publish (s.publish rest code (Scanner.testedIds tests) results).1
      (s.publish rest code (Scanner.testedIds tests) results).2 := by
  unfold Scanner.publish
  dsimp only
  split
  · rename_i e he
    exact .unchosen rest code tests results e hworker hresults he
  · rename_i hnone
    exact .changed rest code tests results hworker hresults hnone
  · rename_i preferred found hsome
    exact .chosen rest code tests results preferred found hworker hresults hsome

lemma Scanner.store_move {n : ℕ} {record : Record} {m : Measurement} {testedAt : String}
    (h : s.singles.get? n = some record) :
    Move s (.store n m testedAt) (s.store n record m testedAt).1 (s.store n record m testedAt).2 := by
  unfold Scanner.store
  dsimp only
  split
  · rename_i e he
    exact .unstored n record m testedAt e h he
  · rename_i result hresult
    exact .stored n record m testedAt result h hresult

/-- A step goes in one of these ways. -/
theorem Scanner.step_move (h : s.step l = some (s', es)) : Move s l s' es := by
  cases l with
  | refresh catalog =>
    simp only [Scanner.step] at h
    split at h
    · obtain ⟨rfl, rfl⟩ := Prod.mk.inj (Option.some.inj h)
      exact .ignored _ catalog
    · obtain ⟨rfl, rfl⟩ := Prod.mk.inj (Option.some.inj h)
      exact call_move catalog _
  | schedule codes =>
    obtain ⟨rfl, rfl⟩ := Prod.mk.inj (Option.some.inj h)
    exact call_move s.catalog codes
  | enqueue n =>
    obtain ⟨requested, hcall, h⟩ := Option.map_eq_some_iff.mp h
    obtain ⟨rfl, rfl⟩ := Prod.mk.inj h
    exact enqueue_move hcall
  | drain =>
    simp only [Scanner.step] at h
    split at h
    · rename_i hready
      split at h
      · rename_i hempty
        obtain ⟨rfl, rfl⟩ := Prod.mk.inj (Option.some.inj h)
        exact .stopped hready hempty
      · rename_i hcodes
        obtain ⟨rfl, rfl⟩ := Prod.mk.inj (Option.some.inj h)
        exact .drained hready hcodes
    · cases h
  | country =>
    simp only [Scanner.step] at h
    split at h
    · rename_i hworker
      obtain ⟨rfl, rfl⟩ := Prod.mk.inj (Option.some.inj h)
      exact .finished hworker
    · rename_i code rest hworker
      split at h
      · rename_i hnone
        obtain ⟨rfl, rfl⟩ := Prod.mk.inj (Option.some.inj h)
        exact .emptied rest code hworker hnone
      · rename_i hsome
        obtain ⟨rfl, rfl⟩ := Prod.mk.inj (Option.some.inj h)
        exact .opened rest code hworker hsome
    · cases h
  | measure proxyId m testedAt =>
    simp only [Scanner.step] at h
    split at h
    · rename_i rest code tests hworker
      obtain ⟨⟨record, result⟩, hfind, h⟩ := Option.map_eq_some_iff.mp h
      obtain ⟨rfl, rfl⟩ := Prod.mk.inj h
      obtain ⟨rfl, rfl⟩ : record.id = proxyId ∧ result = none := by
        simpa using List.find?_some hfind
      exact measure_move hworker (List.mem_of_find?_eq_some hfind)
    · cases h
  | publish =>
    simp only [Scanner.step] at h
    split at h
    · rename_i rest code tests hworker
      obtain ⟨results, hresults, h⟩ := Option.map_eq_some_iff.mp h
      obtain ⟨rfl, rfl⟩ := Prod.mk.inj h
      exact publish_move hworker hresults
    · cases h
  | requeue =>
    simp only [Scanner.step] at h
    split at h
    · rename_i rest code hworker
      obtain ⟨rfl, rfl⟩ := Prod.mk.inj (Option.some.inj h)
      exact .requeued rest code hworker
    · cases h
  | saved =>
    simp only [Scanner.step] at h
    split at h
    · rename_i hworker
      obtain ⟨rfl, rfl⟩ := Prod.mk.inj (Option.some.inj h)
      exact .saved hworker
    · cases h
  | leave =>
    simp only [Scanner.step] at h
    split at h
    · rename_i hworker
      obtain ⟨rfl, rfl⟩ := Prod.mk.inj (Option.some.inj h)
      exact .left hworker
    · cases h
  | begin proxyId =>
    obtain ⟨record, hrecord, h⟩ := Option.map_eq_some_iff.mp h
    obtain ⟨rfl, rfl⟩ := Prod.mk.inj h
    obtain rfl := s.catalog.keyed proxyId record hrecord
    exact .begun record hrecord
  | store n m testedAt =>
    obtain ⟨record, hrecord, h⟩ := Option.map_eq_some_iff.mp h
    obtain ⟨rfl, rfl⟩ := Prod.mk.inj h
    exact store_move hrecord

/-! ## Results are kept -/

/-- The proxy is or was one of the catalog. -/
def FromCatalog (rt : Runtime) (record : Record) : Prop :=
  ∃ catalog : Catalog rt, catalog.getRecord record.id = some record

/-- What the tests that are going on are about. -/
structure Testing (rt : Runtime) (tests : List (Record × Option Obj)) : Prop where
  known : ∀ record result, (record, result) ∈ tests → FromCatalog rt record
  nodup : ((tests.map Prod.fst).map Record.id).Nodup
  running : ∀ record result, (record, some result) ∈ tests → Sanitized rt record.id result

/-- The results that are stored, and those that a scan is about to publish, are sanitized, and
only proxies of a catalog are tested. -/
structure Scanner.Sane (s : Scanner rt) : Prop where
  kept : Kept rt s.tests
  testing : ∀ rest code tests, s.worker = .testing rest code tests → Testing rt tests
  singles : ∀ n record, s.singles.get? n = some record → FromCatalog rt record

lemma FromCatalog.identity {record : Record} (h : FromCatalog rt record) :
    record.id = proxyIdentity rt record.endpoint := by
  obtain ⟨catalog, hrecord⟩ := h
  exact catalog.identity record.id record hrecord

lemma FromCatalog.ne_empty {record : Record} (h : FromCatalog rt record) : record.id ≠ "" := by
  obtain ⟨catalog, hrecord⟩ := h
  exact catalog.ne_empty record.id record hrecord

lemma fromCatalog_of_mem {catalog : Catalog rt} {code : String} {record : Record}
    (h : record ∈ recordsForCountry rt catalog.records code) : FromCatalog rt record := by
  obtain ⟨key, hkey⟩ := Dict.mem_values_iff.mp (List.mem_of_mem_filter h)
  refine ⟨catalog, ?_⟩
  rw [catalog.keyed key record hkey]
  exact hkey

/-- No proxy of a country comes twice. -/
lemma recordsForCountry_nodup (catalog : Catalog rt) (code : String) :
    ((recordsForCountry rt catalog.records code).map Record.id).Nodup := by
  have hkeys : catalog.records.values.map Record.id = catalog.records.keys := by
    unfold Dict.values Dict.keys
    rw [List.map_map]
    refine List.map_congr_left fun e he => ?_
    exact catalog.keyed e.1 e.2 (Dict.mem_entries_iff.mp he)
  refine (List.filter_sublist.map Record.id).nodup ?_
  rw [hkeys]
  exact catalog.records.nodup

lemma Kept.set {tests : Dict String Obj} (h : Kept rt tests) {proxyId : String} {result : Obj}
    (hresult : Sanitized rt proxyId result) : Kept rt (tests.set proxyId result) := by
  intro id result' hget
  rw [Dict.get?_set] at hget
  split at hget
  · rename_i hid
    obtain rfl := Option.some.inj hget
    rwa [hid]
  · exact h id result' hget

lemma Sanitized.proxyId {proxyId : String} {result : Obj} (h : Sanitized rt proxyId result) :
    (result.get "proxy_id").text rt = proxyId := by
  obtain ⟨key, raw, h⟩ := h
  obtain ⟨-, _, _, _, -, hkept⟩ := sanitizeProxyTestResult_some h
  rw [hkept.key, Json.text_str]

/-- No test of a proxy of a catalog is refused. -/
lemma FromCatalog.storeProxyTestResult (hdigest : HexDigest rt) {tests : Dict String Obj}
    (hkept : Kept rt tests) {record : Record} (h : FromCatalog rt record) (m : Measurement)
    (testedAt : String) : ∃ result, storeProxyTestResult rt tests record m testedAt = .ok result ∧
      Stored rt tests record m result := by
  refine storeProxyTestResult_ok hkept h.ne_empty ?_ m testedAt
  rw [h.identity]
  exact strip_proxyIdentity hdigest record.endpoint

lemma Kept.publishAll {tests : Dict String Obj} (h : Kept rt tests) {results : List Obj}
    (hresults : ∀ result ∈ results, ∃ proxyId, Sanitized rt proxyId result) :
    Kept rt (Scanner.publishAll rt tests results) := by
  unfold Scanner.publishAll
  induction results generalizing tests with
  | nil => exact h
  | cons result results ih =>
    rw [List.foldl_cons]
    obtain ⟨proxyId, hresult⟩ := hresults result List.mem_cons_self
    refine ih ?_ fun r hr => hresults r (List.mem_cons_of_mem result hr)
    rw [hresult.proxyId]
    exact h.set hresult

/-- The results of a country are those of its tests. -/
lemma Scanner.mem_of_results {tests : List (Record × Option Obj)} {results : List Obj}
    (h : Scanner.results tests = some results) {result : Obj} (hresult : result ∈ results) :
    ∃ record, (record, some result) ∈ tests := by
  obtain ⟨⟨record, found⟩, hmem, rfl⟩ := exists_of_mem_mapM h hresult
  exact ⟨record, hmem⟩

/-- All the tests of a country have a result when it is published. -/
lemma Scanner.some_of_results {tests : List (Record × Option Obj)} {results : List Obj}
    (h : Scanner.results tests = some results) {record : Record} {found : Option Obj}
    (hmem : (record, found) ∈ tests) : ∃ result, found = some result := by
  unfold Scanner.results at h
  induction tests generalizing results with
  | nil => cases hmem
  | cons e tests ih =>
    rw [List.mapM_cons, Option.bind_eq_bind, Option.bind_eq_some_iff] at h
    obtain ⟨result, hresult, h⟩ := h
    rw [Option.bind_eq_bind, Option.bind_eq_some_iff] at h
    obtain ⟨results', hresults', -⟩ := h
    rcases List.mem_cons.mp hmem with rfl | hmem
    · exact ⟨result, hresult⟩
    · exact ih hresults' hmem

@[simp] lemma Scanner.withResult_ids (tests : List (Record × Option Obj)) (proxyId : String)
    (result : Obj) : (withResult tests proxyId result).map Prod.fst = tests.map Prod.fst := by
  unfold withResult
  rw [List.map_map]
  refine List.map_congr_left fun e _ => ?_
  dsimp only [Function.comp]
  split <;> rfl

@[simp] lemma Scanner.testedIds_withResult (tests : List (Record × Option Obj))
    (proxyId : String) (result : Obj) :
    testedIds (withResult tests proxyId result) = testedIds tests := by
  rw [testedIds, withResult_ids, testedIds]

lemma Scanner.mem_withResult {tests : List (Record × Option Obj)} {proxyId : String}
    {result result' : Obj} {record : Record}
    (h : (record, some result') ∈ withResult tests proxyId result) :
    (record.id = proxyId ∧ result' = result) ∨ (record, some result') ∈ tests := by
  obtain ⟨⟨record₀, found⟩, hmem, heq⟩ := List.mem_map.mp h
  split at heq
  · rename_i hid
    obtain ⟨rfl, hresult⟩ := Prod.mk.inj heq
    exact .inl ⟨hid, (Option.some.inj hresult).symm⟩
  · rw [heq] at hmem
    exact .inr hmem

/-- What is published of a country whose proxies all come once. -/
lemma Scanner.publishAll_get? {tests : List (Record × Option Obj)} {results : List Obj}
    (h : Scanner.results tests = some results) (htests : Testing rt tests)
    (stored : Dict String Obj) (proxyId : String) :
    (Scanner.publishAll rt stored results).get? proxyId =
      ((tests.find? fun e => e.1.id = proxyId).bind Prod.snd).or (stored.get? proxyId) := by
  obtain ⟨hknown, hnodup, hrunning⟩ := htests
  clear hknown
  unfold Scanner.results at h
  induction tests generalizing stored results with
  | nil =>
    obtain rfl := Option.some.inj h
    rfl
  | cons e tests ih =>
    obtain ⟨record, found⟩ := e
    rw [List.mapM_cons, Option.bind_eq_bind, Option.bind_eq_some_iff] at h
    obtain ⟨result, hresult, h⟩ := h
    rw [Option.bind_eq_bind, Option.bind_eq_some_iff] at h
    obtain ⟨results', hresults', h⟩ := h
    obtain rfl := Option.some.inj h
    obtain rfl : found = some result := hresult
    have hkey := (hrunning record result List.mem_cons_self).proxyId
    have hrest := ih hresults' (stored.set record.id result) (List.nodup_cons.mp hnodup).2
      fun record result hmem => hrunning record result (List.mem_cons_of_mem _ hmem)
    rw [Scanner.publishAll, List.foldl_cons, hkey]
    rw [Scanner.publishAll] at hrest
    rw [hrest, Dict.get?_set]
    by_cases hid : record.id = proxyId
    · -- no later test has the same id
      have hnone : tests.find? (fun e => e.1.id = proxyId) = none := by
        rw [List.find?_eq_none]
        rintro ⟨record', found'⟩ hmem
        have hne : record'.id ≠ record.id := by
          intro heq
          refine (List.nodup_cons.mp hnodup).1 ?_
          rw [← heq]
          exact List.mem_map_of_mem (List.mem_map_of_mem hmem)
        simpa [← hid] using hne
      simp [hid, hnone]
    · simp [hid, Ne.symm hid]

lemma Testing.withResult {tests : List (Record × Option Obj)} (h : Testing rt tests)
    {proxyId : String} {result : Obj} (hresult : Sanitized rt proxyId result) :
    Testing rt (Scanner.withResult tests proxyId result) := by
  refine ⟨fun record result' hmem => ?_, by simpa using h.nodup, fun record result' hmem => ?_⟩
  · have hfst := List.mem_map_of_mem (f := Prod.fst) hmem
    rw [Scanner.withResult_ids] at hfst
    obtain ⟨⟨record₀, result₀⟩, hmem₀, rfl⟩ := List.mem_map.mp hfst
    exact h.known record₀ result₀ hmem₀
  · rcases Scanner.mem_withResult hmem with ⟨hid, rfl⟩ | hmem
    · rwa [hid]
    · exact h.running record result' hmem

/-- The tests of a country as they begin. -/
lemma Testing.opened (catalog : Catalog rt) (code : String) :
    Testing rt ((recordsForCountry rt catalog.records code).map fun record => (record, none)) := by
  refine ⟨fun record result hmem => ?_, ?_, by simp⟩
  · obtain ⟨record', hrecord', heq⟩ := List.mem_map.mp hmem
    obtain ⟨rfl, -⟩ := Prod.mk.inj heq
    exact fromCatalog_of_mem hrecord'
  · simpa [Function.comp_def] using recordsForCountry_nodup catalog code

/-- Publishing keeps the results sanitized. -/
lemma Scanner.Sane.publishAll (hs : s.Sane) {rest : List String} {code : String}
    {tests : List (Record × Option Obj)} {results : List Obj}
    (hworker : s.worker = .testing rest code tests)
    (hresults : Scanner.results tests = some results) :
    Kept rt (Scanner.publishAll rt s.tests results) := by
  refine hs.kept.publishAll fun result hresult => ?_
  obtain ⟨record, hmem⟩ := mem_of_results hresults hresult
  exact ⟨record.id, (hs.testing rest code tests hworker).running record result hmem⟩

lemma Scanner.Sane.move (hs : s.Sane) (h : Move s l s' es) : s'.Sane := by
  cases h with
  | called codes hcodes => exact ⟨hs.kept, hs.testing, hs.singles⟩
  | ignored => exact ⟨hs.kept, hs.testing, hs.singles⟩
  | joined n requested hcall hbusy => exact ⟨hs.kept, hs.testing, hs.singles⟩
  | opened rest code hworker hsome =>
    refine ⟨hs.kept, ?_, hs.singles⟩
    rintro rest' code' tests' heq
    obtain ⟨-, -, rfl⟩ := Worker.testing.inj heq
    exact .opened s.catalog code
  | measured rest code tests record m testedAt result hworker hrecord hresult =>
    refine ⟨hs.kept, ?_, hs.singles⟩
    rintro rest' code' tests' heq
    obtain ⟨-, -, rfl⟩ := Worker.testing.inj heq
    exact (hs.testing rest code tests hworker).withResult (storeProxyTestResult_sanitized hresult)
  | chosen rest code tests results preferred found hworker hresults hselect =>
    exact ⟨hs.publishAll hworker hresults, by simp, hs.singles⟩
  | changed rest code tests results hworker hresults hselect =>
    exact ⟨hs.publishAll hworker hresults, by simp, hs.singles⟩
  | unchosen rest code tests results e hworker hresults hselect =>
    exact ⟨hs.publishAll hworker hresults, by simp, hs.singles⟩
  | begun record hrecord =>
    refine ⟨hs.kept, hs.testing, fun n record' hget => ?_⟩
    rw [Dict.get?_set] at hget
    split at hget
    · obtain rfl := Option.some.inj hget
      exact ⟨s.catalog, hrecord⟩
    · exact hs.singles n record' hget
  | stored n record m testedAt result hsingle hresult =>
    refine ⟨hs.kept.set (storeProxyTestResult_sanitized hresult), hs.testing, fun n' record' hget => ?_⟩
    rw [Dict.get?_erase] at hget
    split at hget
    · cases hget
    · exact hs.singles n' record' hget
  | unstored n record m testedAt e hsingle hresult =>
    refine ⟨hs.kept, hs.testing, fun n' record' hget => ?_⟩
    rw [Dict.get?_erase] at hget
    split at hget
    · cases hget
    · exact hs.singles n' record' hget
  | started => exact ⟨hs.kept, by simp, hs.singles⟩
  | stopped => exact ⟨hs.kept, by simp, hs.singles⟩
  | drained => exact ⟨hs.kept, by simp, hs.singles⟩
  | finished => exact ⟨hs.kept, by simp, hs.singles⟩
  | emptied => exact ⟨hs.kept, by simp, hs.singles⟩
  | unmeasured => exact ⟨hs.kept, by simp, hs.singles⟩
  | requeued => exact ⟨hs.kept, by simp, hs.singles⟩
  | saved => exact ⟨hs.kept, by simp, hs.singles⟩
  | left => exact ⟨hs.kept, by simp, hs.singles⟩

/-- The scanner starts with results that are kept. -/
lemma Scanner.sane_fresh {catalog : Catalog rt} {tests : Dict String Obj}
    {preferred : Dict String String} (h : Kept rt tests) : (fresh catalog tests preferred).Sane :=
  ⟨h, fun _ _ _ heq => (by cases heq), by simp [fresh]⟩

/-! ## Three proxies -/

/-- The library with three addresses of one letter each. -/
def scanRuntime : Runtime :=
  { Runtime.ascii with
    sha256 := fun text => String.ofList (text.toList.reverse.filter Char.isAlphanum)
    urlsplit := fun url =>
      if url ∈ ["http://a:1", "http://b:1", "http://c:1"] then
        let host := String.ofList (url.toList.drop 7 |>.take 1)
        some ⟨"http", host ++ ":1", "", "", none, none, some host, some (some 1)⟩
      else none }

/-- The digests of the example are made of letters and digits. -/
lemma scanRuntime_digest : HexDigest scanRuntime := by
  intro text c hc
  have hmem : c ∈ text.toList.reverse.filter Char.isAlphanum := by
    have : (scanRuntime.sha256 text).toList = text.toList.reverse.filter Char.isAlphanum :=
      String.toList_ofList
    rwa [this] at hc
  exact (List.mem_filter.mp hmem).2

/-- A proxy of a country at an address. -/
def exampleRecord (host code : String) : Record :=
  let endpoint := "http://" ++ host ++ ":1"
  ⟨proxyIdentity scanRuntime endpoint, endpoint, "http", code, code, "", 50⟩

/-- Two countries with a proxy each, and later a second proxy in the first of them. -/
def exampleCatalogs : Catalog scanRuntime × Catalog scanRuntime :=
  (.ofRecords [exampleRecord "a" "DE", exampleRecord "b" "FR"] (by decide +kernel),
    .ofRecords [exampleRecord "a" "DE", exampleRecord "b" "FR", exampleRecord "c" "DE"]
      (by decide +kernel))

/-- A test that both targets have answered. -/
def exampleMeasurement : Measurement :=
  .tested (.answered 200 ⟨none, none, .fin 20, .fin 30⟩) (.answered 301 ⟨none, none, .fin 25, .fin 35⟩)
    ⟨"", "", ""⟩

end Routing
