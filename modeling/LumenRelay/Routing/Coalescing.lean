import LumenRelay.Routing.Scan

/-!
# Requests for scans

A request for a country that is in the scope of the running scan is dropped.  That is right as
long as the scan has not read the country yet, or has read the proxies that it had when the
request was made.  Unless a request is dropped that is neither, every request is answered by the
time the worker ends.
-/

namespace Routing

open Lib Py

variable {rt : Runtime} {s s' : Scanner rt} {l : ScanLabel rt} {log es : List (ScanEvent rt)}
  {code : String} {ids : Finset String} {call : ℕ} {codes : Finset String} {catalog : Catalog rt}

/-! ## Requests and their answers -/

/-- The country has been scanned with proxies that were read after the request, or that are those
it had at the request. -/
def Answered (events : List (ScanEvent rt)) (call : ℕ) (codes : Finset String)
    (catalog : Catalog rt) (code : String) : Prop :=
  ∃ before after ids, events = before ++ .read code ids :: after ∧ .scanned code ids ∈ after ∧
    (.asked call codes catalog ∈ before ∨ ids = idsOf catalog code)

/-- The proxies with which a scan of the country begins. -/
def ScanEvent.readOf (code : String) : ScanEvent rt → Option (Finset String)
  | .read code' ids => if code' = code then some ids else none
  | _ => none

/-- The proxies that the country had when it was read last, and what has happened since. -/
def lastRead (code : String) (log : List (ScanEvent rt)) :
    Option (Finset String × List (ScanEvent rt)) :=
  log.foldl (fun past e =>
    match e.readOf code with
    | some ids => some (ids, [])
    | none => past.map fun p => (p.1, p.2 ++ [e])) none

/-- The event is a request by the call, at a time when the country had other proxies. -/
def ScanEvent.asksAgain (call : ℕ) (code : String) (ids : Finset String) : ScanEvent rt → Bool
  | .asked call' _ catalog => call' = call && idsOf catalog code ≠ ids
  | _ => false

/-- Since the country was read the call has been made, when the country had other proxies. -/
def changedSince (call : ℕ) (code : String) (log : List (ScanEvent rt)) : Bool :=
  match lastRead code log with
  | some (ids, after) => after.any (ScanEvent.asksAgain call code ids)
  | none => false

/-- The event drops the country from a call that was made since the country was read, when the
country had other proxies. -/
def ScanEvent.missed (code : String) (log : List (ScanEvent rt)) : ScanEvent rt → Bool
  | .dropped call codes => code ∈ codes && changedSince call code log
  | _ => false

/-- Since the country was read such a call was dropped. -/
def missed (code : String) (log : List (ScanEvent rt)) : Bool :=
  match lastRead code log with
  | some (_, after) => after.any (ScanEvent.missed code log)
  | none => false

/-! ## The condition -/

/-- The countries that the scan has still to read. -/
def Worker.ahead : Worker → List String
  | .scanning rest | .testing rest _ _ | .requeueing rest _ => rest
  | _ => []

/-- The country whose tests are going on, or that is put back. -/
def Worker.current : Worker → List String
  | .testing _ code _ | .requeueing _ code => [code]
  | _ => []

/-- The scan has passed the country, and nobody has asked for it again. -/
def Passed (s : Scanner rt) (code : String) : Prop :=
  code ∈ s.scope ∧ code ∉ s.worker.current ++ s.worker.ahead ∧ code ∉ s.pending

instance (s : Scanner rt) (code : String) : Decidable (Passed s code) := by
  unfold Passed
  infer_instance

/-- No request is lost by the step: a call drops no country that the scan has passed with other
proxies than the country had at the call, no scan ends with the proxies it began with after a
call has been dropped for others in between, and no call comes while the worker is ending. -/
def NothingMissed (p : Scanner rt × List (ScanEvent rt)) : ScanLabel rt → Prop
  | .enqueue call => p.1.worker ≠ .leaving ∧
    ∀ requested ∈ p.1.calls.get? call, ∀ code ∈ requested, Passed p.1 code →
      changedSince call code p.2 = false
  | .publish =>
    match p.1.worker with
    | .testing _ code tests =>
      idsOf p.1.catalog code = Scanner.testedIds tests → code ∉ p.1.pending →
        missed code p.2 = false
    | _ => True
  | _ => True

instance (p : Scanner rt × List (ScanEvent rt)) (l : ScanLabel rt) :
    Decidable (NothingMissed p l) := by
  unfold NothingMissed
  split
  · infer_instance
  · split <;> infer_instance
  · infer_instance

/-! ## The last reading -/

lemma lastRead_append (h : ∀ e ∈ es, e.readOf code = none) :
    lastRead code (log ++ es) = (lastRead code log).map fun p => (p.1, p.2 ++ es) := by
  induction es generalizing log with
  | nil => simp
  | cons e es ih =>
    have hsingle : lastRead code (log ++ [e]) =
        (lastRead code log).map fun p => (p.1, p.2 ++ [e]) := by
      rw [lastRead, List.foldl_append, List.foldl_cons, List.foldl_nil, h e List.mem_cons_self]
      rfl
    rw [List.append_cons, ih fun e' he' => h e' (List.mem_cons_of_mem e he'), hsingle,
      Option.map_map]
    simp [Function.comp_def]

lemma lastRead_read (log : List (ScanEvent rt)) (code : String) (ids : Finset String) :
    lastRead code (log ++ [.read code ids]) = some (ids, []) := by
  rw [lastRead, List.foldl_append, List.foldl_cons, List.foldl_nil]
  simp [ScanEvent.readOf]

/-- The last reading is in the log, with what has happened since. -/
lemma lastRead_spec {after : List (ScanEvent rt)} (h : lastRead code log = some (ids, after)) :
    ∃ before, log = before ++ .read code ids :: after := by
  induction log using List.reverseRecOn generalizing after with
  | nil => cases h
  | append_singleton log e ih =>
    rw [lastRead, List.foldl_append, List.foldl_cons, List.foldl_nil] at h
    split at h
    · rename_i ids' hread
      obtain ⟨rfl, rfl⟩ := Prod.mk.inj (Option.some.inj h)
      cases e <;> simp only [ScanEvent.readOf, reduceCtorEq] at hread
      split at hread
      · rename_i hcode
        obtain rfl := Option.some.inj hread
        exact ⟨log, by rw [hcode]⟩
      · cases hread
    · obtain ⟨⟨ids', after'⟩, hlast, heq⟩ := Option.map_eq_some_iff.mp h
      obtain ⟨rfl, rfl⟩ := Prod.mk.inj heq
      obtain ⟨before, rfl⟩ := ih hlast
      exact ⟨before, by simp⟩

lemma Answered.append (h : Answered log call codes catalog code) :
    Answered (log ++ es) call codes catalog code := by
  obtain ⟨before, after, ids, rfl, hscanned, hread⟩ := h
  exact ⟨before, after ++ es, ids, by simp, List.mem_append_left es hscanned, hread⟩

/-- A country that was scanned since it was read last answers a call that was made before, or for
the proxies that were read. -/
lemma answered_of_lastRead {after : List (ScanEvent rt)}
    (hlast : lastRead code log = some (ids, after)) (hscanned : .scanned code ids ∈ after)
    (hasked : .asked call codes catalog ∈ log)
    (hsame : .asked call codes catalog ∈ after → idsOf catalog code = ids) :
    Answered log call codes catalog code := by
  obtain ⟨before, rfl⟩ := lastRead_spec hlast
  refine ⟨before, after, ids, rfl, hscanned, ?_⟩
  rcases List.mem_append.mp hasked with hbefore | hafter
  · exact .inl hbefore
  · rcases List.mem_cons.mp hafter with heq | hafter
    · cases heq
    · exact .inr (hsame hafter).symm

lemma same_of_not_changedSince {after : List (ScanEvent rt)}
    (hlast : lastRead code log = some (ids, after)) (h : changedSince call code log = false)
    (hasked : .asked call codes catalog ∈ after) : idsOf catalog code = ids := by
  unfold changedSince at h
  rw [hlast] at h
  have := List.any_eq_false.mp h _ hasked
  simpa [ScanEvent.asksAgain] using this

/-! ## What becomes of a request -/

/-- Where a request is: with its call, among the countries that are asked for, with the scan that
is going on, or answered. -/
inductive Covered (log : List (ScanEvent rt)) (s : Scanner rt) (call : ℕ) (codes : Finset String)
    (catalog : Catalog rt) (code : String) : Prop
  | waiting : s.calls.get? call = some codes → Covered log s call codes catalog code
  | pending : code ∈ s.pending → Covered log s call codes catalog code
  | ahead : code ∈ s.worker.ahead → Covered log s call codes catalog code
  | testing (rest : List String) (tests : List (Record × Option Obj)) (ids : Finset String)
      (after : List (ScanEvent rt)) : s.worker = .testing rest code tests →
      lastRead code log = some (ids, after) →
      (.asked call codes catalog ∈ after → idsOf catalog code = ids ∨
        ∃ dropped, .dropped call dropped ∈ after ∧ code ∈ dropped) →
      Covered log s call codes catalog code
  | requeueing (rest : List String) : s.worker = .requeueing rest code →
      Covered log s call codes catalog code
  | answered : Answered log call codes catalog code → Covered log s call codes catalog code

/-- A step that leaves a request where it is. -/
lemma Covered.keep (h : Covered log s call codes catalog code)
    (hcalls : s.calls.get? call = some codes → s'.calls.get? call = some codes)
    (hpending : code ∈ s.pending → code ∈ s'.pending)
    (hahead : code ∈ s.worker.ahead → code ∈ s'.worker.ahead)
    (htesting : ∀ rest tests, s.worker = .testing rest code tests →
      ∃ tests', s'.worker = .testing rest code tests')
    (hrequeueing : ∀ rest, s.worker = .requeueing rest code → s'.worker = .requeueing rest code)
    (hread : ∀ e ∈ es, e.readOf code = none) (hasked : .asked call codes catalog ∉ es) :
    Covered (log ++ es) s' call codes catalog code := by
  cases h with
  | waiting hwaiting => exact .waiting (hcalls hwaiting)
  | pending hmem => exact .pending (hpending hmem)
  | ahead hmem => exact .ahead (hahead hmem)
  | testing rest tests ids after hworker hlast hsame =>
    obtain ⟨tests', hworker'⟩ := htesting rest tests hworker
    refine .testing rest tests' ids (after ++ es) hworker' ?_ fun hmem => ?_
    · rw [lastRead_append hread, hlast]
      rfl
    · rcases hsame ((List.mem_append.mp hmem).resolve_right hasked) with hids | ⟨dropped, hd, hc⟩
      · exact .inl hids
      · exact .inr ⟨dropped, List.mem_append_left es hd, hc⟩
  | requeueing rest hworker => exact .requeueing rest (hrequeueing rest hworker)
  | answered hanswered => exact .answered hanswered.append

/-- The country has been scanned since it was read last. -/
def ScannedSince (log : List (ScanEvent rt)) (code : String) : Prop :=
  ∃ ids after, lastRead code log = some (ids, after) ∧ .scanned code ids ∈ after

lemma ScannedSince.append (h : ScannedSince log code) (hes : ∀ e ∈ es, e.readOf code = none) :
    ScannedSince (log ++ es) code := by
  obtain ⟨ids, after, hlast, hscanned⟩ := h
  refine ⟨ids, after ++ es, ?_, List.mem_append_left es hscanned⟩
  rw [lastRead_append hes, hlast]
  rfl

/-- Every request is somewhere, and what the scan has passed it has scanned. -/
structure Tracked (log : List (ScanEvent rt)) (s : Scanner rt) : Prop where
  known : ∀ call codes catalog, .asked call codes catalog ∈ log → call < s.next
  covered : ∀ call codes catalog, .asked call codes catalog ∈ log → ∀ code ∈ codes,
    Covered log s call codes catalog code
  passed : ∀ code, Passed s code → ScannedSince log code
  current : ∀ rest code tests, s.worker = .testing rest code tests →
    ∃ after, lastRead code log = some (Scanner.testedIds tests, after)
  quiet : s.worker = .idle ∨ s.worker = .leaving → s.pending = ∅

/-- A step that leaves the worker and the requests where they are. -/
lemma Tracked.keep (h : Tracked log s) (hnext : s.next ≤ s'.next) (hcalls : s'.calls = s.calls)
    (hpending : s'.pending = s.pending) (hscope : s'.scope = s.scope)
    (hworker : s'.worker = s.worker ∨ ∃ rest code tests tests',
      s.worker = .testing rest code tests ∧ s'.worker = .testing rest code tests' ∧
      Scanner.testedIds tests' = Scanner.testedIds tests)
    (hread : ∀ code, ∀ e ∈ es, e.readOf code = none)
    (hasked : ∀ call codes catalog, .asked call codes catalog ∉ es) :
    Tracked (log ++ es) s' := by
  have hold : ∀ {call codes catalog}, .asked call codes catalog ∈ log ++ es →
      .asked call codes catalog ∈ log := fun hmem =>
    (List.mem_append.mp hmem).resolve_right (hasked _ _ _)
  have hplace : s'.worker.ahead = s.worker.ahead ∧ s'.worker.current = s.worker.current := by
    rcases hworker with heq | ⟨rest, code, tests, tests', heq, heq', -⟩
    · rw [heq]
      exact ⟨rfl, rfl⟩
    · rw [heq, heq']
      exact ⟨rfl, rfl⟩
  have htesting : ∀ {rest code tests}, s'.worker = .testing rest code tests →
      ∃ tests₀, s.worker = .testing rest code tests₀ ∧
        Scanner.testedIds tests = Scanner.testedIds tests₀ := by
    intro rest code tests hnew
    rcases hworker with heq | ⟨rest₀, code₀, tests₀, tests', heq, heq', hids⟩
    · exact ⟨tests, heq ▸ hnew, rfl⟩
    · obtain ⟨rfl, rfl, rfl⟩ := Worker.testing.inj (heq'.symm.trans hnew)
      exact ⟨tests₀, heq, hids⟩
  refine ⟨fun call codes catalog hmem => ?_, fun call codes catalog hmem code hcode => ?_,
    fun code hpassed => ?_, fun rest code tests hnew => ?_, fun hquiet => ?_⟩
  · exact lt_of_lt_of_le (h.known call codes catalog (hold hmem)) hnext
  · refine (h.covered call codes catalog (hold hmem) code hcode).keep (by rw [hcalls]; exact id)
      (by rw [hpending]; exact id) (by rw [hplace.1]; exact id) ?_ ?_ (hread code)
      (hasked call codes catalog)
    · intro rest tests hold
      rcases hworker with heq | ⟨rest₀, code₀, tests₀, tests', heq, heq', -⟩
      · exact ⟨tests, heq.trans hold⟩
      · obtain ⟨rfl, rfl, rfl⟩ := Worker.testing.inj (heq.symm.trans hold)
        exact ⟨tests', heq'⟩
    · intro rest hold
      rcases hworker with heq | ⟨rest₀, code₀, tests₀, tests', heq, heq', -⟩
      · exact heq.trans hold
      · cases heq.symm.trans hold
  · refine (h.passed code ?_).append (hread code)
    obtain ⟨hin, hnot, hnew⟩ := hpassed
    rw [hscope] at hin
    rw [hplace.1, hplace.2] at hnot
    rw [hpending] at hnew
    exact ⟨hin, hnot, hnew⟩
  · obtain ⟨tests₀, hworker₀, hids⟩ := htesting hnew
    obtain ⟨after, hlast⟩ := h.current rest code tests₀ hworker₀
    refine ⟨after ++ es, ?_⟩
    rw [lastRead_append (hread code), hlast, hids]
    rfl
  · rw [hpending]
    refine h.quiet ?_
    rcases hworker with heq | ⟨rest₀, code₀, tests₀, tests', heq, heq', -⟩
    · rwa [← heq]
    · rw [heq'] at hquiet
      simp at hquiet

/-- The scanner after a call that has found a worker. -/
def Scanner.afterJoin (s : Scanner rt) (call : ℕ) (requested : Finset String) : Scanner rt :=
  { s with
    calls := s.calls.erase call
    pending := s.pending ∪ (requested \ s.scope.toFinset) }

/-- A country that a call drops is still to be read, is being scanned, or has been. -/
lemma Tracked.dropped (h : Tracked log s) {requested : Finset String}
    (hmissed : ∀ code ∈ requested, Passed s code → changedSince call code log = false)
    (hcode : code ∈ requested) (hasked : .asked call requested catalog ∈ log) :
    Covered (log ++ [.dropped call (requested ∩ s.scope.toFinset)]) (s.afterJoin call requested)
      call requested catalog code := by
  by_cases hscope : code ∈ s.scope
  · have hdropped : code ∈ requested ∩ s.scope.toFinset := by simp [hcode, hscope]
    by_cases hplace : code ∈ s.worker.current ++ s.worker.ahead
    · rcases List.mem_append.mp hplace with hcurrent | hahead
      · cases hworker : s.worker with
        | testing rest code' tests =>
          rw [hworker] at hcurrent
          obtain rfl := List.mem_singleton.mp hcurrent
          obtain ⟨after, hlast⟩ := h.current rest code tests hworker
          refine .testing rest tests (Scanner.testedIds tests)
            (after ++ [.dropped call (requested ∩ s.scope.toFinset)]) hworker ?_ fun _ => ?_
          · rw [lastRead_append (by simp [ScanEvent.readOf]), hlast]
            rfl
          · exact .inr ⟨_, by simp, hdropped⟩
        | requeueing rest code' =>
          rw [hworker] at hcurrent
          obtain rfl := List.mem_singleton.mp hcurrent
          exact .requeueing rest hworker
        | _ =>
          rw [hworker] at hcurrent
          cases hcurrent
      · exact .ahead hahead
    · by_cases hpending : code ∈ s.pending
      · exact .pending (Finset.mem_union_left _ hpending)
      · have hpassed : Passed s code := ⟨hscope, hplace, hpending⟩
        obtain ⟨ids, after, hlast, hscanned⟩ := h.passed code hpassed
        exact .answered (answered_of_lastRead hlast hscanned hasked
          (same_of_not_changedSince hlast (hmissed code hcode hpassed))).append
  · exact .pending (Finset.mem_union_right _ (by simp [hcode, hscope]))

/-- A call that gets the lock while a worker is there. -/
lemma Tracked.joined (h : Tracked log s) {requested : Finset String}
    (hcall : s.calls.get? call = some requested) (hbusy : s.worker ≠ .idle)
    (hcond : NothingMissed (s, log) (.enqueue call)) :
    Tracked (log ++ [.dropped call (requested ∩ s.scope.toFinset)]) (s.afterJoin call requested) := by
  obtain ⟨hleaving, hmissed⟩ := hcond
  have hread : ∀ code, ∀ e ∈ [(.dropped call (requested ∩ s.scope.toFinset) : ScanEvent rt)],
      e.readOf code = none := by simp [ScanEvent.readOf]
  have hold : ∀ {call' codes catalog},
      .asked call' codes catalog ∈ log ++ [.dropped call (requested ∩ s.scope.toFinset)] →
      .asked call' codes catalog ∈ log := fun hmem => by simpa using hmem
  refine ⟨fun call' codes catalog hmem => ?_, fun call' codes catalog hmem code hcode => ?_,
    fun code hpassed => ?_, fun rest code tests hnew => ?_, fun hquiet => ?_⟩
  · exact h.known call' codes catalog (hold hmem)
  · have hcovered := h.covered call' codes catalog (hold hmem) code hcode
    by_cases hwaiting : call' = call ∧ s.calls.get? call' = some codes
    · obtain ⟨rfl, hwaiting⟩ := hwaiting
      obtain rfl := Option.some.inj (hwaiting.symm.trans hcall)
      exact h.dropped (hmissed codes hcall) hcode (hold hmem)
    · refine hcovered.keep (fun hget => ?_) (Finset.mem_union_left _) id
        (fun rest tests hworker => ⟨tests, hworker⟩) (fun _ => id) (hread code) (by simp)
      have hne : call' ≠ call := fun heq => hwaiting ⟨heq, hget⟩
      exact (Dict.get?_erase_ne hne s.calls).trans hget
  · obtain ⟨hin, hnot, hnew⟩ := hpassed
    refine (h.passed code ⟨hin, hnot, fun hmem => hnew ?_⟩).append (hread code)
    exact Finset.mem_union_left _ hmem
  · obtain ⟨after, hlast⟩ := h.current rest code tests hnew
    refine ⟨after ++ [.dropped call (requested ∩ s.scope.toFinset)], ?_⟩
    rw [lastRead_append (hread code), hlast]
    rfl
  · exact absurd hquiet (by simp [Scanner.afterJoin, hbusy, hleaving])

/-- A new call. -/
lemma Tracked.called (h : Tracked log s) (requested : Finset String) :
    Tracked (log ++ [.asked s.next requested catalog])
      { s with
        catalog := catalog
        calls := s.calls.set s.next requested
        next := s.next + 1 } := by
  have hread : ∀ code, ∀ e ∈ [(.asked s.next requested catalog : ScanEvent rt)],
      e.readOf code = none := by simp [ScanEvent.readOf]
  refine ⟨fun call codes catalog' hmem => ?_, fun call codes catalog' hmem code hcode => ?_,
    fun code hpassed => (h.passed code hpassed).append (hread code), fun rest code tests hnew => ?_,
    h.quiet⟩
  · rcases List.mem_append.mp hmem with hmem | hmem
    · exact Nat.lt_succ_of_lt (h.known call codes catalog' hmem)
    · obtain ⟨rfl, -⟩ := ScanEvent.asked.inj (List.mem_singleton.mp hmem)
      exact Nat.lt_succ_self _
  · rcases List.mem_append.mp hmem with hmem | hmem
    · have hlt := h.known call codes catalog' hmem
      refine (h.covered call codes catalog' hmem code hcode).keep (fun hget => ?_) id id
        (fun rest tests hworker => ⟨tests, hworker⟩) (fun _ => id) (hread code) ?_
      · exact (Dict.get?_set_ne hlt.ne s.calls requested).trans hget
      · intro hnew
        obtain ⟨rfl, -⟩ := ScanEvent.asked.inj (List.mem_singleton.mp hnew)
        exact hlt.ne rfl
    · obtain ⟨rfl, rfl, -⟩ := ScanEvent.asked.inj (List.mem_singleton.mp hmem)
      exact .waiting (Dict.get?_set_self _ _ _)
  · obtain ⟨after, hlast⟩ := h.current rest code tests hnew
    refine ⟨after ++ [.asked s.next requested catalog], ?_⟩
    rw [lastRead_append (hread code), hlast]
    rfl

/-- A step after which the worker is at another place, without a test going on. -/
lemma Tracked.place (h : Tracked log s) (hnext : s'.next = s.next)
    (hquiet : s'.worker = .idle ∨ s'.worker = .leaving → s'.pending = ∅)
    (htesting : ∀ rest code tests, s'.worker ≠ .testing rest code tests)
    (hasked : ∀ call codes catalog, .asked call codes catalog ∉ es)
    (hpassed : ∀ code, Passed s' code → ScannedSince (log ++ es) code)
    (hcovered : ∀ call codes catalog code, .asked call codes catalog ∈ log → code ∈ codes →
      Covered log s call codes catalog code → Covered (log ++ es) s' call codes catalog code) :
    Tracked (log ++ es) s' := by
  have hold : ∀ {call codes catalog}, .asked call codes catalog ∈ log ++ es →
      .asked call codes catalog ∈ log := fun hmem =>
    (List.mem_append.mp hmem).resolve_right (hasked _ _ _)
  refine ⟨fun call codes catalog hmem => ?_, fun call codes catalog hmem code hcode => ?_, hpassed,
    fun rest code tests hnew => absurd hnew (htesting rest code tests), hquiet⟩
  · rw [hnext]
    exact h.known call codes catalog (hold hmem)
  · exact hcovered call codes catalog code (hold hmem) hcode
      (h.covered call codes catalog (hold hmem) code hcode)

/-- A call that finds no worker starts one. -/
lemma Tracked.started (h : Tracked log s) {requested : Finset String}
    (hcall : s.calls.get? call = some requested) (hidle : s.worker = .idle) :
    Tracked (log ++ [])
      { s with
        calls := s.calls.erase call
        pending := s.pending ∪ requested
        worker := .ready } := by
  refine h.place rfl (by simp) (by simp) (by simp) (fun code hpassed => ?_)
    fun call' codes catalog code hmem hcode hcovered => ?_
  · obtain ⟨hin, -, hnew⟩ := hpassed
    refine (h.passed code ⟨hin, by simp [hidle, Worker.current, Worker.ahead], ?_⟩).append (by simp)
    exact fun hpending => hnew (Finset.mem_union_left _ hpending)
  · by_cases hwaiting : call' = call ∧ s.calls.get? call' = some codes
    · obtain ⟨rfl, hwaiting⟩ := hwaiting
      obtain rfl := Option.some.inj (hwaiting.symm.trans hcall)
      exact .pending (Finset.mem_union_right _ hcode)
    · refine hcovered.keep (fun hget => ?_) (Finset.mem_union_left _) (by simp [hidle, Worker.ahead])
        (by simp [hidle]) (by simp [hidle]) (by simp) (by simp)
      have hne : call' ≠ call := fun heq => hwaiting ⟨heq, hget⟩
      exact (Dict.get?_erase_ne hne s.calls).trans hget

/-- The worker takes what was asked for. -/
lemma Tracked.drained (h : Tracked log s) (hready : s.worker = .ready) :
    Tracked (log ++ [])
      { s with
        pending := ∅
        scope := sortedCodes s.pending
        worker := .scanning (sortedCodes s.pending) } := by
  refine h.place rfl (by simp) (by simp) (by simp) (fun code hpassed => ?_)
    fun call codes catalog code hmem hcode hcovered => ?_
  · obtain ⟨hin, hnot, -⟩ := hpassed
    exact absurd hin (by simpa [Worker.current, Worker.ahead] using hnot)
  · rw [List.append_nil]
    cases hcovered with
    | waiting hwaiting => exact .waiting hwaiting
    | pending hpending => exact .ahead (mem_sortedCodes.mpr hpending)
    | ahead hahead => simp [hready, Worker.ahead] at hahead
    | testing rest tests ids after hworker => simp [hready] at hworker
    | requeueing rest hworker => simp [hready] at hworker
    | answered hanswered => exact .answered hanswered

/-- The worker goes on from a place where it has no country to a place where it has none. -/
lemma Tracked.advance (h : Tracked log s) (hnext : s'.next = s.next) (hcalls : s'.calls = s.calls)
    (hpending : s'.pending = s.pending) (hscope : ∀ code ∈ s'.scope, code ∈ s.scope)
    (hworker : s.worker.current = [] ∧ s.worker.ahead = [])
    (hworker' : s'.worker.current = [] ∧ s'.worker.ahead = [])
    (hquiet : s'.worker = .idle ∨ s'.worker = .leaving → s'.pending = ∅) :
    Tracked (log ++ []) s' := by
  have hcurrent : ∀ rest code, (∀ tests, s.worker ≠ .testing rest code tests) ∧
      s.worker ≠ .requeueing rest code := by
    intro rest code
    refine ⟨fun tests heq => ?_, fun heq => ?_⟩ <;> simp [heq, Worker.current] at hworker
  refine h.place hnext hquiet (fun rest code tests heq => ?_) (by simp) (fun code hpassed => ?_)
    fun call codes catalog code hmem hcode hcovered => ?_
  · simp [heq, Worker.current] at hworker'
  · obtain ⟨hin, -, hnew⟩ := hpassed
    rw [hpending] at hnew
    exact (h.passed code ⟨hscope code hin, by simp [hworker], hnew⟩).append (by simp)
  · exact hcovered.keep (by rw [hcalls]; exact id) (by rw [hpending]; exact id)
      (by simp [hworker]) (fun rest tests heq => absurd heq ((hcurrent rest code).1 tests))
      (fun rest heq => absurd heq (hcurrent rest code).2) (by simp) (by simp)

/-- A country that has changed meanwhile is put back. -/
lemma Tracked.requeued (h : Tracked log s) {rest : List String}
    (hworker : s.worker = .requeueing rest code) :
    Tracked (log ++ []) { s with pending := insert code s.pending, worker := .scanning rest } := by
  refine h.place rfl (by simp) (by simp) (by simp) (fun code' hpassed => ?_)
    fun call codes catalog code' hmem hcode hcovered => ?_
  · obtain ⟨hin, hnot, hnew⟩ := hpassed
    simp only [Finset.mem_insert, not_or] at hnew
    refine (h.passed code' ⟨hin, ?_, hnew.2⟩).append (by simp)
    simpa [hworker, Worker.current, Worker.ahead, hnew.1] using hnot
  · rw [List.append_nil]
    cases hcovered with
    | waiting hwaiting => exact .waiting hwaiting
    | pending hpending => exact .pending (Finset.mem_insert_of_mem hpending)
    | ahead hahead => exact .ahead (by simpa [hworker, Worker.ahead] using hahead)
    | testing rest' tests ids after hworker' => simp [hworker] at hworker'
    | requeueing rest' hworker' =>
      obtain ⟨-, rfl⟩ := Worker.requeueing.inj (hworker.symm.trans hworker')
      exact .pending (Finset.mem_insert_self code s.pending)
    | answered hanswered => exact .answered hanswered

/-- A country without proxies is passed. -/
lemma Tracked.emptied (h : Tracked log s) {rest : List String}
    (hworker : s.worker = .scanning (code :: rest)) :
    Tracked (log ++ [.read code ∅, .chosen code none, .scanned code ∅])
      { s with preferred := s.preferred.erase code, worker := .scanning rest } := by
  have hother : ∀ code', code' ≠ code →
      ∀ e ∈ [(.read code ∅ : ScanEvent rt), .chosen code none, .scanned code ∅],
        e.readOf code' = none := by
    intro code' hne
    simp [ScanEvent.readOf, Ne.symm hne]
  have hlast : lastRead code (log ++ [.read code ∅, .chosen code none, .scanned code ∅]) =
      some (∅, [.chosen code none, .scanned code ∅]) := by
    rw [List.append_cons, lastRead_append (by simp [ScanEvent.readOf]), lastRead_read]
    rfl
  refine h.place rfl (by simp) (by simp) (by simp) (fun code' hpassed => ?_)
    fun call codes catalog code' hmem hcode hcovered => ?_
  · by_cases hcode : code' = code
    · subst hcode
      exact ⟨∅, _, hlast, by simp⟩
    · obtain ⟨hin, hnot, hnew⟩ := hpassed
      refine (h.passed code' ⟨hin, ?_, hnew⟩).append (hother code' hcode)
      simpa [hworker, Worker.current, Worker.ahead, hcode] using hnot
  · by_cases hsame : code' = code
    · subst hsame
      exact .answered (answered_of_lastRead hlast (by simp) (List.mem_append_left _ hmem) (by simp))
    · refine hcovered.keep id id (fun hahead => ?_) (by simp [hworker]) (by simp [hworker])
        (hother code' hsame) (by simp)
      simpa [hworker, Worker.ahead, hsame] using hahead

/-- The tests of a country begin. -/
lemma Tracked.opened (h : Tracked log s) {rest : List String}
    (hworker : s.worker = .scanning (code :: rest)) {tests : List (Record × Option Obj)}
    (hids : Scanner.testedIds tests = idsOf s.catalog code) :
    Tracked (log ++ [.read code (idsOf s.catalog code)])
      { s with worker := .testing rest code tests } := by
  have hother : ∀ code', code' ≠ code →
      ∀ e ∈ [(.read code (idsOf s.catalog code) : ScanEvent rt)], e.readOf code' = none := by
    intro code' hne
    simp [ScanEvent.readOf, Ne.symm hne]
  have hlast := lastRead_read log code (idsOf s.catalog code)
  refine ⟨fun call codes catalog hmem => h.known call codes catalog (by simpa using hmem),
    fun call codes catalog hmem code' hcode => ?_, fun code' hpassed => ?_,
    fun rest' code' tests' hnew => ?_, by simp⟩
  · have hcovered := h.covered call codes catalog (by simpa using hmem) code' hcode
    by_cases hsame : code' = code
    · subst hsame
      exact .testing rest tests _ [] rfl hlast (by simp)
    · refine hcovered.keep id id (fun hahead => ?_) (by simp [hworker]) (by simp [hworker])
        (hother code' hsame) (by simp)
      simpa [hworker, Worker.ahead, hsame] using hahead
  · obtain ⟨hin, hnot, hnew⟩ := hpassed
    have hne : code' ≠ code := by
      rintro rfl
      simp [Worker.current] at hnot
    refine (h.passed code' ⟨hin, ?_, hnew⟩).append (hother code' hne)
    simpa [hworker, Worker.current, Worker.ahead] using hnot
  · obtain ⟨-, rfl, rfl⟩ := Worker.testing.inj hnew
    exact ⟨[], by rw [hids]; exact hlast⟩

/-- The proxies of the country have changed during its tests. -/
lemma Tracked.changed (h : Tracked log s) {rest : List String}
    {tests : List (Record × Option Obj)} (hworker : s.worker = .testing rest code tests)
    (results : Dict String Obj) :
    Tracked (log ++ []) { s with tests := results, worker := .requeueing rest code } := by
  refine h.place rfl (by simp) (by simp) (by simp) (fun code' hpassed => ?_)
    fun call codes catalog code' hmem hcode hcovered => ?_
  · obtain ⟨hin, hnot, hnew⟩ := hpassed
    refine (h.passed code' ⟨hin, ?_, hnew⟩).append (by simp)
    simpa [hworker, Worker.current, Worker.ahead] using hnot
  · rw [List.append_nil]
    cases hcovered with
    | waiting hwaiting => exact .waiting hwaiting
    | pending hpending => exact .pending hpending
    | ahead hahead => exact .ahead (by simpa [hworker, Worker.ahead] using hahead)
    | testing rest' tests' ids after hworker' =>
      obtain ⟨-, rfl, -⟩ := Worker.testing.inj (hworker.symm.trans hworker')
      exact .requeueing rest rfl
    | requeueing rest' hworker' => simp [hworker] at hworker'
    | answered hanswered => exact .answered hanswered

/-- The scan of a country ends. -/
lemma Tracked.chosen (h : Tracked log s) {rest : List String} {tests : List (Record × Option Obj)}
    (hworker : s.worker = .testing rest code tests)
    (hids : idsOf s.catalog code = Scanner.testedIds tests)
    (hcond : NothingMissed (s, log) .publish) (results : Dict String Obj)
    (preferred : Dict String String) (found : Option String) :
    Tracked (log ++ [.chosen code found, .scanned code (Scanner.testedIds tests)])
      { s with tests := results, preferred := preferred, worker := .scanning rest } := by
  have hmissed : code ∉ s.pending → missed code log = false := by
    simp only [NothingMissed, hworker] at hcond
    exact hcond hids
  have hread : ∀ code', ∀ e ∈ [(.chosen code found : ScanEvent rt),
      .scanned code (Scanner.testedIds tests)], e.readOf code' = none := by simp [ScanEvent.readOf]
  obtain ⟨after, hlast⟩ := h.current rest code tests hworker
  have hlast' : lastRead code (log ++ [.chosen code found, .scanned code (Scanner.testedIds tests)]) =
      some (Scanner.testedIds tests,
        after ++ [.chosen code found, .scanned code (Scanner.testedIds tests)]) := by
    rw [lastRead_append (hread code), hlast]
    rfl
  refine h.place rfl (by simp) (by simp) (by simp) (fun code' hpassed => ?_)
    fun call codes catalog code' hmem hcode hcovered => ?_
  · by_cases hcode : code' = code
    · subst hcode
      exact ⟨_, _, hlast', by simp⟩
    · obtain ⟨hin, hnot, hnew⟩ := hpassed
      refine (h.passed code' ⟨hin, ?_, hnew⟩).append (hread code')
      simpa [hworker, Worker.current, Worker.ahead, hcode] using hnot
  · cases hcovered with
    | waiting hwaiting => exact .waiting hwaiting
    | pending hpending => exact .pending hpending
    | ahead hahead => exact .ahead (by simpa [hworker, Worker.ahead] using hahead)
    | testing rest' tests' ids after' hworker' hlast₀ hsame =>
      obtain ⟨-, rfl, -⟩ := Worker.testing.inj (hworker.symm.trans hworker')
      obtain ⟨rfl, rfl⟩ := Prod.mk.inj (Option.some.inj (hlast.symm.trans hlast₀))
      by_cases hpending : code ∈ s.pending
      · exact .pending hpending
      · refine .answered (answered_of_lastRead hlast' (by simp) (List.mem_append_left _ hmem) ?_)
        intro hafter
        have hafter : .asked call codes catalog ∈ after := by simpa using hafter
        rcases hsame hafter with heq | ⟨dropped, hdropped, hin⟩
        · exact heq
        · -- the call was dropped, so nothing has changed when it was made
          refine same_of_not_changedSince hlast ?_ hafter
          have hnone := hmissed hpending
          unfold missed at hnone
          rw [hlast] at hnone
          have := List.any_eq_false.mp hnone _ hdropped
          simpa [ScanEvent.missed, hin] using this
    | requeueing rest' hworker' => simp [hworker] at hworker'
    | answered hanswered => exact .answered hanswered.append

/-! ## Changes of the catalog -/

/-- A country that has got a proxy is affected by a change. -/
lemma mem_affectedCodes {before after : Catalog rt} (hcode : strip (rt.upper code) = code)
    (hne : code ≠ "") {id : String} (hid : id ∈ idsOf after code) (hnot : id ∉ idsOf before code) :
    code ∈ ((after.records.values.filter fun row =>
      (before.records.get? row.id).map Record.code ≠ some row.code).map Record.code).toFinset := by
  obtain ⟨row, hrow, rfl⟩ := List.mem_map.mp (List.mem_toFinset.mp hid)
  obtain ⟨hvalue, hmatch⟩ := List.mem_filter.mp hrow
  have hrowCode : row.code = code := by simpa [hcode, hne] using hmatch
  refine List.mem_toFinset.mpr (List.mem_map.mpr ⟨row, List.mem_filter.mpr ⟨hvalue, ?_⟩, hrowCode⟩)
  rw [decide_eq_true_eq, hrowCode]
  intro hsame
  obtain ⟨row', hget, hcode'⟩ := Option.map_eq_some_iff.mp hsame
  have hid' : row'.id = row.id := before.keyed row.id row' hget
  refine hnot (List.mem_toFinset.mpr (List.mem_map.mpr ⟨row', List.mem_filter.mpr ⟨?_, ?_⟩, hid'⟩))
  · exact Dict.mem_values_iff.mpr ⟨row.id, hget⟩
  · simp [hcode, hcode']

/-- A change of the catalog asks for the countries whose proxies have changed. -/
lemma asked_of_changed (s : Scanner rt) {catalog : Catalog rt}
    (hcode : strip (rt.upper code) = code) (hne : code ≠ "") (hvalid : isValidCode rt code = true)
    (hchanged : idsOf catalog code ≠ idsOf s.catalog code) :
    ∃ s' es codes, s.step (.refresh catalog) = some (s', es) ∧
      .asked s.next codes catalog ∈ es ∧ code ∈ codes := by
  have haffected : code ∈ affectedCodes s.catalog catalog := by
    have hdiff : ∃ id, ¬ (id ∈ idsOf catalog code ↔ id ∈ idsOf s.catalog code) := by
      by_contra hall
      exact hchanged (Finset.ext fun id => not_not.mp fun h => hall ⟨id, h⟩)
    obtain ⟨id, hid⟩ := hdiff
    unfold affectedCodes
    dsimp only
    rw [List.map_append, List.toFinset_append, Finset.mem_union]
    by_cases hin : id ∈ idsOf catalog code
    · exact .inl (mem_affectedCodes hcode hne hin fun h => hid ⟨fun _ => h, fun _ => hin⟩)
    · have hin' : id ∈ idsOf s.catalog code := by
        by_contra h
        exact hid ⟨fun h' => absurd h' hin, fun h' => absurd h' h⟩
      exact .inr (mem_affectedCodes hcode hne hin' hin)
  have hrequested : code ∈ requestedCodes catalog (some (affectedCodes s.catalog catalog)) := by
    unfold requestedCodes
    dsimp only
    rw [Finset.mem_filter, Finset.mem_image]
    exact ⟨⟨code, haffected, hcode⟩, hvalid⟩
  simp only [Scanner.step]
  rw [if_neg (Finset.ne_empty_of_mem haffected)]
  unfold Scanner.call
  dsimp only
  rw [if_neg (Finset.ne_empty_of_mem hrequested)]
  exact ⟨_, _, _, rfl, List.mem_singleton.mpr rfl, hrequested⟩

/-! ## Every run -/

/-- The choice of a preferred proxy does not fail. -/
lemma selectPreferredForCountry_ok {tests : Dict String Obj} (h : Kept rt tests)
    (catalog : Catalog rt) (preferred : Dict String String) (code : String)
    (expected : Finset String) :
    ∃ found, selectPreferredForCountry catalog tests preferred code expected = .ok found := by
  unfold selectPreferredForCountry
  split
  · exact ⟨none, rfl⟩
  · refine exists_ok_bind (preferredProxyId_kept h _) fun found => ?_
    split <;> exact ⟨_, rfl⟩

/-- A choice is only made among the proxies that were read. -/
lemma idsOf_of_select {tests : Dict String Obj} {preferred : Dict String String}
    {expected : Finset String} {r : Dict String String × Option String}
    (h : selectPreferredForCountry catalog tests preferred code expected = .ok (some r)) :
    idsOf catalog code = expected := by
  unfold selectPreferredForCountry at h
  split at h
  · cases h
  · rename_i hids
    simpa using hids

lemma Tracked.move (hdigest : HexDigest rt) (hs : s.Sane) (h : Tracked log s)
    (hcond : NothingMissed (s, log) l) (hmove : Move s l s' es) : Tracked (log ++ es) s' := by
  cases hmove with
  | called catalog codes hcodes => exact h.called _
  | ignored =>
    exact h.keep le_rfl rfl rfl rfl (.inl rfl) (by simp) (by simp)
  | started n requested hcall hidle => exact h.started hcall hidle
  | joined n requested hcall hbusy => exact h.joined hcall hbusy hcond
  | stopped hready hempty =>
    exact h.advance rfl rfl rfl (by simp) (by simp [hready, Worker.current, Worker.ahead])
      ⟨rfl, rfl⟩ fun _ => hempty
  | drained hready hcodes => exact h.drained hready
  | finished hworker =>
    exact h.advance rfl rfl rfl (by simp) (by simp [hworker, Worker.current, Worker.ahead])
      ⟨rfl, rfl⟩ (by simp)
  | emptied rest code hworker hnone => exact h.emptied hworker
  | opened rest code hworker hsome =>
    exact h.opened hworker (by simp [Scanner.testedIds, idsOf, Function.comp_def])
  | measured rest code tests record m testedAt result hworker hrecord hresult =>
    exact h.keep le_rfl rfl rfl rfl
      (.inr ⟨rest, code, tests, _, hworker, rfl, Scanner.testedIds_withResult _ _ _⟩)
      (by simp [ScanEvent.readOf]) (by simp)
  | unmeasured rest code tests record m testedAt e hworker hrecord hresult =>
    have hknown := (hs.testing rest code tests hworker).known record none hrecord
    obtain ⟨result, hok, -⟩ := hknown.storeProxyTestResult hdigest hs.kept m testedAt
    cases hok.symm.trans hresult
  | chosen rest code tests results preferred found hworker hresults hselect =>
    exact h.chosen hworker (idsOf_of_select hselect) hcond _ preferred found
  | changed rest code tests results hworker hresults hselect => exact h.changed hworker _
  | unchosen rest code tests results e hworker hresults hselect =>
    obtain ⟨found, hok⟩ := selectPreferredForCountry_ok (hs.publishAll hworker hresults) s.catalog
      s.preferred code (Scanner.testedIds tests)
    cases hok.symm.trans hselect
  | requeued rest code hworker => exact h.requeued hworker
  | saved hworker =>
    exact h.advance rfl rfl rfl (by simp) (by simp [hworker, Worker.current, Worker.ahead])
      ⟨rfl, rfl⟩ (by simp)
  | left hworker =>
    exact h.advance rfl rfl rfl (by simp) (by simp [hworker, Worker.current, Worker.ahead])
      ⟨rfl, rfl⟩ fun _ => h.quiet (.inr hworker)
  | begun =>
    exact h.keep (Nat.le_succ _) rfl rfl rfl (.inl rfl) (by simp) (by simp)
  | stored =>
    exact h.keep le_rfl rfl rfl rfl (.inl rfl) (by simp [ScanEvent.readOf]) (by simp)
  | unstored =>
    exact h.keep le_rfl rfl rfl rfl (.inl rfl) (by simp [ScanEvent.readOf]) (by simp)

variable {start : Catalog rt} {tests : Dict String Obj} {preferred : Dict String String}
  {visited : List (Scanner rt × List (ScanEvent rt))} {events : List (ScanEvent rt)}

/-- Where no step misses a request, all requests are answered when the worker has ended and no
call is left. -/
theorem requests_answered (hdigest : HexDigest rt) (htests : Kept rt tests)
    (hrun : ((scanner rt).logged.restrict NothingMissed).Run (.fresh start tests preferred, [])
      visited events (s, log)) (hidle : s.worker = .idle) (hcalls : s.calls = .empty) :
    s.pending = ∅ ∧ ∀ call codes catalog, .asked call codes catalog ∈ events →
      ∀ code ∈ codes, Answered events call codes catalog code := by
  obtain ⟨-, htracked⟩ := hrun.invariant (I := fun p => p.1.Sane ∧ Tracked p.2 p.1)
    ⟨Scanner.sane_fresh htests, by simp, by simp, by simp [Passed, Scanner.fresh],
      by simp [Scanner.fresh], fun _ => rfl⟩
    fun p l p' es ⟨hs, htracked⟩ hstep => by
      obtain ⟨hcond, hstep⟩ := Machine.restrict_step.mp hstep
      obtain ⟨hstep, hlog⟩ := Machine.logged_step.mp hstep
      have hmove := Scanner.step_move hstep
      rw [hlog]
      exact ⟨hs.move hmove, htracked.move hdigest hs hcond hmove⟩
  have hpending : s.pending = ∅ := htracked.quiet (.inl hidle)
  refine ⟨hpending, fun call codes catalog hmem code hcode => ?_⟩
  obtain rfl : log = events := hrun.log_eq
  cases htracked.covered call codes catalog hmem code hcode with
  | waiting hwaiting => simp [hcalls] at hwaiting
  | pending hmem => simp [hpending] at hmem
  | ahead hahead => simp [hidle, Worker.ahead] at hahead
  | testing rest tests ids after hworker => simp [hidle] at hworker
  | requeueing rest hworker => simp [hidle] at hworker
  | answered hanswered => exact hanswered

/-- The event is a request by the call. -/
def ScanEvent.isAsked (call : ℕ) : ScanEvent rt → Bool
  | .asked call' _ _ => call' = call
  | _ => false

/-- A user asks for a country and is answered. -/
theorem requests_answered_once : ∃ events : List (ScanEvent scanRuntime), ∃ codes catalog,
    .asked 0 codes catalog ∈ events ∧ codes = {"DE"} ∧ Answered events 0 codes catalog "DE" := by
  obtain ⟨r, hr, hcheck⟩ := (Option.any_eq_true _ _).mp
    (show (((scanner scanRuntime).logged.restrict NothingMissed).exec
      [.schedule (some {"DE"}), .enqueue 0, .drain, .country,
        .measure (exampleRecord "a" "DE").id exampleMeasurement "", .publish, .country, .saved,
        .drain, .leave]
      (.fresh exampleCatalogs.1 .empty .empty, [])).any (fun r => decide
        (r.2.2.1.worker = .idle ∧ r.2.2.1.calls = .empty ∧
          r.2.1.any fun e => match e with
            | .asked call codes _ => call = 0 && codes = {"DE"}
            | _ => false)) = true by decide +kernel)
  obtain ⟨hidle, hcalls, hasked⟩ := of_decide_eq_true hcheck
  have hrun := Machine.Run.start.exec hr
  obtain ⟨e, he, heq⟩ := List.any_eq_true.mp hasked
  cases e <;> simp only [Bool.false_eq_true] at heq
  obtain ⟨rfl, rfl⟩ := by simpa using heq
  exact ⟨_, _, _, he, rfl,
    (requests_answered scanRuntime_digest (by simp [Kept]) hrun hidle hcalls).2 0 _ _ he "DE" (by simp)⟩

/-- A country that was read once, before the call and with other proxies, has not answered it. -/
lemma not_answered {events : List (ScanEvent rt)}
    (hreads : events.filterMap (ScanEvent.readOf code) = [ids]) (hne : idsOf catalog code ≠ ids)
    (hbefore : (events.takeWhile fun e => (e.readOf code).isNone).any (ScanEvent.isAsked call) =
      false) : ¬ Answered events call codes catalog code := by
  rintro ⟨before, after, ids', rfl, -, hread⟩
  have hself : (.read code ids' : ScanEvent rt).readOf code = some ids' := by
    simp [ScanEvent.readOf]
  rw [List.filterMap_append, List.filterMap_cons_some hself] at hreads
  have hnil : before.filterMap (ScanEvent.readOf code) = [] := by
    cases hb : before.filterMap (ScanEvent.readOf code) with
    | nil => rfl
    | cons x l => simp [hb] at hreads
  rw [hnil, List.nil_append] at hreads
  obtain rfl := (List.cons.inj hreads).1
  have hnone : ∀ e ∈ before, (e.readOf code).isNone := by
    intro e he
    rw [List.filterMap_eq_nil_iff.mp hnil e he]
    rfl
  rw [List.takeWhile_append_of_pos hnone, List.takeWhile_cons_of_neg (by simp [hself]),
    List.append_nil] at hbefore
  rcases hread with hasked | hsame
  · have := List.any_eq_false.mp hbefore _ hasked
    simp [ScanEvent.isAsked] at this
  · exact hne hsame.symm

/-- A country that gets another proxy while the scan is at the next country is not tested again:
its request is dropped. -/
theorem request_lost : ∃ visited events, ∃ s : Scanner scanRuntime, ∃ codes catalog,
    (scanner scanRuntime).Run (.fresh exampleCatalogs.1 .empty .empty) visited events s ∧
      s.worker = .idle ∧ s.calls = .empty ∧ .asked 1 codes catalog ∈ events ∧ "DE" ∈ codes ∧
      ¬ Answered events 1 codes catalog "DE" := by
  obtain ⟨r, hr, hcheck⟩ := (Option.any_eq_true _ _).mp
    (show ((scanner scanRuntime).exec
      [.schedule none, .enqueue 0, .drain, .country,
        .measure (exampleRecord "a" "DE").id exampleMeasurement "", .publish, .country,
        .refresh exampleCatalogs.2, .enqueue 1,
        .measure (exampleRecord "b" "FR").id exampleMeasurement "", .publish, .country, .saved,
        .drain, .leave]
      (.fresh exampleCatalogs.1 .empty .empty)).any (fun r => decide
        (r.2.2.worker = .idle ∧ r.2.2.calls = .empty ∧
          (r.2.1.filterMap (ScanEvent.readOf "DE")) = [idsOf exampleCatalogs.1 "DE"] ∧
          ((r.2.1.takeWhile fun e => (e.readOf "DE").isNone).any (ScanEvent.isAsked 1)) = false ∧
          r.2.1.any fun e => match e with
            | .asked call codes catalog => call = 1 && "DE" ∈ codes &&
              idsOf catalog "DE" ≠ idsOf exampleCatalogs.1 "DE"
            | _ => false)) = true by decide +kernel)
  obtain ⟨hidle, hcalls, hreads, hbefore, hasked⟩ := of_decide_eq_true hcheck
  obtain ⟨e, he, heq⟩ := List.any_eq_true.mp hasked
  cases e <;> simp only [Bool.false_eq_true] at heq
  rename_i call codes catalog
  obtain ⟨⟨rfl, hcode⟩, hne⟩ : (call = 1 ∧ "DE" ∈ codes) ∧
      idsOf catalog "DE" ≠ idsOf exampleCatalogs.1 "DE" := by simpa using heq
  exact ⟨_, _, _, codes, catalog, Machine.Run.start.exec hr, hidle, hcalls, he, hcode,
    not_answered hreads hne hbefore⟩

end Routing
