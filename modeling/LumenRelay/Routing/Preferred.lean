import LumenRelay.Routing.Scan
import LumenRelay.Routing.MultiLocation

/-!
# Which proxies are preferred

The proxy that a scan chooses for a country is the best of all proxies that the country has, by
the results that are stored at that time, and the scan has tested each of them.  What a lookup
reports is a healthy proxy of the country in the current catalog.
-/

namespace Routing

open Lib Py

variable {rt : Runtime} {s s' : Scanner rt} {l : ScanLabel rt} {es : List (ScanEvent rt)}
  {events : List (ScanEvent rt)}

/-! ## What a scan has tested -/

/-- Since a country was read all the proxies with a result have been tested, and no other country
was read. -/
structure Tested (events : List (ScanEvent rt)) (code : String)
    (tests : List (Record × Option Obj)) : Prop where
  read : ∃ before after, events = before ++ .read code (Scanner.testedIds tests) :: after ∧
    (∀ code' ids, .read code' ids ∉ after) ∧
    ∀ record result, (record, some result) ∈ tests → ∃ tested ok, .measured tested ok ∈ after ∧
      tested.id = record.id ∧ tested.id = proxyIdentity rt tested.endpoint
  identity : ∀ record result, (record, result) ∈ tests →
    record.id = proxyIdentity rt record.endpoint

/-- The tests that are going on belong to the country that was read last. -/
def Following (events : List (ScanEvent rt)) (s : Scanner rt) : Prop :=
  ∀ rest code tests, s.worker = .testing rest code tests → Tested events code tests

lemma Tested.append {code : String} {tests : List (Record × Option Obj)}
    (h : Tested events code tests) (hes : ∀ code' ids, .read code' ids ∉ es) :
    Tested (events ++ es) code tests := by
  obtain ⟨before, after, rfl, hafter, hmeasured⟩ := h.read
  refine ⟨⟨before, after ++ es, by simp, ?_, ?_⟩, h.identity⟩
  · intro code' ids hmem
    rcases List.mem_append.mp hmem with hmem | hmem
    · exact hafter code' ids hmem
    · exact hes code' ids hmem
  · intro record result hmem
    obtain ⟨tested, ok, hok, hid⟩ := hmeasured record result hmem
    exact ⟨tested, ok, List.mem_append_left es hok, hid⟩

lemma Following.append (h : Following events s) (hworker : s'.worker = s.worker)
    (hes : ∀ code ids, .read code ids ∉ es) : Following (events ++ es) s' := by
  intro rest code tests heq
  exact (h rest code tests (hworker ▸ heq)).append hes

lemma Following.move (h : Following events s) (hmove : Move s l s' es) :
    Following (events ++ es) s' := by
  have hother : (∀ rest code tests, s'.worker ≠ .testing rest code tests) →
      Following (events ++ es) s' := fun hne rest code tests heq => absurd heq (hne rest code tests)
  cases hmove with
  | called codes hcodes => exact h.append rfl (by simp)
  | ignored => exact h.append rfl (by simp)
  | joined => exact h.append rfl (by simp)
  | begun => exact h.append rfl (by simp)
  | stored => exact h.append rfl (by simp)
  | unstored => exact h.append rfl (by simp)
  | opened rest code hworker hsome =>
    intro rest' code' tests' heq
    obtain ⟨-, rfl, rfl⟩ := Worker.testing.inj heq
    refine ⟨⟨events, [], ?_, by simp, by simp⟩, ?_⟩
    · simp [Scanner.testedIds, idsOf, Function.comp_def]
    · intro record result hmem
      obtain ⟨record', hrecord', heq'⟩ := List.mem_map.mp hmem
      obtain ⟨rfl, -⟩ := Prod.mk.inj heq'
      exact (fromCatalog_of_mem hrecord').identity
  | measured rest code tests record m testedAt result hworker hrecord hresult =>
    intro rest' code' tests' heq
    obtain ⟨-, rfl, rfl⟩ := Worker.testing.inj heq
    have htested := h rest code tests hworker
    obtain ⟨before, after, hevents, hafter, hmeasured⟩ := htested.read
    refine ⟨⟨before, after ++ [.measured record m.ok], ?_, ?_, ?_⟩, ?_⟩
    · simp [hevents]
    · simpa using hafter
    · intro record' result' hmem
      rcases Scanner.mem_withResult hmem with ⟨hid, -⟩ | hmem
      · exact ⟨record, m.ok, by simp, hid.symm, htested.identity record none hrecord⟩
      · obtain ⟨tested, ok, hok, hid⟩ := hmeasured record' result' hmem
        exact ⟨tested, ok, List.mem_append_left _ hok, hid⟩
    · intro record' result' hmem
      have hfst := List.mem_map_of_mem (f := Prod.fst) hmem
      rw [Scanner.withResult_ids] at hfst
      obtain ⟨⟨record₀, result₀⟩, hmem₀, rfl⟩ := List.mem_map.mp hfst
      exact htested.identity record₀ result₀ hmem₀
  | started => exact hother (by simp)
  | stopped => exact hother (by simp)
  | drained => exact hother (by simp)
  | finished => exact hother (by simp)
  | emptied => exact hother (by simp)
  | unmeasured => exact hother (by simp)
  | chosen => exact hother (by simp)
  | changed => exact hother (by simp)
  | unchosen => exact hother (by simp)
  | requeued => exact hother (by simp)
  | saved => exact hother (by simp)
  | left => exact hother (by simp)

/-! ## What a scan chooses -/

/-- What a choice of a scan is, in the state after it. -/
structure SoundChoice (events : List (ScanEvent rt)) (s : Scanner rt) (code : String)
    (found : Option String) : Prop where
  /-- The scan has tested each proxy that the country has. -/
  tested : ∃ before after, events = before ++ .read code (idsOf s.catalog code) :: after ∧
    (∀ code' ids, .read code' ids ∉ after) ∧
    ∀ record ∈ recordsForCountry rt s.catalog.records code, ∃ tested ok,
      .measured tested ok ∈ after ∧ tested.id = record.id ∧
      (Set.InjOn (proxyIdentity rt) {tested.endpoint, record.endpoint} →
        tested.endpoint = record.endpoint)
  /-- The choice is in force. -/
  published : s.preferred.get? code = found
  /-- It is the best proxy of the country, and no other one is. -/
  best : ∀ proxyId, found = some proxyId →
    IsBest rt ((recordsForCountry rt s.catalog.records code).map Record.id) s.tests proxyId ∧
    ∀ other, IsBest rt ((recordsForCountry rt s.catalog.records code).map Record.id) s.tests other →
      other = proxyId
  /-- Nothing is chosen only when no proxy of the country is healthy. -/
  unhealthy : found = none → ∀ record ∈ recordsForCountry rt s.catalog.records code,
    ¬ IsHealthy s.tests record.id

/-- A choice that is published is made among the proxies that the country has. -/
lemma selectPreferredForCountry_some {catalog : Catalog rt} {tests : Dict String Obj}
    {preferred preferred' : Dict String String} {code : String} {expected : Finset String}
    {found : Option String}
    (h : selectPreferredForCountry catalog tests preferred code expected =
      .ok (some (preferred', found))) :
    idsOf catalog code = expected ∧ preferred'.get? code = found ∧
      (∀ other, other ≠ code → preferred'.get? other = preferred.get? other) ∧
      (∀ proxyId, found = some proxyId →
        IsBest rt ((recordsForCountry rt catalog.records code).map Record.id) tests proxyId) ∧
      (found = none → ∀ record ∈ recordsForCountry rt catalog.records code,
        ¬ IsHealthy tests record.id) := by
  unfold selectPreferredForCountry at h
  split at h
  · cases h
  · rename_i hids
    have hnonempty : ∀ proxyId ∈ (recordsForCountry rt catalog.records code).map Record.id,
        proxyId ≠ "" := by
      intro proxyId hmem
      obtain ⟨record, hrecord, rfl⟩ := List.mem_map.mp hmem
      obtain ⟨key, hkey⟩ := Dict.mem_values_iff.mp (List.mem_of_mem_filter hrecord)
      rw [catalog.keyed key record hkey]
      exact catalog.ne_empty key record hkey
    obtain ⟨chosen, hchosen, h⟩ := bind_eq_ok h
    refine ⟨by simpa using hids, ?_⟩
    cases chosen with
    | none =>
      obtain ⟨rfl, rfl⟩ := Prod.mk.inj (Option.some.inj (Except.ok.inj h))
      refine ⟨Dict.get?_erase_self preferred code,
        fun other hother => Dict.get?_erase_ne hother preferred, by simp, fun _ record hrecord => ?_⟩
      exact preferredProxyId_none hchosen record.id (List.mem_map_of_mem hrecord)
    | some proxyId =>
      have hbest := preferredProxyId_some hchosen
      have hfilter : (some proxyId).filter (· ≠ "") = some proxyId := by
        simp [Option.filter, hnonempty proxyId hbest.mem]
      rw [hfilter] at h
      obtain ⟨rfl, rfl⟩ := Prod.mk.inj (Option.some.inj (Except.ok.inj h))
      refine ⟨Dict.get?_set_self preferred code proxyId,
        fun other hother => Dict.get?_set_ne hother preferred proxyId, ?_, by simp⟩
      rintro proxyId' heq
      obtain rfl := Option.some.inj heq
      exact hbest

/-- The proxies that a scan publishes have all been tested. -/
lemma Tested.all {code : String} {tests : List (Record × Option Obj)} {results : List Obj}
    {catalog : Catalog rt} (h : Tested events code tests)
    (hresults : Scanner.results tests = some results)
    (hids : idsOf catalog code = Scanner.testedIds tests) :
    ∃ before after, events = before ++ .read code (idsOf catalog code) :: after ∧
      (∀ code' ids, .read code' ids ∉ after) ∧
      ∀ record ∈ recordsForCountry rt catalog.records code, ∃ tested ok,
        .measured tested ok ∈ after ∧ tested.id = record.id ∧
        (Set.InjOn (proxyIdentity rt) {tested.endpoint, record.endpoint} →
          tested.endpoint = record.endpoint) := by
  obtain ⟨before, after, hevents, hafter, hmeasured⟩ := h.read
  refine ⟨before, after, by rw [hids]; exact hevents, hafter, fun record hrecord => ?_⟩
  have hmem : record.id ∈ Scanner.testedIds tests := by
    rw [← hids]
    exact List.mem_toFinset.mpr (List.mem_map_of_mem hrecord)
  obtain ⟨record', hrecord', hid⟩ := List.mem_map.mp (List.mem_toFinset.mp hmem)
  obtain ⟨⟨_, result⟩, htest, rfl⟩ := List.mem_map.mp hrecord'
  obtain ⟨result, rfl⟩ := Scanner.some_of_results hresults htest
  obtain ⟨tested, ok, hok, htested, hidentity⟩ := hmeasured _ result htest
  refine ⟨tested, ok, hok, htested.trans hid, fun hinj => hinj (by simp) (by simp) ?_⟩
  rw [← hidentity, ← (fromCatalog_of_mem hrecord).identity, htested, hid]

lemma SoundChoice.move (hfollowing : Following events s) (hmove : Move s l s' es) {code : String}
    {found : Option String} (hchosen : .chosen code found ∈ es) :
    SoundChoice (events ++ es) s' code found := by
  cases hmove with
  | emptied rest code' hworker hnone =>
    obtain ⟨rfl, rfl⟩ : code = code' ∧ found = none := by simpa using hchosen
    have hids : idsOf s.catalog code = ∅ := by simp [idsOf, hnone]
    exact ⟨⟨events, [.chosen code none, .scanned code ∅], by simp [hids], by simp, by simp [hnone]⟩,
      Dict.get?_erase_self _ _, by simp, by simp [hnone]⟩
  | chosen rest code' tests results preferred found' hworker hresults hselect =>
    obtain ⟨rfl, rfl⟩ : code = code' ∧ found = found' := by simpa using hchosen
    obtain ⟨hids, hpublished, -, hbest, hnone⟩ := selectPreferredForCountry_some hselect
    refine ⟨?_, hpublished, fun proxyId heq => ⟨hbest proxyId heq, fun other hother => ?_⟩, hnone⟩
    · have htested : Tested
          (events ++ [.chosen code found, .scanned code (Scanner.testedIds tests)]) code tests :=
        (hfollowing rest code tests hworker).append (by simp)
      exact htested.all hresults hids
    · exact (hbest proxyId heq).unique hother
  | _ => simp at hchosen

/-- Only a choice of a scan changes the preferred proxy of a country. -/
lemma Move.preferred (hmove : Move s l s' es) {code : String}
    (hne : s'.preferred.get? code ≠ s.preferred.get? code) : ∃ found, .chosen code found ∈ es := by
  cases hmove with
  | emptied rest code' hworker hnone =>
    rw [Dict.get?_erase] at hne
    split at hne
    · rename_i heq
      exact ⟨none, by simp [heq]⟩
    · exact absurd rfl hne
  | chosen rest code' tests results preferred found hworker hresults hselect =>
    by_cases heq : code = code'
    · exact ⟨found, by simp [heq]⟩
    · obtain ⟨-, -, hother, -⟩ := selectPreferredForCountry_some hselect
      exact absurd (hother code heq) hne
  | _ => exact absurd rfl hne

/-! ## What a lookup reports -/

/-- The reported proxies are in the catalog, of their country and healthy. -/
lemma currentPreferredProxyByCountry_some {server : Server} {panel : Panel}
    {reported : Dict String String}
    (h : currentPreferredProxyByCountry server panel = .ok reported) {code proxyId : String}
    (hreported : reported.get? code = some proxyId) :
    ∃ record, server.catalog.getRecord proxyId = some record ∧ record.code = code ∧
      IsHealthy panel.tests proxyId := by
  let Reported (valid : Dict String String) : Prop :=
    ∀ code proxyId, valid.get? code = some proxyId →
      ∃ record, server.catalog.getRecord proxyId = some record ∧ record.code = code ∧
        IsHealthy panel.tests proxyId
  refine foldlM_invariant (I := Reported) ?_ (by simp [Reported]) h code proxyId hreported
  rintro valid ⟨code', proxyId'⟩ valid' hvalid hstep
  dsimp only at hstep
  split at hstep
  · obtain rfl := Except.ok.inj hstep
    exact hvalid
  · rename_i record hrecord
    split at hstep
    · obtain rfl := Except.ok.inj hstep
      exact hvalid
    · rename_i hcode
      obtain ⟨healthy, hhealthy, hstep⟩ := bind_eq_ok hstep
      cases healthy with
      | false =>
        obtain rfl := Except.ok.inj hstep
        exact hvalid
      | true =>
        obtain rfl := Except.ok.inj hstep
        intro code₀ proxyId₀ hget
        rw [Dict.get?_set] at hget
        split at hget
        · rename_i heq
          obtain rfl := Option.some.inj hget
          have hsome : ∃ result, panel.tests.get? proxyId' = some result := by
            by_contra hne
            rw [Option.eq_none_iff_forall_ne_some.mpr fun r hr => hne ⟨r, hr⟩] at hhealthy
            cases hhealthy
          obtain ⟨result, hresult⟩ := hsome
          rw [hresult] at hhealthy
          exact ⟨record, hrecord, by rw [heq]; simpa using hcode, result, hresult, hhealthy⟩
        · exact hvalid code₀ proxyId₀ hget

/-- Whether a proxy is healthy can be told from a result that is kept. -/
lemma currentHealthy_kept {results : Dict String Obj} (h : Kept rt results) (proxyId : String) :
    ∃ healthy, currentHealthy (results.get? proxyId) = .ok healthy := by
  cases hresult : results.get? proxyId with
  | none => exact ⟨false, rfl⟩
  | some result =>
    obtain ⟨key, raw, hsanitize⟩ := h proxyId result hresult
    obtain ⟨_, _, _, _, -, hkept⟩ := sanitizeProxyTestResult_some hsanitize
    obtain ⟨healthy, hhealthy, -⟩ := hkept.currentHealthy
    exact ⟨healthy, hhealthy⟩

/-- A lookup does not fail. -/
lemma currentPreferredProxyByCountry_ok {server : Server} {panel : Panel}
    (h : Kept rt panel.tests) :
    ∃ reported, currentPreferredProxyByCountry server panel = .ok reported := by
  refine foldlM_ok (fun valid e => ?_) _ _
  split
  · exact ⟨valid, rfl⟩
  · split
    · exact ⟨valid, rfl⟩
    · refine exists_ok_bind (currentHealthy_kept h e.2) fun healthy => ?_
      cases healthy <;> exact ⟨_, rfl⟩

/-! ## Every run -/

/-- What a scan chooses is the best proxy among those it has tested, in every run; and what a
lookup reports is a healthy proxy of the country. -/
theorem preferred_sound {site : Site} {catalog : Catalog site.rt} {tests : Dict String Obj}
    {preferred : Dict String String} (htests : Kept site.rt tests)
    {visited : List (Scanner site.rt)} {events : List (ScanEvent site.rt)} {s : Scanner site.rt}
    (hrun : (scanner site.rt).Run (.fresh catalog tests preferred) visited events s) :
    (∀ l s' es, (scanner site.rt).step s l = some (s', es) →
      (∀ code found, .chosen code found ∈ es → SoundChoice (events ++ es) s' code found) ∧
      ∀ code, s'.preferred.get? code ≠ s.preferred.get? code → ∃ found, .chosen code found ∈ es) ∧
    ∀ now time (panel : Panel), panel.tests = s.tests → panel.preferred = s.preferred →
      ∃ reported, currentPreferredProxyByCountry ⟨site, s.catalog, now, time⟩ panel = .ok reported ∧
        ∀ code proxyId, reported.get? code = some proxyId →
          ∃ record, s.catalog.getRecord proxyId = some record ∧ record.code = code ∧
            IsHealthy s.tests proxyId := by
  have hfollowing : Following events s :=
    hrun.invariant_events (I := Following) (fun _ _ _ heq => by cases heq)
      fun events s l s' es hI hstep => hI.move (Scanner.step_move hstep)
  have hsane : s.Sane :=
    hrun.invariant (I := Scanner.Sane) (Scanner.sane_fresh htests)
      fun s l s' es hI hstep => hI.move (Scanner.step_move hstep)
  refine ⟨fun l s' es hstep => ?_, fun now time panel htests _ => ?_⟩
  · have hmove := Scanner.step_move hstep
    exact ⟨fun code found => SoundChoice.move hfollowing hmove, fun code => hmove.preferred⟩
  · have hok : ∃ reported,
        currentPreferredProxyByCountry ⟨site, s.catalog, now, time⟩ panel = .ok reported :=
      currentPreferredProxyByCountry_ok (htests ▸ hsane.kept : Kept site.rt panel.tests)
    obtain ⟨reported, hreported⟩ := hok
    refine ⟨reported, hreported, fun code proxyId hget => ?_⟩
    rw [← htests]
    exact currentPreferredProxyByCountry_some hreported hget

/-- The event is the choice of a proxy. -/
def isChoice (code proxyId : String) : ScanEvent rt → Bool
  | .chosen code' found => code' = code && found = some proxyId
  | _ => false

/-- A test that both targets have answered later. -/
def slowMeasurement : Measurement :=
  .tested (.answered 200 ⟨none, none, .fin 200, .fin 300⟩)
    (.answered 301 ⟨none, none, .fin 250, .fin 350⟩) ⟨"", "", ""⟩

/-- The first scan of a country with two healthy proxies chooses the faster one. -/
theorem preferred_sound_faster : ∃ events s',
    @SoundChoice (Site.bare scanRuntime).rt events s' "DE"
      (some (exampleRecord "c" "DE").id) := by
  obtain ⟨r, hr, hstep⟩ := (Option.any_eq_true _ _).mp
    (show ((scanner (Site.bare scanRuntime).rt).exec
      [.schedule (some {"de"}), .enqueue 0, .drain, .country,
        .measure (exampleRecord "a" "DE").id slowMeasurement "",
        .measure (exampleRecord "c" "DE").id exampleMeasurement ""]
      (.fresh exampleCatalogs.2 .empty .empty)).any (fun r =>
        ((scanner (Site.bare scanRuntime).rt).step r.2.2 .publish).any fun next =>
          next.2.any (isChoice "DE" (exampleRecord "c" "DE").id)) = true by decide +kernel)
  obtain ⟨⟨s', es⟩, hnext, hchoice⟩ := (Option.any_eq_true _ _).mp hstep
  obtain ⟨e, he, hevent⟩ := List.any_eq_true.mp hchoice
  have hrun := Machine.Run.start.exec hr
  obtain ⟨code, found, rfl⟩ : ∃ code found, e = .chosen code found := by
    cases e <;> simp_all [isChoice]
  obtain ⟨rfl, rfl⟩ : code = "DE" ∧ found = some (exampleRecord "c" "DE").id := by
    simpa [isChoice] using hevent
  exact ⟨_, s', ((preferred_sound (by simp [Kept]) hrun).1 _ s' es hnext).1 _ _ he⟩

end Routing
