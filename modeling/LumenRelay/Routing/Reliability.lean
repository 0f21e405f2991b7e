import LumenRelay.Routing.TestHistory

/-!
# Reliability

The reliability of a proxy is the share of its tests that were good.  The counters stop at a cap,
and there each test takes the place of an older one: of a failure, as long as there was one.  So
a failure at the cap lowers the reliability only if all the tests before were good.
-/

namespace Routing

open Lib Py

variable {rt : Runtime}

/-! ## One more test -/

/-- The share of the good tests; a proxy that was never tested has none. -/
def reliability (counts : ℤ × ℤ) : ℚ := counts.2 / counts.1

/-- A good test never lowers the reliability, and a bad one lowers what there is of it. -/
def RightWay (before : ℤ × ℤ) (ok : Bool) (after : ℤ × ℤ) : Prop :=
  if ok then reliability before ≤ reliability after
  else 0 < reliability before → reliability after < reliability before

/-- The test is good, or there is room for one more, or the share is that of no test or of all. -/
def Unsaturated (counts : ℤ × ℤ) (ok : Bool) : Prop :=
  ok = true ∨ counts.1 < 10000 ∨ counts.2 = 0 ∨ counts.2 = counts.1

instance (counts : ℤ × ℤ) (ok : Bool) : Decidable (Unsaturated counts ok) := by
  unfold Unsaturated
  infer_instance

/-- Below the cap a test is counted. -/
lemma nextCounts_of_lt {n k : ℤ} (hle : k ≤ n) (hcap : n < 10000) (ok : Bool) :
    nextCounts (n, k) ok = (n + 1, k + if ok then 1 else 0) := by
  unfold nextCounts
  dsimp only
  rw [min_eq_left (by omega : n ≤ 9999), min_eq_left hle]

/-- At the cap the number of tests stays, and one good test is forgotten if all were good. -/
lemma nextCounts_of_cap {k : ℤ} (ok : Bool) :
    nextCounts (10000, k) ok = (10000, min k 9999 + if ok then 1 else 0) := rfl

/-- A good test does not lower the reliability. -/
lemma reliability_good {counts : ℤ × ℤ} (h : Bounded counts) :
    reliability counts ≤ reliability (nextCounts counts true) := by
  obtain ⟨n, k⟩ := counts
  obtain ⟨hnonneg, hle, hcap⟩ := h
  dsimp only at hnonneg hle hcap
  rcases lt_or_eq_of_le hcap with hlt | rfl
  · rw [nextCounts_of_lt hle hlt, reliability, reliability]
    rcases lt_or_eq_of_le (hnonneg.trans hle) with hpos | rfl
    · have hn : (0 : ℚ) < n := by exact_mod_cast hpos
      have hk : (k : ℚ) ≤ n := by exact_mod_cast hle
      rw [div_le_div_iff₀ hn (by push_cast; linarith)]
      simp only [if_true]
      push_cast
      nlinarith
    · simp
      positivity
  · rw [nextCounts_of_cap, reliability, reliability]
    have hk : k ≤ min k 9999 + 1 := by omega
    have hkq : (k : ℚ) ≤ ((min k 9999 + if true then 1 else 0 : ℤ) : ℚ) := by exact_mod_cast hk
    exact div_le_div_of_nonneg_right hkq (by norm_num)

/-- A bad test lowers the reliability unless it takes the place of another bad one. -/
lemma reliability_bad {counts : ℤ × ℤ} (h : Bounded counts) (hpos : 0 < counts.2) :
    reliability (nextCounts counts false) < reliability counts ↔
      counts.1 < 10000 ∨ counts.2 = counts.1 := by
  obtain ⟨n, k⟩ := counts
  obtain ⟨-, hle, hcap⟩ := h
  dsimp only at hpos hle hcap ⊢
  rcases lt_or_eq_of_le hcap with hlt | rfl
  · rw [nextCounts_of_lt hle hlt, reliability, reliability]
    refine iff_of_true ?_ (.inl hlt)
    have hn : (0 : ℚ) < n := by exact_mod_cast hpos.trans_le hle
    have hk : (0 : ℚ) < k := by exact_mod_cast hpos
    simp only [Bool.false_eq_true, if_false, add_zero]
    push_cast
    exact div_lt_div_of_pos_left hk hn (by linarith)
  · rw [nextCounts_of_cap, reliability, reliability]
    simp only [Bool.false_eq_true, if_false, add_zero, lt_irrefl, false_or]
    rw [div_lt_div_iff_of_pos_right (by norm_num), Int.cast_lt]
    omega

/-- The counters move the right way exactly when the test is not swallowed by the cap. -/
lemma rightWay_iff {counts : ℤ × ℤ} (h : Bounded counts) (ok : Bool) :
    RightWay counts ok (nextCounts counts ok) ↔ Unsaturated counts ok := by
  unfold RightWay Unsaturated
  cases ok with
  | true => simpa using reliability_good h
  | false =>
    simp only [Bool.false_eq_true, if_false, false_or]
    rcases lt_or_eq_of_le h.nonneg with hpos | hzero
    · have hcast : (0 : ℚ) < counts.2 := by exact_mod_cast hpos
      have hcast' : (0 : ℚ) < counts.1 := by exact_mod_cast hpos.trans_le h.le
      have hreliable : 0 < reliability counts := div_pos hcast hcast'
      have hlower := reliability_bad h hpos
      constructor
      · intro hmoves
        have := hlower.mp (hmoves hreliable)
        omega
      · exact fun hroom _ => hlower.mpr (by omega)
    · have hnone : reliability counts = 0 := by simp [reliability, ← hzero]
      simp [hnone, ← hzero]

/-! ## All tests -/

variable {s : Scanner rt} {events : List (ScanEvent rt)} {visited : List (Scanner rt)}
  {catalog : Catalog rt} {tests : Dict String Obj} {preferred : Dict String String}

/-- A step of the tests of one proxy: no test of it has ended and its counters stay, or one has,
and they move the right way exactly when the cap does not swallow it. -/
def MovesRight (before : ℤ × ℤ) (outcomes : List Bool) (after : ℤ × ℤ) : Prop :=
  outcomes = [] ∧ after = before ∨
    ∃ ok, outcomes = [ok] ∧ (RightWay before ok after ↔ Unsaturated before ok)

lemma Continues.movesRight {before after : ℤ × ℤ} {outcomes : List Bool}
    (h : Continues before outcomes after) : MovesRight before outcomes after := by
  rcases h with h | ⟨ok, houtcomes, hbounded, rfl⟩
  · exact .inl h
  · exact .inr ⟨ok, houtcomes, rightWay_iff hbounded ok⟩

/-- Whatever has been tested before, the counters that are published stay in their range, and while
no single test ends for a proxy of which a scan holds a result, each test moves the counters the
right way exactly when the cap does not swallow it. -/
theorem reliability_moves_right (hdigest : HexDigest rt) (htests : Kept rt tests)
    (hrun : (scanner rt).Run (.fresh catalog tests preferred) visited events s) :
    (∀ proxyId, Bounded (storedCounts s.tests proxyId)) ∧
      (∀ proxyId, s.unpublished proxyId = none →
        s.latest proxyId = storedCounts s.tests proxyId) ∧
      ∀ l s' es, Undisturbed s l → (scanner rt).step s l = some (s', es) → ∀ proxyId,
        MovesRight (s.latest proxyId) (outcomes es proxyId) (s'.latest proxyId) := by
  have hs : s.Sane := hrun.invariant (Scanner.sane_fresh htests)
    fun s l s' es hs hstep => hs.move (Scanner.step_move hstep)
  refine ⟨fun proxyId => bounded_storedCounts hs.kept proxyId, fun proxyId hnone => ?_, ?_⟩
  · rw [Scanner.latest, hnone]
    rfl
  · intro l s' es hundisturbed hstep proxyId
    exact (s.latest_move hdigest hs hundisturbed (Scanner.step_move hstep) proxyId).movesRight

/-- A bad test after a good one. -/
theorem reliability_moves_right_twice : ∃ visited events, ∃ s : Scanner scanRuntime,
    (scanner scanRuntime).Run (.fresh exampleCatalogs.1 .empty .empty) visited events s ∧
      storedCounts s.tests (exampleRecord "a" "DE").id = (1, 1) ∧ RightWay (1, 1) false (2, 1) := by
  set id := (exampleRecord "a" "DE").id with hid
  have hends : ∃ visited events, ∃ s : Scanner scanRuntime,
      (scanner scanRuntime).Run (.fresh exampleCatalogs.1 .empty .empty) visited events s ∧
      (s.unpublished id = none ∧ storedCounts s.tests id = (1, 1) ∧
        Undisturbed s (.store 1 (.raised "TimeoutError") "") ∧
        (((scanner scanRuntime).step s (.store 1 (.raised "TimeoutError") "")).any fun r =>
          decide (outcomes r.2 id = [false] ∧ r.1.latest id = (2, 1))) = true) :=
    Machine.exists_run
      [.begin id, .store 0 exampleMeasurement "", .begin id] (by decide +kernel)
  obtain ⟨visited, events, s, hrun, hnone, hcounts, hundisturbed, hstep⟩ := hends
  obtain ⟨⟨s', es⟩, hs', hafter⟩ := (Option.any_eq_true _ _).mp hstep
  obtain ⟨houtcomes, hlatest⟩ := of_decide_eq_true hafter
  obtain ⟨-, hpublished, hmoves⟩ := reliability_moves_right scanRuntime_digest (by simp [Kept]) hrun
  have hbefore := hpublished id hnone
  rcases hmoves _ s' es hundisturbed hs' id with ⟨hempty, -⟩ | ⟨ok, hok, hright⟩
  · exact absurd (houtcomes.symm.trans hempty) (by decide)
  · obtain rfl : false = ok := by simpa using houtcomes.symm.trans hok
    rw [hbefore, hcounts, hlatest] at hright
    exact ⟨visited, events, s, hrun, hcounts, hright.mpr (by decide)⟩

/-- The results of a proxy with ten thousand tests, half of them good. -/
def halfReliable : Dict String Obj :=
  let record := exampleRecord "a" "DE"
  match sanitizeProxyTestResult scanRuntime (.str record.id)
      (.obj (countedResult record exampleMeasurement "" (9999, 4999))) with
  | .ok (some (id, result)) => Dict.empty.set id result
  | _ => .empty

lemma halfReliable_kept : Kept scanRuntime halfReliable := by
  unfold halfReliable
  dsimp only
  split
  · rename_i id result hresult
    exact Kept.set (by simp [Kept]) ⟨_, _, hresult⟩
  · simp [Kept]

/-- A bad test at the cap leaves half of the tests good. -/
theorem reliability_stays : Kept scanRuntime halfReliable ∧
    ∃ visited events, ∃ s : Scanner scanRuntime,
      (scanner scanRuntime).Run (.fresh exampleCatalogs.1 halfReliable .empty) visited events s ∧
      storedCounts halfReliable (exampleRecord "a" "DE").id = (10000, 5000) ∧
      outcomes events (exampleRecord "a" "DE").id = [false] ∧
      storedCounts s.tests (exampleRecord "a" "DE").id = (10000, 5000) ∧
      ¬ RightWay (10000, 5000) false (10000, 5000) := by
  have hends : ∃ visited events, ∃ s : Scanner scanRuntime,
      (scanner scanRuntime).Run (.fresh exampleCatalogs.1 halfReliable .empty) visited events s ∧
      (outcomes events (exampleRecord "a" "DE").id = [false] ∧
        storedCounts s.tests (exampleRecord "a" "DE").id = (10000, 5000)) :=
    Machine.exists_run
      [.begin (exampleRecord "a" "DE").id, .store 0 (.raised "TimeoutError") ""] (by decide +kernel)
  obtain ⟨_, _, _, hrun, houtcomes, hcounts⟩ := hends
  refine ⟨halfReliable_kept, _, _, _, hrun, by decide +kernel, houtcomes, hcounts, fun hright => ?_⟩
  have hlower := hright (by norm_num [reliability])
  exact lt_irrefl _ hlower

end Routing
