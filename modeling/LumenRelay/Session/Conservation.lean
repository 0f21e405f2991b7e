import LumenRelay.Lib.Machine
import LumenRelay.Session.QuotaGate

/-!
# Calls of a quota gate

A gate is called by one pump, which stages bytes, commits batches and flushes at the end.  While
every commit is accepted, no byte is lost between the three and none is counted twice.
-/

namespace Session

open Lib Py Routing

/-! ## Calls -/

namespace QuotaGate

/-- `commit`, with what `_consume` answers when it is asked. -/
def commit (gate : QuotaGate) (amount : ℤ) (result : Bool) : Bool × QuotaGate :=
  if amount ≤ 0 then (gate.ok, gate) else (gate.ok && result, { gate with ok := gate.ok && result })

/-- `flush`: the bytes that it commits, and the gate afterwards. -/
def flush (gate : QuotaGate) (result : Bool) : ℕ × QuotaGate :=
  if gate.pending = 0 then (0, gate)
  else (gate.pending, (({ gate with pending := 0 } : QuotaGate).commit gate.pending result).2)

end QuotaGate

/-- A call of a gate: a number of bytes with the clock, a commit or a flush with what the counter
of the link answers. -/
inductive GateCall
  | stage (nbytes : ℤ) (now : ℚ)
  | commit (amount : ℤ) (result : Bool)
  | flush (result : Bool)

/-- What the calls of a gate tell about bytes: that they were staged, returned for a commit or
flushed. -/
inductive GateEvent
  | staged (nbytes : ℕ)
  | returned (amount : ℕ)
  | flushed (amount : ℕ)

namespace GateEvent

/-- The bytes that were staged. -/
def stagedBytes : GateEvent → ℕ
  | staged nbytes => nbytes
  | _ => 0

/-- The bytes that were returned for a commit. -/
def returnedBytes : GateEvent → ℕ
  | returned amount => amount
  | _ => 0

/-- The bytes that were flushed. -/
def flushedBytes : GateEvent → ℕ
  | flushed amount => amount
  | _ => 0

end GateEvent

/-- The sum of a count over events. -/
def totalBytes (count : GateEvent → ℕ) (events : List GateEvent) : ℕ := (events.map count).sum

@[simp] lemma totalBytes_nil (count : GateEvent → ℕ) : totalBytes count [] = 0 := rfl

@[simp] lemma totalBytes_append (count : GateEvent → ℕ) (events es : List GateEvent) :
    totalBytes count (events ++ es) = totalBytes count events + totalBytes count es := by
  simp [totalBytes]

@[simp] lemma totalBytes_cons (count : GateEvent → ℕ) (e : GateEvent) (es : List GateEvent) :
    totalBytes count (e :: es) = count e + totalBytes count es := by
  simp [totalBytes]

/-- The amount that `stage` returns for a commit. -/
def QuotaGate.Verdict.amount : QuotaGate.Verdict → ℕ
  | .batch amount => amount
  | _ => 0

namespace GateCall

/-- A call of a gate; an amount that is not positive is staged as none. -/
def run (rt : Runtime) (gate : QuotaGate) : GateCall → QuotaGate × List GateEvent
  | stage nbytes now =>
    let (verdict, gate') := gate.stage rt nbytes.toNat now
    (gate', [.staged nbytes.toNat, .returned verdict.amount])
  | commit amount result => ((gate.commit amount result).2, [])
  | flush result => ((gate.flush result).2, [.flushed (gate.flush result).1])

/-- The counter of the link does not refuse. -/
def accepted : GateCall → Bool
  | stage _ _ => true
  | commit _ result => result
  | flush result => result

end GateCall

/-- The calls of a gate. -/
def gateCalls (rt : Runtime) : Machine QuotaGate GateCall GateEvent where
  step gate call := some (call.run rt gate)

/-! ## Conservation -/

namespace QuotaGate

variable {rt : Runtime} {gate : QuotaGate}

/-- The gate is open, and less than a batch waits at it. -/
structure Open (gate : QuotaGate) : Prop where
  ok : gate.ok = true
  below : gate.pending < gate.batchBytes

/-- Nothing waits, so less than a batch does. -/
lemma below_of_pending {gate : QuotaGate} (h : gate.pending = 0) : gate.pending < gate.batchBytes := by
  have hge := gate.batch_ge
  unfold quotaMinBatch at hge
  omega

/-- Staging at an open gate: the bytes wait, with less than a batch, or all that waits is
returned. -/
lemma Open.stage (h : gate.Open) (nbytes : ℕ) (now : ℚ) {verdict : Verdict} {gate' : QuotaGate}
    (hstage : gate.stage rt nbytes now = (verdict, gate')) :
    gate'.Open ∧ gate'.maxBatch = gate.maxBatch ∧
      verdict.amount + gate'.pending = gate.pending + nbytes := by
  unfold QuotaGate.stage at hstage
  rw [h.ok] at hstage
  simp only [Bool.not_true, Bool.false_eq_true, if_false] at hstage
  split_ifs at hstage with hnone hhot hearly
  · obtain ⟨rfl, rfl⟩ := Prod.mk.inj hstage
    exact ⟨h, rfl, by simp [Verdict.amount, hnone]⟩
  · obtain ⟨rfl, rfl⟩ := Prod.mk.inj hstage
    exact ⟨⟨rfl, hhot.1⟩, rfl, Nat.zero_add _⟩
  · obtain ⟨rfl, rfl⟩ := Prod.mk.inj hstage
    exact ⟨⟨rfl, hearly.1⟩, rfl, Nat.zero_add _⟩
  · obtain ⟨rfl, rfl⟩ := Prod.mk.inj hstage
    exact ⟨⟨by simp, below_of_pending (by simp)⟩, by simp, by simp [Verdict.amount]⟩

lemma Open.commit (h : gate.Open) (amount : ℤ) :
    (gate.commit amount true).2.Open ∧ (gate.commit amount true).2.maxBatch = gate.maxBatch ∧
      (gate.commit amount true).2.pending = gate.pending := by
  unfold QuotaGate.commit
  split
  · exact ⟨h, rfl, rfl⟩
  · exact ⟨⟨by simpa using h.ok, h.below⟩, rfl, rfl⟩

lemma Open.flush (h : gate.Open) :
    (gate.flush true).2.Open ∧ (gate.flush true).2.maxBatch = gate.maxBatch ∧
      (gate.flush true).1 + (gate.flush true).2.pending = gate.pending := by
  unfold QuotaGate.flush
  split
  · rename_i hnone
    exact ⟨h, rfl, Nat.zero_add _⟩
  · have hdrained : Open ({ gate with pending := 0 } : QuotaGate) := ⟨h.ok, below_of_pending rfl⟩
    obtain ⟨hopen, hmax, hpending⟩ := hdrained.commit gate.pending
    refine ⟨hopen, hmax, ?_⟩
    dsimp only
    rw [hpending]
    rfl

lemma open_create {link : Option Obj} {now : ℚ} (h : create rt link now = .ok gate) : gate.Open := by
  refine ⟨?_, below_of_pending (create_pending h)⟩
  obtain ⟨limit, -, h⟩ := bind_eq_ok h
  split at h
  all_goals
    obtain rfl := Except.ok.inj h
    rfl

end QuotaGate

/-- One accepted call moves the bytes that it takes to where it says. -/
lemma GateCall.conserves {rt : Runtime} {gate : QuotaGate} (h : gate.Open) {call : GateCall}
    (hcall : call.accepted = true) :
    (call.run rt gate).1.Open ∧ (call.run rt gate).1.maxBatch = gate.maxBatch ∧
      totalBytes GateEvent.returnedBytes (call.run rt gate).2 +
          totalBytes GateEvent.flushedBytes (call.run rt gate).2 + (call.run rt gate).1.pending =
        gate.pending + totalBytes GateEvent.stagedBytes (call.run rt gate).2 := by
  cases call with
  | stage nbytes now =>
    rcases hstage : gate.stage rt nbytes.toNat now with ⟨verdict, gate'⟩
    obtain ⟨hopen, hmax, hsum⟩ := h.stage nbytes.toNat now hstage
    have hrun : (GateCall.stage nbytes now).run rt gate =
        (gate', [.staged nbytes.toNat, .returned verdict.amount]) := by
      rw [GateCall.run, hstage]
    rw [hrun]
    refine ⟨hopen, hmax, ?_⟩
    simpa [GateEvent.returnedBytes, GateEvent.flushedBytes, GateEvent.stagedBytes] using hsum
  | commit amount result =>
    obtain rfl : result = true := hcall
    obtain ⟨hopen, hmax, hpending⟩ := h.commit amount
    refine ⟨hopen, hmax, ?_⟩
    simpa [GateCall.run] using hpending
  | flush result =>
    obtain rfl : result = true := hcall
    obtain ⟨hopen, hmax, hsum⟩ := h.flush
    refine ⟨hopen, hmax, ?_⟩
    simpa [GateCall.run, GateEvent.returnedBytes, GateEvent.flushedBytes, GateEvent.stagedBytes]
      using hsum

/-- While commits are accepted, the bytes that were returned or flushed and those that wait are
the bytes that were staged; the batch keeps its bounds; and less than a batch waits after a call
that leaves bytes at the gate. -/
theorem gate_conserves {rt : Runtime} {link : Option Obj} {now : ℚ} {gate₀ gate : QuotaGate}
    {visited : List QuotaGate} {events : List GateEvent}
    (hcreate : QuotaGate.create rt link now = .ok gate₀)
    (hrun : ((gateCalls rt).restrict fun _ call => call.accepted = true).Run
      gate₀ visited events gate) :
    totalBytes GateEvent.returnedBytes events + totalBytes GateEvent.flushedBytes events + gate.pending =
        totalBytes GateEvent.stagedBytes events ∧
      (quotaMinBatch ≤ gate.batchBytes ∧ gate.batchBytes ≤ gate.maxBatch ∧
        gate.maxBatch = gate₀.maxBatch) ∧
      ∀ (nbytes : ℤ) (now : ℚ) (gate' : QuotaGate),
        gate.stage rt nbytes.toNat now = (.hot, gate') → gate'.pending < gate'.batchBytes := by
  obtain ⟨hopen, hmax, hsum⟩ : gate.Open ∧ gate.maxBatch = gate₀.maxBatch ∧
      totalBytes GateEvent.returnedBytes events + totalBytes GateEvent.flushedBytes events + gate.pending =
        totalBytes GateEvent.stagedBytes events := by
    refine hrun.invariant_events (I := fun events gate => gate.Open ∧ gate.maxBatch = gate₀.maxBatch ∧
      totalBytes GateEvent.returnedBytes events + totalBytes GateEvent.flushedBytes events + gate.pending =
        totalBytes GateEvent.stagedBytes events) ?_ ?_
    · exact ⟨QuotaGate.open_create hcreate, rfl, by simpa using QuotaGate.create_pending hcreate⟩
    · rintro events gate call gate' es ⟨hopen, hmax, hsum⟩ hstep
      obtain ⟨haccepted, hstep⟩ := Machine.restrict_step.mp hstep
      obtain ⟨hopen', hmax', hsum'⟩ := @GateCall.conserves rt gate hopen call haccepted
      rw [show call.run rt gate = (gate', es) from Option.some.inj hstep] at hopen' hmax' hsum'
      refine ⟨hopen', hmax'.trans hmax, ?_⟩
      dsimp only at hsum'
      rw [totalBytes_append, totalBytes_append, totalBytes_append]
      omega
  refine ⟨hsum, ⟨gate.batch_ge, gate.batch_le, hmax⟩, fun nbytes now gate' hstage => ?_⟩
  exact (hopen.stage nbytes.toNat now hstage).1.below

lemma example_batch_ge : quotaMinBatch ≤ 512 * 1024 := by decide

lemma example_batch_le : 512 * 1024 ≤ quotaUnlimitedMaxBatch := by decide

/-- A gate for a link without limit. -/
def exampleGate : QuotaGate where
  pending := 0
  lastCheck := 0
  ok := true
  batchBytes := 512 * 1024
  rateEwma := 0
  maxBatch := quotaUnlimitedMaxBatch
  checkInterval := 1 / 2
  ticks := 0
  batch_ge := example_batch_ge
  batch_le := example_batch_le

/-- A batch of two frames is committed, and a third frame is flushed. -/
theorem gate_conserves_upload : ∃ visited events gate,
    ((gateCalls .ascii).restrict fun _ call => call.accepted = true).Run
        exampleGate visited events gate ∧
      totalBytes GateEvent.returnedBytes events + totalBytes GateEvent.flushedBytes events +
        gate.pending = totalBytes GateEvent.stagedBytes events ∧
      totalBytes GateEvent.stagedBytes events = 600105 ∧ gate.pending = 0 := by
  have hends : ∃ visited events gate,
      ((gateCalls .ascii).restrict fun _ call => call.accepted = true).Run
        exampleGate visited events gate ∧
      (totalBytes GateEvent.stagedBytes events = 600105 ∧ gate.pending = 0) :=
    Machine.exists_run
      [.stage 100 0, .stage 600000 1, .commit 600100 true, .stage (-3) 1, .stage 5 1, .flush true]
      (by decide +kernel)
  obtain ⟨_, _, _, hrun, hstaged, hpending⟩ := hends
  exact ⟨_, _, _, hrun, (@gate_conserves .ascii none 0 _ _ _ _ rfl hrun).1, hstaged, hpending⟩

end Session
