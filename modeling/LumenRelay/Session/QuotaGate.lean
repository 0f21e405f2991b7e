import LumenRelay.Session.Links

/-!
# Quota gates and pumps

A session moves bytes in two directions, each by a pump.  A pump stages every frame at its
quota gate, which collects the bytes and lets them be committed in batches; the pump forwards
the frame when it was staged, or when the batch that ends with it was committed.  When it stops,
it flushes what is left.
-/

namespace Session

open Lib Py Routing

/-! ## The gate -/

/-- `QUOTA_MIN_BATCH`. -/
def quotaMinBatch : ℕ := 64 * 1024

/-- `QUOTA_METERED_MAX_BATCH`. -/
def quotaMeteredMaxBatch : ℕ := 1024 * 1024

/-- `QUOTA_UNLIMITED_MAX_BATCH`. -/
def quotaUnlimitedMaxBatch : ℕ := 8 * 1024 * 1024

/-- `QUOTA_TIME_CHECK_EVERY`. -/
def quotaTimeCheckEvery : ℕ := 32

/-- `QuotaGate`, with the bounds of its batch. -/
structure QuotaGate where
  pending : ℕ
  lastCheck : ℚ
  ok : Bool
  batchBytes : ℕ
  rateEwma : ℚ
  maxBatch : ℕ
  checkInterval : ℚ
  ticks : ℕ
  batch_ge : quotaMinBatch ≤ batchBytes
  batch_le : batchBytes ≤ maxBatch

namespace QuotaGate

/-- A new gate, on the link that is there. -/
def create (rt : Runtime) (link : Option Obj) (now : ℚ) : Except PyErr QuotaGate := do
  let limit ← (((link.getD []).getD "limit_bytes" (.int 0)).or (.int 0)).toInt rt
  if 0 < limit then
    return {
      pending := 0, lastCheck := now, ok := true, batchBytes := 64 * 1024, rateEwma := 0
      maxBatch := quotaMeteredMaxBatch, checkInterval := 1 / 5, ticks := 0
      batch_ge := by decide
      batch_le := by decide }
  else
    return {
      pending := 0, lastCheck := now, ok := true, batchBytes := 512 * 1024, rateEwma := 0
      maxBatch := quotaUnlimitedMaxBatch, checkInterval := 1 / 2, ticks := 0
      batch_ge := by decide
      batch_le := by decide }

/-- The gate after a batch of some bytes: a new batch size from the rate of this one. -/
def adapt (rt : Runtime) (gate : QuotaGate) (amount : ℕ) (elapsed : ℚ) : QuotaGate :=
  if 0 < elapsed then
    let instantRate := rounded rt (amount / elapsed)
    let rate := if gate.rateEwma = 0 then instantRate
      else rounded rt (rounded rt (3 / 4 * gate.rateEwma) + rounded rt (1 / 4 * instantRate))
    let target := ⌊rounded rt (rate * gate.checkInterval)⌋.toNat
    let wanted := if target = 0 then quotaMinBatch else target
    { gate with
      rateEwma := rate
      batchBytes := max quotaMinBatch (min gate.maxBatch wanted)
      batch_ge := Nat.le_max_left _ _
      batch_le := Nat.max_le.mpr ⟨gate.batch_ge.trans gate.batch_le, Nat.min_le_left _ _⟩ }
  else gate

/-- What `stage` returns: -1, 0 or the bytes to commit. -/
inductive Verdict
  | denied
  | hot
  | batch (amount : ℕ)
deriving DecidableEq, Repr

/-- `stage`. -/
def stage (rt : Runtime) (gate : QuotaGate) (nbytes : ℕ) (now : ℚ) : Verdict × QuotaGate :=
  if !gate.ok then (.denied, gate)
  else if nbytes = 0 then (.hot, gate)
  else
    let pending := gate.pending + nbytes
    let ticks := gate.ticks + 1
    let elapsed := rounded rt (now - gate.lastCheck)
    if pending < gate.batchBytes ∧ ticks % quotaTimeCheckEvery ≠ 0 then
      (.hot, { gate with pending := pending, ticks := ticks })
    else if pending < gate.batchBytes ∧ elapsed < gate.checkInterval then
      (.hot, { gate with pending := pending, ticks := ticks })
    else
      let drained := { gate with pending := 0, ticks := ticks }
      (.batch pending, { drained.adapt rt pending elapsed with lastCheck := now })

variable {rt : Runtime} {gate : QuotaGate}

@[simp] lemma adapt_pending (amount : ℕ) (elapsed : ℚ) :
    (gate.adapt rt amount elapsed).pending = gate.pending := by
  unfold adapt
  split <;> rfl

@[simp] lemma adapt_ok (amount : ℕ) (elapsed : ℚ) :
    (gate.adapt rt amount elapsed).ok = gate.ok := by
  unfold adapt
  split <;> rfl

@[simp] lemma adapt_maxBatch (amount : ℕ) (elapsed : ℚ) :
    (gate.adapt rt amount elapsed).maxBatch = gate.maxBatch := by
  unfold adapt
  split <;> rfl

/-- What staging some bytes does: nothing, since the gate is closed; the bytes wait, with less
than a batch; or a batch is to be committed. -/
lemma stage_cases (rt : Runtime) (gate : QuotaGate) {nbytes : ℕ} (hpos : 0 < nbytes) (now : ℚ) :
    (gate.ok = false ∧ gate.stage rt nbytes now = (.denied, gate)) ∨
      (∃ gate', gate.stage rt nbytes now = (.hot, gate') ∧ gate'.ok = gate.ok ∧
        gate'.maxBatch = gate.maxBatch ∧ gate'.pending = gate.pending + nbytes ∧
        gate'.pending < gate'.maxBatch) ∨
      ∃ gate', gate.stage rt nbytes now = (.batch (gate.pending + nbytes), gate') ∧
        gate'.ok = gate.ok ∧ gate'.maxBatch = gate.maxBatch ∧ gate'.pending = 0 := by
  have hle := gate.batch_le
  unfold stage
  cases hok : gate.ok with
  | false => exact .inl ⟨rfl, rfl⟩
  | true =>
    right
    simp only [Bool.not_true, Bool.false_eq_true, if_false, if_neg (show nbytes ≠ 0 by omega)]
    split
    · rename_i hhot
      exact .inl ⟨_, rfl, rfl, rfl, rfl, hhot.1.trans_le hle⟩
    · split
      · rename_i hhot
        exact .inl ⟨_, rfl, rfl, rfl, rfl, hhot.1.trans_le hle⟩
      · exact .inr ⟨_, rfl, by simp, by simp, by simp⟩

/-- Nothing waits at a new gate. -/
lemma create_pending {rt : Runtime} {link : Option Obj} {now : ℚ} {gate : QuotaGate}
    (h : create rt link now = .ok gate) : gate.pending = 0 := by
  obtain ⟨limit, -, h⟩ := bind_eq_ok h
  split at h
  all_goals
    obtain rfl := Except.ok.inj h
    rfl

/-- A gate on a metered link has small batches. -/
lemma create_metered {rt : Runtime} {link : Obj} {now : ℚ} {gate : QuotaGate} {limit : ℤ}
    (hlimit : link.get "limit_bytes" = .int limit) (hpos : 0 < limit)
    (h : create rt (some link) now = .ok gate) :
    gate.maxBatch = quotaMeteredMaxBatch := by
  unfold create at h
  have hfield : ((Option.getD (some link) []).getD "limit_bytes" (.int 0)) = .int limit :=
    getD_of_get hlimit (by simp) _
  have hor : (Json.int limit).or (.int 0) = .int limit := by
    unfold Json.or Json.truthy
    simp [show limit ≠ 0 by omega]
  rw [hfield, hor, Json.toInt, ok_bind, if_pos hpos] at h
  obtain rfl := Except.ok.inj h
  rfl

end QuotaGate

/-! ## Pumps -/

/-- Where a pump is: it reads; it waits for the commit of a batch that ends with a frame; it is
about to forward a frame; it has stopped, with some bytes of its batch never forwarded; it waits
for the commit of its flush; it has ended. -/
inductive Phase
  | reading
  | committing (amount frame : ℕ)
  | passing (frame : ℕ)
  | closing (unsent : ℕ)
  | flushing (amount unsent : ℕ)
  | done
deriving DecidableEq, Repr

/-- A pump, and how many bytes it received, let through its gate, forwarded and added to the
counter of its link. -/
structure Pump where
  gate : QuotaGate
  phase : Phase
  received : ℕ
  accepted : ℕ
  forwarded : ℕ
  counted : ℕ

namespace Pump

/-- What happens to a pump: a frame arrives; a commit goes through; the frame is forwarded; the
pump stops, by itself or cancelled between two awaits; it flushes; the wait for a commit is
cancelled. -/
inductive Action
  | receive (nbytes : ℕ) (now : ℚ)
  | commit (server : Server) (subs : Dict String Obj)
  | forward
  | stop
  | flush
  | cancel

/-- A new pump. -/
def create (gate : QuotaGate) : Pump := ⟨gate, .reading, 0, 0, 0, 0⟩

/-- A frame is staged. -/
def receive (rt : Runtime) (pump : Pump) (nbytes : ℕ) (now : ℚ) : Pump :=
  let received := pump.received + nbytes
  match pump.gate.stage rt nbytes now with
  | (.denied, gate) => { pump with gate := gate, received := received, phase := .closing 0 }
  | (.hot, gate) =>
    { pump with
      gate := gate, received := received, phase := .passing nbytes
      accepted := pump.accepted + nbytes }
  | (.batch amount, gate) =>
    { pump with gate := gate, received := received, phase := .committing amount nbytes }

/-- A batch was counted, and its last frame passes. -/
def pass (pump : Pump) (amount frame : ℕ) : Pump :=
  { pump with
    phase := .passing frame, accepted := pump.accepted + frame
    counted := pump.counted + amount }

/-- A batch was refused: the gate is closed for good. -/
def refuse (pump : Pump) (phase : Phase) : Pump :=
  { pump with gate := { pump.gate with ok := false }, phase := phase }

/-- The commit of a batch goes through; an error in it ends the pump as a cancellation does. -/
def commit (server : Server) (subs links : Dict String Obj) (uid : String) (pump : Pump) :
    Option (Pump × Dict String Obj) :=
  match pump.phase with
  | .committing amount frame =>
    match checkAndUse server subs uid amount links with
    | .ok (true, links') => some (pump.pass amount frame, links')
    | .ok (false, links') => some (pump.refuse (.closing 0), links')
    | .error _ => some ({ pump with phase := .closing 0 }, links)
  | .flushing amount _ =>
    match checkAndUse server subs uid amount links with
    | .ok (true, links') =>
      some ({ pump with phase := .done, counted := pump.counted + amount }, links')
    | .ok (false, links') => some (pump.refuse .done, links')
    | .error _ => some ({ pump with phase := .done }, links)
  | _ => none

/-- One step of a pump of the link `uid`. -/
def step (rt : Runtime) (uid : String) (links : Dict String Obj) (pump : Pump) :
    Action → Option (Pump × Dict String Obj)
  | .receive nbytes now =>
    if pump.phase = .reading ∧ 0 < nbytes then some (pump.receive rt nbytes now, links) else none
  | .commit server subs => pump.commit server subs links uid
  | .forward =>
    match pump.phase with
    | .passing frame =>
      some ({ pump with phase := .reading, forwarded := pump.forwarded + frame }, links)
    | _ => none
  | .stop =>
    match pump.phase with
    | .reading => some ({ pump with phase := .closing 0 }, links)
    | .passing frame =>
      some ({ pump with phase := .closing (min frame pump.gate.pending) }, links)
    | _ => none
  | .flush =>
    match pump.phase with
    | .closing unsent =>
      if pump.gate.pending = 0 then some ({ pump with phase := .done }, links)
      else
        some ({ pump with
          gate := { pump.gate with pending := 0 }
          phase := .flushing pump.gate.pending unsent }, links)
    | _ => none
  | .cancel =>
    match pump.phase with
    | .committing _ _ => some ({ pump with phase := .closing 0 }, links)
    | .flushing _ _ => some ({ pump with phase := .done }, links)
    | _ => none

/-! ## What a step of a pump can do -/

/-- The steps of a pump; `added` are the bytes that a step adds to the counter of the link, and
`lost` the bytes of frames before the last that a batch takes with it when it is not counted. -/
inductive Moves : (p p' : Pump) → (added lost : ℕ) → Prop
  | denied {p : Pump} {n : ℕ} : p.phase = .reading →
      Moves p { p with phase := .closing 0, received := p.received + n } 0 0
  | hot {p : Pump} {n : ℕ} {gate : QuotaGate} : p.phase = .reading →
      gate.maxBatch = p.gate.maxBatch → gate.pending = p.gate.pending + n →
      gate.pending < gate.maxBatch →
      Moves p
        { p with
          gate := gate, phase := .passing n, received := p.received + n
          accepted := p.accepted + n } 0 0
  | batch {p : Pump} {n : ℕ} {gate : QuotaGate} : p.phase = .reading →
      gate.maxBatch = p.gate.maxBatch → gate.pending = 0 →
      Moves p
        { p with
          gate := gate, phase := .committing (p.gate.pending + n) n
          received := p.received + n } 0 0
  | counted {p : Pump} {amount n : ℕ} : p.phase = .committing amount n →
      Moves p (p.pass amount n) amount 0
  | refused {p : Pump} {amount n : ℕ} {gate : QuotaGate} : p.phase = .committing amount n →
      gate.maxBatch = p.gate.maxBatch → gate.pending = p.gate.pending →
      Moves p { p with gate := gate, phase := .closing 0 } 0 (amount - n)
  | forwarded {p : Pump} {n : ℕ} : p.phase = .passing n →
      Moves p { p with phase := .reading, forwarded := p.forwarded + n } 0 0
  | stopped {p : Pump} : p.phase = .reading → Moves p { p with phase := .closing 0 } 0 0
  | interrupted {p : Pump} {n : ℕ} : p.phase = .passing n →
      Moves p { p with phase := .closing (min n p.gate.pending) } 0 0
  | flushing {p : Pump} {unsent : ℕ} : p.phase = .closing unsent →
      Moves p
        { p with
          gate := { p.gate with pending := 0 }, phase := .flushing p.gate.pending unsent } 0 0
  | empty {p : Pump} {unsent : ℕ} : p.phase = .closing unsent → p.gate.pending = 0 →
      Moves p { p with phase := .done } 0 0
  | flushed {p : Pump} {amount unsent : ℕ} : p.phase = .flushing amount unsent →
      Moves p { p with phase := .done, counted := p.counted + amount } amount 0
  | unflushed {p : Pump} {amount unsent : ℕ} {gate : QuotaGate} :
      p.phase = .flushing amount unsent → gate.maxBatch = p.gate.maxBatch →
      Moves p { p with gate := gate, phase := .done } 0 (amount - unsent)

/-- The bytes that were forwarded before and that a step would leave uncounted, if the commit it
ends is not counted. -/
def exposed : Phase → ℕ
  | .committing amount frame => amount - frame
  | .flushing amount unsent => amount - unsent
  | _ => 0

/-- A step whose commit does not count its batch, although frames before the last were
forwarded. -/
def losesBytes (uid : String) (links : Dict String Obj) (pump : Pump) : Action → Bool
  | .commit server subs =>
    match pump.phase with
    | .committing amount _ | .flushing amount _ =>
      exposed pump.phase ≠ 0 &&
        !((checkAndUse server subs uid amount links).toOption.elim false fun r => r.1)
    | _ => false
  | .cancel => exposed pump.phase ≠ 0
  | _ => false

/-- What a step adds to the counter of the link is what it adds to the links. -/
def Pays (uid : String) (added : ℕ) (links links' : Dict String Obj) (action : Action) : Prop :=
  (added = 0 ∧ links' = links) ∨
    ∃ server subs, action = .commit server subs ∧
      checkAndUse server subs uid added links = .ok (true, links')

variable {rt : Runtime} {uid : String} {links links' : Dict String Obj} {p p' : Pump}
  {action : Action}

lemma receive_moves {n : ℕ} (hphase : p.phase = .reading) (hpos : 0 < n) (now : ℚ) :
    Moves p (p.receive rt n now) 0 0 := by
  unfold receive
  rcases p.gate.stage_cases rt hpos now with ⟨-, hstage⟩ |
    ⟨gate, hstage, -, hmax, hpending, hlt⟩ | ⟨gate, hstage, -, hmax, hpending⟩
  · rw [hstage]
    exact .denied hphase
  · rw [hstage]
    exact .hot hphase hmax hpending hlt
  · rw [hstage]
    exact .batch hphase hmax hpending

lemma commit_moves {server : Server} {subs : Dict String Obj}
    (h : p.commit server subs links uid = some (p', links')) :
    ∃ added lost, Moves p p' added lost ∧ Pays uid added links links' (.commit server subs) ∧
      (losesBytes uid links p (.commit server subs) = false → lost = 0) := by
  unfold commit at h
  cases hphase : p.phase with
  | committing amount frame =>
    rw [hphase] at h
    dsimp only at h
    have hlose : ∀ r, checkAndUse server subs uid amount links = r →
        (r.toOption.elim false fun r => r.1) = false →
        losesBytes uid links p (.commit server subs) = false → amount - frame = 0 := by
      intro r hr hfail hloses
      simpa [losesBytes, hphase, exposed, hr, hfail] using hloses
    cases hcheck : checkAndUse server subs uid amount links with
    | error e =>
      rw [hcheck] at h
      obtain ⟨rfl, rfl⟩ := Prod.mk.inj (Option.some.inj h)
      exact ⟨0, _, .refused hphase rfl rfl, .inl ⟨rfl, rfl⟩, hlose _ hcheck rfl⟩
    | ok r =>
      obtain ⟨result, links₁⟩ := r
      rw [hcheck] at h
      cases result with
      | true =>
        obtain ⟨rfl, rfl⟩ := Prod.mk.inj (Option.some.inj h)
        exact ⟨amount, 0, .counted hphase, .inr ⟨server, subs, rfl, hcheck⟩, fun _ => rfl⟩
      | false =>
        obtain ⟨rfl, rfl⟩ := Prod.mk.inj (Option.some.inj h)
        exact ⟨0, _, .refused hphase rfl rfl, .inl ⟨rfl, checkAndUse_false hcheck⟩,
          hlose _ hcheck rfl⟩
  | flushing amount unsent =>
    rw [hphase] at h
    dsimp only at h
    have hlose : ∀ r, checkAndUse server subs uid amount links = r →
        (r.toOption.elim false fun r => r.1) = false →
        losesBytes uid links p (.commit server subs) = false → amount - unsent = 0 := by
      intro r hr hfail hloses
      simpa [losesBytes, hphase, exposed, hr, hfail] using hloses
    cases hcheck : checkAndUse server subs uid amount links with
    | error e =>
      rw [hcheck] at h
      obtain ⟨rfl, rfl⟩ := Prod.mk.inj (Option.some.inj h)
      exact ⟨0, _, .unflushed hphase rfl, .inl ⟨rfl, rfl⟩, hlose _ hcheck rfl⟩
    | ok r =>
      obtain ⟨result, links₁⟩ := r
      rw [hcheck] at h
      cases result with
      | true =>
        obtain ⟨rfl, rfl⟩ := Prod.mk.inj (Option.some.inj h)
        exact ⟨amount, 0, .flushed hphase, .inr ⟨server, subs, rfl, hcheck⟩, fun _ => rfl⟩
      | false =>
        obtain ⟨rfl, rfl⟩ := Prod.mk.inj (Option.some.inj h)
        exact ⟨0, _, .unflushed hphase rfl, .inl ⟨rfl, checkAndUse_false hcheck⟩,
          hlose _ hcheck rfl⟩
  | reading | passing _ | closing _ | done =>
    rw [hphase] at h
    cases h

/-- Every step of a pump is one of the moves, and pays for what it adds. -/
lemma step_moves (h : p.step rt uid links action = some (p', links')) :
    ∃ added lost, Moves p p' added lost ∧ Pays uid added links links' action ∧
      (losesBytes uid links p action = false → lost = 0) := by
  cases action with
  | commit server subs => exact commit_moves h
  | receive n now =>
    obtain ⟨⟨hphase, hpos⟩, h⟩ := Option.ite_none_right_eq_some.mp h
    obtain ⟨rfl, rfl⟩ := Prod.mk.inj (Option.some.inj h)
    exact ⟨0, 0, receive_moves hphase hpos now, .inl ⟨rfl, rfl⟩, fun _ => rfl⟩
  | forward =>
    rw [step] at h
    split at h
    · rename_i n hphase
      obtain ⟨rfl, rfl⟩ := Prod.mk.inj (Option.some.inj h)
      exact ⟨0, 0, .forwarded hphase, .inl ⟨rfl, rfl⟩, fun _ => rfl⟩
    · cases h
  | stop =>
    rw [step] at h
    split at h
    · rename_i hphase
      obtain ⟨rfl, rfl⟩ := Prod.mk.inj (Option.some.inj h)
      exact ⟨0, 0, .stopped hphase, .inl ⟨rfl, rfl⟩, fun _ => rfl⟩
    · rename_i n hphase
      obtain ⟨rfl, rfl⟩ := Prod.mk.inj (Option.some.inj h)
      exact ⟨0, 0, .interrupted hphase, .inl ⟨rfl, rfl⟩, fun _ => rfl⟩
    · cases h
  | flush =>
    rw [step] at h
    split at h
    · rename_i unsent hphase
      split at h
      · rename_i hpending
        obtain ⟨rfl, rfl⟩ := Prod.mk.inj (Option.some.inj h)
        exact ⟨0, 0, .empty hphase hpending, .inl ⟨rfl, rfl⟩, fun _ => rfl⟩
      · obtain ⟨rfl, rfl⟩ := Prod.mk.inj (Option.some.inj h)
        exact ⟨0, 0, .flushing hphase, .inl ⟨rfl, rfl⟩, fun _ => rfl⟩
    · cases h
  | cancel =>
    rw [step] at h
    split at h
    · rename_i amount n hphase
      obtain ⟨rfl, rfl⟩ := Prod.mk.inj (Option.some.inj h)
      refine ⟨0, _, .refused hphase rfl rfl, .inl ⟨rfl, rfl⟩, fun hloses => ?_⟩
      simpa [losesBytes, hphase, exposed] using hloses
    · rename_i amount unsent hphase
      obtain ⟨rfl, rfl⟩ := Prod.mk.inj (Option.some.inj h)
      refine ⟨0, _, .unflushed hphase rfl, .inl ⟨rfl, rfl⟩, fun hloses => ?_⟩
      simpa [losesBytes, hphase, exposed] using hloses
    · cases h

end Pump

end Session
