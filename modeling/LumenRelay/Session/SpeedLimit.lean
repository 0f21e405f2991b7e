import LumenRelay.Lib.Machine
import LumenRelay.Lib.TokenBucket
import LumenRelay.Session.Links

/-!
# Speed limits

The relays of a link share a token bucket.  A relay that wants to pass bytes on consumes them from
the bucket, in slices of at most its capacity, and sleeps while a slice is not there.
-/

namespace Session

open Lib Py Routing

/-- `MIN_RATE`. -/
def minRate : ℚ := 1024

/-- `MIN_BURST`. -/
def minBurst : ℚ := 64 * 1024

/-- A new bucket, which is full. -/
def newBucket (rateBytesPerSec now : ℚ) : TokenBucket ℚ where
  rate := max rateBytesPerSec minRate
  capacity := max (max rateBytesPerSec minRate) minBurst
  tokens := max (max rateBytesPerSec minRate) minBurst
  last := now

/-- `_get_bucket`: the bucket of the link, or a new one when the rate is another. -/
def getBucket (bucket : Option (TokenBucket ℚ)) (rate now : ℚ) : TokenBucket ℚ :=
  match bucket with
  | none => newBucket rate now
  | some bucket => if bucket.rate = max rate minRate then bucket else newBucket rate now

/-- The rate at which `throttle` consumes bytes, when it does. -/
def throttleRate (rt : Runtime) (link : Option Obj) (nbytes : ℤ) : Except PyErr (Option ℤ) :=
  if nbytes ≤ 0 ∨ link.getD [] = [] then return none
  else do
    let rate ← (((link.getD []).getD "speed_limit_bytes" (.int 0)).or (.int 0)).toInt rt
    return if 0 < rate then some rate else none

/-- A call of `consume` that waits for a slice; the slice is part of what remains. -/
structure Consumer where
  nbytes : ℤ
  remaining : ℚ
  slice : ℚ

/-- The bucket of a link, the calls that consume from it and the time. -/
structure Throttling where
  bucket : Option (TokenBucket ℚ)
  consumers : Dict ℕ Consumer
  next : ℕ
  clock : ℚ

/-- What a relay does: it calls `throttle`, it looks whether its slice is there, at once or after it
has slept, or it is cancelled. -/
inductive ThrottleAct
  | throttle (link : Option Obj) (nbytes : ℤ) (now : ℚ)
  | attempt (id : ℕ) (now : ℚ)
  | cancel (id : ℕ)

/-- A call is granted a slice at some time, or it returns. -/
inductive ThrottleEvent
  | granted (id : ℕ) (now amount : ℚ)
  | returned (id : ℕ) (nbytes : ℤ)
deriving DecidableEq

namespace Throttling

/-- A link without a bucket. -/
def start (clock : ℚ) : Throttling := ⟨none, .empty, 0, clock⟩

/-- A call of `throttle` at a rate begins to consume. -/
def consume (s : Throttling) (rate : ℤ) (nbytes : ℤ) (now : ℚ) : Throttling where
  bucket := some (getBucket s.bucket rate now)
  consumers := s.consumers.set s.next
    ⟨nbytes, nbytes, min (nbytes : ℚ) (getBucket s.bucket rate now).capacity⟩
  next := s.next + 1
  clock := now

/-- One turn of the loop of `_consume_slice`, on a bucket that was filled.  When the slice is there
the call goes on with the next one, or returns; otherwise it sleeps. -/
def consumeSlice (s : Throttling) (id : ℕ) (call : Consumer) (bucket : TokenBucket ℚ) (now : ℚ) :
    Throttling × List ThrottleEvent :=
  if call.slice ≤ bucket.tokens then
    let remaining := call.remaining - call.slice
    let s' := { s with bucket := some (bucket.take call.slice), clock := now }
    if 0 < remaining then
      ({ s' with
          consumers := s.consumers.set id ⟨call.nbytes, remaining, min remaining bucket.capacity⟩ },
        [.granted id now call.slice])
    else
      ({ s' with consumers := s.consumers.erase id },
        [.granted id now call.slice, .returned id call.nbytes])
  else ({ s with bucket := some bucket, clock := now }, [])

end Throttling

/-- The relays of a link whose rate is fixed, with a monotone clock.  Other relays may also come
between two turns of a call that does not sleep between them. -/
def throttling (rt : Runtime) (rate : ℤ) : Machine Throttling ThrottleAct ThrottleEvent where
  step s
    | .throttle link nbytes now =>
      if now < s.clock then none
      else
        match throttleRate rt link nbytes with
        | .ok (some r) => if r = rate then some (s.consume rate nbytes now, []) else none
        | _ => some (s, [])
    | .attempt id now =>
      if now < s.clock then none
      else
        match s.bucket, s.consumers.get? id with
        | some bucket, some call => some (s.consumeSlice id call (bucket.refill now) now)
        | _, _ => none
    | .cancel id => some ({ s with consumers := s.consumers.erase id }, [])

/-- The grants, with their times. -/
def grants (events : List ThrottleEvent) : List (ℚ × ℚ) :=
  events.filterMap fun
    | .granted _ now amount => some (now, amount)
    | .returned _ _ => none

/-- What a call was granted. -/
def grantedTo (id : ℕ) (events : List ThrottleEvent) : ℚ :=
  (events.map fun
    | .granted id' _ amount => if id' = id then amount else 0
    | .returned _ _ => 0).sum

@[simp] lemma grants_append (events es : List ThrottleEvent) :
    grants (events ++ es) = grants events ++ grants es := by
  simp [grants]

@[simp] lemma grantedTo_append (id : ℕ) (events es : List ThrottleEvent) :
    grantedTo id (events ++ es) = grantedTo id events + grantedTo id es := by
  simp [grantedTo]

/-! ## The bound -/

section

variable {rt : Runtime} {rate : ℤ} {events : List ThrottleEvent} {s : Throttling}

/-- A bucket of the rate that keeps the account of its grants. -/
structure BucketOf (rate : ℤ) (log : List (ℚ × ℚ)) (clock : ℚ) (b : TokenBucket ℚ) : Prop where
  metered : b.Metered log
  rate_eq : b.rate = max (rate : ℚ) minRate
  capacity_eq : b.capacity = max b.rate minBurst
  last_le : b.last ≤ clock

lemma sound_newBucket (rate now : ℚ) : (newBucket rate now).Sound where
  nonneg := le_max_of_le_right (by norm_num [minBurst])
  le_capacity := le_rfl
  rate_nonneg := le_max_of_le_right (by norm_num [minRate])

/-- What holds after a run: the bucket keeps its account, a call that consumes was granted what no
longer remains, and a call that has returned was granted all. -/
structure Accounted (rate : ℤ) (events : List ThrottleEvent) (s : Throttling) : Prop where
  bucket : ∀ b, s.bucket = some b → BucketOf rate (grants events) s.clock b
  absent : s.bucket = none → events = []
  consuming : ∀ id call, s.consumers.get? id = some call →
    id < s.next ∧ 0 < call.slice ∧ call.slice ≤ call.remaining ∧
      grantedTo id events + call.remaining = call.nbytes
  returned : ∀ id nbytes, ThrottleEvent.returned id nbytes ∈ events →
    id < s.next ∧ s.consumers.get? id = none ∧ grantedTo id events = nbytes
  fresh : ∀ id, s.next ≤ id → grantedTo id events = 0

lemma Accounted.start (rate : ℤ) (clock : ℚ) : Accounted rate [] (Throttling.start clock) where
  bucket _ := nofun
  absent _ := rfl
  consuming _ _ := nofun
  returned _ _ := nofun
  fresh _ _ := rfl

/-- A bucket of the rate is kept, and a link without one gets one. -/
lemma Accounted.getBucket (h : Accounted rate events s) {now : ℚ} (hnow : s.clock ≤ now) :
    BucketOf rate (grants events) now (Session.getBucket s.bucket rate now) := by
  cases hb : s.bucket with
  | none =>
    obtain rfl := h.absent hb
    exact ⟨.new (sound_newBucket _ _), rfl, rfl, le_rfl⟩
  | some b =>
    have hof := h.bucket b hb
    simp only [Session.getBucket, if_pos hof.rate_eq]
    exact ⟨hof.metered, hof.rate_eq, hof.capacity_eq, hof.last_le.trans hnow⟩

/-- A call begins. -/
lemma Accounted.consume (h : Accounted rate events s) {nbytes : ℤ} (hpos : 0 < nbytes) {now : ℚ}
    (hnow : s.clock ≤ now) : Accounted rate events (s.consume rate nbytes now) where
  bucket b hb := Option.some.inj hb ▸ h.getBucket hnow
  absent := nofun
  consuming id call hcall := by
    change (s.consumers.set s.next _).get? id = some call at hcall
    rw [Dict.get?_set] at hcall
    change id < s.next + 1 ∧ _
    split at hcall
    · rename_i hid
      obtain rfl := Option.some.inj hcall
      have hcapacity : (0 : ℚ) < (Session.getBucket s.bucket rate now).capacity := by
        rw [(h.getBucket hnow).capacity_eq]
        exact lt_max_of_lt_right (by norm_num [minBurst])
      refine ⟨by omega, lt_min (by exact_mod_cast hpos) hcapacity, min_le_left _ _, ?_⟩
      rw [h.fresh id (by omega), zero_add]
    · obtain ⟨hlt, hcall⟩ := h.consuming id call hcall
      exact ⟨by omega, hcall⟩
  returned id nbytes' hret := by
    obtain ⟨hlt, hnone, hgranted⟩ := h.returned id nbytes' hret
    refine ⟨Nat.lt_succ_of_lt hlt, ?_, hgranted⟩
    change (s.consumers.set s.next _).get? id = none
    rw [Dict.get?_set_ne (by omega)]
    exact hnone
  fresh id hid := h.fresh id (Nat.le_of_succ_le hid)

/-- A call is cancelled. -/
lemma Accounted.cancel (h : Accounted rate events s) (id : ℕ) :
    Accounted rate events { s with consumers := s.consumers.erase id } where
  bucket := h.bucket
  absent := h.absent
  consuming id' call hcall := by
    rw [Dict.get?_erase] at hcall
    split at hcall
    · cases hcall
    · exact h.consuming id' call hcall
  returned id' nbytes hret := by
    obtain ⟨hlt, hnone, hgranted⟩ := h.returned id' nbytes hret
    refine ⟨hlt, ?_, hgranted⟩
    dsimp only
    rw [Dict.get?_erase, hnone, ite_self]
  fresh := h.fresh

/-- A bucket is filled. -/
lemma BucketOf.refill {log : List (ℚ × ℚ)} {clock now : ℚ} {b : TokenBucket ℚ}
    (h : BucketOf rate log clock b) (hnow : clock ≤ now) : BucketOf rate log now (b.refill now) where
  metered := h.metered.refill (h.last_le.trans hnow)
  rate_eq := TokenBucket.refill_rate.trans h.rate_eq
  capacity_eq := by rw [TokenBucket.refill_capacity, TokenBucket.refill_rate, h.capacity_eq]
  last_le := (TokenBucket.refill_last (h.last_le.trans hnow)).le

/-- A slice that is there is taken. -/
lemma BucketOf.take {log : List (ℚ × ℚ)} {now amount : ℚ} {b : TokenBucket ℚ}
    (h : BucketOf rate log now b) (hlast : b.last = now) (hpos : 0 < amount)
    (hle : amount ≤ b.tokens) : BucketOf rate (log ++ [(now, amount)]) now (b.take amount) where
  metered := hlast ▸ h.metered.take hpos.le hle
  rate_eq := h.rate_eq
  capacity_eq := h.capacity_eq
  last_le := h.last_le

/-- A slice that is granted to a call is granted to no other. -/
lemma grantedTo_granted (id id' : ℕ) (now amount : ℚ) :
    grantedTo id' [.granted id now amount] = if id = id' then amount else 0 := by
  simp [grantedTo]

lemma grantedTo_granted_returned (id id' : ℕ) (now amount : ℚ) (nbytes : ℤ) :
    grantedTo id' [.granted id now amount, .returned id nbytes] =
      if id = id' then amount else 0 := by
  simp [grantedTo]

/-- One turn of the loop of a call that consumes. -/
lemma Accounted.consumeSlice (h : Accounted rate events s) {id : ℕ} {call : Consumer}
    (hcall : s.consumers.get? id = some call) {b : TokenBucket ℚ} (hb : s.bucket = some b) {now : ℚ}
    (hnow : s.clock ≤ now) {s' : Throttling} {es : List ThrottleEvent}
    (hstep : s.consumeSlice id call (b.refill now) now = (s', es)) :
    Accounted rate (events ++ es) s' := by
  have hof := (h.bucket b hb).refill hnow
  have hlast : (b.refill now).last = now :=
    TokenBucket.refill_last ((h.bucket b hb).last_le.trans hnow)
  obtain ⟨hlt, hslice, hle, hsum⟩ := h.consuming id call hcall
  dsimp only [Throttling.consumeSlice] at hstep
  split_ifs at hstep with hthere hmore
  · -- the slice is granted, and the call goes on
    obtain ⟨rfl, rfl⟩ := Prod.mk.inj hstep
    have hcapacity : 0 < (b.refill now).capacity := by
      rw [hof.capacity_eq]
      exact lt_max_of_lt_right (by norm_num [minBurst])
    refine ⟨?_, nofun, ?_, ?_, ?_⟩
    · rintro b' hb'
      obtain rfl := Option.some.inj hb'
      rw [grants_append]
      exact hof.take hlast hslice hthere
    · intro id' call' hcall'
      dsimp only at hcall'
      rw [grantedTo_append, grantedTo_granted]
      rw [Dict.get?_set] at hcall'
      split at hcall'
      · rename_i hid
        obtain rfl := Option.some.inj hcall'
        obtain rfl := hid
        refine ⟨hlt, lt_min hmore hcapacity, min_le_left _ _, ?_⟩
        rw [if_pos rfl]
        dsimp only
        linarith
      · rename_i hid
        rw [if_neg (Ne.symm hid), add_zero]
        exact h.consuming id' call' hcall'
    · intro id' nbytes hret
      obtain hret : ThrottleEvent.returned id' nbytes ∈ events := by simpa using hret
      obtain ⟨hlt', hnone, hgranted⟩ := h.returned id' nbytes hret
      have hid : id ≠ id' := by
        rintro rfl
        simp [hnone] at hcall
      rw [grantedTo_append, grantedTo_granted, if_neg hid, add_zero]
      exact ⟨hlt', (Dict.get?_set_ne (Ne.symm hid) _ _).trans hnone, hgranted⟩
    · intro id' hid'
      rw [grantedTo_append, grantedTo_granted, if_neg (by dsimp only at hid'; omega), add_zero]
      exact h.fresh id' hid'
  · -- the last slice is granted, and the call returns
    obtain ⟨rfl, rfl⟩ := Prod.mk.inj hstep
    have hlastSlice : call.slice = call.remaining := le_antisymm hle (by linarith)
    refine ⟨?_, nofun, ?_, ?_, ?_⟩
    · rintro b' hb'
      obtain rfl := Option.some.inj hb'
      rw [grants_append]
      exact hof.take hlast hslice hthere
    · intro id' call' hcall'
      dsimp only at hcall'
      rw [grantedTo_append, grantedTo_granted_returned]
      rw [Dict.get?_erase] at hcall'
      split at hcall'
      · cases hcall'
      · rename_i hid
        rw [if_neg (Ne.symm hid), add_zero]
        exact h.consuming id' call' hcall'
    · intro id' nbytes hret
      rw [grantedTo_append, grantedTo_granted_returned]
      dsimp only
      rw [Dict.get?_erase]
      rcases List.mem_append.mp hret with hret | hret
      · obtain ⟨hlt', hnone, hgranted⟩ := h.returned id' nbytes hret
        have hid : id ≠ id' := by
          rintro rfl
          simp [hnone] at hcall
        rw [if_neg hid, add_zero, hnone, ite_self]
        exact ⟨hlt', rfl, hgranted⟩
      · obtain ⟨rfl, rfl⟩ : id' = id ∧ nbytes = call.nbytes := by simpa using hret
        rw [if_pos rfl, if_pos rfl]
        exact ⟨hlt, rfl, by linarith⟩
    · intro id' hid'
      rw [grantedTo_append, grantedTo_granted_returned, if_neg (by dsimp only at hid'; omega), add_zero]
      exact h.fresh id' hid'
  · -- the call sleeps
    obtain ⟨rfl, rfl⟩ := Prod.mk.inj hstep
    rw [List.append_nil]
    exact ⟨fun b' hb' => Option.some.inj hb' ▸ hof, nofun, h.consuming, h.returned, h.fresh⟩

/-- `throttle` consumes a positive number of bytes. -/
lemma pos_of_throttleRate {link : Option Obj} {nbytes r : ℤ}
    (h : throttleRate rt link nbytes = .ok (some r)) : 0 < nbytes := by
  unfold throttleRate at h
  split at h
  · cases h
  · rename_i hnot
    push Not at hnot
    exact hnot.1

lemma Accounted.step (h : Accounted rate events s) {act : ThrottleAct} {s' : Throttling}
    {es : List ThrottleEvent} (hstep : (throttling rt rate).step s act = some (s', es)) :
    Accounted rate (events ++ es) s' := by
  cases act with
  | throttle link nbytes now =>
    change (if now < s.clock then none else _) = _ at hstep
    split at hstep
    · cases hstep
    · rename_i hnow
      split at hstep
      · rename_i r hrate
        split at hstep
        · obtain ⟨rfl, rfl⟩ := Prod.mk.inj (Option.some.inj hstep)
          rw [List.append_nil]
          exact h.consume (pos_of_throttleRate hrate) (not_lt.mp hnow)
        · cases hstep
      · obtain ⟨rfl, rfl⟩ := Prod.mk.inj (Option.some.inj hstep)
        rwa [List.append_nil]
  | attempt id now =>
    change (if now < s.clock then none else _) = _ at hstep
    split at hstep
    · cases hstep
    · rename_i hnow
      split at hstep
      · rename_i b call hb hcall
        exact h.consumeSlice hcall hb (not_lt.mp hnow) (Option.some.inj hstep)
      · cases hstep
  | cancel id =>
    obtain ⟨rfl, rfl⟩ := Prod.mk.inj (Option.some.inj hstep)
    rw [List.append_nil]
    exact h.cancel id

/-- Whatever calls share the bucket of a link at a fixed rate, its tokens stay between none and its
capacity, it grants in every window of time at most its capacity and what flows in, and a call that
has returned was granted the bytes that it was called with. -/
theorem bucket_bounds_rate {clock : ℚ} {visited : List Throttling}
    (hrun : (throttling rt rate).Run (.start clock) visited events s) :
    (∀ b, s.bucket = some b → 0 ≤ b.tokens ∧ b.tokens ≤ b.capacity ∧
        b.rate = max (rate : ℚ) minRate ∧ b.capacity = max b.rate minBurst) ∧
      (∀ b, s.bucket = some b → ∀ a z, a ≤ z →
        TokenBucket.granted a z (grants events) ≤ b.capacity + b.rate * (z - a)) ∧
      ∀ id nbytes, ThrottleEvent.returned id nbytes ∈ events → grantedTo id events = nbytes := by
  have h : Accounted rate events s :=
    hrun.invariant_events (.start rate clock) fun _ _ _ _ _ h hstep => h.step hstep
  refine ⟨fun b hb => ?_, fun b hb => (h.bucket b hb).metered.window, fun id nbytes hret => ?_⟩
  · have hof := h.bucket b hb
    exact ⟨hof.metered.sound.nonneg, hof.metered.sound.le_capacity, hof.rate_eq, hof.capacity_eq⟩
  · exact (h.returned id nbytes hret).2.2

end

/-- A link of 100000 bytes a second. -/
def limitedLink : Obj := [("speed_limit_bytes", .int 100000)]

/-- A call of two slices waits for the second, while another call waits too; the first returns. -/
theorem bucket_bounds_rate_slices : ∃ visited events s,
    (throttling .ascii 100000).Run (.start 0) visited events s ∧
      grantedTo 0 events = 150000 ∧ ThrottleEvent.returned 0 150000 ∈ events := by
  have hends : ∃ visited events s, (throttling .ascii 100000).Run (.start 0) visited events s ∧
      ThrottleEvent.returned 0 150000 ∈ events :=
    Machine.exists_run
      [.throttle (some limitedLink) 150000 0, .attempt 0 0, .attempt 0 (1 / 4),
        .throttle (some limitedLink) 90000 (1 / 2), .attempt 0 (1 / 2), .attempt 1 (3 / 4)]
      (by decide +kernel)
  obtain ⟨_, _, _, hrun, hret⟩ := hends
  exact ⟨_, _, _, hrun, (bucket_bounds_rate hrun).2.2 0 150000 hret, hret⟩

end Session
