import LumenRelay.Session.Resolve
import Mathlib.Data.List.Sort

/-!
# One connection of many

An upstream with several addresses is tried at all of them, one shortly after the other, and the
first connection that is there is taken.  The attempts that are left are cancelled and waited for,
and a connection that is there nevertheless is closed.
-/

namespace Session.Upstream

open Lib Py Dns

/-! ## Attempts -/

inductive Socket
  | absent
  | dialling
  | established
  | closed
deriving DecidableEq

/-- Where an attempt is. -/
inductive Phase
  | asleep
  /-- `sock_connect`. -/
  | connecting (started : ℚ)
  /-- `open_connection` on the socket. -/
  | opening (started : ℚ)
  | returned (connectMs : ℚ)
  | raised (e : PyErr)
  | cancelled
deriving DecidableEq

/-- A task of `_connect_candidate`. -/
structure Attempt where
  address : Address
  /-- When the delay is over. -/
  due : ℚ
  phase : Phase
  socket : Socket
  /-- The task has been cancelled. -/
  cancelling : Bool
deriving DecidableEq

/-- What happens to an attempt. -/
inductive Progress
  | begin
  /-- The target has accepted the connection; the task need not know yet. -/
  | established
  | connected
  | opened
  | fail (e : PyErr)
  /-- The cancellation reaches the task. -/
  | interrupt

namespace Attempt

def new (address : Address) (due : ℚ) : Attempt := ⟨address, due, .asleep, .absent, false⟩

/-- The task has ended. -/
def ended (a : Attempt) : Bool :=
  match a.phase with
  | .returned _ | .raised _ | .cancelled => true
  | _ => false

/-- The time that the connection took, when it was returned. -/
def connectMs (a : Attempt) : Option ℚ :=
  match a.phase with
  | .returned ms => some ms
  | _ => none

def close (a : Attempt) : Attempt := { a with socket := .closed }

def cancel (a : Attempt) : Attempt := { a with cancelling := true }

/-- `_connect_candidate`: whatever is raised after the socket was made closes it. -/
def advance (now : ℚ) (a : Attempt) : Progress → Option Attempt
  | .begin =>
    match a.phase with
    | .asleep =>
      if a.due ≤ now then some { a with phase := .connecting now, socket := .dialling } else none
    | _ => none
  | .established =>
    if a.socket = .dialling then some { a with socket := .established } else none
  | .connected =>
    match a.phase with
    | .connecting started =>
      if a.socket = .established then some { a with phase := .opening started } else none
    | _ => none
  | .opened =>
    match a.phase with
    | .opening started => some { a with phase := .returned ((now - started) * 1000) }
    | _ => none
  | .fail e =>
    match a.phase with
    | .asleep => if a.due ≤ now then some { a with phase := .raised e } else none
    | .connecting _ | .opening _ => some { a with phase := .raised e, socket := .closed }
    | _ => none
  | .interrupt =>
    if a.cancelling = true then
      match a.phase with
      | .asleep => some { a with phase := .cancelled }
      | .connecting _ | .opening _ => some { a with phase := .cancelled, socket := .closed }
      | _ => none
    else none

end Attempt

/-! ## The schedule -/

/-- `CONNECT_TIMEOUT`. -/
def connectTimeout : ℚ := 10

/-- `PARALLEL_CONNECT`. -/
def parallelConnect : ℕ := 6

/-- `DUAL_STACK_DELAY`. -/
def dualStackDelay : ℚ := 0

/-- `ADDITIONAL_CONNECT_STAGGER`. -/
def additionalConnectStagger : ℚ := 1 / 20

/-- The delays of the addresses: none for the first one of a family, unless it has failed lately. -/
def delays (cooldown : Address → ℚ) (now : ℚ) :
    List Family → ℕ → List Address → List (ℚ × Address)
  | _, _, [] => []
  | seen, extra, address :: rest =>
    let extra := if address.1 ∈ seen then extra + 1 else extra
    let delay := if address.1 ∈ seen then additionalConnectStagger * extra else dualStackDelay
    let delay := if now < cooldown address then max delay (additionalConnectStagger * 2) else delay
    (delay, address) :: delays cooldown now (address.1 :: seen) extra rest

/-- `_connection_schedule`. -/
def connectionSchedule (cooldown : Address → ℚ) (now : ℚ) (addresses : List Address) :
    List (ℚ × Address) :=
  delays cooldown now [] 0 (addresses.take parallelConnect)

/-! ## The race -/

inductive Failure
  | error (e : PyErr)
  | cancelled
deriving DecidableEq

/-- How the loop of `_open_upstream` is left. -/
inductive Outcome
  | won (attempt : ℕ)
  | lost (lastError : Option PyErr)
  | failed (e : Failure)
deriving DecidableEq

/-- Where `_open_upstream` is. -/
inductive Main
  /-- `_resolve`. -/
  | resolving
  /-- `open_connection` to the host, without addresses. -/
  | direct (deadline : ℚ) (expired : Bool)
  /-- The only address. -/
  | single (deadline : ℚ)
  /-- `asyncio.wait`, which is over at `wakes`. -/
  | waiting (pending : List ℕ) (deadline wakes : ℚ) (lastError : Option PyErr)
  /-- `asyncio.gather` of the tasks that were cancelled. -/
  | gathering (pending : List ℕ) (outcome : Outcome)
  | returned (attempt : ℕ)
  | raised (e : Failure)
deriving DecidableEq

/-- A call of `_open_upstream`. -/
structure Call where
  host : String
  port : ℤ
  now : ℚ
  attempts : List Attempt
  main : Main

inductive Label
  /-- Time passes. -/
  | tick (seconds : ℚ)
  /-- `_resolve` returns; it returns nothing if it has raised. -/
  | resolved (addresses : List Address) (cooldown : Address → ℚ)
  | attempt (i : ℕ) (progress : Progress)
  /-- `open_connection` tries the next address of the host. -/
  | dial (address : Address)
  /-- The timeout around the only attempt. -/
  | expire
  /-- The caller goes on; the tasks that have ended, in the order of their set. -/
  | resume (order : List ℕ)

namespace Call

/-- Change some of the attempts. -/
def edit (s : Call) (indices : List ℕ) (f : Attempt → Attempt) : Call :=
  { s with attempts := s.attempts.mapIdx fun i a => if i ∈ indices then f a else a }

/-- The attempt has ended. -/
def ended (s : Call) (i : ℕ) : Bool := (s.attempts[i]?).any Attempt.ended

/-- The results of the tasks, one after the other, and the last error; unless one of them was
cancelled, which raises. -/
def collect (s : Call) : List ℕ → Option PyErr → Option (List (ℕ × ℚ) × Option PyErr)
  | [], lastError => some ([], lastError)
  | i :: rest, lastError =>
    match s.attempts[i]?.map Attempt.phase with
    | some (.returned connectMs) =>
      (s.collect rest lastError).map fun found => ((i, connectMs) :: found.1, found.2)
    | some (.raised e) => s.collect rest (some e)
    | _ => none

/-- The end of `_open_upstream`. -/
def conclude (s : Call) : Outcome → Call
  | .won attempt => { s with main := .returned attempt }
  | .lost lastError =>
    let e := lastError.getD (.osError ("connect failed: " ++ s.host ++ ":" ++ toString s.port))
    { s with main := .raised (.error e) }
  | .failed e => { s with main := .raised e }

/-- The first part of the `finally`. -/
def leave (s : Call) (pending : List ℕ) (outcome : Outcome) : Call :=
  let s := s.edit pending Attempt.cancel
  if pending = [] then s.conclude outcome else { s with main := .gathering pending outcome }

/-- The head of the loop: wait for the tasks that are pending. -/
def await (s : Call) (pending : List ℕ) (deadline : ℚ) (lastError : Option PyErr) : Call :=
  if pending = [] then s.leave [] (.lost lastError)
  else
    { s with main := .waiting pending deadline (s.now + max (deadline - s.now) (1 / 100)) lastError }

/-- The body of the loop, when some tasks have ended. -/
def choose (s : Call) (order pending : List ℕ) (deadline : ℚ) (lastError : Option PyErr) : Call :=
  match s.collect order lastError with
  | none => s.leave pending (.failed .cancelled)
  | some (successes, lastError) =>
    match successes.insertionSort (fun x y => x.2 ≤ y.2) with
    | [] => s.await pending deadline lastError
    | winner :: others =>
      (s.edit (others.map Prod.fst) Attempt.close).leave pending (.won winner.1)

/-- The only attempt has ended; a cancellation is the timeout. -/
def finish (s : Call) (i : ℕ) (a : Attempt) : Option Call :=
  match a.phase with
  | .returned _ => some { s with main := .returned i }
  | .raised e => some { s with main := .raised (.error e) }
  | .cancelled => some { s with main := .raised (.error (.osError "timed out")) }
  | _ => none

/-- The caller goes on. -/
def resume (s : Call) (order : List ℕ) : Option Call :=
  match s.main with
  | .direct _ _ =>
    match s.attempts.getLast? with
    | some a => s.finish (s.attempts.length - 1) a
    | none => some { s with main := .raised (.error (.osError "no address")) }
  | .single _ => s.attempts[0]?.bind (s.finish 0)
  | .waiting pending deadline wakes lastError =>
    let done := pending.filter s.ended
    let rest := pending.filter fun i => !s.ended i
    if order.Perm done ∧ (done ≠ [] ∨ wakes ≤ s.now) then
      if done = [] then some (s.leave rest (.failed (.error (.osError "timed out"))))
      else some (s.choose order rest deadline lastError)
    else none
  | .gathering pending outcome =>
    if pending.all s.ended = true then
      let returned := pending.filter fun i => (s.attempts[i]?.bind Attempt.connectMs).isSome
      some ((s.edit returned Attempt.close).conclude outcome)
    else none
  | _ => none

/-- `_open_upstream`, when it has the addresses. -/
def start (s : Call) (addresses : List Address) (cooldown : Address → ℚ) : Call :=
  let deadline := s.now + connectTimeout
  match addresses with
  | [] => { s with main := .direct deadline false }
  | [address] => { s with attempts := [.new address s.now], main := .single deadline }
  | _ =>
    let schedule := connectionSchedule cooldown s.now addresses
    let attempts := schedule.map fun item => Attempt.new item.2 (s.now + item.1)
    await { s with attempts := attempts } (List.range attempts.length) deadline none

def step (s : Call) : Label → Option (Call × List Empty)
  | .tick seconds => if 0 ≤ seconds then some ({ s with now := s.now + seconds }, []) else none
  | .resolved addresses cooldown =>
    if s.main = .resolving then some (s.start addresses cooldown, []) else none
  | .attempt i progress => do
    let a ← s.attempts[i]?
    let a ← a.advance s.now progress
    return ({ s with attempts := s.attempts.set i a }, [])
  | .dial address =>
    match s.main with
    | .direct _ false =>
      if s.attempts.getLast?.all (fun a => a.ended && a.connectMs.isNone) = true then
        some ({ s with attempts := s.attempts ++ [.new address s.now] }, [])
      else none
    | _ => none
  | .expire =>
    match s.main with
    | .direct deadline _ =>
      if deadline ≤ s.now then
        some ({ s with
          attempts := s.attempts.map Attempt.cancel, main := .direct deadline true }, [])
      else none
    | .single deadline =>
      if deadline ≤ s.now then some ({ s with attempts := s.attempts.map Attempt.cancel }, [])
      else none
    | _ => none
  | .resume order => (s.resume order).map fun s => (s, [])

/-- A call that has not done anything. -/
def new (host : String) (port : ℤ) (now : ℚ) : Call := ⟨host, port, now, [], .resolving⟩

end Call

/-- Attempts and the caller in any order. -/
def openUpstream : Machine Call Label Empty := ⟨Call.step⟩

/-! ## The law -/

/-- The socket uses a connection, or asks for one. -/
def Socket.isOpen : Socket → Bool
  | .dialling | .established => true
  | _ => false

/-- A call that has ended leaves no attempt running, and no connection but the one it returns. -/
structure Settled (s : Call) : Prop where
  returned : ∀ i, s.main = .returned i →
    (∃ a, s.attempts[i]? = some a ∧ a.socket = .established) ∧
      ∀ j a, j ≠ i → s.attempts[j]? = some a → a.socket.isOpen = false
  raised : ∀ e, s.main = .raised e → ∀ a ∈ s.attempts, a.socket.isOpen = false
  ended : (∃ i, s.main = .returned i) ∨ (∃ e, s.main = .raised e) → ∀ a ∈ s.attempts, a.ended = true

/-! ## What becomes of an attempt -/

/-- What the caller has to do with an attempt. -/
inductive Role
  /-- The caller waits for it. -/
  | racing
  /-- The caller waits for its end. -/
  | ending
  /-- The caller returns its connection. -/
  | kept
  /-- The caller has done with it. -/
  | gone

namespace Attempt

/-- The socket is as the task has left it. -/
def Steady (a : Attempt) : Prop :=
  match a.phase with
  | .asleep => a.socket = .absent
  | .connecting _ => a.socket = .dialling ∨ a.socket = .established
  | .opening _ | .returned _ => a.socket = .established
  | .raised _ => a.socket.isOpen = false
  | .cancelled => a.socket.isOpen = false ∧ a.cancelling = true

/-- The attempt is as it has to be. -/
def Meets (a : Attempt) : Role → Prop
  | .racing => a.Steady ∧ a.cancelling = false
  | .ending => a.Steady
  | .kept => a.ended = true ∧ a.socket = .established
  | .gone => a.ended = true ∧ a.socket.isOpen = false

variable {a a' : Attempt} {now : ℚ} {p : Progress}

lemma steady_new (address : Address) (due : ℚ) : (new address due).Steady := rfl

lemma meets_new (address : Address) (due : ℚ) : (new address due).Meets .racing := ⟨rfl, rfl⟩

/-- Only a task that runs goes on, and then its socket is as it leaves it. -/
lemma Steady.advance (h : a.Steady) (hstep : a.advance now p = some a') :
    a.ended = false ∧ a'.Steady ∧ a'.cancelling = a.cancelling := by
  cases p with
  | begin =>
    simp only [Attempt.advance] at hstep
    split at hstep
    · rename_i hphase
      split at hstep <;> cases hstep
      exact ⟨by rw [ended, hphase], .inl rfl, rfl⟩
    · cases hstep
  | established =>
    simp only [Attempt.advance] at hstep
    split at hstep <;> cases hstep
    rename_i hdialling
    rw [Steady, hdialling] at h
    cases hphase : a.phase <;> rw [hphase] at h
    case connecting started =>
      refine ⟨by rw [ended, hphase], ?_, rfl⟩
      rw [Steady]
      dsimp only
      exact .inr rfl
    all_goals simp [Socket.isOpen] at h
  | connected =>
    simp only [Attempt.advance] at hstep
    split at hstep
    · rename_i started hphase
      split at hstep <;> cases hstep
      rename_i hestablished
      exact ⟨by rw [ended, hphase], hestablished, rfl⟩
    · cases hstep
  | opened =>
    simp only [Attempt.advance] at hstep
    split at hstep <;> cases hstep
    rename_i started hphase
    rw [Steady, hphase] at h
    exact ⟨by rw [ended, hphase], h, rfl⟩
  | fail e =>
    simp only [Attempt.advance] at hstep
    split at hstep
    · rename_i hphase
      split at hstep <;> cases hstep
      rw [Steady, hphase] at h
      refine ⟨by rw [ended, hphase], ?_, rfl⟩
      show a.socket.isOpen = false
      rw [h]
      rfl
    · rename_i started hphase
      cases hstep
      exact ⟨by rw [ended, hphase], rfl, rfl⟩
    · rename_i started hphase
      cases hstep
      exact ⟨by rw [ended, hphase], rfl, rfl⟩
    · cases hstep
  | interrupt =>
    simp only [Attempt.advance] at hstep
    split at hstep
    · rename_i hcancelling
      split at hstep
      · rename_i hphase
        cases hstep
        rw [Steady, hphase] at h
        refine ⟨by rw [ended, hphase], ⟨?_, hcancelling⟩, rfl⟩
        rw [h]
        rfl
      · rename_i started hphase
        cases hstep
        exact ⟨by rw [ended, hphase], ⟨rfl, hcancelling⟩, rfl⟩
      · rename_i started hphase
        cases hstep
        exact ⟨by rw [ended, hphase], ⟨rfl, hcancelling⟩, rfl⟩
      · cases hstep
    · cases hstep

/-- A task that has ended does nothing, nor does the target on a socket that does not wait for it. -/
lemma advance_over (hover : a.ended = true) (hsocket : a.socket ≠ .dialling) :
    a.advance now p = none := by
  unfold ended at hover
  cases hphase : a.phase <;> rw [hphase] at hover <;> try cases hover
  all_goals cases p <;> simp [advance, hphase, hsocket]

/-- An attempt stays as it has to be. -/
lemma Meets.advance {role : Role} (h : a.Meets role) (hstep : a.advance now p = some a') :
    a'.Meets role := by
  cases role with
  | racing =>
    obtain ⟨-, hsteady, hcancelling⟩ := h.1.advance hstep
    exact ⟨hsteady, hcancelling.trans h.2⟩
  | ending => exact (Steady.advance h hstep).2.1
  | kept =>
    rw [advance_over h.1 (by rw [h.2]; decide)] at hstep
    cases hstep
  | gone =>
    rw [advance_over h.1 fun hdialling => by rw [Meets, hdialling] at h; cases h.2] at hstep
    cases hstep

/-- An attempt that nobody waits for any longer has ended. -/
lemma Steady.kept (h : a.Steady) (hreturned : a.connectMs ≠ none) : a.Meets .kept := by
  unfold connectMs at hreturned
  cases hphase : a.phase <;> rw [hphase] at hreturned <;> try exact absurd rfl hreturned
  rw [Steady, hphase] at h
  exact ⟨by rw [ended, hphase], h⟩

lemma Steady.gone (h : a.Steady) (hover : a.ended = true) (hreturned : a.connectMs = none) :
    a.Meets .gone := by
  refine ⟨hover, ?_⟩
  unfold ended at hover
  unfold connectMs at hreturned
  cases hphase : a.phase <;> rw [hphase] at hover hreturned <;> try cases hover
  · cases hreturned
  · rw [Steady, hphase] at h
    exact h
  · rw [Steady, hphase] at h
    exact h.1

/-- A connection that was returned is closed. -/
lemma Meets.close (hreturned : a.connectMs ≠ none) : a.close.Meets .gone := by
  refine ⟨?_, rfl⟩
  unfold connectMs at hreturned
  show a.ended = true
  unfold ended
  cases hphase : a.phase <;> rw [hphase] at hreturned <;> first | rfl | exact absurd rfl hreturned

lemma Meets.ending {role : Role} (h : a.Meets role) (hrole : role = .racing ∨ role = .ending) :
    a.Steady := by
  rcases hrole with rfl | rfl
  · exact h.1
  · exact h

lemma Steady.cancel (h : a.Steady) : a.cancel.Steady := by
  unfold Steady Attempt.cancel at *
  dsimp only
  cases hphase : a.phase <;> rw [hphase] at h
  case cancelled => exact ⟨h.1, rfl⟩
  all_goals exact h

end Attempt

/-! ## The invariant -/

namespace Main

/-- What the caller has to do with an attempt, if there are `count` of them. -/
def role (count : ℕ) : Main → ℕ → Role
  | .resolving, _ => .gone
  | .direct _ _, i => if i + 1 = count then .ending else .gone
  | .single _, i => if i = 0 then .ending else .gone
  | .waiting pending _ _ _, i => if i ∈ pending then .racing else .gone
  | .gathering pending outcome, i =>
    if i ∈ pending then .ending else if outcome = .won i then .kept else .gone
  | .returned j, i => if i = j then .kept else .gone
  | .raised _, _ => .gone

/-- The attempt whose connection is going to be returned. -/
def winner : Main → Option ℕ
  | .gathering _ (.won i) => some i
  | .returned i => some i
  | _ => none

/-- The tasks of `asyncio.wait`. -/
def racers : Main → List ℕ
  | .waiting pending _ _ _ => pending
  | _ => []

end Main

/-- Every attempt is as it has to be. -/
structure Held (s : Call) : Prop where
  meets : ∀ (i : ℕ) a, s.attempts[i]? = some a → a.Meets (s.main.role s.attempts.length i)
  winner : ∀ i, s.main.winner = some i →
    i < s.attempts.length ∧ s.main.role s.attempts.length i = .kept
  racers : s.main.racers.Nodup
  resolving : s.main = .resolving → s.attempts = []

lemma Held.settled {s : Call} (h : Held s) : Settled s where
  returned i hreturned := by
    obtain ⟨hlt, -⟩ := h.winner i (by rw [hreturned]; rfl)
    refine ⟨⟨s.attempts[i], List.getElem?_eq_getElem hlt, ?_⟩, fun j a hne ha => ?_⟩
    · have hmeets := h.meets i _ (List.getElem?_eq_getElem hlt)
      rw [hreturned, Main.role, if_pos rfl] at hmeets
      exact hmeets.2
    · have hmeets := h.meets j a ha
      rw [hreturned, Main.role, if_neg hne] at hmeets
      exact hmeets.2
  raised e hraised a ha := by
    obtain ⟨i, hi⟩ := List.getElem?_of_mem ha
    have hmeets := h.meets i a hi
    rw [hraised] at hmeets
    exact hmeets.2
  ended hover a ha := by
    obtain ⟨i, hi⟩ := List.getElem?_of_mem ha
    have hmeets := h.meets i a hi
    rcases hover with ⟨j, hreturned⟩ | ⟨e, hraised⟩
    · rw [hreturned, Main.role] at hmeets
      split at hmeets
      · exact hmeets.1
      · exact hmeets.1
    · rw [hraised] at hmeets
      exact hmeets.1

/-! ## The end of a call -/

section Call

variable {s : Call} {order pending : List ℕ} {outcome : Outcome}

lemma edit_getElem? (s : Call) (indices : List ℕ) (f : Attempt → Attempt) (i : ℕ) :
    (s.edit indices f).attempts[i]? = s.attempts[i]?.map fun a => if i ∈ indices then f a else a :=
  List.getElem?_mapIdx

@[simp] lemma edit_length (s : Call) (indices : List ℕ) (f : Attempt → Attempt) :
    (s.edit indices f).attempts.length = s.attempts.length := List.length_mapIdx

lemma held_conclude
    (h : ∀ (i : ℕ) a, s.attempts[i]? = some a → a.Meets (if outcome = .won i then .kept else .gone))
    (hwon : ∀ i, outcome = .won i → i < s.attempts.length) : Held (s.conclude outcome) := by
  cases outcome with
  | won j =>
    refine ⟨fun i a ha => ?_, fun i hi => ?_, List.nodup_nil, nofun⟩
    · have hmeets := h i a ha
      show a.Meets (if i = j then .kept else .gone)
      split
      · rename_i hi
        rwa [hi, if_pos rfl] at hmeets
      · rename_i hi
        rwa [if_neg fun heq => hi (Outcome.won.inj heq).symm] at hmeets
    · obtain rfl := Option.some.inj hi
      exact ⟨hwon j rfl, if_pos rfl⟩
  | lost lastError =>
    refine ⟨fun i a ha => ?_, nofun, List.nodup_nil, nofun⟩
    have hmeets := h i a ha
    rwa [if_neg nofun] at hmeets
  | failed e =>
    refine ⟨fun i a ha => ?_, nofun, List.nodup_nil, nofun⟩
    have hmeets := h i a ha
    rwa [if_neg nofun] at hmeets

/-- The tasks that are pending are cancelled. -/
lemma held_leave
    (h : ∀ (i : ℕ) a, s.attempts[i]? = some a →
      a.Meets (if i ∈ pending then .racing else if outcome = .won i then .kept else .gone))
    (hwon : ∀ i, outcome = .won i → i < s.attempts.length ∧ i ∉ pending) :
    Held (s.leave pending outcome) := by
  unfold Call.leave
  dsimp only
  split
  · rename_i hnil
    subst hnil
    refine held_conclude (fun i a ha => ?_) fun i hi => by simpa using (hwon i hi).1
    rw [edit_getElem?] at ha
    simpa using h i a (by simpa using ha)
  · refine ⟨fun i a ha => ?_, fun i hi => ?_, List.nodup_nil, nofun⟩
    · dsimp only at ha ⊢
      rw [edit_getElem?, Option.map_eq_some_iff] at ha
      obtain ⟨a₀, ha₀, rfl⟩ := ha
      have hmeets := h i a₀ ha₀
      rw [Main.role]
      by_cases hi : i ∈ pending
      · rw [if_pos hi] at hmeets ⊢
        rw [if_pos hi]
        exact hmeets.1.cancel
      · rw [if_neg hi] at hmeets ⊢
        rw [if_neg hi]
        exact hmeets
    · have hi' : outcome = .won i := by
        cases outcome <;> simp_all [Main.winner]
      obtain ⟨hlt, hnot⟩ := hwon i hi'
      refine ⟨by simpa using hlt, ?_⟩
      rw [Main.role, if_neg hnot, if_pos hi']

/-- The tasks that are pending are waited for. -/
lemma held_await (h : ∀ (i : ℕ) a, s.attempts[i]? = some a →
      a.Meets (if i ∈ pending then .racing else .gone)) (hnodup : pending.Nodup) (deadline : ℚ)
    (lastError : Option PyErr) : Held (s.await pending deadline lastError) := by
  unfold Call.await
  split
  · rename_i hnil
    subst hnil
    exact held_leave (fun i a ha => by simpa using h i a ha) nofun
  · exact ⟨h, nofun, hnodup, nofun⟩

/-! ## The results -/

lemma collect_some {lastError lastError' : Option PyErr} {successes : List (ℕ × ℚ)}
    (h : s.collect order lastError = some (successes, lastError')) :
    (successes.map Prod.fst).Sublist order ∧
      (∀ i ms, (i, ms) ∈ successes → ∃ a, s.attempts[i]? = some a ∧ a.connectMs ≠ none) ∧
        ∀ i ∈ order, ∀ a, s.attempts[i]? = some a → a.connectMs ≠ none →
          i ∈ successes.map Prod.fst := by
  induction order generalizing lastError successes with
  | nil =>
    cases h
    exact ⟨List.nil_sublist _, nofun, nofun⟩
  | cons j order ih =>
    rw [Call.collect] at h
    split at h
    · rename_i connectMs hphase
      obtain ⟨a, ha, hreturned⟩ := Option.map_eq_some_iff.mp hphase
      obtain ⟨⟨found, lastError₁⟩, hfound, heq⟩ := Option.map_eq_some_iff.mp h
      cases heq
      obtain ⟨hsub, hmem, hall⟩ := ih hfound
      have hms : a.connectMs ≠ none := by
        rw [Attempt.connectMs, hreturned]
        nofun
      refine ⟨hsub.cons_cons j, fun i ms hi => ?_, fun i hi a' ha' hne => ?_⟩
      · rcases List.mem_cons.mp hi with heq | hi
        · cases heq
          exact ⟨a, ha, hms⟩
        · exact hmem i ms hi
      · rcases List.mem_cons.mp hi with rfl | hi
        · exact List.mem_cons_self
        · exact List.mem_cons_of_mem _ (hall i hi a' ha' hne)
    · rename_i e hphase
      obtain ⟨a, ha, hraised⟩ := Option.map_eq_some_iff.mp hphase
      obtain ⟨hsub, hmem, hall⟩ := ih h
      refine ⟨hsub.cons j, hmem, fun i hi a' ha' hne => ?_⟩
      rcases List.mem_cons.mp hi with rfl | hi
      · rw [ha] at ha'
        cases ha'
        rw [Attempt.connectMs, hraised] at hne
        exact absurd rfl hne
      · exact hall i hi a' ha' hne
    · cases h

/-- Only a task that was cancelled has no result. -/
lemma collect_ne_none {lastError : Option PyErr}
    (h : ∀ i ∈ order, ∃ a, s.attempts[i]? = some a ∧ a.ended = true ∧ a.phase ≠ .cancelled) :
    s.collect order lastError ≠ none := by
  induction order generalizing lastError with
  | nil => nofun
  | cons j order ih =>
    obtain ⟨a, ha, hover, hne⟩ := h j List.mem_cons_self
    have hrest := fun lastError => @ih lastError fun i hi => h i (List.mem_cons_of_mem j hi)
    rw [Call.collect, ha, Option.map_some]
    unfold Attempt.ended at hover
    cases hphase : a.phase <;> rw [hphase] at hover hne <;> try cases hover
    · simpa using hrest lastError
    · exact hrest _
    · exact absurd rfl hne

/-! ## A choice among the results -/

/-- The attempts that have ended while the caller waited, and those that go on. -/
structure Woken (s : Call) (order rest : List ℕ) : Prop where
  meets : ∀ (i : ℕ) a, s.attempts[i]? = some a →
    a.Meets (if i ∈ order ∨ i ∈ rest then .racing else .gone)
  ended : ∀ i ∈ order, ∃ a, s.attempts[i]? = some a ∧ a.ended = true
  disjoint : ∀ i ∈ order, i ∉ rest
  order : order.Nodup
  rest : rest.Nodup

section Woken

variable {rest : List ℕ} {i : ℕ} {a : Attempt} {lastError lastError' : Option PyErr}
  {successes : List (ℕ × ℚ)}

lemma Woken.racing (h : Woken s order rest) (hi : i ∈ order ∨ i ∈ rest)
    (ha : s.attempts[i]? = some a) : a.Meets .racing := by
  have hmeets := h.meets i a ha
  rwa [if_pos hi] at hmeets

lemma Woken.gone (h : Woken s order rest) (ho : i ∉ order) (hr : i ∉ rest)
    (ha : s.attempts[i]? = some a) : a.Meets .gone := by
  have hmeets := h.meets i a ha
  rwa [if_neg (not_or.mpr ⟨ho, hr⟩)] at hmeets

/-- No task of the race has been cancelled. -/
lemma Woken.collect_ne_none (h : Woken s order rest) : s.collect order lastError ≠ none := by
  refine Upstream.collect_ne_none fun i hi => ?_
  obtain ⟨a, ha, hended⟩ := h.ended i hi
  refine ⟨a, ha, hended, fun hcancelled => ?_⟩
  obtain ⟨hsteady, hcalm⟩ := h.racing (.inl hi) ha
  rw [Attempt.Steady, hcancelled] at hsteady
  rw [hsteady.2] at hcalm
  cases hcalm

/-- An attempt that is not among the successes is nothing to see to, unless it goes on. -/
lemma Woken.failed (h : Woken s order rest)
    (hsome : s.collect order lastError = some (successes, lastError'))
    (hi : i ∉ successes.map Prod.fst) (hr : i ∉ rest) (ha : s.attempts[i]? = some a) :
    a.Meets .gone := by
  by_cases ho : i ∈ order
  · obtain ⟨a', ha', hended⟩ := h.ended i ho
    cases ha.symm.trans ha'
    refine (h.racing (.inl ho) ha).1.gone hended ?_
    by_contra hne
    exact hi ((collect_some hsome).2.2 i ho a ha hne)
  · exact h.gone ho hr ha

/-- A success has a connection. -/
lemma Woken.success (hsome : s.collect order lastError = some (successes, lastError'))
    (hi : i ∈ successes.map Prod.fst) :
    i ∈ order ∧ ∃ a, s.attempts[i]? = some a ∧ a.connectMs ≠ none := by
  obtain ⟨hsub, hmem, -⟩ := collect_some hsome
  obtain ⟨⟨i, ms⟩, hfound, rfl⟩ := List.mem_map.mp hi
  exact ⟨hsub.subset hi, hmem i ms hfound⟩

/-- The winner is kept, and the connections of the others are closed. -/
lemma Woken.won (h : Woken s order rest)
    (hsome : s.collect order lastError = some (successes, lastError')) {winner : ℕ × ℚ}
    {others : List (ℕ × ℚ)} (hperm : (winner :: others).Perm successes) :
    Held ((s.edit (others.map Prod.fst) Attempt.close).leave rest (.won winner.1)) := by
  have hnodup : ((winner :: others).map Prod.fst).Nodup :=
    (hperm.map Prod.fst).nodup_iff.mpr ((collect_some hsome).1.nodup h.order)
  have hothers : winner.1 ∉ others.map Prod.fst := (List.nodup_cons.mp hnodup).1
  have hiff : ∀ i, i ∈ successes.map Prod.fst ↔ i = winner.1 ∨ i ∈ others.map Prod.fst := by
    intro i
    rw [← (hperm.map Prod.fst).mem_iff, List.map_cons, List.mem_cons]
  obtain ⟨hwinner, a₀, ha₀, hms₀⟩ := Woken.success hsome ((hiff winner.1).mpr (.inl rfl))
  refine held_leave (fun i a ha => ?_) fun i hi => ?_
  · rw [edit_getElem?, Option.map_eq_some_iff] at ha
    obtain ⟨a, ha, rfl⟩ := ha
    by_cases hr : i ∈ rest
    · have hnot : i ∉ others.map Prod.fst := fun hi =>
        h.disjoint i (Woken.success hsome ((hiff i).mpr (.inr hi))).1 hr
      rw [if_pos hr, if_neg hnot]
      exact h.racing (.inr hr) ha
    rw [if_neg hr]
    by_cases hwon : i = winner.1
    · subst hwon
      cases ha₀.symm.trans ha
      rw [if_pos rfl, if_neg hothers]
      exact (h.racing (.inl hwinner) ha₀).1.kept hms₀
    rw [if_neg fun heq => hwon (Outcome.won.inj heq).symm]
    by_cases hother : i ∈ others.map Prod.fst
    · rw [if_pos hother]
      obtain ⟨-, a', ha', hms⟩ := Woken.success hsome ((hiff i).mpr (.inr hother))
      cases ha.symm.trans ha'
      exact Attempt.Meets.close hms
    · rw [if_neg hother]
      exact h.failed hsome (fun hi => ((hiff i).mp hi).elim hwon hother) hr ha
  · obtain rfl := Outcome.won.inj hi
    rw [edit_length]
    exact ⟨(List.getElem?_eq_some_iff.mp ha₀).1, h.disjoint _ hwinner⟩

/-- The first of the connections is taken, and without one the caller waits on. -/
lemma Woken.choose (h : Woken s order rest) (deadline : ℚ) (lastError : Option PyErr) :
    Held (s.choose order rest deadline lastError) := by
  unfold Call.choose
  split
  · rename_i hnone
    exact absurd hnone h.collect_ne_none
  · rename_i successes lastError' hsome
    have hperm := List.perm_insertionSort (fun x y : ℕ × ℚ => x.2 ≤ y.2) successes
    split
    · rename_i hnil
      rw [hnil] at hperm
      have hempty := hperm.nil_eq.symm
      refine held_await (fun i a ha => ?_) h.rest deadline lastError'
      split
      · rename_i hr
        exact h.racing (.inr hr) ha
      · rename_i hr
        exact h.failed hsome (by rw [hempty]; nofun) hr ha
    · rename_i winner others hcons
      rw [hcons] at hperm
      exact h.won hsome hperm

end Woken

/-- The end of the only attempt is the end of the call. -/
lemma held_finish {s' : Call} {i : ℕ} {a : Attempt} (ha : s.attempts[i]? = some a) (hsteady : a.Steady)
    (hgone : ∀ (j : ℕ) b, j ≠ i → s.attempts[j]? = some b → b.Meets .gone)
    (h : s.finish i a = some s') : Held s' := by
  have hfailed : a.Meets .gone → ∀ (e : Failure), Held { s with main := .raised e } := by
    refine fun hmeets e => ⟨fun j b hb => ?_, nofun, List.nodup_nil, nofun⟩
    by_cases hj : j = i
    · subst hj
      cases ha.symm.trans hb
      exact hmeets
    · exact hgone j b hj hb
  unfold Call.finish at h
  split at h
  · rename_i ms hphase
    cases h
    refine ⟨fun j b hb => ?_, fun j hj => ?_, List.nodup_nil, nofun⟩
    · show b.Meets (if j = i then .kept else .gone)
      split
      · rename_i hj
        subst hj
        cases ha.symm.trans hb
        exact hsteady.kept (by rw [Attempt.connectMs, hphase]; nofun)
      · rename_i hj
        exact hgone j b hj hb
    · cases hj
      exact ⟨(List.getElem?_eq_some_iff.mp ha).1, if_pos rfl⟩
  · rename_i e hphase
    cases h
    exact hfailed (hsteady.gone (by rw [Attempt.ended, hphase]) (by rw [Attempt.connectMs, hphase])) _
  · rename_i hphase
    cases h
    exact hfailed (hsteady.gone (by rw [Attempt.ended, hphase]) (by rw [Attempt.connectMs, hphase])) _
  · cases h

/-! ## Steps -/

lemma Held.meets_main {m : Main} (h : Held s) (hmain : s.main = m) {i : ℕ} {a : Attempt}
    (ha : s.attempts[i]? = some a) : a.Meets (m.role s.attempts.length i) :=
  hmain ▸ h.meets i a ha

/-- The tasks that the caller waits for are those that have ended and the rest. -/
lemma mem_done_or_rest (i : ℕ) :
    i ∈ pending.filter s.ended ∨ i ∈ pending.filter (fun i => !s.ended i) ↔ i ∈ pending := by
  rw [List.mem_filter, List.mem_filter]
  cases s.ended i <;> simp

/-- The caller goes on after `asyncio.wait`, and nothing has ended in time. -/
lemma Held.timeout {deadline wakes : ℚ} {lastError : Option PyErr} (h : Held s)
    (hmain : s.main = .waiting pending deadline wakes lastError)
    (hnil : pending.filter s.ended = []) (e : Failure) :
    Held (s.leave (pending.filter fun i => !s.ended i) (.failed e)) := by
  refine held_leave (fun i a ha => ?_) nofun
  have hrest : i ∈ pending.filter (fun i => !s.ended i) ↔ i ∈ pending := by
    have hsplit : i ∈ pending.filter s.ended ∨ i ∈ pending.filter (fun i => !s.ended i) ↔
        i ∈ pending := mem_done_or_rest i
    rw [hnil] at hsplit
    simpa only [List.not_mem_nil, false_or] using hsplit
  simp only [hrest]
  rw [if_neg (show ¬ Outcome.failed _ = Outcome.won i from nofun)]
  exact h.meets_main hmain ha

/-- The caller goes on after `asyncio.wait` with the tasks that have ended. -/
lemma Held.wake {deadline wakes : ℚ} {lastError : Option PyErr} (h : Held s)
    (hmain : s.main = .waiting pending deadline wakes lastError)
    (hperm : order.Perm (pending.filter s.ended)) :
    Held (s.choose order (pending.filter fun i => !s.ended i) deadline lastError) := by
  have hnodup : pending.Nodup := by
    have hracers := h.racers
    rwa [hmain] at hracers
  refine Woken.choose ⟨fun i a ha => ?_, fun i hi => ?_, fun i hi hrest => ?_,
    hperm.nodup_iff.mpr (hnodup.filter _), hnodup.filter _⟩ deadline lastError
  · simp only [hperm.mem_iff, mem_done_or_rest]
    exact h.meets_main hmain ha
  · exact (Option.any_eq_true _ _).mp (List.mem_filter.mp (hperm.mem_iff.mp hi)).2
  · have hended := (List.mem_filter.mp (hperm.mem_iff.mp hi)).2
    have hrunning := (List.mem_filter.mp hrest).2
    rw [hended] at hrunning
    cases hrunning

/-- The caller goes on after `asyncio.gather`, and closes the connections that it was given. -/
lemma Held.gathered (h : Held s) (hmain : s.main = .gathering pending outcome)
    (hall : pending.all s.ended = true) :
    Held ((s.edit (pending.filter fun i => (s.attempts[i]?.bind Attempt.connectMs).isSome)
      Attempt.close).conclude outcome) := by
  have hwon : ∀ i, outcome = .won i → i < s.attempts.length ∧ i ∉ pending := by
    rintro i rfl
    obtain ⟨hlt, hkept⟩ := h.winner i (by rw [hmain]; rfl)
    refine ⟨hlt, fun hi => ?_⟩
    rw [hmain, Main.role, if_pos hi] at hkept
    cases hkept
  refine held_conclude (fun i a ha => ?_) fun i hi => by simpa using (hwon i hi).1
  rw [edit_getElem?, Option.map_eq_some_iff] at ha
  obtain ⟨a, ha, rfl⟩ := ha
  have hmeets := h.meets_main hmain ha
  rw [Main.role] at hmeets
  by_cases hi : i ∈ pending
  · have hended : a.ended = true := by
      have h := List.all_eq_true.mp hall i hi
      rwa [Call.ended, ha] at h
    rw [if_pos hi] at hmeets
    rw [if_neg fun hi' => (hwon i hi').2 hi]
    simp only [List.mem_filter, ha, Option.bind_some]
    split
    · rename_i hreturned
      exact Attempt.Meets.close (Option.isSome_iff_ne_none.mp hreturned.2)
    · rename_i hreturned
      refine Attempt.Steady.gone hmeets hended ?_
      by_contra hne
      exact hreturned ⟨hi, Option.isSome_iff_ne_none.mpr hne⟩
  · rw [if_neg hi] at hmeets
    rw [if_neg fun h => hi (List.mem_of_mem_filter h)]
    exact hmeets

/-- The caller goes on with the last of the attempts that `open_connection` makes. -/
lemma Held.direct {s' : Call} {deadline : ℚ} {expired : Bool} (h : Held s)
    (hmain : s.main = .direct deadline expired) {a : Attempt} (hlast : s.attempts.getLast? = some a)
    (hfinish : s.finish (s.attempts.length - 1) a = some s') : Held s' := by
  rw [List.getLast?_eq_getElem?] at hlast
  have hlt := (List.getElem?_eq_some_iff.mp hlast).1
  have hmeets := h.meets_main hmain hlast
  rw [Main.role, if_pos (by omega)] at hmeets
  refine held_finish hlast hmeets (fun j b hj hb => ?_) hfinish
  have hother := h.meets_main hmain hb
  rwa [Main.role, if_neg (by omega)] at hother

lemma Held.resume {s' : Call} (h : Held s) (hstep : s.resume order = some s') : Held s' := by
  unfold Call.resume at hstep
  split at hstep
  · rename_i deadline expired hmain
    split at hstep
    · rename_i a hlast
      exact h.direct hmain hlast hstep
    · rename_i hnone
      cases hstep
      rw [List.getLast?_eq_none_iff] at hnone
      exact ⟨fun i a ha => by simp [hnone] at ha, nofun, List.nodup_nil, nofun⟩
  · rename_i deadline hmain
    obtain ⟨a, ha, hfinish⟩ := Option.bind_eq_some_iff.mp hstep
    refine held_finish ha (h.meets_main hmain ha) (fun j b hj hb => ?_) hfinish
    have hother := h.meets_main hmain hb
    rwa [Main.role, if_neg hj] at hother
  · rename_i pending deadline wakes lastError hmain
    dsimp only at hstep
    split at hstep
    · rename_i hguard
      split at hstep
      · rename_i hnil
        cases hstep
        exact h.timeout hmain hnil _
      · cases hstep
        exact h.wake hmain hguard.1
    · cases hstep
  · rename_i pending outcome hmain
    split at hstep
    · rename_i hall
      cases hstep
      exact h.gathered hmain hall
    · cases hstep
  · cases hstep

lemma Held.start (h : Held s) (hmain : s.main = .resolving) (addresses : List Address)
    (cooldown : Address → ℚ) : Held (s.start addresses cooldown) := by
  unfold Call.start
  dsimp only
  split
  · exact ⟨fun i a ha => by simp [h.resolving hmain] at ha, nofun, List.nodup_nil, nofun⟩
  · rename_i address
    refine ⟨fun i a ha => ?_, nofun, List.nodup_nil, nofun⟩
    obtain ⟨hlt, heq⟩ := List.getElem?_eq_some_iff.mp ha
    obtain rfl : i = 0 := Nat.lt_one_iff.mp hlt
    obtain rfl : Attempt.new address s.now = a := heq
    exact Attempt.steady_new address s.now
  · refine held_await (fun i a ha => ?_) List.nodup_range _ _
    rw [if_pos (List.mem_range.mpr (List.getElem?_eq_some_iff.mp ha).1)]
    obtain ⟨item, -, rfl⟩ := List.mem_map.mp (List.mem_of_getElem? ha)
    exact Attempt.meets_new _ _

/-- What was cancelled is as it has to be, unless it is in the race. -/
lemma Held.expire (h : Held s) (hmain : (∃ deadline expired, s.main = .direct deadline expired) ∨
      ∃ deadline, s.main = .single deadline) (i : ℕ) (a : Attempt)
    (ha : (s.attempts.map Attempt.cancel)[i]? = some a) :
    a.Meets (s.main.role s.attempts.length i) := by
  rw [List.getElem?_map, Option.map_eq_some_iff] at ha
  obtain ⟨a, ha, rfl⟩ := ha
  have hmeets := h.meets i a ha
  cases hrole : s.main.role s.attempts.length i with
  | racing =>
    rcases hmain with ⟨_, _, hmain⟩ | ⟨_, hmain⟩ <;> rw [hmain, Main.role] at hrole <;>
      split at hrole <;> cases hrole
  | ending =>
    rw [hrole] at hmeets
    exact Attempt.Steady.cancel hmeets
  | kept =>
    rw [hrole] at hmeets
    exact hmeets
  | gone =>
    rw [hrole] at hmeets
    exact hmeets

/-- `open_connection` tries another address. -/
lemma Held.dial (h : Held s) {deadline : ℚ} {expired : Bool} (hmain : s.main = .direct deadline expired)
    (hlast : s.attempts.getLast?.all (fun a => a.ended && a.connectMs.isNone) = true)
    (address : Address) : Held { s with attempts := s.attempts ++ [.new address s.now] } := by
  refine ⟨fun i a ha => ?_, by simp [hmain, Main.winner], by simp [hmain, Main.racers],
    by simp [hmain]⟩
  dsimp only at ha ⊢
  rw [hmain, Main.role, List.length_append, List.length_singleton]
  rcases Nat.lt_trichotomy i s.attempts.length with hlt | rfl | hgt
  · rw [if_neg (by omega)]
    rw [List.getElem?_append_left hlt] at ha
    have hmeets := h.meets i a ha
    rw [hmain, Main.role] at hmeets
    split at hmeets
    · rename_i hi
      have heq : s.attempts.getLast? = some a := by
        rw [List.getLast?_eq_getElem?, ← hi, Nat.add_sub_cancel, ha]
      rw [heq, Option.all_some, Bool.and_eq_true] at hlast
      exact Attempt.Steady.gone hmeets hlast.1 (Option.isNone_iff_eq_none.mp hlast.2)
    · exact hmeets
  · rw [if_pos rfl]
    rw [List.getElem?_append_right (le_refl _), Nat.sub_self] at ha
    cases ha
    exact Attempt.steady_new address s.now
  · rw [List.getElem?_eq_none (by simp; omega)] at ha
    cases ha

/-- Every step leaves every attempt as it has to be. -/
lemma Held.step {s' : Call} {l : Label} {es : List Empty} (h : Held s)
    (hstep : openUpstream.step s l = some (s', es)) : Held s' := by
  cases l with
  | tick seconds =>
    simp only [openUpstream, Call.step] at hstep
    split at hstep <;> cases hstep
    exact ⟨h.meets, h.winner, h.racers, h.resolving⟩
  | resolved addresses cooldown =>
    simp only [openUpstream, Call.step] at hstep
    split at hstep
    · rename_i hmain
      cases hstep
      exact h.start hmain addresses cooldown
    · cases hstep
  | attempt i progress =>
    simp only [openUpstream, Call.step, Option.bind_eq_bind, Option.bind_eq_some_iff] at hstep
    obtain ⟨a, ha, a', hadvance, hstep⟩ := hstep
    cases hstep
    refine ⟨fun j b hb => ?_, by simpa using h.winner, h.racers, fun hmain => ?_⟩
    · dsimp only at hb ⊢
      rw [List.length_set]
      rw [List.getElem?_set] at hb
      split at hb
      · rename_i hij
        subst hij
        rw [if_pos (List.getElem?_eq_some_iff.mp ha).1] at hb
        cases hb
        exact (h.meets i a ha).advance hadvance
      · exact h.meets j b hb
    · rw [h.resolving hmain] at ha
      cases ha
  | dial address =>
    simp only [openUpstream, Call.step] at hstep
    split at hstep
    · rename_i deadline hmain
      split at hstep
      · rename_i hlast
        cases hstep
        exact h.dial hmain hlast address
      · cases hstep
    · cases hstep
  | expire =>
    simp only [openUpstream, Call.step] at hstep
    split at hstep
    · rename_i deadline expired hmain
      split at hstep <;> cases hstep
      refine ⟨fun i a ha => ?_, nofun, List.nodup_nil, nofun⟩
      have hmeets := h.expire (.inl ⟨_, _, hmain⟩) i a ha
      rw [hmain] at hmeets
      simpa [Main.role] using hmeets
    · rename_i deadline hmain
      split at hstep <;> cases hstep
      refine ⟨fun i a ha => ?_, by simp [hmain, Main.winner], by simp [hmain, Main.racers],
        by simp [hmain]⟩
      simpa using h.expire (.inr ⟨_, hmain⟩) i a ha
    · cases hstep
  | resume order =>
    simp only [openUpstream, Call.step, Option.map_eq_some_iff] at hstep
    obtain ⟨s₁, hresume, heq⟩ := hstep
    cases heq
    exact h.resume hresume

/-- In every run, whatever happens to the attempts and in whatever order: if the call returns a
connection, that one is open and no other, if it raises, none is, and no attempt is left running. -/
theorem one_connection_left {host : String} {port : ℤ} {now : ℚ} {visited : List Call}
    {events : List Empty} (h : openUpstream.Run (.new host port now) visited events s) :
    Settled s := by
  have hnew : Held (.new host port now) :=
    ⟨fun i a ha => by simp [Call.new] at ha, nofun, List.nodup_nil, fun _ => rfl⟩
  exact (h.invariant hnew fun s l s' es hs hstep => hs.step hstep).settled

/-- The first attempt wins, and the second one has its connection after it was cancelled. -/
theorem one_connection_left_example : ∃ visited events s,
    openUpstream.Run (.new "example.org" 443 0) visited events s ∧ (s.main = .returned 0 ∧
      s.attempts.map Attempt.connectMs = [some 0, some 0] ∧
      s.attempts.map Attempt.socket = [.established, .closed]) ∧ Settled s := by
  have hends : ∃ visited events s, openUpstream.Run (.new "example.org" 443 0) visited events s ∧
      (s.main = .returned 0 ∧ s.attempts.map Attempt.connectMs = [some 0, some 0] ∧
        s.attempts.map Attempt.socket = [.established, .closed]) :=
    Machine.exists_run
      [.resolved [(.inet6, ⟨"2001:db8::1", 443, 0, 0⟩), newAddress] fun _ => 0,
        .attempt 0 .begin, .attempt 1 .begin, .attempt 0 .established, .attempt 0 .connected,
        .attempt 0 .opened, .resume [0], .attempt 1 .established, .attempt 1 .connected,
        .attempt 1 .opened, .resume []]
      (by decide +kernel)
  obtain ⟨_, _, _, hrun, hfacts⟩ := hends
  exact ⟨_, _, _, hrun, hfacts, one_connection_left hrun⟩

end Call

end Session.Upstream
