import LumenRelay.Lib.Coroutine
import LumenRelay.Session.IpLimit

/-!
# The life of a session

A session enters the connection table, opens its upstream connection, runs two relays until one of
them ends, and cleans up.  It waits at many points, and may be cancelled at each of them, those of
its own clean-up included.
-/

namespace Session

open Lib Py Routing

/-! ## What a session works on -/

/-- The relays of a session. -/
inductive RelayName
  | upload
  | download
deriving DecidableEq

/-- The exceptions that a session tells apart: a cancellation, which is no `Exception`; a
`WebSocketDisconnect`; a `TimeoutError`; a `ConnectionError` or an `OSError`; a
`ProxyUnavailableError`; a `TypeError`, which may be about the argument `rotate`; and others. -/
inductive Raised
  | cancelled
  | webSocketDisconnect
  | timeout
  | connection
  | proxyUnavailable
  | typeError (rotate : Bool)
  | other
deriving DecidableEq

/-- The task of a relay: it runs, and may have been cancelled; or it has returned or raised. -/
inductive RelayTask
  | running (cancelRequested : Bool)
  | ended (raised : Option Raised)
deriving DecidableEq

/-- The upstream writer. -/
inductive UpstreamWriter
  | opened
  | closed
deriving DecidableEq

/-- The connection table, and the variables of a session: its id, its writer and its relays. -/
structure SessionState where
  connections : Connections
  connId : Option String
  writer : Option UpstreamWriter
  upload : Option RelayTask
  download : Option RelayTask

/-- A session before it starts. -/
def SessionState.start (connections : Connections) : SessionState := ⟨connections, none, none, none, none⟩

/-- The task of a relay. -/
def SessionState.task (s : SessionState) : RelayName → Option RelayTask
  | .upload => s.upload
  | .download => s.download

/-- A relay has ended. -/
def SessionState.ended (s : SessionState) (name : RelayName) : Bool :=
  match s.task name with
  | some (.ended _) => true
  | _ => false

/-- A relay runs. -/
def SessionState.running (s : SessionState) (name : RelayName) : Bool :=
  match s.task name with
  | some (.running _) => true
  | _ => false

/-- Where `_run_vless_session` waits; a call of another coroutine is one point. -/
inductive SessionPoint
  | linksLock
  | closeClient
  | collectHeader
  | checkAndUse
  | resolveExactSelection
  | openOutbound
  | drainPayload
  | waitRelays
  | waitDownload
  | gather (pending : List RelayName)
  | flushClient
  | saveState
  | waitClosed
deriving DecidableEq

/-- What the coroutine gets at a point: the payload after the header, whether the bytes are within
the quota, whether the payload was sent, or the relays that are done, in any order. -/
abbrev SessionPoint.Reply : SessionPoint → Type
  | .collectHeader => List UInt8
  | .checkAndUse => Bool
  | .openOutbound => Bool
  | .waitRelays => List RelayName
  | _ => Unit

/-- A coroutine of a session. -/
abbrev SessionM (α : Type) : Type := Coroutine SessionState SessionPoint.Reply Raised α

/-- What a session is called with: the arguments that decide whether it is admitted, the payload of
a header that was read before, and whether the client may close its half. -/
structure SessionCall where
  arrival : Arrival
  preparedHeader : Option (List UInt8)
  allowClientHalfClose : Bool

/-! ## The coroutine -/

section

open Coroutine

/-- Wait at a point of the session. -/
def waitAt (p : SessionPoint) : SessionM p.Reply := wait p

/-- Pick the exit, or close the client when its proxy is not available. -/
def pickExit : SessionM Bool :=
  (do
    waitAt .resolveExactSelection
    return true : SessionM Bool).tryCatch fun
  | .proxyUnavailable => do
    waitAt .closeClient
    return false
  | e => raise e

/-- `task.cancel()` for some relays. -/
def cancelRelays (pending : List RelayName) (s : SessionState) : SessionState :=
  let cancel (name : RelayName) (task : Option RelayTask) : Option RelayTask :=
    match task with
    | some (.running requested) => some (.running (requested || decide (name ∈ pending)))
    | task => task
  { s with upload := cancel .upload s.upload, download := cancel .download s.download }

/-- The exceptions of the relays that are done. -/
def raiseErrors : List RelayName → SessionM Unit
  | [] => pure ()
  | name :: done => do
    let s ← look
    match s.task name with
    | some (.ended (some e)) => raise e
    | _ => raiseErrors done

/-- When the client has closed its half, the target may still answer for some time; what is left to
be cancelled. -/
def awaitHalfClose (c : SessionCall) (done : List RelayName) : SessionM (List RelayName) :=
  let pending := [RelayName.upload, .download].filter (· ∉ done)
  if c.allowClientHalfClose ∧ .upload ∈ done ∧ .download ∈ pending then
    (do
      waitAt .waitDownload
      return [] : SessionM (List RelayName)).tryCatch fun
    | .timeout => return [.download]
    | e => raise e
  else return pending

/-- Wait for the relays that are cancelled. -/
def gatherRelays (pending : List RelayName) : SessionM Unit :=
  if pending ≠ [] then waitAt (.gather pending) else pure ()

/-- The relays run until one of them is done, and the other one is cancelled. -/
def runRelays (c : SessionCall) : SessionM Unit := do
  modify fun s => { s with upload := some (.running false), download := some (.running false) }
  let done : List RelayName ← waitAt .waitRelays
  let pending ← awaitHalfClose c done
  modify (cancelRelays pending)
  gatherRelays pending
  raiseErrors done

/-- The end of a session without errors. -/
def flushAndSave : SessionM Unit := do
  (waitAt .flushClient).tryCatch fun
    | .connection => pure ()
    | e => raise e
  (waitAt .saveState).tryCatch fun
    | .typeError rotate => if rotate then waitAt .saveState else raise (.typeError rotate)
    | e => raise e

/-- Open the upstream connection, and write the payload if the connector has not. -/
def openUpstream (payload : List UInt8) : SessionM Unit := do
  let payloadSent : Bool ← waitAt .openOutbound
  modify fun s => { s with writer := some .opened }
  if payload ≠ [] ∧ !payloadSent then waitAt .drainPayload

/-- The payload after the header, which may have been read before. -/
def readHeader (c : SessionCall) : SessionM (List UInt8) :=
  match c.preparedHeader with
  | some payload => pure payload
  | none => waitAt .collectHeader

/-- The `try` block of `_run_vless_session`. -/
def relaySession (c : SessionCall) : SessionM Unit := do
  let payload ← readHeader c
  let withinQuota : Bool ← waitAt .checkAndUse
  if !withinQuota then waitAt .closeClient
  else if ← pickExit then
    openUpstream payload
    runRelays c
    flushAndSave

/-- The `except` blocks, which leave a cancellation alone. -/
def reportError : Raised → SessionM Unit
  | .cancelled => raise .cancelled
  | _ => pure ()

/-- Close the writer, if there is one; an exception does not matter. -/
def closeWriter : SessionM Unit := do
  if (← look).writer.isSome then
    (do
      modify fun s => { s with writer := some .closed }
      waitAt .waitClosed : SessionM Unit).tryCatch fun
    | .cancelled => raise .cancelled
    | _ => pure ()

/-- The `finally` block. -/
def cleanUp (c : SessionCall) : SessionM Unit := do
  closeWriter
  modify fun s => { s with connections := s.connections.erase c.arrival.connId }

/-- `_run_vless_session`. -/
def runVlessSession (c : SessionCall) : SessionM Unit := do
  waitAt .linksLock
  match admitted (← look).connections c.arrival with
  | .error _ => raise .other
  | .ok false => waitAt .closeClient
  | .ok true =>
    modify fun s =>
      { s with connections := register s.connections c.arrival, connId := some c.arrival.connId }
    ((relaySession c).tryCatch reportError).andFinally (cleanUp c)

end

/-! ## Its surroundings -/

/-- What others do while a session waits: other sessions change the table, but for the entry of this
one; and a relay ends. -/
inductive SessionOther
  | connections (connections : Connections)
  | ends (name : RelayName) (raised : Option Raised)

/-- The state after a move of others. -/
def sessionOther (s : SessionState) : SessionOther → Option SessionState
  | .connections connections =>
    if ∀ id ∈ s.connId, connections.get? id = s.connections.get? id then
      some { s with connections := connections }
    else none
  | .ends name raised =>
    if s.running name then
      match name with
      | .upload => some { s with upload := some (.ended raised) }
      | .download => some { s with download := some (.ended raised) }
    else none

/-- The relays that are done are these, and there is one. -/
def doneAre (s : SessionState) (done : List RelayName) : Bool :=
  done ≠ [] && [RelayName.upload, .download].all fun name => decide (name ∈ done) == s.ended name

/-- The replies of `asyncio`.  A wait for the relays ends when one of them is done; a wait for a
relay, which passes a cancellation on to it, and a gathering of relays, end when they are done; other
points may get any reply. -/
def sessionReplies (s : SessionState) : (p : SessionPoint) → Except Raised p.Reply → Bool
  | .waitRelays, .ok done => doneAre s done
  | .waitRelays, .error e => e = .cancelled
  | .waitDownload, _ => s.ended .download
  | .gather pending, .ok _ => pending.all s.ended
  | .gather pending, .error e => pending.all s.ended && e = .cancelled
  | _, _ => true

/-- A session and its surroundings. -/
def sessionMachine : Machine (SessionM Unit × SessionState)
    (Coroutine.Act SessionPoint.Reply Raised SessionOther) Empty :=
  Coroutine.machine sessionOther sessionReplies

/-- The session is not cancelled while it waits for its relays and one of them runs, or while it
waits for its writer to be closed. -/
def safelyCancelled (s : SessionState) : Coroutine.Act SessionPoint.Reply Raised SessionOther → Bool
  | .resume .waitRelays (.error .cancelled) => !s.running .upload && !s.running .download
  | .resume .waitClosed (.error .cancelled) => false
  | _ => true

/-! ## What others leave alone -/

/-- What others leave alone: the id of the session and its entry, the writer, and a relay that does
not run. -/
structure Later (s s' : SessionState) : Prop where
  connId : s'.connId = s.connId
  entry : ∀ id ∈ s.connId, s'.connections.get? id = s.connections.get? id
  writer : s'.writer = s.writer
  running : ∀ name, s'.running name = true → s.running name = true
  ended : ∀ name, s.ended name = true → s'.ended name = true

lemma Later.refl (s : SessionState) : Later s s := ⟨rfl, fun _ _ => rfl, rfl, fun _ h => h, fun _ h => h⟩

lemma Later.trans {s₁ s₂ s₃ : SessionState} (h : Later s₁ s₂) (h' : Later s₂ s₃) : Later s₁ s₃ where
  connId := h'.connId.trans h.connId
  entry id hid := (h'.entry id (h.connId ▸ hid)).trans (h.entry id hid)
  writer := h'.writer.trans h.writer
  running name hrun := h.running name (h'.running name hrun)
  ended name hend := h'.ended name (h.ended name hend)

lemma later_sessionOther {s s' : SessionState} {l : SessionOther} (h : sessionOther s l = some s') :
    Later s s' := by
  cases l with
  | connections connections =>
    unfold sessionOther at h
    dsimp only at h
    split at h
    · rename_i hentry
      obtain rfl := Option.some.inj h
      exact ⟨rfl, hentry, rfl, fun name hrun => hrun, fun name hend => hend⟩
    · cases h
  | ends name raised =>
    unfold sessionOther at h
    dsimp only at h
    split at h
    · rename_i hrunning
      have hnot : ∀ name', s.ended name' = true → name' ≠ name := by
        rintro name' hend rfl
        unfold SessionState.ended at hend
        unfold SessionState.running at hrunning
        split at hend
        · rename_i hsome
          simp [hsome] at hrunning
        · cases hend
      cases name with
      | upload =>
        obtain rfl := Option.some.inj h
        refine ⟨rfl, fun _ _ => rfl, rfl, fun name' hrun => ?_, fun name' hend => ?_⟩
        · cases name' with
          | upload => cases hrun
          | download => exact hrun
        · cases name' with
          | upload => rfl
          | download => exact hend
      | download =>
        obtain rfl := Option.some.inj h
        refine ⟨rfl, fun _ _ => rfl, rfl, fun name' hrun => ?_, fun name' hend => ?_⟩
        · cases name' with
          | upload => exact hrun
          | download => cases hrun
        · cases name' with
          | upload => exact hend
          | download => rfl
    · cases h

/-! ## The states of a session -/

/-- No relay runs. -/
def Idle (s : SessionState) : Prop := ∀ name, s.running name = false

/-- The session has its entry in the table. -/
def Holds (c : SessionCall) (s : SessionState) : Prop := s.connId = some c.arrival.connId

/-- The relays have ended, but for some. -/
def EndedBut (pending : List RelayName) (s : SessionState) : Prop :=
  ∀ name, name ∉ pending → s.ended name = true

/-- Nothing of the session is left: its entry is gone, no relay runs and the writer is closed. -/
structure CleanedUp (s : SessionState) : Prop where
  entry : ∀ id ∈ s.connId, s.connections.get? id = none
  idle : Idle s
  writer : s.writer ≠ some .opened

variable {c : SessionCall} {s s' : SessionState} {pending done : List RelayName}

lemma Idle.later (h : Idle s) (hlater : Later s s') : Idle s' := by
  intro name
  by_contra hrun
  rw [Bool.not_eq_false] at hrun
  exact Bool.false_ne_true ((h name).symm.trans (hlater.running name hrun))

lemma Holds.later (h : Holds c s) (hlater : Later s s') : Holds c s' := hlater.connId.trans h

lemma EndedBut.later (h : EndedBut pending s) (hlater : Later s s') : EndedBut pending s' :=
  fun name hname => hlater.ended name (h name hname)

lemma CleanedUp.later (h : CleanedUp s) (hlater : Later s s') : CleanedUp s' where
  entry id hid := by
    rw [hlater.connId] at hid
    exact (hlater.entry id hid).trans (h.entry id hid)
  idle := h.idle.later hlater
  writer := hlater.writer ▸ h.writer

lemma SessionState.not_running_of_ended {name : RelayName} (h : s.ended name = true) :
    s.running name = false := by
  unfold SessionState.ended at h
  unfold SessionState.running
  split at h
  · rename_i hsome
    rw [hsome]
  · cases h

lemma EndedBut.idle (h : EndedBut [] s) : Idle s :=
  fun name => SessionState.not_running_of_ended (h name List.not_mem_nil)

lemma EndedBut.of_all (h : EndedBut pending s) (hall : pending.all s.ended = true) : EndedBut [] s := by
  intro name _
  by_cases hname : name ∈ pending
  · exact List.all_eq_true.mp hall name hname
  · exact h name hname

/-- A cancellation does not change a relay that has ended. -/
lemma EndedBut.cancelRelays (h : EndedBut pending s) (cancelled : List RelayName) :
    EndedBut pending (cancelRelays cancelled s) := by
  intro name hname
  have hended := h name hname
  unfold SessionState.ended SessionState.task at hended ⊢
  cases name with
  | upload =>
    split at hended
    · rename_i hsome
      simp only [Session.cancelRelays, hsome]
    · cases hended
  | download =>
    split at hended
    · rename_i hsome
      simp only [Session.cancelRelays, hsome]
    · cases hended

/-! ## The relays -/

/-- A reply that may come, and is no cancellation that leaves something behind. -/
def Expected (s : SessionState) (p : SessionPoint) (r : Except Raised p.Reply) : Prop :=
  sessionReplies s p r = true ∧ safelyCancelled s (.resume p r) = true

/-- However a part of a session ends, it still has its entry and no relay runs. -/
abbrev Rests (c : SessionCall) {α : Type} (x : SessionM α) : Prop :=
  Coroutine.Keeps Later Expected (fun s => Holds c s ∧ Idle s) x

lemma rests_waitAt (p : SessionPoint) : Rests c (waitAt p) :=
  Coroutine.keeps_wait (fun _ _ h hlater => ⟨h.1.later hlater, h.2.later hlater⟩) p

lemma rests_raiseErrors (done : List RelayName) : Rests c (raiseErrors done) := by
  induction done with
  | nil => exact Coroutine.keeps_pure ()
  | cons name done ih =>
    refine Coroutine.Keeps.bind Coroutine.keeps_look fun s => ?_
    split
    · exact Coroutine.keeps_raise _
    · exact ih

/-- After the half close only a relay that is to be cancelled may run, and no relay runs when the
wait fails. -/
lemma safe_awaitHalfClose (hholds : Holds c s)
    (hended : EndedBut ([RelayName.upload, .download].filter (· ∉ done)) s) :
    Coroutine.Safe Later Expected (fun r s => Holds c s ∧ match r with
      | .ok pending => EndedBut pending s
      | .error _ => Idle s) (awaitHalfClose c done) s := by
  unfold awaitHalfClose
  dsimp only
  split_ifs with hhalf
  · obtain ⟨-, hupload, -⟩ := hhalf
    refine Coroutine.Safe.tryCatch (Coroutine.Safe.bind (Coroutine.safe_wait fun s' hlater r hr => ?_))
    have hall : EndedBut [] s' := by
      rintro (_ | _) -
      · exact hended.later hlater .upload (by simp [hupload])
      · exact hr.1
    have hholds' : Holds c s' := hholds.later hlater
    cases r with
    | ok _ => exact ⟨hholds', hall⟩
    | error e =>
      cases e with
      | timeout => exact ⟨hholds', fun name _ => hall name List.not_mem_nil⟩
      | _ => exact ⟨hholds', hall.idle⟩
  · exact ⟨hholds, hended⟩

/-- The relays that are not done may run, and no other relay. -/
lemma EndedBut.of_doneAre (h : doneAre s done = true) :
    EndedBut ([RelayName.upload, .download].filter (· ∉ done)) s := by
  intro name hname
  have hall := (Bool.and_eq_true_iff.mp h).2
  have hmem : name ∈ [RelayName.upload, .download] := by cases name <;> decide
  have hiff : decide (name ∈ done) = s.ended name := eq_of_beq (List.all_eq_true.mp hall name hmem)
  have hdone : name ∈ done := by
    by_contra hnot
    exact hname (List.mem_filter.mpr ⟨hmem, decide_eq_true hnot⟩)
  exact hiff.symm.trans (decide_eq_true hdone)

/-- A session that cancels its relays waits for them. -/
lemma safe_gatherRelays (hholds : Holds c s) (hended : EndedBut pending s) :
    Coroutine.Safe Later Expected (fun _ s => Holds c s ∧ Idle s) (gatherRelays pending) s := by
  unfold gatherRelays
  split_ifs with hpending
  · refine Coroutine.safe_wait fun s' hlater r hr => ⟨hholds.later hlater, ?_⟩
    have hall : pending.all s'.ended = true := by
      cases r with
      | ok _ => exact hr.1
      | error e => exact (Bool.and_eq_true_iff.mp hr.1).1
    exact ((hended.later hlater).of_all hall).idle
  · obtain rfl := not_not.mp hpending
    exact ⟨hholds, hended.idle⟩

/-- A session does not leave its relays running. -/
lemma rests_runRelays : Rests c (runRelays c) := by
  rintro s ⟨hholds, -⟩
  refine Coroutine.safe_modify_bind ?_
  refine Coroutine.Safe.bind (Coroutine.safe_wait fun s₁ hlater r hr => ?_)
  have hholds₁ : Holds c s₁ := hlater.connId.trans hholds
  cases r with
  | error e =>
    -- only a cancellation ends this wait, and none is delivered there while a relay runs
    obtain rfl : e = .cancelled := of_decide_eq_true hr.1
    obtain ⟨hupload, hdownload⟩ := Bool.and_eq_true_iff.mp hr.2
    refine ⟨hholds₁, ?_⟩
    rintro (_ | _)
    · simpa using hupload
    · simpa using hdownload
  | ok done =>
    refine Coroutine.Safe.bind ((safe_awaitHalfClose hholds₁ (EndedBut.of_doneAre hr.1)).mono ?_)
    rintro (e | pending) s₂ ⟨hholds₂, hs₂⟩
    · exact ⟨hholds₂, hs₂⟩
    · refine Coroutine.safe_modify_bind ?_
      have hcancel : EndedBut pending (cancelRelays pending s₂) := hs₂.cancelRelays pending
      have hholdsCancel : Holds c (cancelRelays pending s₂) := hholds₂
      refine Coroutine.Safe.bind ((safe_gatherRelays hholdsCancel hcancel).mono ?_)
      rintro (e | _) s₃ hs₃
      · exact hs₃
      · exact rests_raiseErrors done s₃ hs₃

/-! ## The session -/

lemma rests_pickExit : Rests c pickExit := by
  refine Coroutine.Keeps.tryCatch ?_ fun e => ?_
  · exact (rests_waitAt _).bind fun _ => Coroutine.keeps_pure _
  · cases e with
    | proxyUnavailable => exact (rests_waitAt _).bind fun _ => Coroutine.keeps_pure _
    | _ => exact Coroutine.keeps_raise _

lemma rests_openUpstream (payload : List UInt8) : Rests c (openUpstream payload) := by
  refine (rests_waitAt _).bind fun payloadSent => ?_
  refine Coroutine.Keeps.bind (Coroutine.keeps_modify fun s hs => ?_) fun _ => ?_
  · exact hs
  exact Coroutine.keeps_ite (rests_waitAt _) (Coroutine.keeps_pure _)

lemma rests_flushAndSave : Rests c flushAndSave := by
  refine Coroutine.Keeps.bind ((rests_waitAt _).tryCatch fun e => ?_) fun _ =>
    (rests_waitAt _).tryCatch fun e => ?_
  · cases e with
    | connection => exact Coroutine.keeps_pure _
    | _ => exact Coroutine.keeps_raise _
  · cases e with
    | typeError rotate => exact Coroutine.keeps_ite (rests_waitAt _) (Coroutine.keeps_raise _)
    | _ => exact Coroutine.keeps_raise _

lemma rests_readHeader : Rests c (readHeader c) := by
  unfold readHeader
  split
  · exact Coroutine.keeps_pure _
  · exact rests_waitAt _

lemma rests_relaySession : Rests c (relaySession c) := by
  refine rests_readHeader.bind fun payload => ?_
  refine (rests_waitAt _).bind fun withinQuota => ?_
  refine Coroutine.keeps_ite (rests_waitAt _) (rests_pickExit.bind fun picked => ?_)
  refine Coroutine.keeps_ite ?_ (Coroutine.keeps_pure _)
  exact (rests_openUpstream payload).bind fun _ => rests_runRelays.bind fun _ => rests_flushAndSave

lemma rests_reportError (e : Raised) : Rests c (reportError e) := by
  cases e with
  | cancelled => exact Coroutine.keeps_raise _
  | _ => exact Coroutine.keeps_pure _

/-- The writer is closed, unless the session is cancelled there. -/
lemma safe_closeWriter (hholds : Holds c s) (hidle : Idle s) :
    Coroutine.Safe Later Expected (fun r s => match r with
      | .ok _ => Holds c s ∧ Idle s ∧ s.writer ≠ some .opened
      | .error _ => False) closeWriter s := by
  refine Coroutine.safe_look_bind ?_
  by_cases hwriter : s.writer.isSome = true
  · rw [if_pos hwriter]
    refine Coroutine.Safe.tryCatch (Coroutine.safe_modify_bind ?_)
    refine Coroutine.safe_wait fun s' hlater r hr => ?_
    have hs' : Holds c s' ∧ Idle s' ∧ s'.writer ≠ some .opened := by
      refine ⟨hlater.connId.trans hholds, Idle.later (s := {s with writer := some .closed}) hidle hlater, ?_⟩
      rw [hlater.writer]
      simp
    cases r with
    | ok _ => exact hs'
    | error e =>
      cases e with
      | cancelled => cases hr.2
      | _ => exact hs'
  · rw [if_neg hwriter]
    refine ⟨hholds, hidle, fun hopened => hwriter ?_⟩
    rw [hopened]
    rfl

/-- The clean-up ends with nothing of the session left, unless it is cancelled. -/
lemma safe_cleanUp (hholds : Holds c s) (hidle : Idle s) :
    Coroutine.Safe Later Expected (fun r s => match r with
      | .ok _ => CleanedUp s
      | .error _ => False) (cleanUp c) s := by
  refine Coroutine.Safe.bind ((safe_closeWriter hholds hidle).mono ?_)
  rintro (e | _) s' hs'
  · exact hs'
  · obtain ⟨hholds', hidle', hwriter⟩ := hs'
    refine ⟨?_, hidle', hwriter⟩
    rintro id hid
    obtain rfl : c.arrival.connId = id := Option.some.inj (hholds'.symm.trans hid)
    exact Dict.get?_erase_self _ _

/-- A session that has not entered the table leaves nothing. -/
lemma safe_runVlessSession (c : SessionCall) (connections : Connections) :
    Coroutine.Safe Later Expected (fun _ => CleanedUp) (runVlessSession c) (.start connections) := by
  have hstart : ∀ s', Later (.start connections) s' → s'.connId = none ∧ CleanedUp s' := by
    intro s' hlater
    have hclean : CleanedUp (.start connections) := ⟨nofun, by rintro (_ | _) <;> rfl, nofun⟩
    exact ⟨hlater.connId, hclean.later hlater⟩
  refine Coroutine.Safe.bind (Coroutine.safe_wait fun s hlater r _ => ?_)
  obtain ⟨hnone, hclean⟩ := hstart s hlater
  cases r with
  | error e => exact hclean
  | ok _ =>
    refine Coroutine.safe_look_bind ?_
    split
    · exact hclean
    · exact Coroutine.safe_wait fun s' hlater' _ _ => hclean.later hlater'
    · refine Coroutine.safe_modify_bind (Coroutine.Safe.andFinally ?_)
      have hrests : Rests c ((relaySession c).tryCatch reportError) :=
        rests_relaySession.tryCatch rests_reportError
      have hentered : Holds c { s with
          connections := register s.connections c.arrival, connId := some c.arrival.connId } := rfl
      refine (hrests _ ⟨hentered, hclean.idle⟩).mono ?_
      rintro r s' ⟨hholds, hidle⟩
      refine (safe_cleanUp hholds hidle).mono ?_
      rintro (e | _) s'' hs''
      · exact hs''.elim
      · exact hs''

/-- A session that has finished has left nothing behind: its id is not in the table, no relay of it
runs and its writer is closed.  This is so in every run in which no cancellation is delivered while
it waits for relays that run, or while it waits for its writer in its clean-up. -/
theorem session_cleans_up {connections : Connections} {visited : List (SessionM Unit × SessionState)}
    {events : List Empty} {x : SessionM Unit × SessionState}
    (hrun : (sessionMachine.restrict fun x act => safelyCancelled x.2 act).Run
      ((runVlessSession c).advance (.start connections)) visited events x)
    (hfinished : x.1.outcome.isSome = true) :
    (∀ id ∈ x.2.connId, x.2.connections.get? id = none) ∧
      (∀ name, x.2.running name = false) ∧ x.2.writer ≠ some .opened := by
  obtain ⟨r, hr⟩ := Option.isSome_iff_exists.mp hfinished
  have hclean : CleanedUp x.2 := (safe_runVlessSession c connections).run Later.refl
    (fun _ _ _ => Later.trans) (fun _ _ _ => later_sessionOther) (fun _ _ _ hP hallowed => ⟨hallowed, hP⟩)
    (fun _ _ _ => CleanedUp.later) hrun r hr
  exact ⟨hclean.entry, hclean.idle, hclean.writer⟩

/-- A session of one address. -/
def exampleCall : SessionCall := ⟨exampleArrival "1.2.3.4" "c", none, false⟩

/-- The session is at its relays. -/
def toRelays : List (Coroutine.Act SessionPoint.Reply Raised SessionOther) :=
  [.resume .linksLock (.ok ()), .resume .collectHeader (.ok []), .resume .checkAndUse (.ok true),
    .resume .resolveExactSelection (.ok ()), .resume .openOutbound (.ok true)]

/-- The upload ends, and the session ends with it. -/
def endOfUpload : List (Coroutine.Act SessionPoint.Reply Raised SessionOther) :=
  [.other (.ends .upload none), .resume .waitRelays (.ok [.upload]),
    .other (.ends .download (some .cancelled)), .resume (.gather [.download]) (.ok ()),
    .resume .flushClient (.ok ()), .resume .saveState (.ok ())]

/-- A session that ends with its upload. -/
theorem session_cleans_up_upload : ∃ visited events x,
    (sessionMachine.restrict fun x act => safelyCancelled x.2 act).Run
        ((runVlessSession exampleCall).advance (.start .empty)) visited events x ∧
      x.1.outcome.isSome = true ∧ x.2.connId = some "c" ∧
      (∀ id ∈ x.2.connId, x.2.connections.get? id = none) ∧
      (∀ name, x.2.running name = false) ∧ x.2.writer ≠ some .opened := by
  have hends : ∃ visited events x,
      (sessionMachine.restrict fun x act => safelyCancelled x.2 act).Run
        ((runVlessSession exampleCall).advance (.start .empty)) visited events x ∧
      x.1.outcome.isSome = true ∧ x.2.connId = some "c" :=
    Machine.exists_run (toRelays ++ endOfUpload ++ [.resume .waitClosed (.ok ())]) (by decide +kernel)
  obtain ⟨_, _, _, hrun, hfinished, hid⟩ := hends
  exact ⟨_, _, _, hrun, hfinished, hid, session_cleans_up hrun hfinished⟩

/-- A session that is cancelled while it waits for its writer leaves its entry in the table; one that
is cancelled while it waits for its relays leaves them running. -/
theorem session_leaves_behind :
    (∃ visited events x,
      sessionMachine.Run ((runVlessSession exampleCall).advance (.start .empty)) visited events x ∧
        x.1.outcome.isSome = true ∧ x.2.connId = some "c" ∧
        x.2.connections.get? "c" = some ⟨"u", "1.2.3.4"⟩) ∧
      ∃ visited events x,
        sessionMachine.Run ((runVlessSession exampleCall).advance (.start .empty)) visited events x ∧
          x.1.outcome.isSome = true ∧ x.2.running .upload = true ∧ x.2.running .download = true := by
  constructor
  · exact Machine.exists_run
      (toRelays ++ endOfUpload ++ [.resume .waitClosed (.error .cancelled)]) (by decide +kernel)
  · exact Machine.exists_run
      (toRelays ++ [.resume .waitRelays (.error .cancelled), .resume .waitClosed (.ok ())])
      (by decide +kernel)

end Session
