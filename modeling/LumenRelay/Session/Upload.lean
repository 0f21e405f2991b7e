import LumenRelay.Lib.Machine
import LumenRelay.Py.StreamReader
import LumenRelay.Routing.FirstPacket
import LumenRelay.Session.Conservation
import LumenRelay.Session.TurboReceive

/-!
# From the client to the target

A session opens its upstream connection, sends the payload that came with the header, and then
passes on the messages of the client.  Messages that are queued already are passed on in bursts,
without waiting between them, until the transport is full, the link is limited, or the burst is
long.
-/

namespace Session

open Lib Py Routing

/-! ## Clients -/

/-- `RAW_STREAM_CHUNK`. -/
def rawStreamChunk : ℕ := 256 * 1024

/-- The payload of a message; a text is passed on as UTF-8. -/
def Queued.data : Queued → List UInt8
  | .bytes data => data
  | .text s => utf8Bytes s
  | .event => []

/-- A client: a WebSocket connection, with or without the hooks of the turbo protocol, and its
queue; or a Raw TCP stream. -/
inductive ClientIo
  | webSocket (turbo : Bool) (queue : List Queued)
  | rawTcp (reader : StreamReader)

namespace ClientIo

/-- `receive`, unless it waits; the end of a stream is a message that disconnects. -/
def receive : ClientIo → Option (Queued × ClientIo)
  | .webSocket _ [] => none
  | .webSocket turbo (m :: queue) => some (m, .webSocket turbo queue)
  | .rawTcp reader =>
    if reader.buffer = [] ∧ !reader.eof then none
    else
      let (data, reader) := reader.readBuffered rawStreamChunk
      some (if data = [] then .event else .bytes data, .rawTcp reader)

/-- `receive_nowait`. -/
def receiveNowait : ClientIo → Option (Queued × ClientIo)
  | .webSocket true (m :: queue) => some (m, .webSocket true queue)
  | _ => none

/-- The bytes that wait to be received. -/
def waiting : ClientIo → List UInt8
  | .webSocket _ queue => queue.flatMap Queued.data
  | .rawTcp reader => reader.buffer

/-- Bytes come in, as a message or on the stream. -/
def arrive : ClientIo → Queued → Option ClientIo
  | .webSocket turbo queue, m => some (.webSocket turbo (queue ++ [m]))
  | .rawTcp reader, m => (reader.feedData m.data).map .rawTcp

/-- The stream ends. -/
def feedEof : ClientIo → Option ClientIo
  | .webSocket _ _ => none
  | .rawTcp reader => some (.rawTcp reader.feedEof)

end ClientIo

/-! ## Flow control -/

/-- `WRITE_HW_MIN`. -/
def writeHwMin : ℕ := 512 * 1024

/-- `WRITE_HW_MAX`. -/
def writeHwMax : ℕ := 64 * 1024 * 1024

/-- `_AdaptiveFlow`. -/
structure AdaptiveFlow where
  highWater : ℕ
  maxHighWater : ℕ

namespace AdaptiveFlow

/-- A new flow. -/
def create (highWater maxHighWater : ℕ) : AdaptiveFlow where
  highWater := min (min writeHwMax (max writeHwMin maxHighWater)) (max writeHwMin highWater)
  maxHighWater := min writeHwMax (max writeHwMin maxHighWater)

/-- `observe`. -/
def observe (flow : AdaptiveFlow) (drainMs : ℚ) : AdaptiveFlow :=
  if drainMs ≤ 2 then
    { flow with highWater := min (flow.highWater * 3 / 2 + 64 * 1024) flow.maxHighWater }
  else if 30 ≤ drainMs then { flow with highWater := max (flow.highWater / 2) writeHwMin }
  else flow

end AdaptiveFlow

/-! ## The relay -/

/-- `WS_UPLOAD_BURST_MESSAGES`. -/
def wsUploadBurstMessages : ℕ := 32

/-- `WS_UPLOAD_BURST_BYTES`. -/
def wsUploadBurstBytes : ℕ := 4 * 1024 * 1024

/-- `_speed_limited`. -/
def speedLimited (rt : Runtime) (link : Option Obj) : Except PyErr Bool :=
  if link.getD [] = [] then return false
  else do
    let rate ← (((link.getD []).getD "speed_limit_bytes" (.int 0)).or (.int 0)).toInt rt
    return decide (0 < rate)

/-- What the relay finds around it: the time, the link, whether a write fails, and the bytes in the
buffer of the transport after it. -/
structure Surroundings where
  now : ℚ
  link : Option Obj
  writeFails : Bool
  bufferSize : ℕ

/-- The variables of `relay_client_to_tcp`. -/
structure Uploader where
  gate : QuotaGate
  flow : AdaptiveFlow
  limited : Bool
  ticks : ℕ
  burstMessages : ℕ
  burstBytes : ℕ

/-- Where `relay_client_to_tcp` is: it waits for a message, or looks for another one of a burst; it
waits for a commit, for the client to be closed after a refusal, for its share of the speed limit or
for the transport; or it has left its loop, and flushes its gate. -/
inductive UploadPoint
  | receiving
  | polling
  | committing (amount : ℕ) (data : List UInt8)
  | refused
  | throttling (data : List UInt8)
  | draining
  | finishing

/-- What a session does with bytes: they arrive from the client, a message is taken, and bytes are
written to the upstream connection. -/
inductive UploadEvent
  | arrived (bytes : List UInt8)
  | taken (m : Queued)
  | wrote (bytes : List UInt8)
deriving DecidableEq

namespace Uploader

/-- The end of a turn: the relay waits for the transport, leaves the burst, or stays in it. -/
def afterWrite (u : Uploader) (bufferSize : ℕ) : UploadPoint :=
  if u.flow.highWater ≤ bufferSize then .draining
  else if u.limited ∨ wsUploadBurstMessages ≤ u.burstMessages ∨ wsUploadBurstBytes ≤ u.burstBytes then
    .receiving
  else .polling

/-- The data of a message is written. -/
def writeData (u : Uploader) (data : List UInt8) (e : Surroundings) :
    Uploader × UploadPoint × List UploadEvent :=
  if e.writeFails then (u, .finishing, [])
  else
    let u := { u with burstBytes := u.burstBytes + data.length }
    (u, u.afterWrite e.bufferSize, [.wrote data])

/-- The data of a message was admitted by the gate. -/
def pass (rt : Runtime) (u : Uploader) (data : List UInt8) (e : Surroundings) :
    Uploader × UploadPoint × List UploadEvent :=
  let u := { u with ticks := u.ticks + 1 }
  match if u.ticks % 128 = 0 then speedLimited rt e.link else .ok u.limited with
  | .error _ => (u, .finishing, [])
  | .ok limited =>
    let u := { u with limited := limited }
    if limited then (u, .throttling data, []) else u.writeData data e

/-- A message was taken. -/
def handle (rt : Runtime) (u : Uploader) (m : Queued) (e : Surroundings) :
    Uploader × UploadPoint × List UploadEvent :=
  let u := { u with burstMessages := u.burstMessages + 1 }
  if m = .event then (u, .finishing, [])
  else if m.data = [] then (u, u.afterWrite e.bufferSize, [])
  else
    match u.gate.stage rt m.data.length e.now with
    | (.denied, gate) => ({ u with gate := gate }, .refused, [])
    | (.batch amount, gate) => ({ u with gate := gate }, .committing amount m.data, [])
    | (.hot, gate) => { u with gate := gate }.pass rt m.data e

end Uploader

/-! ## The session -/

/-- What a session is called with, once its exit is picked. -/
structure UploadConfig where
  server : Server
  address : String
  port : ℤ
  payload : List UInt8
  endpoints : List String
  proxyId : String
  writeHighWater : ℕ
  writeMaxHighWater : ℕ

/-- Where a session is: it opens the upstream connection, or could not; it waits until the payload
has drained; its relay is about to start, runs, or has stopped. -/
inductive UploadStage
  | opening
  | failed
  | payload
  | starting
  | relaying (u : Uploader) (point : UploadPoint)
  | stopped

/-- The client of a session, and where the session is. -/
structure Upload where
  io : ClientIo
  stage : UploadStage

/-- What happens to a session: bytes arrive or end; the connection is opened; the payload has
drained; the relay starts, receives, goes on after a commit, a close, a wait for the speed limit or
for the transport, and flushes its gate; or the session is interrupted where it waits, by an
exception or a cancellation. -/
inductive UploadAct
  | arrive (m : Queued)
  | feedEof
  | openOutbound (script : List Reply) (writeFails : Bool)
  | payloadDrained
  | start (e : Surroundings)
  | receive (e : Surroundings)
  | poll (e : Surroundings)
  | committed (result : Bool) (e : Surroundings)
  | closed
  | throttled (e : Surroundings)
  | drained (drainMs : ℚ)
  | flushed
  | interrupt

namespace Upload

/-- The relay goes on. -/
def goOn (io : ClientIo) (r : Uploader × UploadPoint × List UploadEvent) :
    Upload × List UploadEvent :=
  (⟨io, .relaying r.1 r.2.1⟩, r.2.2)

/-- A message that was taken is handled. -/
def take (rt : Runtime) (u : Uploader) (r : Queued × ClientIo) (e : Surroundings) :
    Upload × List UploadEvent :=
  let (s, events) := goOn r.2 (u.handle rt r.1 e)
  (s, .taken r.1 :: events)

/-- The upstream connection is opened; when the connector has not sent the payload, it is written
now. -/
def connect (c : UploadConfig) (io : ClientIo) (script : List Reply) (writeFails : Bool) :
    Upload × List UploadEvent :=
  match (Routing.openOutbound c.server c.address c.port c.payload none (some c.endpoints) c.proxyId
    ⟨script, []⟩).1 with
  | .error _ => (⟨io, .failed⟩, [])
  | .ok payloadSent =>
    if c.payload = [] then (⟨io, .starting⟩, [])
    else if payloadSent then (⟨io, .starting⟩, [.wrote c.payload])
    else if writeFails then (⟨io, .failed⟩, [])
    else (⟨io, .payload⟩, [.wrote c.payload])

/-- `relay_client_to_tcp` starts. -/
def start (c : UploadConfig) (io : ClientIo) (e : Surroundings) : Upload :=
  match QuotaGate.create c.server.site.rt e.link e.now, speedLimited c.server.site.rt e.link with
  | .ok gate, .ok limited =>
    let flow := AdaptiveFlow.create c.writeHighWater c.writeMaxHighWater
    ⟨io, .relaying ⟨gate, flow, limited, 0, 0, 0⟩ .receiving⟩
  | _, _ => ⟨io, .stopped⟩

/-- The relay after a step that it takes where it is. -/
def relay (c : UploadConfig) (io : ClientIo) (u : Uploader) (point : UploadPoint) :
    UploadAct → Option (Upload × List UploadEvent)
  | .receive e =>
    match point, io.receive with
    | .receiving, some r => some (take c.server.site.rt { u with burstMessages := 0, burstBytes := 0 } r e)
    | _, _ => none
  | .poll e =>
    match point, io.receiveNowait with
    | .polling, some r => some (take c.server.site.rt u r e)
    | .polling, none => some (⟨io, .relaying u .receiving⟩, [])
    | _, _ => none
  | .committed result e =>
    match point with
    | .committing amount data =>
      let (ok, gate) := u.gate.commit amount result
      let u := { u with gate := gate }
      some (goOn io (if ok then u.pass c.server.site.rt data e else (u, .refused, [])))
    | _ => none
  | .closed =>
    match point with
    | .refused => some (⟨io, .relaying u .finishing⟩, [])
    | _ => none
  | .throttled e =>
    match point with
    | .throttling data => some (goOn io (u.writeData data e))
    | _ => none
  | .drained drainMs =>
    match point with
    | .draining => some (⟨io, .relaying { u with flow := u.flow.observe drainMs } .receiving⟩, [])
    | _ => none
  | .flushed =>
    match point with
    | .finishing => some (⟨io, .stopped⟩, [])
    | _ => none
  | .interrupt =>
    match point with
    | .polling => none
    | .finishing => some (⟨io, .stopped⟩, [])
    | _ => some (⟨io, .relaying u .finishing⟩, [])
  | _ => none

/-- The session, once its header was read. -/
def session (c : UploadConfig) (s : Upload) (act : UploadAct) : Option (Upload × List UploadEvent) :=
  match s.stage, act with
  | .opening, .openOutbound script writeFails => some (connect c s.io script writeFails)
  | .opening, .interrupt => some (⟨s.io, .failed⟩, [])
  | .payload, .payloadDrained => some (⟨s.io, .starting⟩, [])
  | .payload, .interrupt => some (⟨s.io, .stopped⟩, [])
  | .starting, .start e => some (start c s.io e, [])
  | .starting, .interrupt => some (⟨s.io, .stopped⟩, [])
  | .relaying u point, act => relay c s.io u point act
  | _, _ => none

end Upload

/-- A session and its client. -/
def uploading (c : UploadConfig) : Machine Upload UploadAct UploadEvent where
  step s
    | .arrive m => (s.io.arrive m).map fun io => ({ s with io := io }, [.arrived m.data])
    | .feedEof => s.io.feedEof.map fun io => ({ s with io := io }, [])
    | act => s.session c act

/-- The bytes that have arrived. -/
def arrivedBytes (events : List UploadEvent) : List UInt8 :=
  events.flatMap fun
    | .arrived bytes => bytes
    | _ => []

/-- The messages that were taken. -/
def taken (events : List UploadEvent) : List Queued :=
  events.filterMap fun
    | .taken m => some m
    | _ => none

/-- What was written to the upstream connection, one write after the other. -/
def writes (events : List UploadEvent) : List (List UInt8) :=
  events.filterMap fun
    | .wrote bytes => some bytes
    | _ => none

@[simp] lemma arrivedBytes_append (events es : List UploadEvent) :
    arrivedBytes (events ++ es) = arrivedBytes events ++ arrivedBytes es := by
  simp [arrivedBytes]

@[simp] lemma taken_append (events es : List UploadEvent) :
    taken (events ++ es) = taken events ++ taken es := by
  simp [taken]

@[simp] lemma writes_append (events es : List UploadEvent) :
    writes (events ++ es) = writes events ++ writes es := by
  simp [writes]

/-! ## What is written -/

section

variable {first : List (List UInt8)} {events : List UploadEvent}

/-- The payloads of some messages that are not empty. -/
def payloads (messages : List Queued) : List (List UInt8) :=
  (messages.map Queued.data).filter fun data => data ≠ []

@[simp] lemma payloads_append (messages rest : List Queued) :
    payloads (messages ++ rest) = payloads messages ++ payloads rest := by
  simp [payloads]

lemma payloads_of_nil {m : Queued} (h : m.data = []) : payloads [m] = [] := by
  simp [payloads, h]

lemma payloads_of_ne {m : Queued} (h : m.data ≠ []) : payloads [m] = [m.data] := by
  simp [payloads, h]

lemma flatten_payloads (messages : List Queued) :
    (payloads messages).flatten = messages.flatMap Queued.data := by
  induction messages with
  | nil => rfl
  | cons m messages ih =>
    rw [← List.singleton_append, payloads_append, List.flatten_append, ih]
    by_cases hnil : m.data = []
    · simp [payloads_of_nil hnil, hnil]
    · simp [payloads_of_ne hnil]

/-- Every message that was taken has been written. -/
def Written (first : List (List UInt8)) (events : List UploadEvent) : Prop :=
  writes events = first ++ payloads (taken events)

/-- The last message that was taken has the data and was not written, but all others were. -/
def Holding (first : List (List UInt8)) (events : List UploadEvent) (data : List UInt8) : Prop :=
  ∃ handled m, taken events = handled ++ [m] ∧ m.data = data ∧ data ≠ [] ∧
    writes events = first ++ payloads handled

/-- Every message that was taken has been written, but maybe the last. -/
def AllButLast (first : List (List UInt8)) (events : List UploadEvent) : Prop :=
  ∃ handled last, taken events = handled ++ last ∧ last.length ≤ 1 ∧
    writes events = first ++ payloads handled

/-- What holds where the relay is. -/
def UploadPoint.Holds (first : List (List UInt8)) (events : List UploadEvent) : UploadPoint → Prop
  | .receiving | .polling | .draining => Written first events
  | .committing _ data | .throttling data => Holding first events data
  | .refused | .finishing => AllButLast first events

lemma Written.allButLast (h : Written first events) : AllButLast first events :=
  ⟨taken events, [], (List.append_nil _).symm, by simp, h⟩

lemma Holding.allButLast {data : List UInt8} (h : Holding first events data) :
    AllButLast first events := by
  obtain ⟨handled, m, htaken, -, -, hwrites⟩ := h
  exact ⟨handled, [m], htaken, by simp, hwrites⟩

/-- Wherever the relay is, it has written all but the last message. -/
lemma UploadPoint.Holds.allButLast {point : UploadPoint} (h : point.Holds first events) :
    AllButLast first events := by
  cases point with
  | receiving | polling | draining => exact Written.allButLast h
  | committing _ data | throttling data => exact Holding.allButLast h
  | refused | finishing => exact h

/-! ### One message -/

variable {rt : Runtime} {u : Uploader} {e : Surroundings}

lemma Written.afterWrite (h : Written first events) (u : Uploader) (bufferSize : ℕ) :
    (u.afterWrite bufferSize).Holds first events := by
  unfold Uploader.afterWrite
  split_ifs <;> exact h

lemma Holding.writeData {data : List UInt8} (h : Holding first events data) :
    (u.writeData data e).2.1.Holds first (events ++ (u.writeData data e).2.2) := by
  unfold Uploader.writeData
  split
  · rw [List.append_nil]
    exact h.allButLast
  · refine Written.afterWrite ?_ _ _
    obtain ⟨handled, m, htaken, rfl, hne, hwrites⟩ := h
    change writes (events ++ [.wrote m.data]) = first ++ payloads (taken (events ++ [.wrote m.data]))
    rw [writes_append, taken_append, hwrites, htaken]
    change first ++ payloads handled ++ [m.data] = first ++ payloads (handled ++ [m] ++ [])
    rw [List.append_nil, payloads_append, payloads_of_ne hne, List.append_assoc]

lemma Holding.pass {data : List UInt8} (h : Holding first events data) :
    (u.pass rt data e).2.1.Holds first (events ++ (u.pass rt data e).2.2) := by
  dsimp only [Uploader.pass]
  split
  · rw [List.append_nil]
    exact h.allButLast
  · split
    · rw [List.append_nil]
      exact h
    · exact h.writeData

/-- A message that is taken after all others were written. -/
lemma Written.handle (h : Written first events) (m : Queued) :
    (u.handle rt m e).2.1.Holds first (events ++ .taken m :: (u.handle rt m e).2.2) := by
  have htaken : taken (events ++ [.taken m]) = taken events ++ [m] := taken_append events _
  have hwrites : writes (events ++ [.taken m]) = first ++ payloads (taken events) := by
    rw [writes_append, show writes events = _ from h]
    exact List.append_nil _
  rw [List.append_cons]
  dsimp only [Uploader.handle]
  by_cases hevent : m = .event
  · rw [if_pos hevent, List.append_nil]
    exact ⟨_, [m], htaken, by simp, hwrites⟩
  · rw [if_neg hevent]
    by_cases hnil : m.data = []
    · rw [if_pos hnil, List.append_nil]
      refine Written.afterWrite ?_ _ _
      unfold Written
      rw [hwrites, htaken, payloads_append, payloads_of_nil hnil, List.append_nil]
    · have hholding : Holding first (events ++ [.taken m]) m.data :=
        ⟨_, m, htaken, rfl, hnil, hwrites⟩
      rw [if_neg hnil]
      split
      · rw [List.append_nil]
        exact hholding.allButLast
      · rw [List.append_nil]
        exact hholding
      · exact hholding.pass

/-! ### What is received -/

/-- A message that is received was the first that waited. -/
lemma ClientIo.receive_some {io : ClientIo} {r : Queued × ClientIo} (h : io.receive = some r) :
    io.waiting = r.1.data ++ r.2.waiting := by
  unfold ClientIo.receive at h
  split at h
  · cases h
  · obtain rfl := Option.some.inj h
    rfl
  · rename_i reader
    split at h
    · cases h
    · obtain rfl := Option.some.inj h
      have happend := List.take_append_drop rawStreamChunk reader.buffer
      dsimp only [StreamReader.readBuffered, ClientIo.waiting, StreamReader.setBuffer_buffer]
      split
      · rename_i hnil
        rw [hnil] at happend
        exact happend.symm
      · exact happend.symm

lemma ClientIo.receiveNowait_some {io : ClientIo} {r : Queued × ClientIo}
    (h : io.receiveNowait = some r) : io.waiting = r.1.data ++ r.2.waiting := by
  unfold ClientIo.receiveNowait at h
  split at h
  · obtain rfl := Option.some.inj h
    rfl
  · cases h

lemma ClientIo.arrive_some {io io' : ClientIo} {m : Queued} (h : io.arrive m = some io') :
    io'.waiting = io.waiting ++ m.data := by
  cases io with
  | webSocket turbo queue =>
    obtain rfl := Option.some.inj h
    simp [ClientIo.waiting]
  | rawTcp reader =>
    obtain ⟨reader', hfeed, rfl⟩ := Option.map_eq_some_iff.mp h
    exact (StreamReader.feedData_some hfeed).1

lemma ClientIo.feedEof_some {io io' : ClientIo} (h : io.feedEof = some io') :
    io'.waiting = io.waiting := by
  cases io with
  | webSocket turbo queue => cases h
  | rawTcp reader =>
    obtain rfl := Option.some.inj h
    rfl

/-! ### Runs -/

variable {c : UploadConfig} {io₀ : ClientIo} {s s' : Upload} {es : List UploadEvent}

/-- What holds where a session is. -/
def UploadStage.Holds (payload : List UInt8) (events : List UploadEvent) : UploadStage → Prop
  | .opening | .failed => taken events = [] ∧ writes events = []
  | .payload | .starting => taken events = [] ∧ writes events = payloads [.bytes payload]
  | .relaying _ point => point.Holds (payloads [.bytes payload]) events
  | .stopped => AllButLast (payloads [.bytes payload]) events

/-- What holds after a run. -/
structure Intact (payload : List UInt8) (io₀ : ClientIo) (events : List UploadEvent) (s : Upload) :
    Prop where
  written : s.stage.Holds payload events
  arrived : io₀.waiting ++ arrivedBytes events =
    (taken events).flatMap Queued.data ++ s.io.waiting

/-- Events that neither take nor write. -/
structure Silent (es : List UploadEvent) : Prop where
  taken : taken es = []
  writes : writes es = []

lemma AllButLast.silent (h : AllButLast first events) (hes : Silent es) :
    AllButLast first (events ++ es) := by
  unfold AllButLast
  rw [taken_append, writes_append, hes.taken, hes.writes, List.append_nil, List.append_nil]
  exact h

/-- What holds where a session is does not depend on what arrives. -/
lemma UploadStage.Holds.silent {payload : List UInt8} {stage : UploadStage}
    (h : stage.Holds payload events) (hes : Silent es) : stage.Holds payload (events ++ es) := by
  have htaken : taken (events ++ es) = taken events := by
    rw [taken_append, hes.taken, List.append_nil]
  have hwrites : writes (events ++ es) = writes events := by
    rw [writes_append, hes.writes, List.append_nil]
  cases stage with
  | opening | failed | payload | starting =>
    change taken _ = _ ∧ writes _ = _
    rw [htaken, hwrites]
    exact h
  | relaying u point =>
    cases point with
    | receiving | polling | draining =>
      change writes _ = _ ++ payloads (taken _)
      rw [htaken, hwrites]
      exact h
    | committing _ data | throttling data =>
      change Holding _ _ data
      unfold Holding
      rw [htaken, hwrites]
      exact h
    | refused | finishing => exact AllButLast.silent h hes
  | stopped => exact AllButLast.silent h hes

/-- A step of the relay that takes no message. -/
lemma Intact.goOn {payload : List UInt8} (h : Intact payload io₀ events s)
    {r : Uploader × UploadPoint × List UploadEvent}
    (hholds : r.2.1.Holds (payloads [.bytes payload]) (events ++ r.2.2)) (htaken : taken r.2.2 = [])
    (harrived : arrivedBytes r.2.2 = []) :
    Intact payload io₀ (events ++ (Upload.goOn s.io r).2) (Upload.goOn s.io r).1 where
  written := hholds
  arrived := by
    change io₀.waiting ++ arrivedBytes (events ++ r.2.2) =
      (taken (events ++ r.2.2)).flatMap Queued.data ++ s.io.waiting
    rw [arrivedBytes_append, taken_append, harrived, htaken, List.append_nil, List.append_nil,
      h.arrived]

/-- Handling a message takes no other, and nothing arrives. -/
structure OnlyWrites (es : List UploadEvent) : Prop where
  taken : taken es = []
  arrived : arrivedBytes es = []

lemma OnlyWrites.nil : OnlyWrites [] := ⟨rfl, rfl⟩

lemma OnlyWrites.wrote (bytes : List UInt8) : OnlyWrites [.wrote bytes] := ⟨rfl, rfl⟩

lemma onlyWrites_writeData (u : Uploader) (data : List UInt8) (e : Surroundings) :
    OnlyWrites (u.writeData data e).2.2 := by
  unfold Uploader.writeData
  split
  · exact .nil
  · exact .wrote data

lemma onlyWrites_pass (rt : Runtime) (u : Uploader) (data : List UInt8) (e : Surroundings) :
    OnlyWrites (u.pass rt data e).2.2 := by
  dsimp only [Uploader.pass]
  split
  · exact .nil
  · split
    · exact .nil
    · exact onlyWrites_writeData _ data e

lemma onlyWrites_handle (rt : Runtime) (u : Uploader) (m : Queued) (e : Surroundings) :
    OnlyWrites (u.handle rt m e).2.2 := by
  dsimp only [Uploader.handle]
  split_ifs
  · exact .nil
  · exact .nil
  · split
    · exact .nil
    · exact .nil
    · exact onlyWrites_pass rt _ m.data e

/-- A message is taken after all others were written. -/
lemma Intact.take {payload : List UInt8} (h : Intact payload io₀ events s)
    (hwritten : Written (payloads [.bytes payload]) events) (rt : Runtime) (u : Uploader)
    (e : Surroundings) {r : Queued × ClientIo}
    (hreceived : s.io.waiting = r.1.data ++ r.2.waiting) :
    Intact payload io₀ (events ++ (Upload.take rt u r e).2) (Upload.take rt u r e).1 where
  written := hwritten.handle r.1
  arrived := by
    obtain ⟨htaken, harrived⟩ := onlyWrites_handle rt u r.1 e
    change io₀.waiting ++ arrivedBytes (events ++ ([.taken r.1] ++ (u.handle rt r.1 e).2.2)) =
      (taken (events ++ ([.taken r.1] ++ (u.handle rt r.1 e).2.2))).flatMap Queued.data ++ r.2.waiting
    rw [arrivedBytes_append, arrivedBytes_append, taken_append, taken_append, harrived, htaken,
      List.append_nil, List.append_nil, List.flatMap_append, List.append_assoc]
    change io₀.waiting ++ (arrivedBytes events ++ []) = _ ++ ([r.1].flatMap Queued.data ++ r.2.waiting)
    rw [List.append_nil, List.flatMap_singleton, ← hreceived, h.arrived]

/-- The connection is opened, and the payload is written by the connector or by the session. -/
lemma Intact.connect (h : Intact c.payload io₀ events s) (hopening : s.stage = .opening)
    (script : List Reply) (writeFails : Bool) :
    Intact c.payload io₀ (events ++ (Upload.connect c s.io script writeFails).2)
      (Upload.connect c s.io script writeFails).1 := by
  obtain ⟨hwritten, harrived⟩ := h
  rw [hopening] at hwritten
  obtain ⟨htaken, hwrites⟩ := hwritten
  have hpayload : c.payload ≠ [] →
      writes (events ++ [.wrote c.payload]) = payloads [.bytes c.payload] := fun hne => by
    rw [writes_append, hwrites, @payloads_of_ne (.bytes c.payload) hne]
    rfl
  have htaken' : taken (events ++ [.wrote c.payload]) = [] := by
    rw [taken_append, htaken]
    rfl
  have harrived' : io₀.waiting ++ arrivedBytes (events ++ [.wrote c.payload]) =
      (taken (events ++ [.wrote c.payload])).flatMap Queued.data ++ s.io.waiting := by
    rw [htaken', arrivedBytes_append, ← List.append_assoc, harrived, htaken]
    exact List.append_nil _
  unfold Upload.connect
  split
  · rw [List.append_nil]
    exact ⟨⟨htaken, hwrites⟩, harrived⟩
  · split_ifs with hnil
    · rw [List.append_nil]
      refine ⟨⟨htaken, ?_⟩, harrived⟩
      rw [hwrites, @payloads_of_nil (.bytes c.payload) hnil]
    · exact ⟨⟨htaken', hpayload hnil⟩, harrived'⟩
    · rw [List.append_nil]
      exact ⟨⟨htaken, hwrites⟩, harrived⟩
    · exact ⟨⟨htaken', hpayload hnil⟩, harrived'⟩

/-- Before the relay has taken a message, all that was taken has been written. -/
lemma written_of_starting {payload : List UInt8} (htaken : taken events = [])
    (hwrites : writes events = payloads [.bytes payload]) :
    Written (payloads [.bytes payload]) events := by
  unfold Written
  rw [hwrites, htaken]
  exact (List.append_nil _).symm

/-- A step that takes and writes nothing. -/
lemma Intact.move {payload : List UInt8} (h : Intact payload io₀ events s) {stage : UploadStage}
    (hholds : stage.Holds payload events) :
    Intact payload io₀ (events ++ []) ⟨s.io, stage⟩ where
  written := by rwa [List.append_nil]
  arrived := by
    rw [List.append_nil]
    exact h.arrived

/-- A step of the relay. -/
lemma Intact.relay (h : Intact c.payload io₀ events s) {point : UploadPoint}
    (hstage : s.stage = .relaying u point) {act : UploadAct}
    (hstep : Upload.relay c s.io u point act = some (s', es)) :
    Intact c.payload io₀ (events ++ es) s' := by
  have hholds : point.Holds (payloads [.bytes c.payload]) events := by
    have hwritten := h.written
    rwa [hstage] at hwritten
  cases act with
  | receive e =>
    dsimp only [Upload.relay] at hstep
    split at hstep
    · rename_i hreceive
      have hnext := h.take hholds c.server.site.rt { u with burstMessages := 0, burstBytes := 0 } e
        (ClientIo.receive_some hreceive)
      rwa [Option.some.inj hstep] at hnext
    · cases hstep
  | poll e =>
    dsimp only [Upload.relay] at hstep
    split at hstep
    · rename_i hreceive
      have hnext := h.take hholds c.server.site.rt u e (ClientIo.receiveNowait_some hreceive)
      rwa [Option.some.inj hstep] at hnext
    · obtain ⟨rfl, rfl⟩ := Prod.mk.inj (Option.some.inj hstep)
      exact h.move hholds
    · cases hstep
  | committed result e =>
    dsimp only [Upload.relay] at hstep
    split at hstep
    · rename_i amount data
      obtain ⟨rfl, rfl⟩ := Prod.mk.inj (Option.some.inj hstep)
      split
      · exact h.goOn (Holding.pass hholds) (onlyWrites_pass _ _ data e).taken
          (onlyWrites_pass _ _ data e).arrived
      · exact h.move (UploadPoint.Holds.allButLast hholds)
    · cases hstep
  | closed =>
    dsimp only [Upload.relay] at hstep
    split at hstep
    · obtain ⟨rfl, rfl⟩ := Prod.mk.inj (Option.some.inj hstep)
      exact h.move hholds
    · cases hstep
  | throttled e =>
    dsimp only [Upload.relay] at hstep
    split at hstep
    · rename_i data
      obtain ⟨rfl, rfl⟩ := Prod.mk.inj (Option.some.inj hstep)
      exact h.goOn (Holding.writeData hholds) (onlyWrites_writeData _ data e).taken
        (onlyWrites_writeData _ data e).arrived
    · cases hstep
  | drained drainMs =>
    dsimp only [Upload.relay] at hstep
    split at hstep
    · obtain ⟨rfl, rfl⟩ := Prod.mk.inj (Option.some.inj hstep)
      exact h.move hholds
    · cases hstep
  | flushed =>
    dsimp only [Upload.relay] at hstep
    split at hstep
    · obtain ⟨rfl, rfl⟩ := Prod.mk.inj (Option.some.inj hstep)
      exact h.move hholds
    · cases hstep
  | interrupt =>
    dsimp only [Upload.relay] at hstep
    split at hstep
    · cases hstep
    · obtain ⟨rfl, rfl⟩ := Prod.mk.inj (Option.some.inj hstep)
      exact h.move hholds
    · obtain ⟨rfl, rfl⟩ := Prod.mk.inj (Option.some.inj hstep)
      exact h.move (UploadPoint.Holds.allButLast hholds)
  | arrive m => cases hstep
  | feedEof => cases hstep
  | openOutbound script writeFails => cases hstep
  | payloadDrained => cases hstep
  | start e => cases hstep

/-- The relay starts, or its gate cannot be created. -/
lemma Intact.start {payload : List UInt8} (h : Intact payload io₀ events s)
    (hstarting : s.stage = .starting) (e : Surroundings) :
    Intact payload io₀ (events ++ []) (Upload.start c s.io e) := by
  obtain ⟨htaken, hwrites⟩ : taken events = [] ∧ writes events = payloads [.bytes payload] := by
    have hwritten := h.written
    rwa [hstarting] at hwritten
  have hall := written_of_starting htaken hwrites
  unfold Upload.start
  split
  · exact h.move hall
  · exact h.move hall.allButLast

lemma Intact.session (h : Intact c.payload io₀ events s) {act : UploadAct}
    (hstep : s.session c act = some (s', es)) : Intact c.payload io₀ (events ++ es) s' := by
  have hwritten := h.written
  unfold Upload.session at hstep
  split at hstep
  · rename_i script writeFails hstage
    have hnext := h.connect hstage script writeFails
    rwa [Option.some.inj hstep] at hnext
  · rename_i hstage
    obtain ⟨rfl, rfl⟩ := Prod.mk.inj (Option.some.inj hstep)
    rw [hstage] at hwritten
    exact h.move hwritten
  · rename_i hstage
    obtain ⟨rfl, rfl⟩ := Prod.mk.inj (Option.some.inj hstep)
    rw [hstage] at hwritten
    exact h.move hwritten
  · rename_i hstage
    obtain ⟨rfl, rfl⟩ := Prod.mk.inj (Option.some.inj hstep)
    rw [hstage] at hwritten
    exact h.move (written_of_starting hwritten.1 hwritten.2).allButLast
  · rename_i e hstage
    obtain ⟨rfl, rfl⟩ := Prod.mk.inj (Option.some.inj hstep)
    exact h.start hstage e
  · rename_i hstage
    obtain ⟨rfl, rfl⟩ := Prod.mk.inj (Option.some.inj hstep)
    rw [hstage] at hwritten
    exact h.move (written_of_starting hwritten.1 hwritten.2).allButLast
  · rename_i u point hstage
    exact h.relay hstage hstep
  · cases hstep

/-- Nothing was taken or written when bytes arrive. -/
lemma Intact.arrive {payload : List UInt8} (h : Intact payload io₀ events s) {io : ClientIo}
    {m : Queued} (harrive : s.io.arrive m = some io) :
    Intact payload io₀ (events ++ [.arrived m.data]) { s with io := io } where
  written := h.written.silent ⟨rfl, rfl⟩
  arrived := by
    rw [arrivedBytes_append, taken_append, ClientIo.arrive_some harrive, ← List.append_assoc,
      h.arrived]
    simp [arrivedBytes, taken]

lemma Intact.feedEof {payload : List UInt8} (h : Intact payload io₀ events s) {io : ClientIo}
    (hfeed : s.io.feedEof = some io) : Intact payload io₀ (events ++ []) { s with io := io } where
  written := by
    rw [List.append_nil]
    exact h.written
  arrived := by
    rw [List.append_nil, ClientIo.feedEof_some hfeed]
    exact h.arrived

lemma Intact.step (h : Intact c.payload io₀ events s) {act : UploadAct}
    (hstep : (uploading c).step s act = some (s', es)) :
    Intact c.payload io₀ (events ++ es) s' := by
  cases act with
  | arrive m =>
    obtain ⟨io, harrive, heq⟩ := Option.map_eq_some_iff.mp hstep
    obtain ⟨rfl, rfl⟩ := Prod.mk.inj heq
    exact h.arrive harrive
  | feedEof =>
    obtain ⟨io, hfeed, heq⟩ := Option.map_eq_some_iff.mp hstep
    obtain ⟨rfl, rfl⟩ := Prod.mk.inj heq
    exact h.feedEof hfeed
  | _ => exact h.session hstep

/-- The upstream connection of a session was opened. -/
def UploadStage.connected : UploadStage → Bool
  | .opening | .failed => false
  | _ => true

/-- A message may be in hand: it was not admitted yet, or the relay has stopped. -/
def UploadStage.inHand : UploadStage → Bool
  | .relaying _ point =>
    match point with
    | .receiving | .polling | .draining => false
    | _ => true
  | .stopped => true
  | _ => false

/-- Wherever a session is, it has written all messages that were taken but those in hand. -/
lemma UploadStage.Holds.allButLast {payload : List UInt8} {stage : UploadStage}
    (h : stage.Holds payload events) :
    ∃ handled last, taken events = handled ++ last ∧ last.length ≤ 1 ∧
      (last ≠ [] → stage.inHand = true) ∧
      writes events =
        (if stage.connected then payloads [.bytes payload] else []) ++ payloads handled := by
  cases stage with
  | opening | failed => exact ⟨[], [], h.1, by simp, nofun, h.2⟩
  | payload | starting => exact ⟨[], [], h.1, by simp, nofun, h.2.trans (List.append_nil _).symm⟩
  | relaying u point =>
    cases point with
    | receiving | polling | draining =>
      exact ⟨taken events, [], (List.append_nil _).symm, by simp, nofun, h⟩
    | committing _ data | throttling data =>
      obtain ⟨handled, last, htaken, hlength, hwrites⟩ := Holding.allButLast h
      exact ⟨handled, last, htaken, hlength, fun _ => rfl, hwrites⟩
    | refused | finishing =>
      obtain ⟨handled, last, htaken, hlength, hwrites⟩ := h
      exact ⟨handled, last, htaken, hlength, fun _ => rfl, hwrites⟩
  | stopped =>
    obtain ⟨handled, last, htaken, hlength, hwrites⟩ := h
    exact ⟨handled, last, htaken, hlength, fun _ => rfl, hwrites⟩

/-- However messages arrive, and wherever the relay waits or stops: what arrived is what was taken
and what still waits, in order; and the upstream connection got the payload and then every message
that was taken, each in one write, but for one that may be in hand or was when the relay stopped.
When the connector says that it has sent the payload, the connection has got it. -/
theorem upstream_intact {visited : List Upload}
    (hrun : (uploading c).Run ⟨io₀, .opening⟩ visited events s) :
    io₀.waiting ++ arrivedBytes events = (taken events).flatMap Queued.data ++ s.io.waiting ∧
      ∃ handled last, taken events = handled ++ last ∧ last.length ≤ 1 ∧
        (last ≠ [] → s.stage.inHand = true) ∧
        (writes events).flatten =
          (if s.stage.connected then c.payload else []) ++ handled.flatMap Queued.data ∧
        writes events =
          (if s.stage.connected then payloads [.bytes c.payload] else []) ++ payloads handled ∧
        ∀ script payloadSent wire,
          Routing.openOutbound c.server c.address c.port c.payload none (some c.endpoints) c.proxyId
              ⟨script, []⟩ = (.ok payloadSent, wire) →
            if payloadSent then OpenedWith c.payload wire.log
            else wire.log = [.dial (some c.address) (some c.port)] := by
  have hstart : Intact c.payload io₀ [] ⟨io₀, .opening⟩ := ⟨⟨rfl, rfl⟩, List.append_nil _⟩
  have h : Intact c.payload io₀ events s :=
    hrun.invariant_events hstart fun _ _ _ _ _ h hstep => h.step hstep
  obtain ⟨handled, last, htaken, hlength, hhand, hwrites⟩ := h.written.allButLast
  refine ⟨h.arrived, handled, last, htaken, hlength, hhand, ?_, hwrites,
    fun _ _ _ => openOutbound_ok⟩
  rw [hwrites, List.flatten_append, flatten_payloads]
  split
  · rw [flatten_payloads, List.flatMap_singleton]
    rfl
  · rfl

end

/-- A direct session of a payload of two bytes. -/
def directSession : UploadConfig where
  server := .bare .ascii
  address := "example.com"
  port := 80
  payload := [1, 2]
  endpoints := []
  proxyId := ""
  writeHighWater := 0
  writeMaxHighWater := 0

/-- A link without limits, whose transport takes every write. -/
def calm : Surroundings := ⟨0, none, false, 0⟩

/-- The payload is written, then a burst of two messages, after which the transport is full; then a
message that comes later; and the client disconnects. -/
theorem upstream_intact_burst : ∃ visited events s,
    (uploading directSession).Run ⟨.webSocket true [.bytes [3], .text "hi"], .opening⟩ visited events s ∧
      taken events = [.bytes [3], .text "hi", .bytes [4], .event] ∧
      (writes events).flatten = [1, 2, 3, 104, 105, 4] ∧
      [3, 104, 105] ++ arrivedBytes events = (taken events).flatMap Queued.data ++ s.io.waiting := by
  have hends : ∃ visited events s,
      (uploading directSession).Run ⟨.webSocket true [.bytes [3], .text "hi"], .opening⟩ visited events
        s ∧
      (taken events = [.bytes [3], .text "hi", .bytes [4], .event] ∧
        (writes events).flatten = [1, 2, 3, 104, 105, 4]) :=
    Machine.exists_run
      [.openOutbound [.ok []] false, .payloadDrained, .start calm, .receive calm,
        .poll { calm with bufferSize := writeHwMin }, .drained 1, .arrive (.bytes [4]), .arrive .event,
        .receive calm, .poll calm, .flushed] (by decide +kernel)
  obtain ⟨_, _, _, hrun, htaken, hwrites⟩ := hends
  exact ⟨_, _, _, hrun, htaken, hwrites, (upstream_intact hrun).1⟩

end Session
