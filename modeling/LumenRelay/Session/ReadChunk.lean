import LumenRelay.Lib.Machine
import LumenRelay.Py.StreamReader

/-!
# Reading from a target

The relay takes the bytes of a target straight out of the buffer of its stream reader.  It waits
when there are none, and may let the loop go round once more so that the buffer can grow.  What it
takes, and what it leaves, is what the reader itself would have returned and left.
-/

namespace Session

open Lib Py

/-- `READ_MIN`. -/
def readMin : ℕ := 128 * 1024

/-- The last part of `_read_stream_chunk`: the whole buffer, which is replaced by a new one, or its
beginning, which is cut off. -/
def takeChunk (r : StreamReader) (maxBytes : ℕ) : List UInt8 × StreamReader :=
  if r.buffer = [] then ([], r)
  else
    let count := min r.buffer.length maxBytes
    if count = r.buffer.length then (r.buffer, r.setBuffer [])
    else (r.buffer.take count, r.setBuffer (r.buffer.drop count))

/-- Where a call of `_read_stream_chunk` is: it waits for data, it was woken, or it gives the loop a
turn. -/
inductive ChunkStage
  | waiting
  | woken
  | turn
deriving DecidableEq

/-- A call of `_read_stream_chunk` that has not returned. -/
structure ChunkCall where
  maxBytes : ℕ
  coalesceOneTurn : Bool
  stage : ChunkStage

/-- A stream reader, and the call that reads from it. -/
structure ChunkReading where
  reader : StreamReader
  call : Option ChunkCall

/-- What happens at a reader: the transport feeds it or fails, and the relay calls, goes on with a
call or is cancelled in it. -/
inductive ChunkAct
  | feedData (data : List UInt8)
  | feedEof
  | setException
  | call (maxBytes : ℕ) (coalesceOneTurn : Bool)
  | resume
  | cancel

/-- Data was fed; a call has raised, or returned data, at the end of the stream or before it. -/
inductive ChunkEvent
  | fed (data : List UInt8)
  | raised
  | returned (maxBytes : ℕ) (atEof : Bool) (data : List UInt8)
deriving DecidableEq

namespace ChunkReading

/-- `_wakeup_waiter`. -/
def wakeup (s : ChunkReading) : ChunkReading :=
  { s with call := s.call.map fun c => if c.stage = .waiting then { c with stage := .woken } else c }

/-- A call returns. -/
def finish (s : ChunkReading) (maxBytes : ℕ) : ChunkReading × List ChunkEvent :=
  let (data, reader) := takeChunk s.reader maxBytes
  (⟨reader, none⟩, [.returned maxBytes s.reader.atEof data])

/-- A call goes on when there is data or the end: it gives the loop a turn, or returns. -/
def goOn (s : ChunkReading) (maxBytes : ℕ) (coalesceOneTurn : Bool) :
    ChunkReading × List ChunkEvent :=
  if coalesceOneTurn ∧ s.reader.buffer.length < readMin ∧ !s.reader.eof then
    ({ s with call := some ⟨maxBytes, coalesceOneTurn, .turn⟩ }, [])
  else s.finish maxBytes

/-- A call begins. -/
def begin (s : ChunkReading) (maxBytes : ℕ) (coalesceOneTurn : Bool) :
    ChunkReading × List ChunkEvent :=
  if s.reader.exception then (s, [.raised])
  else if s.reader.buffer = [] ∧ !s.reader.eof then
    (⟨s.reader.unpause, some ⟨maxBytes, coalesceOneTurn, .waiting⟩⟩, [])
  else s.goOn maxBytes coalesceOneTurn

end ChunkReading

/-- A reader and the calls of one relay. -/
def chunkReading : Machine ChunkReading ChunkAct ChunkEvent where
  step s
    | .feedData data => do
      let reader ← s.reader.feedData data
      let s' := { s with reader := reader }
      return (if data.isEmpty then s' else s'.wakeup, [.fed data])
    | .feedEof => some ({ s with reader := s.reader.feedEof }.wakeup, [])
    | .setException =>
      let s' := { s with reader := { s.reader with exception := true } }
      match s.call with
      | some ⟨_, _, .waiting⟩ => some ({ s' with call := none }, [.raised])
      | _ => some (s', [])
    | .call maxBytes coalesceOneTurn =>
      match s.call with
      | none => if maxBytes = 0 then none else some (s.begin maxBytes coalesceOneTurn)
      | some _ => none
    | .resume =>
      match s.call with
      | some ⟨maxBytes, coalesceOneTurn, .woken⟩ => some (s.goOn maxBytes coalesceOneTurn)
      | some ⟨maxBytes, _, .turn⟩ => some (s.finish maxBytes)
      | _ => none
    | .cancel => some ({ s with call := none }, [])

/-- The bytes that were fed. -/
def fedBytes (events : List ChunkEvent) : List UInt8 :=
  events.flatMap fun
    | .fed data => data
    | _ => []

/-- The bytes that calls have returned. -/
def returnedBytes (events : List ChunkEvent) : List UInt8 :=
  events.flatMap fun
    | .returned _ _ data => data
    | _ => []

@[simp] lemma fedBytes_append (events es : List ChunkEvent) :
    fedBytes (events ++ es) = fedBytes events ++ fedBytes es := by
  simp [fedBytes]

@[simp] lemma returnedBytes_append (events es : List ChunkEvent) :
    returnedBytes (events ++ es) = returnedBytes events ++ returnedBytes es := by
  simp [returnedBytes]

/-! ## One chunk -/

/-- What is taken straight out of the buffer, and the reader that is left, are those of `read`. -/
lemma takeChunk_eq_readBuffered (r : StreamReader) (maxBytes : ℕ) :
    takeChunk r maxBytes = r.readBuffered maxBytes := by
  unfold takeChunk StreamReader.readBuffered
  by_cases hnil : r.buffer = []
  · rw [if_pos hnil, hnil, List.take_nil, List.drop_nil, StreamReader.setBuffer_nil hnil]
  · rw [if_neg hnil]
    dsimp only
    rcases le_total r.buffer.length maxBytes with hall | hpart
    · rw [if_pos (min_eq_left hall), List.take_of_length_le hall, List.drop_of_length_le hall]
    · rw [min_eq_right hpart]
      split
      · rename_i heq
        rw [heq, List.take_length, List.drop_length]
      · rfl

/-- A chunk and the buffer that is left are the buffer. -/
lemma takeChunk_append (r : StreamReader) (maxBytes : ℕ) :
    (takeChunk r maxBytes).1 ++ (takeChunk r maxBytes).2.buffer = r.buffer := by
  rw [takeChunk_eq_readBuffered]
  exact List.take_append_drop maxBytes r.buffer

lemma takeChunk_eof (r : StreamReader) (maxBytes : ℕ) :
    (takeChunk r maxBytes).2.eof = r.eof := by
  rw [takeChunk_eq_readBuffered]
  rfl

lemma length_takeChunk_le (r : StreamReader) (maxBytes : ℕ) :
    (takeChunk r maxBytes).1.length ≤ maxBytes := by
  rw [takeChunk_eq_readBuffered]
  exact List.length_take_le maxBytes r.buffer

/-- A chunk is empty only when there is nothing in the buffer. -/
lemma takeChunk_eq_nil_iff {r : StreamReader} {maxBytes : ℕ} (hpos : 0 < maxBytes) :
    (takeChunk r maxBytes).1 = [] ↔ r.buffer = [] := by
  rw [takeChunk_eq_readBuffered]
  change r.buffer.take maxBytes = [] ↔ _
  rw [List.take_eq_nil_iff]
  exact or_iff_right (by omega)

/-! ## Runs -/

section

variable {events : List ChunkEvent} {s : ChunkReading}

/-- A call may go on: there is data, or the end. -/
def Ready (r : StreamReader) : Prop := r.buffer ≠ [] ∨ r.eof = true

/-- A call that has returned has kept to its bound, and returned nothing only at the end. -/
def ChunkEvent.Sound : ChunkEvent → Prop
  | .returned maxBytes atEof data =>
    if atEof then data = [] else 1 ≤ data.length ∧ data.length ≤ maxBytes
  | _ => True

/-- What holds after a run: what was fed was returned or is in the buffer, a call that does not wait
may go on, and after the end was returned there is nothing more. -/
structure InOrder (events : List ChunkEvent) (s : ChunkReading) : Prop where
  fed : fedBytes events = returnedBytes events ++ s.reader.buffer
  ready : ∀ c, s.call = some c → 0 < c.maxBytes ∧ (c.stage = .waiting ∨ Ready s.reader)
  sound : ∀ e ∈ events, e.Sound
  ended : ∀ maxBytes atEof, ChunkEvent.returned maxBytes atEof [] ∈ events →
    s.reader.eof = true ∧ s.reader.buffer = []

lemma InOrder.start (limit : ℕ) (pausable : Bool) :
    InOrder [] ⟨.create limit pausable, none⟩ where
  fed := rfl
  ready _ := nofun
  sound _ := nofun
  ended _ _ := nofun

/-- A step that neither feeds nor returns. -/
lemma InOrder.congr (h : InOrder events s) {s' : ChunkReading} {es : List ChunkEvent}
    (hes : ∀ e ∈ es, e = .raised) (hbuffer : s'.reader.buffer = s.reader.buffer)
    (heof : s'.reader.eof = s.reader.eof)
    (hready : ∀ c, s'.call = some c → 0 < c.maxBytes ∧ (c.stage = .waiting ∨ Ready s.reader)) :
    InOrder (events ++ es) s' where
  fed := by
    have hnofed : fedBytes es = [] := List.flatMap_eq_nil_iff.mpr fun e he => by rw [hes e he]
    have hnone : returnedBytes es = [] := List.flatMap_eq_nil_iff.mpr fun e he => by rw [hes e he]
    rw [fedBytes_append, returnedBytes_append, hnofed, hnone, List.append_nil, List.append_nil,
      hbuffer, h.fed]
  ready c hc := by
    unfold Ready
    rw [hbuffer, heof]
    exact hready c hc
  sound := List.forall_mem_append.mpr ⟨h.sound, fun e he => by rw [hes e he]; trivial⟩
  ended maxBytes atEof hmem := by
    rw [hbuffer, heof]
    rcases List.mem_append.mp hmem with hold | hnew
    · exact h.ended maxBytes atEof hold
    · cases hes _ hnew

/-- A call returns. -/
lemma InOrder.finish (h : InOrder events s) {maxBytes : ℕ} (hpos : 0 < maxBytes)
    (hready : Ready s.reader) : InOrder (events ++ (s.finish maxBytes).2) (s.finish maxBytes).1 where
  fed := by
    change fedBytes (events ++ [_]) = returnedBytes (events ++ [_]) ++ (takeChunk s.reader maxBytes).2.buffer
    rw [fedBytes_append, returnedBytes_append]
    change fedBytes events ++ [] = returnedBytes events ++ ((takeChunk s.reader maxBytes).1 ++ []) ++ _
    rw [List.append_nil, List.append_nil, List.append_assoc, takeChunk_append, h.fed]
  ready _ := nofun
  sound := by
    refine List.forall_mem_append.mpr ⟨h.sound, List.forall_mem_singleton.mpr ?_⟩
    have hnil := @takeChunk_eq_nil_iff s.reader maxBytes hpos
    dsimp only [ChunkEvent.Sound]
    split
    · rename_i hend
      exact hnil.mpr (StreamReader.atEof_iff.mp hend).2
    · rename_i hmore
      refine ⟨List.length_pos_iff.mpr fun hempty => hmore ?_, length_takeChunk_le _ _⟩
      have hbuffer := hnil.mp hempty
      exact StreamReader.atEof_iff.mpr ⟨hready.resolve_left (not_not.mpr hbuffer), hbuffer⟩
  ended maxBytes' atEof hmem := by
    change (takeChunk s.reader maxBytes).2.eof = true ∧ (takeChunk s.reader maxBytes).2.buffer = []
    have happend := takeChunk_append s.reader maxBytes
    rw [takeChunk_eof]
    rcases List.mem_append.mp hmem with hold | hnew
    · obtain ⟨heof, hbuffer⟩ := h.ended maxBytes' atEof hold
      rw [hbuffer] at happend
      exact ⟨heof, (List.append_eq_nil_iff.mp happend).2⟩
    · -- the call that has returned nothing has found nothing, so it was at the end
      have hempty : (takeChunk s.reader maxBytes).1 = [] :=
        (ChunkEvent.returned.inj (List.mem_singleton.mp hnew)).2.2.symm
      have hbuffer := (takeChunk_eq_nil_iff hpos).mp hempty
      rw [hbuffer] at happend
      exact ⟨hready.resolve_left (not_not.mpr hbuffer), (List.append_eq_nil_iff.mp happend).2⟩

/-- A call goes on. -/
lemma InOrder.goOn (h : InOrder events s) {maxBytes : ℕ} (coalesceOneTurn : Bool)
    (hpos : 0 < maxBytes) (hready : Ready s.reader) :
    InOrder (events ++ (s.goOn maxBytes coalesceOneTurn).2) (s.goOn maxBytes coalesceOneTurn).1 := by
  unfold ChunkReading.goOn
  split
  · refine h.congr nofun rfl rfl fun c hc => ?_
    obtain rfl := Option.some.inj hc
    exact ⟨hpos, .inr hready⟩
  · exact h.finish hpos hready

/-- A call begins. -/
lemma InOrder.begin (h : InOrder events s) (hidle : s.call = none) {maxBytes : ℕ}
    (coalesceOneTurn : Bool) (hpos : 0 < maxBytes) :
    InOrder (events ++ (s.begin maxBytes coalesceOneTurn).2)
      (s.begin maxBytes coalesceOneTurn).1 := by
  unfold ChunkReading.begin
  split
  · refine h.congr (fun e he => List.mem_singleton.mp he) rfl rfl fun c hc => ?_
    rw [hidle] at hc
    cases hc
  · split
    · refine h.congr nofun rfl rfl fun c hc => ?_
      obtain rfl := Option.some.inj hc
      exact ⟨hpos, .inl rfl⟩
    · rename_i hnot
      refine h.goOn coalesceOneTurn hpos ?_
      by_cases hbuffer : s.reader.buffer = []
      · exact .inr (by simpa [hbuffer] using hnot)
      · exact .inl hbuffer

/-- A call that was woken may go on. -/
lemma InOrder.ready_wakeup (h : InOrder events s) (s' : ChunkReading) (hcall : s'.call = s.call)
    (hready : Ready s'.reader) {c : ChunkCall} (hc : s'.wakeup.call = some c) :
    0 < c.maxBytes ∧ (c.stage = .waiting ∨ Ready s'.wakeup.reader) := by
  obtain ⟨c₀, hc₀, rfl⟩ := Option.map_eq_some_iff.mp hc
  refine ⟨?_, .inr hready⟩
  have hpos := (h.ready c₀ (hcall ▸ hc₀)).1
  split
  · exact hpos
  · exact hpos

/-- Data comes. -/
lemma InOrder.feedData (h : InOrder events s) {data : List UInt8} {reader : StreamReader}
    (hfeed : s.reader.feedData data = some reader) :
    InOrder (events ++ [.fed data])
      (if data.isEmpty then { s with reader := reader } else { s with reader := reader }.wakeup) := by
  obtain ⟨hbuffer, hopen, heof⟩ := StreamReader.feedData_some hfeed
  have hreader : (if data.isEmpty then { s with reader := reader }
      else { s with reader := reader }.wakeup).reader = reader := by
    split <;> rfl
  refine ⟨?_, fun c hc => ?_, ?_, fun maxBytes atEof hmem => ?_⟩
  · rw [hreader, hbuffer, fedBytes_append, returnedBytes_append, h.fed]
    simp [fedBytes, returnedBytes]
  · rw [hreader]
    split at hc
    · rename_i hempty
      obtain ⟨hpos, hready⟩ := h.ready c hc
      unfold Ready at hready ⊢
      rw [hbuffer, List.isEmpty_iff.mp hempty, List.append_nil, heof, ← hopen]
      exact ⟨hpos, hready⟩
    · rename_i hdata
      have hready : Ready reader := .inl (by
        rw [hbuffer]
        exact List.append_ne_nil_of_right_ne_nil _ (by simpa using hdata))
      exact h.ready_wakeup { s with reader := reader } rfl hready hc
  · exact List.forall_mem_append.mpr ⟨h.sound, List.forall_mem_singleton.mpr trivial⟩
  · rcases List.mem_append.mp hmem with hold | hnew
    · -- nothing is fed after the end
      have hclosed := (h.ended maxBytes atEof hold).1
      rw [hopen] at hclosed
      cases hclosed
    · cases List.mem_singleton.mp hnew

/-- The end comes. -/
lemma InOrder.feedEof (h : InOrder events s) :
    InOrder (events ++ []) { s with reader := s.reader.feedEof }.wakeup := by
  rw [List.append_nil]
  refine ⟨h.fed, fun c hc => ?_, h.sound, fun maxBytes atEof hmem => ?_⟩
  · exact h.ready_wakeup { s with reader := s.reader.feedEof } rfl (.inr rfl) hc
  · exact ⟨rfl, (h.ended maxBytes atEof hmem).2⟩

lemma InOrder.step (h : InOrder events s) {act : ChunkAct} {s' : ChunkReading} {es : List ChunkEvent}
    (hstep : chunkReading.step s act = some (s', es)) : InOrder (events ++ es) s' := by
  cases act with
  | feedData data =>
    obtain ⟨reader, hfeed, hstep⟩ := Option.bind_eq_some_iff.mp hstep
    obtain ⟨rfl, rfl⟩ := Prod.mk.inj (Option.some.inj hstep)
    exact h.feedData hfeed
  | feedEof =>
    obtain ⟨rfl, rfl⟩ := Prod.mk.inj (Option.some.inj hstep)
    exact h.feedEof
  | setException =>
    dsimp only [chunkReading] at hstep
    split at hstep
    · obtain ⟨rfl, rfl⟩ := Prod.mk.inj (Option.some.inj hstep)
      exact h.congr (fun e he => List.mem_singleton.mp he) rfl rfl nofun
    · obtain ⟨rfl, rfl⟩ := Prod.mk.inj (Option.some.inj hstep)
      exact h.congr nofun rfl rfl h.ready
  | call maxBytes coalesceOneTurn =>
    dsimp only [chunkReading] at hstep
    split at hstep
    · rename_i hidle
      split at hstep
      · cases hstep
      · have hresult := Option.some.inj hstep
        have hnext := h.begin hidle coalesceOneTurn (Nat.pos_of_ne_zero ‹_›)
        rwa [hresult] at hnext
    · cases hstep
  | resume =>
    dsimp only [chunkReading] at hstep
    split at hstep
    · rename_i maxBytes coalesceOneTurn hcall
      obtain ⟨hpos, hready⟩ := h.ready _ hcall
      have hnext := h.goOn coalesceOneTurn hpos (hready.resolve_left nofun)
      rwa [Option.some.inj hstep] at hnext
    · rename_i maxBytes coalesceOneTurn hcall
      obtain ⟨hpos, hready⟩ := h.ready _ hcall
      have hnext := h.finish hpos (hready.resolve_left nofun)
      rwa [Option.some.inj hstep] at hnext
    · cases hstep
  | cancel =>
    obtain ⟨rfl, rfl⟩ := Prod.mk.inj (Option.some.inj hstep)
    exact h.congr nofun rfl rfl nofun

/-- Whenever data and the end come, each call that returns keeps to its bound, and returns nothing
only at the end of the stream; the chunks are a prefix of what was fed, and all of it after the end;
and a chunk, and the reader that it leaves, paused or not, are those of `read`. -/
theorem read_stream_chunk_agrees {limit : ℕ} {pausable : Bool} {visited : List ChunkReading}
    (hrun : chunkReading.Run ⟨.create limit pausable, none⟩ visited events s) :
    (∀ maxBytes atEof data, ChunkEvent.returned maxBytes atEof data ∈ events →
        if atEof then data = [] else 1 ≤ data.length ∧ data.length ≤ maxBytes) ∧
      returnedBytes events <+: fedBytes events ∧
      (∀ maxBytes atEof, ChunkEvent.returned maxBytes atEof [] ∈ events →
        returnedBytes events = fedBytes events) ∧
      ∀ maxBytes, takeChunk s.reader maxBytes = s.reader.readBuffered maxBytes := by
  have h : InOrder events s :=
    hrun.invariant_events (.start limit pausable) fun _ _ _ _ _ h hstep => h.step hstep
  refine ⟨fun maxBytes atEof data hmem => h.sound _ hmem, ⟨_, h.fed.symm⟩, ?_,
    takeChunk_eq_readBuffered s.reader⟩
  intro maxBytes atEof hmem
  rw [h.fed, (h.ended maxBytes atEof hmem).2, List.append_nil]

end

/-- A call waits, gives the loop a turn in which more data comes, and returns the beginning; the
next calls return the rest and the end. -/
theorem read_stream_chunk_agrees_turn : ∃ visited events s,
    chunkReading.Run ⟨.create 2 true, none⟩ visited events s ∧
      ChunkEvent.returned 4 false [1, 2, 3, 4] ∈ events ∧ returnedBytes events = [1, 2, 3, 4, 5, 6] ∧
      returnedBytes events = fedBytes events := by
  have hends : ∃ visited events s, chunkReading.Run ⟨.create 2 true, none⟩ visited events s ∧
      (ChunkEvent.returned 4 false [1, 2, 3, 4] ∈ events ∧
        returnedBytes events = [1, 2, 3, 4, 5, 6] ∧ ChunkEvent.returned 9 true [] ∈ events) :=
    Machine.exists_run
      [.call 4 true, .feedData [1, 2], .resume, .feedData [3, 4, 5, 6], .resume, .feedEof,
        .call 9 true, .call 9 false] (by decide +kernel)
  obtain ⟨_, _, _, hrun, hfirst, hall, hend⟩ := hends
  exact ⟨_, _, _, hrun, hfirst, hall, (read_stream_chunk_agrees hrun).2.2.1 9 true hend⟩

end Session
