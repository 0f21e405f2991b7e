import LumenRelay.Lib.Machine
import LumenRelay.Routing.Outbound

/-!
# Receiving messages

A connection queues the messages that it receives, and stops reading when the queue has many
messages or many bytes.  The bytes of a text are counted when it is queued, and its characters are
taken off when the application receives it.
-/

namespace Session

open Lib Py Routing

/-! ## Watermarks -/

/-- `_env_int`. -/
def envInt (rt : Runtime) (value : Option String) (default minimum maximum : ℤ) : ℤ :=
  max minimum (min maximum ((value.bind (parseInt rt)).getD default))

/-- The watermarks of the queue, in messages and in bytes. -/
structure Watermarks where
  queueHigh : ℤ
  queueLow : ℤ
  queueBytesHigh : ℤ
  queueBytesLow : ℤ
  low_nonneg : 0 ≤ queueLow
  low_lt : queueLow < queueHigh
  bytes_nonneg : 0 ≤ queueBytesLow
  bytes_lt : queueBytesLow < queueBytesHigh

/-- `RX_QUEUE_HIGH`. -/
def rxQueueHigh (rt : Runtime) (getenv : String → Option String) : ℤ :=
  envInt rt (getenv "WS_TURBO_QUEUE_HIGH") 256 8 2048

/-- `RX_QUEUE_BYTES_HIGH`. -/
def rxQueueBytesHigh (rt : Runtime) (getenv : String → Option String) : ℤ :=
  envInt rt (getenv "WS_TURBO_QUEUE_BYTES_HIGH") (64 * 1024 * 1024) (4 * 1024 * 1024)
    (512 * 1024 * 1024)

/-- The watermarks that the environment sets. -/
def Watermarks.ofEnv (rt : Runtime) (getenv : String → Option String) : Watermarks where
  queueHigh := rxQueueHigh rt getenv
  queueLow := envInt rt (getenv "WS_TURBO_QUEUE_LOW") 64 1 (rxQueueHigh rt getenv - 1)
  queueBytesHigh := rxQueueBytesHigh rt getenv
  queueBytesLow := min
    (envInt rt (getenv "WS_TURBO_QUEUE_BYTES_LOW") (16 * 1024 * 1024) (1024 * 1024)
      (128 * 1024 * 1024))
    (rxQueueBytesHigh rt getenv / 2)
  low_nonneg := by
    unfold envInt
    omega
  low_lt := by
    unfold rxQueueHigh envInt
    omega
  bytes_nonneg := by
    unfold rxQueueBytesHigh envInt
    omega
  bytes_lt := by
    unfold rxQueueBytesHigh envInt
    omega

/-! ## The queue -/

/-- A message in the queue: one that was received, or one of the connection itself, which has no
payload. -/
inductive Queued
  | bytes (data : List UInt8)
  | text (s : String)
  | event
deriving DecidableEq

namespace Queued

/-- The size that is counted when a message is queued. -/
def size : Queued → ℕ
  | bytes data => data.length
  | text s => (utf8Bytes s).length
  | event => 0

/-- `len(payload)`, for the payload that `_after_receive` takes off. -/
def payloadLength : Queued → ℕ
  | bytes data => data.length
  | text s => s.length
  | event => 0

/-- A message that is no text, or a text of ASCII characters. -/
def Ascii : Queued → Prop
  | text s => ∀ c ∈ s.toList, c.toNat < 128
  | _ => True

instance : DecidablePred Ascii
  | bytes _ => isTrue trivial
  | text s => List.decidableBAll _ s.toList
  | event => isTrue trivial

end Queued

/-- The part of a connection that receives. -/
structure TurboReceiver where
  queue : List Queued
  queueBytes : ℕ
  readPaused : Bool
  closeSent : Bool

namespace TurboReceiver

/-- A new connection. -/
def start : TurboReceiver := ⟨[], 0, false, false⟩

/-- The message that frames make up; a text that is not UTF-8 makes none. -/
def message (isText : Bool) (data : List UInt8) : Option Queued :=
  if isText then (decodeBytes data).map .text else some (.bytes data)

/-- `send_receive_event_to_app`. -/
def sendReceiveEventToApp (w : Watermarks) (p : TurboReceiver) (isText : Bool)
    (frames : List (List UInt8)) : TurboReceiver :=
  let data := frames.flatten
  if p.closeSent then p
  else
    match message isText data with
    | none => p
    | some m =>
      let queue := p.queue ++ [m]
      let queueBytes := p.queueBytes + data.length
      { p with
        queue := queue
        queueBytes := queueBytes
        readPaused := p.readPaused ||
          decide (w.queueHigh ≤ queue.length) || decide (w.queueBytesHigh ≤ queueBytes) }

/-- `_after_receive`, when a message was taken from the queue. -/
def afterReceive (w : Watermarks) (p : TurboReceiver) (m : Queued) : TurboReceiver :=
  let queueBytes := p.queueBytes - m.payloadLength
  { p with
    queueBytes := queueBytes
    readPaused := p.readPaused &&
      !(decide ((p.queue.length : ℤ) ≤ w.queueLow) && decide ((queueBytes : ℤ) ≤ w.queueBytesLow)) }

/-- What happens on a connection: frames end a message, the connection queues a message of its own
or sends a close frame, and the application receives, with or without waiting. -/
inductive Act
  | frames (isText : Bool) (frames : List (List UInt8))
  | event
  | closeSent
  | receive

/-- The connection; the events are the messages that the application takes. -/
def receiving (w : Watermarks) : Machine TurboReceiver Act Queued where
  step p
    | .frames isText frames => some (p.sendReceiveEventToApp w isText frames, [])
    | .event => some ({ p with queue := p.queue ++ [.event] }, [])
    | .closeSent => some ({ p with closeSent := true }, [])
    | .receive =>
      match p.queue with
      | [] => none
      | m :: queue => some ({ p with queue := queue }.afterReceive w m, [m])

/-- The bytes that are counted are those of the messages in the queue, and reading is not paused
while the queue is empty. -/
structure Counted (p : TurboReceiver) : Prop where
  bytes : p.queueBytes = (p.queue.map Queued.size).sum
  reading : p.queue = [] → p.readPaused = false

/-! ## Sizes -/

lemma size_of_message {isText : Bool} {data : List UInt8} {m : Queued}
    (h : message isText data = some m) : m.size = data.length := by
  cases isText with
  | false =>
    obtain rfl := Option.some.inj h
    rfl
  | true =>
    obtain ⟨s, hs, rfl⟩ := Option.map_eq_some_iff.mp h
    rw [eq_encode_of_decodeBytes hs]
    rfl

/-- A character has at least one byte, and only an ASCII character has no more. -/
lemma length_utf8EncodeChar (c : Char) :
    1 ≤ (String.utf8EncodeChar c).length ∧
      ((String.utf8EncodeChar c).length ≤ 1 ↔ c.toNat < 128) := by
  rw [String.length_utf8EncodeChar]
  have hpos := c.utf8Size_pos
  refine ⟨hpos, ?_⟩
  have hone : c.utf8Size = 1 ↔ c.toNat ≤ 127 := Char.utf8Size_eq_one_iff.trans UInt32.le_iff_toNat_le
  omega

lemma length_utf8 (s : List Char) :
    s.length ≤ (Percent.utf8 s).length ∧
      ((Percent.utf8 s).length ≤ s.length ↔ ∀ c ∈ s, c.toNat < 128) := by
  induction s with
  | nil => simp
  | cons c s ih =>
    obtain ⟨hpos, hone⟩ := length_utf8EncodeChar c
    rw [Percent.utf8_cons, List.length_append, List.length_cons, List.forall_mem_cons]
    refine ⟨by omega, ?_⟩
    rw [← hone, ← ih.2]
    omega

/-- What is taken off for a message is at most what was counted, and it is as much only for an ASCII
text. -/
lemma payloadLength_le (m : Queued) :
    m.payloadLength ≤ m.size ∧ (m.size ≤ m.payloadLength ↔ m.Ascii) := by
  cases m with
  | bytes data => exact ⟨le_rfl, iff_of_true le_rfl trivial⟩
  | text s =>
    obtain ⟨hle, hiff⟩ := length_utf8 s.toList
    rw [String.length_toList] at hle hiff
    exact ⟨hle, hiff⟩
  | event => exact ⟨le_rfl, iff_of_true le_rfl trivial⟩

/-! ## The account -/

variable {w : Watermarks} {p p' : TurboReceiver}

/-- When reading is paused, the queue is above one of the low watermarks. -/
def Paused (w : Watermarks) (p : TurboReceiver) : Prop :=
  p.readPaused = true → w.queueLow < p.queue.length ∨ w.queueBytesLow < p.queueBytes

/-- The bytes that are counted are those of the messages in the queue. -/
def Exact (p : TurboReceiver) : Prop := p.queueBytes = (p.queue.map Queued.size).sum

/-- With an exact account, reading is not paused while the queue is empty. -/
lemma Exact.counted (h : Exact p) (hpaused : Paused w p) : Counted p where
  bytes := h
  reading hempty := by
    unfold Exact at h
    rw [hempty, List.map_nil, List.sum_nil] at h
    refine Bool.eq_false_iff.mpr fun htrue => ?_
    have habove := hpaused htrue
    rw [hempty, h, List.length_nil] at habove
    have hlow := w.low_nonneg
    have hbytes := w.bytes_nonneg
    omega

/-- More in the queue leaves it above the low watermarks. -/
lemma Paused.grow (h : Paused w p) {queue : List Queued} {queueBytes : ℕ} {readPaused : Bool}
    (hqueue : p.queue.length ≤ queue.length) (hbytes : p.queueBytes ≤ queueBytes)
    (hpause : readPaused = true → p.readPaused = true ∨ w.queueHigh ≤ queue.length ∨
      w.queueBytesHigh ≤ queueBytes) :
    Paused w { p with queue := queue, queueBytes := queueBytes, readPaused := readPaused } := by
  intro htrue
  have hlow := w.low_lt
  have hbyteslow := w.bytes_lt
  change w.queueLow < queue.length ∨ w.queueBytesLow < queueBytes
  rcases hpause htrue with hold | hhigh | hhigh
  · have habove := h hold
    omega
  · omega
  · omega

/-- A message that ends is dropped, or queued and counted. -/
lemma sendReceiveEventToApp_cases (w : Watermarks) (p : TurboReceiver) (isText : Bool)
    (frames : List (List UInt8)) :
    p.sendReceiveEventToApp w isText frames = p ∨
      ∃ m, m.size = frames.flatten.length ∧ p.sendReceiveEventToApp w isText frames =
        { p with
          queue := p.queue ++ [m]
          queueBytes := p.queueBytes + frames.flatten.length
          readPaused := p.readPaused || decide (w.queueHigh ≤ (p.queue ++ [m]).length) ||
            decide (w.queueBytesHigh ≤ (p.queueBytes + frames.flatten.length : ℕ)) } := by
  dsimp only [sendReceiveEventToApp]
  split
  · exact .inl rfl
  · split
    · exact .inl rfl
    · rename_i m hm
      exact .inr ⟨m, size_of_message hm, rfl⟩

lemma Paused.sendReceiveEventToApp (h : Paused w p) (isText : Bool) (frames : List (List UInt8)) :
    Paused w (p.sendReceiveEventToApp w isText frames) := by
  rcases sendReceiveEventToApp_cases w p isText frames with heq | ⟨m, -, heq⟩
  · rwa [heq]
  · rw [heq]
    refine h.grow (by simp) (Nat.le_add_right _ _) fun hpause => ?_
    rw [Bool.or_eq_true, Bool.or_eq_true, decide_eq_true_eq, decide_eq_true_eq] at hpause
    exact or_assoc.mp hpause

lemma Exact.sendReceiveEventToApp (h : Exact p) (isText : Bool) (frames : List (List UInt8)) :
    Exact (p.sendReceiveEventToApp w isText frames) := by
  rcases sendReceiveEventToApp_cases w p isText frames with heq | ⟨m, hsize, heq⟩
  · rwa [heq]
  · rw [heq]
    change p.queueBytes + frames.flatten.length = ((p.queue ++ [m]).map Queued.size).sum
    rw [List.map_append, List.sum_append, List.map_singleton, List.sum_singleton, hsize,
      show p.queueBytes = _ from h]

/-- After a message was taken, reading is paused only above the low watermarks. -/
lemma paused_afterReceive (m : Queued) : Paused w (p.afterReceive w m) := by
  intro htrue
  unfold afterReceive at htrue ⊢
  dsimp only at htrue ⊢
  by_contra hbelow
  rw [not_or, not_lt, not_lt] at hbelow
  simp [hbelow.1, hbelow.2] at htrue

/-- The account stays exact when an ASCII text or bytes are taken, and only then. -/
lemma exact_afterReceive_iff {m : Queued} {queue : List Queued} (hqueue : p.queue = m :: queue)
    (h : Exact p) : Exact ({ p with queue := queue }.afterReceive w m) ↔ m.Ascii := by
  obtain ⟨hle, hiff⟩ := payloadLength_le m
  unfold Exact at h
  rw [hqueue, List.map_cons, List.sum_cons] at h
  rw [← hiff]
  change p.queueBytes - m.payloadLength = (queue.map Queued.size).sum ↔ _
  omega

/-- What holds after a run: above the watermarks when paused; and the account was exact all the time
if and only if all that was taken is ASCII. -/
structure Accounted (w : Watermarks) (visited : List TurboReceiver) (taken : List Queued)
    (p : TurboReceiver) : Prop where
  paused : ∀ p ∈ visited, Paused w p
  current : p ∈ visited
  exact_iff : (∀ p ∈ visited, Exact p) ↔ ∀ m ∈ taken, m.Ascii

/-- A step that takes nothing and keeps an exact account. -/
lemma Accounted.next {visited : List TurboReceiver} {taken : List Queued}
    (h : Accounted w visited taken p) (hpaused : Paused w p') (hexact : Exact p → Exact p') :
    Accounted w (visited ++ [p']) (taken ++ []) p' where
  paused := by
    rw [List.forall_mem_append, List.forall_mem_singleton]
    exact ⟨h.paused, hpaused⟩
  current := by simp
  exact_iff := by
    rw [List.append_nil, ← h.exact_iff, List.forall_mem_append, List.forall_mem_singleton]
    exact and_iff_left_of_imp fun hall => hexact (hall p h.current)

/-- A step that takes a message. -/
lemma Accounted.take {visited : List TurboReceiver} {taken : List Queued} {m : Queued}
    (h : Accounted w visited taken p) (hpaused : Paused w p')
    (hexact : Exact p → (Exact p' ↔ m.Ascii)) :
    Accounted w (visited ++ [p']) (taken ++ [m]) p' where
  paused := by
    rw [List.forall_mem_append, List.forall_mem_singleton]
    exact ⟨h.paused, hpaused⟩
  current := by simp
  exact_iff := by
    rw [List.forall_mem_append, List.forall_mem_append, List.forall_mem_singleton,
      List.forall_mem_singleton, ← h.exact_iff]
    exact and_congr_right fun hall => hexact (hall p h.current)

lemma Accounted.step {visited : List TurboReceiver} {taken es : List Queued} {act : Act}
    (h : Accounted w visited taken p) (hstep : (receiving w).step p act = some (p', es)) :
    Accounted w (visited ++ [p']) (taken ++ es) p' := by
  have hpaused : Paused w p := h.paused p h.current
  cases act with
  | frames isText frames =>
    obtain ⟨rfl, rfl⟩ := Prod.mk.inj (Option.some.inj hstep)
    exact h.next (hpaused.sendReceiveEventToApp isText frames) fun hexact =>
      hexact.sendReceiveEventToApp isText frames
  | event =>
    obtain ⟨rfl, rfl⟩ := Prod.mk.inj (Option.some.inj hstep)
    refine h.next (hpaused.grow (by simp) le_rfl .inl) fun hexact => ?_
    change p.queueBytes = ((p.queue ++ [Queued.event]).map Queued.size).sum
    rw [show p.queueBytes = _ from hexact]
    simp [Queued.size]
  | closeSent =>
    obtain ⟨rfl, rfl⟩ := Prod.mk.inj (Option.some.inj hstep)
    exact h.next hpaused fun hexact => hexact
  | receive =>
    dsimp only [receiving] at hstep
    split at hstep
    · cases hstep
    · rename_i m queue hqueue
      obtain ⟨rfl, rfl⟩ := Prod.mk.inj (Option.some.inj hstep)
      exact h.take (paused_afterReceive m) (exact_afterReceive_iff hqueue)

/-- In every run of a connection, the bytes that are counted are those of the queue, and reading is
never left paused while the queue is empty, if and only if the texts that the application takes are
ASCII. -/
theorem counted_iff {visited : List TurboReceiver} {taken : List Queued}
    (hrun : (receiving w).Run start visited taken p) :
    (∀ p ∈ visited, Counted p) ↔ ∀ m ∈ taken, m.Ascii := by
  have h : Accounted w visited taken p := by
    refine hrun.induct_history (I := fun visited taken p => Accounted w visited taken p) ?_ ?_
    · exact ⟨by simp [Paused, start], by simp, by simp [Exact, start]⟩
    · exact fun _ _ _ _ _ _ _ h hstep => h.step hstep
  rw [← h.exact_iff]
  exact forall₂_congr fun p hp => ⟨Counted.bytes, fun hexact => hexact.counted (h.paused p hp)⟩

/-- An application that receives bytes in two frames and an ASCII text. -/
theorem counted_iff_fragments : ∃ visited taken p,
    (receiving (.ofEnv .ascii fun _ => none)).Run start visited taken p ∧
      taken = [.event, .bytes [1, 2, 3], .text "hi"] ∧ ∀ p ∈ visited, Counted p := by
  have hends : ∃ visited taken p,
      (receiving (.ofEnv .ascii fun _ => none)).Run start visited taken p ∧
      taken = [.event, .bytes [1, 2, 3], .text "hi"] :=
    Machine.exists_run
      [.event, .frames false [[1, 2], [3]], .frames true [[104, 105]], .closeSent,
        .frames false [[4]], .receive, .receive, .receive] (by decide +kernel)
  obtain ⟨_, _, _, hrun, rfl⟩ := hends
  exact ⟨_, _, _, hrun, rfl, (counted_iff hrun).mpr (by decide +kernel)⟩

/-- A text of many bytes that is received by the application at once leaves the connection paused
with an empty queue, when it has many fewer characters than bytes. -/
lemma stalled_of_text {s : String} (hhigh : w.queueBytesHigh ≤ (utf8Bytes s).length)
    (hlow : w.queueBytesLow < ((utf8Bytes s).length - s.length : ℕ)) :
    ∃ visited taken, (receiving w).Run start visited taken
      ⟨[], (utf8Bytes s).length - s.length, true, false⟩ := by
  have hsent : (receiving w).step start (.frames true [utf8Bytes s]) =
      some (⟨[.text s], (utf8Bytes s).length, true, false⟩, []) := by
    have hdecode : decodeBytes (utf8Bytes s) = some s := decodeBytes_encode s
    have hflat : [utf8Bytes s].flatten = utf8Bytes s := by simp
    simp [receiving, sendReceiveEventToApp, message, start, hflat, hdecode, hhigh]
  have htaken : (receiving w).step ⟨[.text s], (utf8Bytes s).length, true, false⟩ .receive =
      some (⟨[], (utf8Bytes s).length - s.length, true, false⟩, [.text s]) := by
    have hnot : ¬(((utf8Bytes s).length - s.length : ℕ) : ℤ) ≤ w.queueBytesLow := not_le.mpr hlow
    simp [receiving, afterReceive, Queued.payloadLength, hnot]
  exact ⟨_, _, (Machine.Run.start.next hsent).next htaken⟩

/-- The character é again and again. -/
def accents (n : ℕ) : String := String.ofList (List.replicate n 'é')

lemma length_accents (n : ℕ) : (accents n).length = n := by
  rw [accents, String.length_ofList, List.length_replicate]

lemma length_utf8Bytes_accents (n : ℕ) : (utf8Bytes (accents n)).length = 2 * n := by
  rw [accents, utf8Bytes, String.toList_ofList, Percent.utf8, List.length_flatMap,
    List.map_replicate, List.sum_replicate, show (String.utf8EncodeChar 'é').length = 2 from rfl]
  exact Nat.mul_comm n 2

/-- After a text message of 64 MiB was received, half of its bytes are still counted while the
queue is empty, and reading is paused. -/
theorem stalled_by_text : ∃ visited taken p,
    (receiving (.ofEnv .ascii fun _ => none)).Run start visited taken p ∧
      p.queue = [] ∧ p.queueBytes = 32 * 1024 * 1024 ∧ p.readPaused = true := by
  have hsize := length_utf8Bytes_accents (32 * 1024 * 1024)
  have hlength := length_accents (32 * 1024 * 1024)
  generalize accents (32 * 1024 * 1024) = s at hsize hlength
  obtain ⟨visited, taken, hrun⟩ := @stalled_of_text (.ofEnv .ascii fun _ => none) s
    (by rw [hsize]; decide) (by rw [hsize, hlength]; decide)
  exact ⟨visited, taken, _, hrun, rfl, by rw [hsize, hlength], rfl⟩

end TurboReceiver

end Session
