import LumenRelay.Lib.Machine
import LumenRelay.Lib.WebSocket

/-!
# Sending binary frames

The server writes the header of a frame itself, and then the payload as it is.  Between the two
writes nothing else happens, so that the stream is a sequence of frames, however often the
transport pauses the writer.
-/

namespace Session

open Lib

/-- The part of a connection that `turbo_send_bytes` looks at, and what was written to its
transport. -/
structure TurboSender where
  writable : Bool
  disconnected : Bool
  closeSent : Bool
  handshakeComplete : Bool
  closing : Bool
  perMessageDeflate : Bool
  output : List UInt8

/-- `_binary_header`; `struct.pack` raises for a length of more than eight bytes. -/
def binaryHeader (length : ℕ) : Option (List UInt8) :=
  if length < 126 then some [0x82, UInt8.ofNat length]
  else if length < 65536 then some (0x82 :: 126 :: WebSocket.bigEndian 2 length)
  else if length < 2 ^ 64 then some (0x82 :: 127 :: WebSocket.bigEndian 8 length)
  else none

/-- How a call of `turbo_send_bytes` goes on: it waits for the transport, raises, leaves the
message to the library, or writes a frame. -/
inductive Sent
  | waiting
  | clientDisconnected
  | structError
  | delegated (data : List UInt8)
  | written (p : TurboSender)

namespace TurboSender

/-- `turbo_send_bytes`. -/
def turboSendBytes (p : TurboSender) (data : List UInt8) : Sent :=
  if !p.writable then .waiting
  else if p.disconnected || p.closeSent || !p.handshakeComplete || p.closing then
    .clientDisconnected
  else if p.perMessageDeflate then .delegated data
  else
    match binaryHeader data.length with
    | none => .structError
    | some header => .written { p with output := p.output ++ header ++ data }

/-- What happens to a connection that stays open: the transport pauses and resumes the writer, and
payloads are sent. -/
inductive Action
  | pauseWriting
  | resumeWriting
  | send (data : List UInt8)

/-- Sending on a connection; the events are the payloads that were written. -/
def sending : Machine TurboSender Action (List UInt8) where
  step p action :=
    match action with
    | .pauseWriting => some ({ p with writable := false }, [])
    | .resumeWriting => some ({ p with writable := true }, [])
    | .send data =>
      match p.turboSendBytes data with
      | .written p' => some (p', [data])
      | _ => none

/-- The connection is open, and its messages are not compressed. -/
structure Open (p : TurboSender) : Prop where
  connected : p.disconnected = false
  closeSent : p.closeSent = false
  handshake : p.handshakeComplete = true
  closing : p.closing = false
  uncompressed : p.perMessageDeflate = false

/-! ## Headers -/

/-- Every header says that the frame is final and binary, and has the shortest form of the
length. -/
lemma binaryHeader_minimal {length : ℕ} (h : length < 2 ^ 63) :
    ∃ form, binaryHeader length = some (0x82 :: form) ∧ WebSocket.Minimal form length := by
  unfold binaryHeader
  by_cases hseven : length < 126
  · rw [if_pos hseven]
    exact ⟨_, rfl, WebSocket.minimal_seven hseven⟩
  · rw [if_neg hseven]
    by_cases htwo : length < 65536
    · rw [if_pos htwo]
      exact ⟨_, rfl, WebSocket.minimal_two (by omega) htwo⟩
    · rw [if_neg htwo, if_pos (by omega)]
      exact ⟨_, rfl, WebSocket.minimal_eight (by omega) h⟩

/-- The shortest form of a length. -/
def lengthForm (length : ℕ) : List UInt8 := ((binaryHeader length).getD []).tail

lemma binaryHeader_eq {length : ℕ} (h : length < 2 ^ 63) :
    binaryHeader length = some (0x82 :: lengthForm length) ∧
      WebSocket.Minimal (lengthForm length) length := by
  obtain ⟨form, hheader, hminimal⟩ := binaryHeader_minimal h
  have hform : lengthForm length = form := by
    rw [lengthForm, hheader]
    rfl
  rw [hform]
  exact ⟨hheader, hminimal⟩

/-! ## Frames -/

variable {p p' : TurboSender}

/-- On an open connection that may be written to, a payload becomes a frame. -/
lemma Open.send (h : p.Open) (hwritable : p.writable = true) {data : List UInt8}
    (hlength : data.length < 2 ^ 63) :
    p.turboSendBytes data =
      .written { p with output := p.output ++ (0x82 :: (lengthForm data.length ++ data)) } := by
  unfold turboSendBytes
  rw [hwritable, h.connected, h.closeSent, h.handshake, h.closing, h.uncompressed,
    (binaryHeader_eq hlength).1]
  simp

/-- A call that writes does so on a connection that may be written to. -/
lemma writable_of_written {data : List UInt8} (h : p.turboSendBytes data = .written p') :
    p.writable = true := by
  unfold turboSendBytes at h
  split at h
  · cases h
  · rename_i hwritable
    simpa using hwritable

/-- What was sent on an open connection is in the output, one frame after the other. -/
def Sending (p₀ : TurboSender) (payloads : List (List UInt8)) (p : TurboSender) : Prop :=
  p.Open ∧ ((∀ payload ∈ payloads, payload.length < 2 ^ 63) →
    p.output = p₀.output ++
      payloads.flatMap fun payload => 0x82 :: (lengthForm payload.length ++ payload))

lemma Open.congr (h : p.Open) (hconnected : p'.disconnected = p.disconnected)
    (hclose : p'.closeSent = p.closeSent) (hhandshake : p'.handshakeComplete = p.handshakeComplete)
    (hclosing : p'.closing = p.closing) (hdeflate : p'.perMessageDeflate = p.perMessageDeflate) :
    p'.Open :=
  ⟨hconnected.trans h.connected, hclose.trans h.closeSent, hhandshake.trans h.handshake,
    hclosing.trans h.closing, hdeflate.trans h.uncompressed⟩

/-- A call changes nothing but the output. -/
lemma Open.written (h : p.Open) {data : List UInt8} (hsend : p.turboSendBytes data = .written p') :
    p'.Open := by
  unfold turboSendBytes at hsend
  split_ifs at hsend
  split at hsend
  · cases hsend
  · obtain rfl := Sent.written.inj hsend
    exact h.congr rfl rfl rfl rfl rfl

lemma Sending.step {p₀ : TurboSender} {payloads sent : List (List UInt8)} {action : Action}
    (h : Sending p₀ payloads p) (hstep : sending.step p action = some (p', sent)) :
    Sending p₀ (payloads ++ sent) p' := by
  obtain ⟨hopen, houtput⟩ := h
  cases action with
  | pauseWriting =>
    obtain ⟨rfl, rfl⟩ := Prod.mk.inj (Option.some.inj hstep)
    rw [List.append_nil]
    exact ⟨hopen.congr rfl rfl rfl rfl rfl, houtput⟩
  | resumeWriting =>
    obtain ⟨rfl, rfl⟩ := Prod.mk.inj (Option.some.inj hstep)
    rw [List.append_nil]
    exact ⟨hopen.congr rfl rfl rfl rfl rfl, houtput⟩
  | send data =>
    dsimp only [sending] at hstep
    split at hstep
    · rename_i p'' hsend
      obtain ⟨rfl, rfl⟩ := Prod.mk.inj (Option.some.inj hstep)
      refine ⟨hopen.written hsend, fun hlength => ?_⟩
      have hdata := hlength data (by simp)
      rw [hopen.send (writable_of_written hsend) hdata] at hsend
      obtain rfl := Sent.written.inj hsend
      rw [houtput fun payload hpayload => hlength payload (by simp [hpayload]),
        List.flatMap_append, List.flatMap_singleton, List.append_assoc]
    · cases hstep

/-- The stream that is written on an open connection without compression is read back as the
payloads that were sent, each in a final binary frame with the shortest form of its length; and a
payload is written as soon as the transport takes it. -/
theorem framing_round_trip {p₀ : TurboSender} {visited : List TurboSender}
    {payloads : List (List UInt8)} (hopen : p₀.Open)
    (hlength : ∀ payload ∈ payloads, payload.length < 2 ^ 63)
    (hrun : sending.Run p₀ visited payloads p) :
    (∃ stream, p.output = p₀.output ++ stream ∧
        WebSocket.decode stream = some (payloads.map WebSocket.Frame.binary)) ∧
      (∀ payload ∈ payloads, ∃ form, binaryHeader payload.length = some (0x82 :: form) ∧
        WebSocket.Minimal form payload.length) ∧
      ∀ data : List UInt8, data.length < 2 ^ 63 → p.writable = true →
        ∃ p', p.turboSendBytes data = .written p' := by
  have hsending : Sending p₀ payloads p := by
    refine hrun.invariant_events (I := fun payloads p => Sending p₀ payloads p) ⟨hopen, by simp⟩ ?_
    intro payloads p action p' sent h hstep
    exact h.step hstep
  refine ⟨⟨_, hsending.2 hlength, ?_⟩, fun payload hpayload => ?_, fun data hdata hwritable => ?_⟩
  · exact WebSocket.decode_binary fun payload hpayload => (binaryHeader_eq (hlength payload hpayload)).2
  · exact binaryHeader_minimal (hlength payload hpayload)
  · exact ⟨_, hsending.1.send hwritable hdata⟩

/-- A connection after its handshake. -/
def exampleSender : TurboSender where
  writable := true
  disconnected := false
  closeSent := false
  handshakeComplete := true
  closing := false
  perMessageDeflate := false
  output := []

/-- An empty payload and one of 126 bytes, with a pause between them. -/
theorem framing_round_trip_pause : ∃ visited p,
    sending.Run exampleSender visited [[], List.replicate 126 0] p ∧
      ∃ stream, p.output = [] ++ stream ∧
        WebSocket.decode stream = some [.binary [], .binary (List.replicate 126 0)] := by
  have hends : ∃ visited sent p, sending.Run exampleSender visited sent p ∧
      sent = [[], List.replicate 126 0] :=
    Machine.exists_run [.send [], .pauseWriting, .resumeWriting, .send (List.replicate 126 0)]
      (by decide +kernel)
  obtain ⟨_, _, _, hrun, rfl⟩ := hends
  exact ⟨_, _, hrun, (framing_round_trip ⟨rfl, rfl, rfl, rfl, rfl⟩ (by simp) hrun).1⟩

end TurboSender

end Session
