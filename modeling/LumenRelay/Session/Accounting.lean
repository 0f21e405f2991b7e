import LumenRelay.Lib.Machine
import LumenRelay.Session.QuotaGate

/-!
# The bytes of a session

A session counts the bytes of its header before it connects, and then the frames of its two
pumps in batches.  Frames are forwarded before their batch is committed, so the counter of the
link is exact only if every batch is counted in the end.
-/

namespace Session

open Lib Py Routing

/-! ## One pump -/

namespace Pump

/-- The bytes of a pump: what it forwarded is counted or waits to be, and what is counted or
waits was received. -/
def Accounted (p : Pump) : Prop :=
  match p.phase with
  | .reading =>
    p.forwarded ≤ p.counted + p.gate.pending ∧ p.counted + p.gate.pending ≤ p.received
  | .committing amount frame =>
    p.gate.pending = 0 ∧ p.forwarded + frame ≤ p.counted + amount ∧
      p.counted + amount ≤ p.received
  | .passing frame =>
    p.forwarded + frame ≤ p.counted + p.gate.pending ∧ p.counted + p.gate.pending ≤ p.received
  | .closing unsent =>
    p.forwarded + unsent ≤ p.counted + p.gate.pending ∧ p.counted + p.gate.pending ≤ p.received
  | .flushing amount unsent =>
    p.gate.pending = 0 ∧ p.forwarded + unsent ≤ p.counted + amount ∧
      p.counted + amount ≤ p.received
  | .done => p.forwarded ≤ p.counted ∧ p.counted ≤ p.received

/-- A pump that has counted every byte it forwarded, and none that it did not receive. -/
def Exact (p : Pump) : Prop := p.forwarded ≤ p.counted ∧ p.counted ≤ p.received

/-- A step that loses nothing keeps the bytes accounted for. -/
lemma Accounted.moves {p p' : Pump} {added : ℕ} (h : p.Accounted) (hmove : Moves p p' added 0) :
    p'.Accounted := by
  unfold Accounted at h
  generalize hlost : 0 = lost at hmove
  cases hmove with
  | denied hphase | stopped hphase | interrupted hphase =>
    rw [hphase] at h
    show _ ∧ _
    dsimp only at h ⊢
    omega
  | hot hphase _ hpending _ =>
    rw [hphase] at h
    show _ ∧ _
    dsimp only at h ⊢
    omega
  | batch hphase _ hpending =>
    rw [hphase] at h
    show _ ∧ _ ∧ _
    dsimp only at h ⊢
    omega
  | counted hphase =>
    rw [hphase] at h
    show _ ∧ _
    dsimp only [pass] at h ⊢
    omega
  | refused hphase _ hpending =>
    -- nothing but the last frame is in the batch, and that was not forwarded
    rw [hphase] at h
    show _ ∧ _
    dsimp only at h ⊢
    omega
  | forwarded hphase =>
    rw [hphase] at h
    show _ ∧ _
    dsimp only at h ⊢
    omega
  | flushing hphase =>
    rw [hphase] at h
    show _ ∧ _ ∧ _
    dsimp only at h ⊢
    omega
  | empty hphase hpending =>
    rw [hphase] at h
    show _ ∧ _
    dsimp only at h ⊢
    omega
  | flushed hphase =>
    rw [hphase] at h
    show _ ∧ _
    dsimp only at h ⊢
    omega
  | unflushed hphase _ =>
    rw [hphase] at h
    show _ ∧ _
    dsimp only at h ⊢
    omega

end Pump

/-! ## A session -/

/-- Where a session is: it waits for its header; the header was counted and the session
connects; both pumps run; it is closed. -/
inductive Stage
  | waiting
  | connecting (payload : ℕ)
  | relaying (up down : Pump)
  | closed

/-- A session, with what it received, forwarded and counted before its pumps started. -/
structure Tunnel where
  links : Dict String Obj
  stage : Stage
  received : ℕ
  forwarded : ℕ
  counted : ℕ

/-- What happens: another part of the program changes the links; the header has arrived, and with
it the first bytes of the payload; the session gives up; it connects, and the payload was written
some times on the way; a pump makes a step. -/
inductive TunnelEvent
  | change (links : Dict String Obj)
  | authorise (server : Server) (subs : Dict String Obj) (header payload : ℕ)
  | abandon (times : ℕ)
  | connect (times : ℕ) (now : ℚ)
  | up (action : Pump.Action)
  | down (action : Pump.Action)

namespace Tunnel

/-- The header is counted, or the session is closed. -/
def authorise (uid : String) (t : Tunnel) (server : Server) (subs : Dict String Obj)
    (header payload : ℕ) : Tunnel :=
  match checkAndUse server subs uid header t.links with
  | .ok (true, links) =>
    { t with
      links := links, stage := .connecting payload
      received := t.received + header, counted := t.counted + header }
  | _ => { t with stage := .closed, received := t.received + header }

/-- The pumps start, each with a gate of its own. -/
def connect (rt : Runtime) (uid : String) (t : Tunnel) (payload times : ℕ) (now : ℚ) : Tunnel :=
  let forwarded := t.forwarded + times * payload
  match QuotaGate.create rt (t.links.get? uid) now with
  | .ok gate =>
    { t with stage := .relaying (.create gate) (.create gate), forwarded := forwarded }
  | .error _ => { t with stage := .closed, forwarded := forwarded }

/-- One step of a session of the link `uid`. -/
def step (rt : Runtime) (uid : String) (t : Tunnel) : TunnelEvent → Option Tunnel
  | .change links => some { t with links := links }
  | .authorise server subs header payload =>
    match t.stage with
    | .waiting => if payload ≤ header then some (t.authorise uid server subs header payload) else none
    | _ => none
  | .abandon times =>
    match t.stage with
    | .waiting => some { t with stage := .closed }
    | .connecting payload =>
      some { t with stage := .closed, forwarded := t.forwarded + times * payload }
    | _ => none
  | .connect times now =>
    match t.stage with
    | .connecting payload => some (t.connect rt uid payload times now)
    | _ => none
  | .up action =>
    match t.stage with
    | .relaying up down =>
      (up.step rt uid t.links action).map fun r =>
        { t with stage := .relaying r.1 down, links := r.2 }
    | _ => none
  | .down action =>
    match t.stage with
    | .relaying up down =>
      (down.step rt uid t.links action).map fun r =>
        { t with stage := .relaying up r.1, links := r.2 }
    | _ => none

/-- A session that starts. -/
def start (links : Dict String Obj) : Tunnel := ⟨links, .waiting, 0, 0, 0⟩

/-- A session that has ended, with both its flushes done. -/
def ended (t : Tunnel) : Bool :=
  match t.stage with
  | .closed => true
  | .relaying up down => up.phase = .done && down.phase = .done
  | _ => false

/-- A count of the whole session: the part before the pumps, and what the pumps add. -/
def total (t : Tunnel) (before : ℕ) (count : Pump → ℕ) : ℕ :=
  match t.stage with
  | .relaying up down => before + count up + count down
  | _ => before

/-- The payload bytes that the session forwarded, both ways together. -/
def totalForwarded (t : Tunnel) : ℕ := t.total t.forwarded Pump.forwarded

/-- The bytes that the session added to the counter of its link. -/
def totalCounted (t : Tunnel) : ℕ := t.total t.counted Pump.counted

/-- The bytes that the session received. -/
def totalReceived (t : Tunnel) : ℕ := t.total t.received Pump.received

/-- The step leaves no forwarded byte uncounted: the payload of the header is written at most
once, and a commit that is refused or cancelled has no frame in it that was forwarded before. -/
def countsAll (uid : String) (t : Tunnel) : TunnelEvent → Bool
  | .abandon times => times ≤ 1
  | .connect times _ => times ≤ 1
  | .up action =>
    match t.stage with
    | .relaying up _ => !Pump.losesBytes uid t.links up action
    | _ => true
  | .down action =>
    match t.stage with
    | .relaying _ down => !Pump.losesBytes uid t.links down action
    | _ => true
  | _ => true

/-- The sessions of a link as a machine. -/
def machine (rt : Runtime) (uid : String) : Machine Tunnel TunnelEvent Empty where
  step t event := (t.step rt uid event).map fun t => (t, [])

/-- The bytes of a session are accounted for, before its pumps and in each of them. -/
def Accounted (t : Tunnel) : Prop :=
  t.forwarded ≤ t.counted ∧ t.counted ≤ t.received ∧
    match t.stage with
    | .waiting => t.forwarded = 0
    | .connecting payload => t.forwarded + payload ≤ t.counted
    | .relaying up down => up.Accounted ∧ down.Accounted
    | .closed => True

variable {rt : Runtime} {uid : String} {t t' : Tunnel} {event : TunnelEvent}

lemma accounted_create {link : Option Obj} {now : ℚ} {gate : QuotaGate}
    (h : QuotaGate.create rt link now = .ok gate) : (Pump.create gate).Accounted := by
  have hempty := QuotaGate.create_pending h
  show _ ∧ _
  simp [Pump.create, hempty]

lemma Accounted.authorise (h : t.Accounted) (hwaiting : t.stage = .waiting) (server : Server)
    (subs : Dict String Obj) {header payload : ℕ} (hpayload : payload ≤ header) :
    (t.authorise uid server subs header payload).Accounted := by
  obtain ⟨hforwarded, hcounted, hstage⟩ := h
  rw [hwaiting] at hstage
  dsimp only at hstage
  unfold Tunnel.authorise
  split
  · refine ⟨?_, ?_, ?_⟩
    · show t.forwarded ≤ t.counted + header
      omega
    · show t.counted + header ≤ t.received + header
      omega
    · show t.forwarded + payload ≤ t.counted + header
      omega
  · refine ⟨hforwarded, ?_, trivial⟩
    show t.counted ≤ t.received + header
    omega

/-- The payload is written at most once, and both pumps start from nothing. -/
lemma Accounted.connect (h : t.Accounted) {payload times : ℕ} (hstage : t.stage = .connecting payload)
    (htimes : times ≤ 1) (now : ℚ) : (t.connect rt uid payload times now).Accounted := by
  obtain ⟨-, hcounted, hpayload⟩ := h
  rw [hstage] at hpayload
  dsimp only at hpayload
  have hmul : times * payload ≤ payload := by
    calc times * payload ≤ 1 * payload := Nat.mul_le_mul_right _ htimes
      _ = payload := Nat.one_mul _
  have hforwarded : t.forwarded + times * payload ≤ t.counted := by omega
  unfold Tunnel.connect
  dsimp only
  split
  · rename_i gate hgate
    exact ⟨hforwarded, hcounted, accounted_create hgate, accounted_create hgate⟩
  · exact ⟨hforwarded, hcounted, trivial⟩

lemma Accounted.abandon (h : t.Accounted) {payload times : ℕ} (hstage : t.stage = .connecting payload)
    (htimes : times ≤ 1) :
    Accounted { t with stage := .closed, forwarded := t.forwarded + times * payload } := by
  obtain ⟨-, hcounted, hpayload⟩ := h
  rw [hstage] at hpayload
  dsimp only at hpayload
  have hmul : times * payload ≤ 1 * payload := Nat.mul_le_mul_right _ htimes
  refine ⟨?_, hcounted, trivial⟩
  show t.forwarded + times * payload ≤ t.counted
  omega

/-- A step that counts all it forwards keeps the bytes of the session accounted for. -/
lemma Accounted.step (h : t.Accounted) (hall : countsAll uid t event = true)
    (hstep : t.step rt uid event = some t') : t'.Accounted := by
  cases event with
  | change links =>
    obtain rfl := Option.some.inj hstep
    exact h
  | authorise server subs header payload =>
    rw [Tunnel.step] at hstep
    split at hstep
    · rename_i hstage
      obtain ⟨hpayload, heq⟩ := Option.ite_none_right_eq_some.mp hstep
      obtain rfl := Option.some.inj heq
      exact h.authorise hstage server subs hpayload
    · cases hstep
  | abandon times =>
    rw [Tunnel.step] at hstep
    split at hstep
    · obtain rfl := Option.some.inj hstep
      exact ⟨h.1, h.2.1, trivial⟩
    · rename_i payload hstage
      obtain rfl := Option.some.inj hstep
      exact h.abandon hstage (of_decide_eq_true hall)
    · cases hstep
  | connect times now =>
    rw [Tunnel.step] at hstep
    split at hstep
    · rename_i payload hstage
      obtain rfl := Option.some.inj hstep
      exact h.connect hstage (of_decide_eq_true hall) now
    · cases hstep
  | up action =>
    rw [Tunnel.step] at hstep
    split at hstep
    · rename_i up down hstage
      obtain ⟨⟨up', links⟩, hpump, rfl⟩ := Option.map_eq_some_iff.mp hstep
      obtain ⟨hforwarded, hcounted, hpumps⟩ := h
      rw [hstage] at hpumps
      obtain ⟨added, lost, hmove, -, hlost⟩ := Pump.step_moves hpump
      obtain rfl := hlost (by simpa [countsAll, hstage] using hall)
      exact ⟨hforwarded, hcounted, hpumps.1.moves hmove, hpumps.2⟩
    · cases hstep
  | down action =>
    rw [Tunnel.step] at hstep
    split at hstep
    · rename_i up down hstage
      obtain ⟨⟨down', links⟩, hpump, rfl⟩ := Option.map_eq_some_iff.mp hstep
      obtain ⟨hforwarded, hcounted, hpumps⟩ := h
      rw [hstage] at hpumps
      obtain ⟨added, lost, hmove, -, hlost⟩ := Pump.step_moves hpump
      obtain rfl := hlost (by simpa [countsAll, hstage] using hall)
      exact ⟨hforwarded, hcounted, hpumps.1, hpumps.2.moves hmove⟩
    · cases hstep

/-- When a session has ended, each of its pumps has counted what it forwarded. -/
lemma Accounted.exact_of_ended (h : t.Accounted) (hended : t.ended = true) {up down : Pump}
    (hstage : t.stage = .relaying up down) : up.Exact ∧ down.Exact := by
  have hpumps := h.2.2
  rw [hstage] at hpumps
  unfold ended at hended
  rw [hstage] at hended
  simp only [Bool.and_eq_true, decide_eq_true_eq] at hended
  obtain ⟨hup, hdown⟩ := hpumps
  unfold Pump.Accounted at hup hdown
  rw [hended.1] at hup
  rw [hended.2] at hdown
  exact ⟨hup, hdown⟩

/-- When a session has ended, what is accounted for is counted. -/
lemma Accounted.of_ended (h : t.Accounted) (hended : t.ended = true) :
    t.totalForwarded ≤ t.totalCounted ∧ t.totalCounted ≤ t.totalReceived := by
  obtain ⟨hforwarded, hcounted, -⟩ := id h
  unfold totalForwarded totalCounted totalReceived total
  cases hphase : t.stage with
  | waiting | connecting _ =>
    unfold ended at hended
    rw [hphase] at hended
    cases hended
  | closed => exact ⟨hforwarded, hcounted⟩
  | relaying up down =>
    obtain ⟨⟨hup, hup'⟩, ⟨hdown, hdown'⟩⟩ := h.exact_of_ended hended hphase
    dsimp only
    omega

end Tunnel

/-- In every run of a session in which the first payload is written at most once and no commit
that holds forwarded frames is refused or cancelled, an ended session has counted every byte it
forwarded, and none that it did not receive.  This holds of the session as a whole, of what it did
before its pumps, and of each of the two pumps. -/
theorem exact_accounting {rt : Runtime} {uid : String} {links : Dict String Obj}
    {visited : List Tunnel} {events : List Empty} {t : Tunnel}
    (h : ((Tunnel.machine rt uid).restrict fun t event => Tunnel.countsAll uid t event).Run
      (.start links) visited events t) (hended : t.ended = true) :
    (t.totalForwarded ≤ t.totalCounted ∧ t.totalCounted ≤ t.totalReceived) ∧
      (t.forwarded ≤ t.counted ∧ t.counted ≤ t.received) ∧
      ∀ up down, t.stage = .relaying up down → up.Exact ∧ down.Exact := by
  have hstart : (Tunnel.start links).Accounted := ⟨le_rfl, le_rfl, rfl⟩
  have haccounted : t.Accounted := by
    refine h.invariant hstart fun t event t' es hI hs => ?_
    obtain ⟨hall, hs⟩ := Machine.restrict_step.mp hs
    obtain ⟨t'', hstep, heq⟩ := Option.map_eq_some_iff.mp hs
    obtain ⟨rfl, -⟩ := Prod.mk.inj heq
    exact hI.step hall hstep
  exact ⟨haccounted.of_ended hended, ⟨haccounted.1, haccounted.2.1⟩,
    fun up down hstage => haccounted.exact_of_ended hended hstage⟩

/-! A session uploads a thousand bytes.  Its link stays as it is, or is switched off before the
upload is flushed. -/

/-- The links, with one that is active or not. -/
def exampleLinks (active : Bool) (used : ℤ) : Dict String Obj :=
  Dict.set .empty "u"
    [("active", .bool active), ("limit_bytes", .int 0), ("used_bytes", .int used)]

/-- The steps of the session; `change` is what happens to the link during the upload. -/
def exampleSession (change : List TunnelEvent) : List TunnelEvent :=
  [.authorise (.bare .ascii) .empty 30 0, .connect 1 0, .up (.receive 1000 0), .up .forward] ++
    change ++
      [.up .stop, .up .flush, .up (.commit (.bare .ascii) .empty), .down .stop, .down .flush]

/-- Whether the session ends with these counts. -/
def endsWith (forwarded counted : ℕ) (t : Tunnel) : Bool :=
  t.ended && t.totalForwarded = forwarded && t.totalCounted = counted

theorem exact_accounting_upload : ∃ visited events t,
    ((Tunnel.machine .ascii "u").restrict fun t event => Tunnel.countsAll "u" t event).Run
        (.start (exampleLinks true 0)) visited events t ∧
      t.totalForwarded = 1000 ∧ t.totalForwarded ≤ t.totalCounted ∧
      t.totalCounted ≤ t.totalReceived := by
  have hexists : ∃ visited events t,
      ((Tunnel.machine .ascii "u").restrict fun t event => Tunnel.countsAll "u" t event).Run
        (.start (exampleLinks true 0)) visited events t ∧ endsWith 1000 1030 t = true :=
    Machine.exists_run (exampleSession []) (by decide +kernel)
  obtain ⟨_, _, t, hrun, hends⟩ := hexists
  simp only [endsWith, Bool.and_eq_true, decide_eq_true_eq] at hends
  exact ⟨_, _, t, hrun, hends.1.2, (exact_accounting hrun hends.1.1).1⟩

/-- The thousand bytes are delivered, and only the header is counted. -/
theorem upload_uncounted : ∃ visited events t,
    (Tunnel.machine .ascii "u").Run (.start (exampleLinks true 0)) visited events t ∧
      t.ended = true ∧ t.totalForwarded = 1000 ∧ t.totalCounted = 30 := by
  have hexists : ∃ visited events t,
      (Tunnel.machine .ascii "u").Run (.start (exampleLinks true 0)) visited events t ∧
        endsWith 1000 30 t = true :=
    Machine.exists_run (exampleSession [.change (exampleLinks false 30)]) (by decide +kernel)
  obtain ⟨_, _, t, hrun, hends⟩ := hexists
  simp only [endsWith, Bool.and_eq_true, decide_eq_true_eq] at hends
  exact ⟨_, _, t, hrun, hends.1.1, hends.1.2, hends.2⟩

end Session
