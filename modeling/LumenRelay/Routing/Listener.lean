import LumenRelay.Routing.RawTcp
import LumenRelay.Lib.Machine
import LumenRelay.Py.Sample
import Mathlib.Data.Finset.Card

/-!
# The Raw TCP listener

During a TLS handshake a callback puts the server name that the client has sent into a table,
under the identity of the TLS object of the connection.  When the connection is admitted the entry
is taken out again and gives the location.  The identity of an object may be used again when the
object is gone.
-/

namespace Routing

open Lib Py

/-! ## State -/

/-- How far a connection has come. -/
inductive Phase
  /-- The handshake goes on, and the client has not said anything. -/
  | opened
  /-- The handshake goes on after the message of the client. -/
  | greeted
  /-- `_accepted` waits for its admission. -/
  | waiting
  /-- `raw_tcp_tunnel` runs. -/
  | tunnelling
  /-- `_accepted` closes the connection. -/
  | closing
deriving DecidableEq, Repr

/-- A connection whose TLS object exists. -/
structure Connection where
  /-- `id(ssl_object)`. -/
  sslId : ℕ
  phase : Phase
  /-- The server name that the client has sent. -/
  serverName : Option String
deriving DecidableEq

/-- The connection is in progress: it has been neither admitted nor given up. -/
def Connection.inProgress (c : Connection) : Bool := c.phase = .greeted || c.phase = .waiting

/-- `RawTCPListener`. -/
structure RawTCPListener where
  /-- `_sni_by_ssl_id`. -/
  sniBySslId : Dict ℕ String
  connections : Dict ℕ Connection
  /-- The number of connections that `_admission` still admits. -/
  admission : ℕ
  /-- The name of the next connection. -/
  next : ℕ

/-- What happens to the connections. -/
inductive ListenerLabel
  | accept (sslId : ℕ)
  | hello (n : ℕ) (serverName : Option String)
  | handshakeFailed (n : ℕ)
  | established (n : ℕ)
  | admitted (n : ℕ)
  | timedOut (n : ℕ)
  | cancelled (n : ℕ)
  | finished (n : ℕ)
  | freed (n : ℕ)
  | cleared

/-- What can be seen of a run. -/
inductive ListenerEvent
  /-- A client has sent a server name, or none. -/
  | hello (n : ℕ) (serverName : Option String)
  /-- A connection is handed on with this server name and this location. -/
  | tunnel (n : ℕ) (serverName location : String)
  /-- A connection is refused. -/
  | rejected (n : ℕ)
deriving DecidableEq

/-! ## Steps -/

namespace RawTCPListener

/-- A listener at its start; `limit` is `_connection_limit`. -/
def fresh (limit : ℕ) : RawTCPListener := ⟨.empty, .empty, limit, 0⟩

/-- The identities of the TLS objects that exist. -/
def sslIds (s : RawTCPListener) : List ℕ := s.connections.values.map Connection.sslId

/-- A connection goes on to another phase. -/
def move (s : RawTCPListener) (n : ℕ) (c : Connection) (phase : Phase) : RawTCPListener :=
  { s with connections := s.connections.set n { c with phase := phase } }

/-- A TLS object is gone. -/
def drop (s : RawTCPListener) (n : ℕ) : RawTCPListener :=
  { s with connections := s.connections.erase n }

/-- `remember_sni`. -/
def rememberSni (s : RawTCPListener) (sslId : ℕ) (serverName : Option String) : RawTCPListener :=
  match serverName.filter (· ≠ "") with
  | none => s
  | some name => { s with sniBySslId := s.sniBySslId.set sslId name }

/-- `_accepted` after its admission. -/
def select (site : Site) (s : RawTCPListener) (n : ℕ) (c : Connection) :
    RawTCPListener × List ListenerEvent :=
  let serverName := (s.sniBySslId.get? c.sslId).getD ""
  let s := { s with sniBySslId := s.sniBySslId.erase c.sslId }
  match (deployment site).locationForSni site.rt serverName with
  | none => (s.move n c .closing, [.rejected n])
  | some location =>
    if serverName = "" then (s.move n c .closing, [.rejected n])
    else
      ({ s with admission := s.admission - 1 }.move n c .tunnelling,
        [.tunnel n serverName location])

/-- One step of the listener. -/
def step (site : Site) (s : RawTCPListener) :
    ListenerLabel → Option (RawTCPListener × List ListenerEvent)
  | .accept sslId =>
    if sslId ∈ s.sslIds then none
    else
      some ({ s with
        connections := s.connections.set s.next ⟨sslId, .opened, none⟩, next := s.next + 1 }, [])
  | .hello n serverName => do
    let c ← s.connections.get? n
    if c.phase = .opened then
      some ((s.rememberSni c.sslId serverName).move n { c with serverName := serverName } .greeted,
        [.hello n serverName])
    else none
  | .handshakeFailed n => do
    let c ← s.connections.get? n
    if c.phase = .opened ∨ c.phase = .greeted then some (s.drop n, []) else none
  | .established n => do
    let c ← s.connections.get? n
    if c.phase = .greeted then some (s.move n c .waiting, []) else none
  | .admitted n => do
    let c ← s.connections.get? n
    if c.phase = .waiting ∧ 0 < s.admission then some (s.select site n c) else none
  | .timedOut n => do
    let c ← s.connections.get? n
    if c.phase = .waiting then some (s.move n c .closing, [.rejected n]) else none
  | .cancelled n => do
    let c ← s.connections.get? n
    match c.phase with
    | .waiting => some (s.move n c .closing, [])
    | .tunnelling => some ({ s with admission := s.admission + 1 }.move n c .closing, [])
    | _ => none
  | .finished n => do
    let c ← s.connections.get? n
    if c.phase = .tunnelling then
      some ({ s with admission := s.admission + 1 }.move n c .closing, [])
    else none
  | .freed n => do
    let c ← s.connections.get? n
    if c.phase = .closing then some (s.drop n, []) else none
  -- the end of `stop`
  | .cleared => some ({ s with sniBySslId := .empty }, [])

end RawTCPListener

/-- The connections of the listener. -/
def listener (site : Site) : Machine RawTCPListener ListenerLabel ListenerEvent := ⟨fun s l => s.step site l⟩

/-! ## What a step can do -/

/-- The steps of the listener, one constructor for each way in which one can go. -/
inductive ListenerMove (site : Site) (s : RawTCPListener) :
    ListenerLabel → RawTCPListener → List ListenerEvent → Prop
  | accepted (sslId : ℕ) : sslId ∉ s.sslIds →
      ListenerMove site s (.accept sslId)
        { s with
          connections := s.connections.set s.next ⟨sslId, .opened, none⟩, next := s.next + 1 } []
  | greeted (n : ℕ) (c : Connection) (serverName : Option String) :
      s.connections.get? n = some c → c.phase = .opened →
      ListenerMove site s (.hello n serverName)
        ((s.rememberSni c.sslId serverName).move n { c with serverName := serverName } .greeted)
        [.hello n serverName]
  | established (n : ℕ) (c : Connection) : s.connections.get? n = some c → c.phase = .greeted →
      ListenerMove site s (.established n) (s.move n c .waiting) []
  | selected (n : ℕ) (c : Connection) : s.connections.get? n = some c → c.phase = .waiting →
      ListenerMove site s (.admitted n) (s.select site n c).1 (s.select site n c).2
  /-- A connection leaves without its entry being taken out. -/
  | left (l : ListenerLabel) (n : ℕ) (c : Connection) (admission : ℕ) (es : List ListenerEvent) :
      s.connections.get? n = some c → c.phase ≠ .opened →
      (c.inProgress = true → l = .handshakeFailed n ∨ l = .timedOut n ∨ l = .cancelled n) →
      es = [] ∨ es = [.rejected n] →
      ListenerMove site s l ({ s with admission := admission }.move n c .closing) es
  | dropped (l : ListenerLabel) (n : ℕ) (c : Connection) : s.connections.get? n = some c →
      (c.inProgress = true → l = .handshakeFailed n ∨ l = .timedOut n ∨ l = .cancelled n) →
      ListenerMove site s l (s.drop n) []
  | cleared : ListenerMove site s .cleared { s with sniBySslId := .empty } []

lemma RawTCPListener.step_move {site : Site} {s s' : RawTCPListener} {l : ListenerLabel}
    {es : List ListenerEvent} (h : s.step site l = some (s', es)) : ListenerMove site s l s' es := by
  cases l with
  | accept sslId =>
    simp only [step] at h
    split at h
    · cases h
    next hfree =>
      simp only [Option.some.injEq, Prod.mk.injEq] at h
      obtain ⟨rfl, rfl⟩ := h
      exact .accepted sslId hfree
  | hello n serverName =>
    simp only [step, Option.bind_eq_bind] at h
    obtain ⟨c, hc, h⟩ := Option.bind_eq_some_iff.mp h
    split at h
    next hphase =>
      simp only [Option.some.injEq, Prod.mk.injEq] at h
      obtain ⟨rfl, rfl⟩ := h
      exact .greeted n c serverName hc hphase
    next => cases h
  | handshakeFailed n =>
    simp only [step, Option.bind_eq_bind] at h
    obtain ⟨c, hc, h⟩ := Option.bind_eq_some_iff.mp h
    split at h
    next =>
      simp only [Option.some.injEq, Prod.mk.injEq] at h
      obtain ⟨rfl, rfl⟩ := h
      exact .dropped _ n c hc fun _ => .inl rfl
    next => cases h
  | established n =>
    simp only [step, Option.bind_eq_bind] at h
    obtain ⟨c, hc, h⟩ := Option.bind_eq_some_iff.mp h
    split at h
    next hphase =>
      simp only [Option.some.injEq, Prod.mk.injEq] at h
      obtain ⟨rfl, rfl⟩ := h
      exact .established n c hc hphase
    next => cases h
  | admitted n =>
    simp only [step, Option.bind_eq_bind] at h
    obtain ⟨c, hc, h⟩ := Option.bind_eq_some_iff.mp h
    split at h
    next hphase =>
      have hselect := Option.some.inj h
      rw [show s' = (s.select site n c).1 from (congrArg Prod.fst hselect).symm,
        show es = (s.select site n c).2 from (congrArg Prod.snd hselect).symm]
      exact .selected n c hc hphase.1
    next => cases h
  | timedOut n =>
    simp only [step, Option.bind_eq_bind] at h
    obtain ⟨c, hc, h⟩ := Option.bind_eq_some_iff.mp h
    split at h
    next hphase =>
      simp only [Option.some.injEq, Prod.mk.injEq] at h
      obtain ⟨rfl, rfl⟩ := h
      exact .left _ n c s.admission _ hc (by simp [hphase]) (fun _ => .inr (.inl rfl)) (.inr rfl)
    next => cases h
  | cancelled n =>
    simp only [step, Option.bind_eq_bind] at h
    obtain ⟨c, hc, h⟩ := Option.bind_eq_some_iff.mp h
    split at h
    next hphase =>
      simp only [Option.some.injEq, Prod.mk.injEq] at h
      obtain ⟨rfl, rfl⟩ := h
      exact .left _ n c s.admission _ hc (by simp [hphase]) (fun _ => .inr (.inr rfl)) (.inl rfl)
    next hphase =>
      simp only [Option.some.injEq, Prod.mk.injEq] at h
      obtain ⟨rfl, rfl⟩ := h
      exact .left _ n c (s.admission + 1) _ hc (by simp [hphase]) (fun _ => .inr (.inr rfl))
        (.inl rfl)
    next => cases h
  | finished n =>
    simp only [step, Option.bind_eq_bind] at h
    obtain ⟨c, hc, h⟩ := Option.bind_eq_some_iff.mp h
    split at h
    next hphase =>
      simp only [Option.some.injEq, Prod.mk.injEq] at h
      obtain ⟨rfl, rfl⟩ := h
      refine .left _ n c (s.admission + 1) _ hc (by simp [hphase]) (fun hprogress => ?_) (.inl rfl)
      simp [Connection.inProgress, hphase] at hprogress
    next => cases h
  | freed n =>
    simp only [step, Option.bind_eq_bind] at h
    obtain ⟨c, hc, h⟩ := Option.bind_eq_some_iff.mp h
    split at h
    next hphase =>
      simp only [Option.some.injEq, Prod.mk.injEq] at h
      obtain ⟨rfl, rfl⟩ := h
      refine .dropped _ n c hc fun hprogress => ?_
      simp [Connection.inProgress, hphase] at hprogress
    next => cases h
  | cleared =>
    simp only [step, Option.some.injEq, Prod.mk.injEq] at h
    obtain ⟨rfl, rfl⟩ := h
    exact .cleared

/-! ## Isolation -/

/-- The location of each connection that is handed on is that of the server name which this very
connection has sent, and the table has entries of connections in progress only. -/
structure Isolated (site : Site) (events : List ListenerEvent) (s : RawTCPListener) : Prop where
  own : ∀ n name location, .tunnel n name location ∈ events →
    name ≠ "" ∧ (deployment site).locationForSni site.rt name = some location ∧
      ∀ sent, .hello n sent ∈ events ↔ sent = some name
  table : ∀ sslId name, s.sniBySslId.get? sslId = some name →
    ∃ n c, s.connections.get? n = some c ∧ c.sslId = sslId ∧ c.serverName = some name ∧
      c.inProgress = true
  size : s.sniBySslId.entries.length ≤
    (s.connections.values.filter Connection.inProgress).length

/-- What else holds of every run. -/
structure Sane (site : Site) (events : List ListenerEvent) (s : RawTCPListener) : Prop where
  ids : ∀ n m c c', s.connections.get? n = some c → s.connections.get? m = some c' →
    c.sslId = c'.sslId → n = m
  known : ∀ n c, s.connections.get? n = some c → n < s.next
  said : ∀ n sent, ListenerEvent.hello n sent ∈ events → n < s.next
  sent : ∀ n c, s.connections.get? n = some c →
    ∀ sent, .hello n sent ∈ events ↔ c.phase ≠ .opened ∧ c.serverName = sent
  table : ∀ sslId name, s.sniBySslId.get? sslId = some name → name ≠ "" ∧
    ∃ n c, s.connections.get? n = some c ∧ c.sslId = sslId ∧ c.serverName = some name ∧
      c.inProgress = true
  own : ∀ n name location, .tunnel n name location ∈ events →
    name ≠ "" ∧ (deployment site).locationForSni site.rt name = some location ∧
      ∀ sent, .hello n sent ∈ events ↔ sent = some name

/-- No connection that has sent a server name is given up while its entry is in the table. -/
def Clean (s : RawTCPListener) : ListenerLabel → Prop
  | .handshakeFailed n | .timedOut n | .cancelled n =>
    (s.connections.get? n).all (fun c => !c.inProgress || c.serverName.getD "" = "") = true
  | _ => True

instance (s : RawTCPListener) : ∀ l, Decidable (Clean s l)
  | .handshakeFailed _ | .timedOut _ | .cancelled _ => inferInstanceAs (Decidable (_ = true))
  | .accept _ | .hello _ _ | .established _ | .admitted _ | .finished _ | .freed _ | .cleared =>
    inferInstanceAs (Decidable True)

section sane

variable {site : Site} {events es : List ListenerEvent} {s s' : RawTCPListener}
  {l : ListenerLabel} {n : ℕ} {c : Connection}

/-- A connection that is given up in a clean step has not sent a server name. -/
lemma Clean.serverName (h : Clean s l) (hc : s.connections.get? n = some c)
    (hprogress : c.inProgress = true) (hl : l = .handshakeFailed n ∨ l = .timedOut n ∨ l = .cancelled n)
    {name : String} (hname : c.serverName = some name) : name = "" := by
  have hall : (s.connections.get? n).all (fun c => !c.inProgress || c.serverName.getD "" = "") = true := by
    rcases hl with rfl | rfl | rfl
    · exact h
    · exact h
    · exact h
  rw [hc] at hall
  simpa [hprogress, hname] using hall

/-- The identities stay distinct when a connection goes on. -/
lemma Sane.ids_set (h : Sane site events s) (hc : s.connections.get? n = some c) {c' : Connection}
    (hid : c'.sslId = c.sslId) :
    ∀ a b d d', (s.connections.set n c').get? a = some d → (s.connections.set n c').get? b = some d' →
      d.sslId = d'.sslId → a = b := by
  intro a b d d' ha hb hsame
  rw [Dict.get?_set] at ha hb
  split_ifs at ha hb with hna hnb hnb
  · rw [hna, hnb]
  · obtain rfl := Option.some.inj ha
    rw [hna]
    exact h.ids n b c d' hc hb (hid.symm.trans hsame)
  · obtain rfl := Option.some.inj hb
    rw [hnb]
    exact h.ids a n d c ha hc (hsame.trans hid)
  · exact h.ids a b d d' ha hb hsame

/-- A connection goes on without saying anything. -/
lemma Sane.move (h : Sane site events s) (hc : s.connections.get? n = some c) {phase : Phase}
    (hphase : c.phase ≠ .opened) (hphase' : phase ≠ .opened)
    (htable : ∀ name, s.sniBySslId.get? c.sslId = some name →
      Connection.inProgress { c with phase := phase } = true) :
    Sane site events (s.move n c phase) where
  ids := h.ids_set hc rfl
  known m d hd := by
    change (s.connections.set n _).get? m = some d at hd
    rw [Dict.get?_set] at hd
    split_ifs at hd with hm
    · rw [hm]
      exact h.known n c hc
    · exact h.known m d hd
  said := h.said
  sent m d hd name := by
    change (s.connections.set n _).get? m = some d at hd
    rw [Dict.get?_set] at hd
    split_ifs at hd with hm
    · obtain rfl := Option.some.inj hd
      subst hm
      rw [h.sent m c hc]
      simp [hphase, hphase']
    · exact h.sent m d hd name
  table sslId name hname := by
    obtain ⟨hne, m, d, hd, hid, hserver, hprogress⟩ := h.table sslId name hname
    refine ⟨hne, ?_⟩
    by_cases hm : m = n
    · subst hm
      rw [hc] at hd
      obtain rfl := Option.some.inj hd
      subst hid
      exact ⟨m, _, Dict.get?_set_self _ _ _, rfl, hserver, htable name hname⟩
    · exact ⟨m, d, (Dict.get?_set_ne hm _ _).trans hd, hid, hserver, hprogress⟩
  own := h.own

/-- A TLS object without an entry is gone. -/
lemma Sane.drop (h : Sane site events s) (hc : s.connections.get? n = some c)
    (htable : ∀ name, s.sniBySslId.get? c.sslId ≠ some name) : Sane site events (s.drop n) := by
  have hget : ∀ {m d}, (s.drop n).connections.get? m = some d → s.connections.get? m = some d := by
    intro m d hd
    change (s.connections.erase n).get? m = some d at hd
    rw [Dict.get?_erase] at hd
    split_ifs at hd
    exact hd
  refine ⟨fun a b d d' ha hb => h.ids a b d d' (hget ha) (hget hb), fun m d hd => h.known m d (hget hd),
    h.said, fun m d hd => h.sent m d (hget hd), fun sslId name hname => ?_, h.own⟩
  obtain ⟨hne, m, d, hd, hid, hserver, hprogress⟩ := h.table sslId name hname
  have hm : m ≠ n := by
    rintro rfl
    rw [hc] at hd
    obtain rfl := Option.some.inj hd
    exact htable name (by rw [hid]; exact hname)
  exact ⟨hne, m, d, (Dict.get?_erase_ne hm _).trans hd, hid, hserver, hprogress⟩

/-- Entries of the table are forgotten. -/
lemma Sane.forget (h : Sane site events s) {table : Dict ℕ String}
    (htable : ∀ sslId name, table.get? sslId = some name → s.sniBySslId.get? sslId = some name) :
    Sane site events { s with sniBySslId := table } :=
  ⟨h.ids, h.known, h.said, h.sent, fun sslId name hname => h.table sslId name (htable sslId name hname),
    h.own⟩

/-- The number of connections that are still admitted does not matter. -/
lemma Sane.withAdmission (h : Sane site events s) (admission : ℕ) :
    Sane site events { s with admission := admission } :=
  ⟨h.ids, h.known, h.said, h.sent, h.table, h.own⟩

/-- A connection is refused. -/
lemma Sane.rejected (h : Sane site events s) (n : ℕ) : Sane site (events ++ [.rejected n]) s := by
  have hhello : ∀ m sent, ListenerEvent.hello m sent ∈ events ++ [.rejected n] ↔
      ListenerEvent.hello m sent ∈ events := by
    simp
  have htunnel : ∀ m name location, ListenerEvent.tunnel m name location ∈ events ++ [.rejected n] ↔
      ListenerEvent.tunnel m name location ∈ events := by
    simp
  refine ⟨h.ids, h.known, fun m sent hm => h.said m sent ((hhello m sent).mp hm), ?_, h.table, ?_⟩
  · intro m d hd sent
    rw [hhello]
    exact h.sent m d hd sent
  · intro m name location hm
    obtain ⟨hne, hlocation, hsent⟩ := h.own m name location ((htunnel m name location).mp hm)
    exact ⟨hne, hlocation, fun sent => (hhello m sent).trans (hsent sent)⟩

/-- An entry under the identity of a connection is what this connection has sent. -/
lemma Sane.entry (h : Sane site events s) (hc : s.connections.get? n = some c) {name : String}
    (hname : s.sniBySslId.get? c.sslId = some name) :
    name ≠ "" ∧ c.serverName = some name ∧ c.inProgress = true := by
  obtain ⟨hne, m, d, hd, hid, hserver, hprogress⟩ := h.table c.sslId name hname
  obtain rfl := h.ids m n d c hd hc hid
  rw [hc] at hd
  obtain rfl := Option.some.inj hd
  exact ⟨hne, hserver, hprogress⟩

/-- A connection that is given up in a clean step has no entry. -/
lemma Sane.noEntry (h : Sane site events s) (hclean : Clean s l) (hc : s.connections.get? n = some c)
    (hl : c.inProgress = true → l = .handshakeFailed n ∨ l = .timedOut n ∨ l = .cancelled n)
    (name : String) : s.sniBySslId.get? c.sslId ≠ some name := by
  intro hname
  obtain ⟨hne, hserver, hprogress⟩ := h.entry hc hname
  exact hne (hclean.serverName hc hprogress (hl hprogress) hserver)

/-- A new connection. -/
lemma Sane.accept (h : Sane site events s) {sslId : ℕ} (hfree : sslId ∉ s.sslIds) :
    Sane site events { s with
      connections := s.connections.set s.next ⟨sslId, .opened, none⟩, next := s.next + 1 } := by
  have hnew : ∀ m d, s.connections.get? m = some d → m ≠ s.next := fun m d hd =>
    (h.known m d hd).ne
  have hother : ∀ m d, s.connections.get? m = some d → d.sslId ≠ sslId := by
    rintro m d hd rfl
    exact hfree (List.mem_map.mpr ⟨d, Dict.mem_values_iff.mpr ⟨m, hd⟩, rfl⟩)
  refine ⟨?_, ?_, fun m sent hm => Nat.lt_succ_of_lt (h.said m sent hm), ?_, ?_, h.own⟩
  · intro a b d d' ha hb hsame
    rw [Dict.get?_set] at ha hb
    split_ifs at ha hb with hna hnb hnb
    · rw [hna, hnb]
    · obtain rfl := Option.some.inj ha
      exact absurd hsame.symm (hother b d' hb)
    · obtain rfl := Option.some.inj hb
      exact absurd hsame (hother a d ha)
    · exact h.ids a b d d' ha hb hsame
  · intro m d hd
    rw [Dict.get?_set] at hd
    split_ifs at hd with hm
    · rw [hm]
      exact Nat.lt_succ_self _
    · exact Nat.lt_succ_of_lt (h.known m d hd)
  · intro m d hd sent
    rw [Dict.get?_set] at hd
    split_ifs at hd with hm
    · obtain rfl := Option.some.inj hd
      refine ⟨fun hhello => ?_, fun hphase => absurd rfl hphase.1⟩
      rw [hm] at hhello
      exact absurd (h.said _ _ hhello) (lt_irrefl _)
    · exact h.sent m d hd sent
  · intro id name hname
    obtain ⟨hne, m, d, hd, hid, hserver, hprogress⟩ := h.table id name hname
    exact ⟨hne, m, d, (Dict.get?_set_ne (hnew m d hd) _ _).trans hd, hid, hserver, hprogress⟩

/-- What `remember_sni` adds. -/
lemma get?_rememberSni {id id' : ℕ} {sent : Option String} {name : String}
    (h : (s.rememberSni id sent).sniBySslId.get? id' = some name) :
    s.sniBySslId.get? id' = some name ∨ id' = id ∧ sent = some name ∧ name ≠ "" := by
  unfold RawTCPListener.rememberSni at h
  split at h
  · exact .inl h
  next new hnew =>
    obtain ⟨hsent, hne⟩ := Option.filter_eq_some_iff.mp hnew
    rw [Dict.get?_set] at h
    split_ifs at h with hid
    · obtain rfl := Option.some.inj h
      exact .inr ⟨hid, hsent, by simpa using hne⟩
    · exact .inl h

@[simp] lemma connections_rememberSni (id : ℕ) (sent : Option String) :
    (s.rememberSni id sent).connections = s.connections ∧ (s.rememberSni id sent).next = s.next := by
  unfold RawTCPListener.rememberSni
  split
  · exact ⟨rfl, rfl⟩
  · exact ⟨rfl, rfl⟩

/-- The message of a client. -/
lemma Sane.greet (h : Sane site events s) (hc : s.connections.get? n = some c)
    (hphase : c.phase = .opened) (serverName : Option String) :
    Sane site (events ++ [.hello n serverName])
      ((s.rememberSni c.sslId serverName).move n { c with serverName := serverName } .greeted) := by
  obtain ⟨hconnections, hnext⟩ := connections_rememberSni (s := s) c.sslId serverName
  have hsilent : ∀ sent, ListenerEvent.hello n sent ∉ events := by
    intro sent hsent
    exact ((h.sent n c hc sent).mp hsent).1 hphase
  have hget : ∀ m, ((s.rememberSni c.sslId serverName).move n
      { c with serverName := serverName } .greeted).connections.get? m =
        if m = n then some ⟨c.sslId, .greeted, serverName⟩ else s.connections.get? m := by
    intro m
    change ((s.rememberSni c.sslId serverName).connections.set n _).get? m = _
    rw [hconnections, Dict.get?_set]
  have hother : ∀ m, m ≠ n → ∀ sent, ListenerEvent.hello m sent ∈ events ++ [.hello n serverName] ↔
      ListenerEvent.hello m sent ∈ events := by
    intro m hm sent
    simp [hm]
  refine ⟨?_, ?_, ?_, ?_, ?_, ?_⟩
  · change ∀ a b d d', ((s.rememberSni c.sslId serverName).connections.set n _).get? a = some d →
      ((s.rememberSni c.sslId serverName).connections.set n _).get? b = some d' → _
    rw [hconnections]
    exact h.ids_set hc rfl
  · intro m d hd
    change m < (s.rememberSni c.sslId serverName).next
    rw [hget] at hd
    rw [hnext]
    split_ifs at hd with hm
    · rw [hm]
      exact h.known n c hc
    · exact h.known m d hd
  · intro m sent hm
    change m < (s.rememberSni c.sslId serverName).next
    rw [hnext]
    by_cases hn : m = n
    · rw [hn]
      exact h.known n c hc
    · exact h.said m sent ((hother m hn sent).mp hm)
  · intro m d hd sent
    rw [hget] at hd
    split_ifs at hd with hm
    · obtain rfl := Option.some.inj hd
      subst hm
      simp [hsilent, eq_comm]
    · rw [hother m hm]
      exact h.sent m d hd sent
  · intro id name hname
    rcases get?_rememberSni hname with hold | ⟨rfl, rfl, hne⟩
    · obtain ⟨hne, m, d, hd, hid, hserver, hprogress⟩ := h.table id name hold
      have hm : m ≠ n := by
        rintro rfl
        rw [hc] at hd
        obtain rfl := Option.some.inj hd
        simp [Connection.inProgress, hphase] at hprogress
      exact ⟨hne, m, d, by rw [hget, if_neg hm, hd], hid, hserver, hprogress⟩
    · exact ⟨hne, n, ⟨c.sslId, .greeted, some name⟩, by rw [hget, if_pos rfl], rfl, rfl, rfl⟩
  · intro m name location hm
    have hm : ListenerEvent.tunnel m name location ∈ events := by simpa using hm
    obtain ⟨hne, hlocation, hsent⟩ := h.own m name location hm
    refine ⟨hne, hlocation, fun sent => ?_⟩
    by_cases hn : m = n
    · subst hn
      exact absurd ((hsent (some name)).mpr rfl) (hsilent _)
    · rw [hother m hn]
      exact hsent sent

/-- A connection is handed on. -/
lemma Sane.tunnel (h : Sane site events s) (hc : s.connections.get? n = some c)
    (hphase : c.phase ≠ .opened) {name location : String} (hserver : c.serverName = some name)
    (hne : name ≠ "") (hlocation : (deployment site).locationForSni site.rt name = some location) :
    Sane site (events ++ [.tunnel n name location]) s := by
  have hhello : ∀ m sent, ListenerEvent.hello m sent ∈ events ++ [.tunnel n name location] ↔
      ListenerEvent.hello m sent ∈ events := by
    simp
  refine ⟨h.ids, h.known, fun m sent hm => h.said m sent ((hhello m sent).mp hm), ?_, h.table, ?_⟩
  · intro m d hd sent
    rw [hhello]
    exact h.sent m d hd sent
  · intro m name' location' hm
    rcases List.mem_append.mp hm with hm | hm
    · obtain ⟨hne', hlocation', hsent⟩ := h.own m name' location' hm
      exact ⟨hne', hlocation', fun sent => (hhello m sent).trans (hsent sent)⟩
    · obtain ⟨rfl, rfl, rfl⟩ := ListenerEvent.tunnel.inj (List.mem_singleton.mp hm)
      refine ⟨hne, hlocation, fun sent => ?_⟩
      rw [hhello, h.sent m c hc, hserver, eq_comm (a := some name')]
      exact and_iff_right hphase

/-- An admitted connection takes its entry out of the table. -/
lemma Sane.select (h : Sane site events s) (hc : s.connections.get? n = some c)
    (hphase : c.phase = .waiting) : Sane site (events ++ (s.select site n c).2) (s.select site n c).1 := by
  have hopened : c.phase ≠ .opened := by simp [hphase]
  have herased : ∀ sslId name, (s.sniBySslId.erase c.sslId).get? sslId = some name →
      s.sniBySslId.get? sslId = some name := by
    intro sslId name hname
    rw [Dict.get?_erase] at hname
    split_ifs at hname
    exact hname
  have hgone : ∀ {name} {p : Prop}, (s.sniBySslId.erase c.sslId).get? c.sslId = some name → p := by
    intro name p hname
    rw [Dict.get?_erase_self] at hname
    cases hname
  have hclosing : Sane site (events ++ [.rejected n])
      ({ s with sniBySslId := s.sniBySslId.erase c.sslId }.move n c .closing) :=
    ((h.forget herased).move hc hopened (by simp) fun _ hname => hgone hname).rejected n
  unfold RawTCPListener.select
  dsimp only
  split
  · exact hclosing
  next location hlocation =>
    split_ifs with hempty
    · exact hclosing
    · obtain ⟨name, hname⟩ : ∃ name, s.sniBySslId.get? c.sslId = some name := by
        cases hname : s.sniBySslId.get? c.sslId with
        | none => exact absurd (by rw [hname]; rfl) hempty
        | some name => exact ⟨name, rfl⟩
      rw [hname] at hlocation hempty ⊢
      obtain ⟨hne, hserver, -⟩ := h.entry hc hname
      have htunnel := h.tunnel hc hopened hserver hne hlocation
      exact ((htunnel.forget herased).withAdmission _).move hc hopened (by simp)
        fun _ hname => hgone hname

/-- What one step preserves. -/
lemma Sane.step (h : Sane site events s) (hclean : Clean s l) (hmove : ListenerMove site s l s' es) :
    Sane site (events ++ es) s' := by
  cases hmove with
  | accepted sslId hfree =>
    rw [List.append_nil]
    exact h.accept hfree
  | greeted n c serverName hc hphase => exact h.greet hc hphase serverName
  | established n c hc hphase =>
    rw [List.append_nil]
    refine h.move hc (by simp [hphase]) (by simp) fun _ _ => ?_
    simp [Connection.inProgress]
  | selected n c hc hphase => exact h.select hc hphase
  | left _ n c admission es hc hphase hl hes =>
    have hmoved := (h.withAdmission admission).move hc hphase (show Phase.closing ≠ .opened by simp)
      fun name hname => absurd hname (h.noEntry hclean hc hl name)
    rcases hes with rfl | rfl
    · rw [List.append_nil]
      exact hmoved
    · exact hmoved.rejected n
  | dropped _ n c hc hl =>
    rw [List.append_nil]
    exact h.drop hc (h.noEntry hclean hc hl)
  | cleared =>
    rw [List.append_nil]
    exact h.forget fun _ _ hname => by simp at hname

lemma Sane.size (h : Sane site events s) : s.sniBySslId.entries.length ≤
    (s.connections.values.filter Connection.inProgress).length := by
  have hsub : s.sniBySslId.keys ⊆
      (s.connections.values.filter Connection.inProgress).map Connection.sslId := by
    intro sslId hkey
    obtain ⟨name, hname⟩ := Dict.mem_keys_iff.mp hkey
    obtain ⟨-, n, c, hc, hid, -, hprogress⟩ := h.table sslId name hname
    exact List.mem_map.mpr ⟨c, List.mem_filter.mpr ⟨Dict.mem_values_iff.mpr ⟨n, hc⟩, hprogress⟩, hid⟩
  have hle := (List.subperm_of_subset s.sniBySslId.nodup hsub).length_le
  simpa [Dict.keys] using hle

end sane

lemma sane_fresh (site : Site) (limit : ℕ) : Sane site [] (.fresh limit) := by
  constructor
  all_goals simp [RawTCPListener.fresh]

/-- When no connection that has sent a server name is given up before its entry is taken out, each
connection that is handed on goes to the location of its own server name, and the table stays as
small as the number of connections in progress. -/
theorem listener_isolated (site : Site) (limit : ℕ) {visited : List RawTCPListener}
    {events : List ListenerEvent} {s : RawTCPListener}
    (h : ((listener site).restrict Clean).Run (.fresh limit) visited events s) :
    Isolated site events s := by
  have hsane : Sane site events s := by
    refine h.invariant_events (sane_fresh site limit) fun events s l s' es hs hstep => ?_
    obtain ⟨hclean, hstep⟩ := Machine.restrict_step.mp hstep
    exact hs.step hclean (RawTCPListener.step_move hstep)
  exact ⟨hsane.own, fun sslId name hname => (hsane.table sslId name hname).2, hsane.size⟩

/-! ## Two connections -/

/-- The map of server names of the example. -/
def exampleSniMap : String := "\x7b\"tcp.test\":\"\",\"de.tcp.test\":\"de\"\x7d"

/-- A site with a default name and a name for one location. -/
def portalSite : Site where
  rt := .sample
  environ name :=
    if name = "VLESS_TCP_SNI_MAP" then exampleSniMap
    else if name = "VLESS_TCP_DEFAULT_SNI" then "tcp.test"
    else if name = "VLESS_TCP_URI_NETWORK" then "tcp"
    else if name = "RAILWAY_TCP_PROXY_DOMAIN" then "relay.test"
    else if name = "VLESS_TCP_TLS_CERT_FILE" ∨ name = "VLESS_TCP_TLS_KEY_FILE" then "file"
    else "443"
  isFile _ := true
  secret := "secret"
  listenerRunning := true
  listenerError := ""

/-- A client that names a location and one that names none. -/
theorem listener_isolated_two : ∃ visited events s,
    ((listener portalSite).restrict Clean).Run (.fresh 1) visited events s ∧
      Isolated portalSite events s ∧ .tunnel 0 "de.tcp.test" "de" ∈ events ∧
      .rejected 1 ∈ events := by
  have hends : ∃ visited events s,
      ((listener portalSite).restrict Clean).Run (.fresh 1) visited events s ∧
      (.tunnel 0 "de.tcp.test" "de" ∈ events ∧ .rejected 1 ∈ events) :=
    Machine.exists_run
      [.accept 7, .hello 0 (some "de.tcp.test"), .established 0, .admitted 0, .cancelled 0, .freed 0,
        .accept 7, .hello 1 none, .established 1, .admitted 1] (by decide +kernel)
  obtain ⟨_, _, _, hrun, htunnel, hrejected⟩ := hends
  exact ⟨_, _, _, hrun, listener_isolated portalSite 1 hrun, htunnel, hrejected⟩

/-- The first client goes away during its handshake, and the second one, which has sent no server
name, gets its location. -/
theorem listener_stale_name : ∃ visited events s,
    (listener portalSite).Run (.fresh 1) visited events s ∧ .hello 1 none ∈ events ∧
      .tunnel 1 "de.tcp.test" "de" ∈ events ∧ ¬ Isolated portalSite events s := by
  have hends : ∃ visited events s, (listener portalSite).Run (.fresh 1) visited events s ∧
      (.hello 1 none ∈ events ∧ .tunnel 1 "de.tcp.test" "de" ∈ events) :=
    Machine.exists_run
      [.accept 7, .hello 0 (some "de.tcp.test"), .handshakeFailed 0, .accept 7, .hello 1 none,
        .established 1, .admitted 1] (by decide +kernel)
  obtain ⟨_, _, _, hrun, hhello, htunnel⟩ := hends
  refine ⟨_, _, _, hrun, hhello, htunnel, fun hisolated => ?_⟩
  have hsent := (hisolated.own 1 _ _ htunnel).2.2 none
  cases hsent.mp hhello

end Routing
