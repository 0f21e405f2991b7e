import LumenRelay.Routing.Transparency

/-!
# The first packet enters one tunnel

An `https` endpoint is tried with TLS to the proxy and without.  An attempt that fails is followed
by the other one, whatever it failed at; if it had its tunnel and had written the first packet, a
second tunnel gets the packet too.
-/

namespace Routing.Tunnel

open Lib Py

/-! ## The law -/

/-- The first packet is written. -/
def Event.isForward : Event → Bool
  | .forward _ => true
  | _ => false

/-- The first packet is written into one tunnel at most; and if the session goes through a proxy,
into the one that was opened last, at the end of its handshake. -/
structure OneTunnel (packet : List UInt8) (log : List Event) (proxied : Prop) : Prop where
  atMost : log.countP Event.isForward ≤ 1
  returned : proxied → ∃ before host port handshake,
    log = before ++ .dial host port :: (handshake ++ forwarded packet) ∧
      (∀ e ∈ before, e.isForward = false) ∧ ∀ e ∈ handshake, e.InHandshake

/-- A connector that has not done anything, and the connections that it will have. -/
def Link.start (peers : List Peer) : Link :=
  ⟨peers, [], ⟨[], []⟩, .failed (.osError "timed out"), []⟩

/-- The proxy grants a tunnel, and nothing goes wrong before it has. -/
def Peer.Accepts (peer : Peer) (tlsToProxy : Bool) : Prop :=
  peer.refuses = none ∧ (∀ fault ∈ peer.faults.take (httpAwaits tlsToProxy), fault = none) ∧
    ∃ header rest, ConnectHeader header ∧ peer.segments.flatten = header ++ rest

/-- The proxy grants a tunnel, and the connection fails when the packet has been written into it. -/
def Peer.Loses (peer : Peer) (tlsToProxy : Bool) : Prop :=
  peer.Accepts tlsToProxy ∧
    ∃ e, peer.faults[httpAwaits tlsToProxy]? = some (some (.failed e))

/-- Two tunnels get the packet: the first attempt of an `https` endpoint loses the tunnel that it
has written it into, and the second one is granted a tunnel. -/
def SentTwice (rt : Runtime) (endpoint : String) (packet : List UInt8) (peers : List Peer) : Prop :=
  packet ≠ [] ∧ ∃ params first second rest, parseProxyUrl rt endpoint = .ok params ∧
    params.scheme = "https" ∧ peers = first :: second :: rest ∧
    first.Loses (!isIp rt (params.hostname.getD "")) ∧
    second.Accepts (isIp rt (params.hostname.getD ""))

/-! ## One attempt -/

section Attempts

variable {α β : Type}

/-- A computation does nothing but what belongs to a handshake, however it ends. -/
def Quiet (x : Linked α) : Prop :=
  ∀ l r l', x l = (r, l') → l'.peers = l.peers ∧
    ∃ es, l'.log = l.log ++ es ∧ ∀ e ∈ es, e.InHandshake

lemma quiet_of_same {x : Linked α}
    (h : ∀ l r l', x l = (r, l') → l'.peers = l.peers ∧ l'.log = l.log) : Quiet x := by
  intro l r l' hrun
  obtain ⟨hpeers, hlog⟩ := h l r l' hrun
  exact ⟨hpeers, [], by rw [hlog, List.append_nil], nofun⟩

lemma quiet_pure (a : α) : Quiet (pure a) := quiet_of_same fun l r l' hrun => by
  cases hrun
  exact ⟨rfl, rfl⟩

lemma quiet_raise (e : NetErr) : Quiet (Effect.raise e : Linked α) := quiet_of_same fun l r l' hrun => by
  cases hrun
  exact ⟨rfl, rfl⟩

lemma Quiet.bind {x : Linked α} {f : α → Linked β} (hx : Quiet x) (hf : ∀ a, Quiet (f a)) :
    Quiet (x >>= f) := by
  intro l r l' hrun
  rcases Effect.bind_cases hrun with ⟨a, l₁, hxrun, hfrun⟩ | ⟨e, hxrun, rfl⟩
  · obtain ⟨hpeers, es, hlog, hes⟩ := hx l _ l₁ hxrun
    obtain ⟨hpeers', es', hlog', hes'⟩ := hf a l₁ r l' hfrun
    exact ⟨hpeers'.trans hpeers, es ++ es', by rw [hlog', hlog, List.append_assoc],
      List.forall_mem_append.mpr ⟨hes, hes'⟩⟩
  · exact hx l _ l' hxrun

lemma quiet_ite {c : Prop} [Decidable c] {x y : Linked α} (hx : Quiet x) (hy : Quiet y) :
    Quiet (if c then x else y) := by
  split
  · exact hx
  · exact hy

lemma quiet_failIf (c : Prop) [Decidable c] (e : PyErr) : Quiet (failIf c e) :=
  quiet_ite (quiet_raise _) (quiet_pure ())

lemma quiet_ofExcept (r : Except PyErr α) : Quiet (ofExcept r) := by
  cases r with
  | ok a => exact quiet_pure a
  | error e => exact quiet_raise _

lemma quiet_suspend : Quiet suspend := by
  refine quiet_of_same fun l r l' hrun => ?_
  unfold suspend at hrun
  split at hrun <;> cases hrun <;> exact ⟨rfl, rfl⟩

lemma quiet_emit {e : Event} (h : e.InHandshake) : Quiet (emit e) := by
  intro l r l' hrun
  cases hrun
  exact ⟨rfl, [e], rfl, List.forall_mem_singleton.mpr h⟩

lemma quiet_write (bytes : List UInt8) : Quiet (write bytes) :=
  (quiet_emit (e := .send bytes) trivial).bind fun _ => quiet_suspend

lemma quiet_take (found : Link → Except Unread (List UInt8 × Inbox UInt8)) :
    Quiet (suspend >>= fun _ => (Effect.read : Linked Link) >>= fun l => take (found l)) := by
  refine quiet_suspend.bind fun _ => ?_
  intro l r l' hrun
  rw [Effect.read_bind_run] at hrun
  unfold take at hrun
  split at hrun
  · cases hrun
    exact ⟨rfl, [], (List.append_nil _).symm, nofun⟩
  · cases hrun
    exact ⟨rfl, [], (List.append_nil _).symm, nofun⟩
  · rename_i bytes inbox hfound
    cases hrun
    exact ⟨rfl, [.read bytes], rfl, List.forall_mem_singleton.mpr trivial⟩

lemma quiet_readExactly (n : ℕ) : Quiet (readExactly n) := quiet_take _

variable {params : ProxyParams}

lemma quiet_readSocksReply : Quiet readSocksReply := by
  refine (quiet_readExactly 4).bind fun head => ?_
  split
  · refine (quiet_failIf _ _).bind fun _ => quiet_ite ?_ (quiet_ite ?_ (quiet_ite ?_ (quiet_raise _)))
    · exact (quiet_readExactly 6).bind fun _ => quiet_pure ()
    · exact (quiet_readExactly 18).bind fun _ => quiet_pure ()
    · exact (quiet_readExactly 1).bind fun _ => (quiet_readExactly _).bind fun _ => quiet_pure ()
  · exact quiet_raise _

lemma quiet_socksAuthenticate (hasAuth : Bool) (method : UInt8) :
    Quiet (socksAuthenticate params hasAuth method) := by
  refine quiet_ite ?_ (quiet_failIf _ _)
  refine (quiet_failIf _ _).bind fun _ => (quiet_failIf _ _).bind fun _ => ?_
  exact (quiet_write _).bind fun _ => (quiet_readExactly 2).bind fun _ => quiet_failIf _ _

variable {rt : Runtime} {target : String} {port : ℤ}

lemma quiet_socksHandshake : Quiet (socksHandshake rt target port params) := by
  refine (quiet_write _).bind fun _ => (quiet_readExactly 2).bind fun greeting => ?_
  split
  · refine (quiet_failIf _ _).bind fun _ => (quiet_socksAuthenticate _ _).bind fun _ => ?_
    exact (quiet_ofExcept _).bind fun _ => (quiet_write _).bind fun _ => quiet_readSocksReply
  · exact quiet_raise _

lemma quiet_httpHandshake (tlsToProxy : Bool) :
    Quiet (httpHandshake rt target port params tlsToProxy) := by
  have htls : Quiet (startTls rt params) :=
    (quiet_emit (e := .startTls _) trivial).bind fun _ => quiet_suspend
  refine (quiet_ite htls (quiet_pure ())).bind fun _ => (quiet_write _).bind fun _ => ?_
  refine Quiet.bind (quiet_take _) fun header => ?_
  exact (quiet_failIf _ _).bind fun _ => quiet_failIf _ _

/-- A computation that returns has passed a number of awaits. -/
def Awaits (x : Linked α) (awaits : ℕ) : Prop :=
  ∀ l a l', x l = (.ok a, l') →
    (∀ fault ∈ l.faults.take awaits, fault = none) ∧ l'.faults = l.faults.drop awaits

lemma awaits_pure (a : α) : Awaits (pure a) 0 := by
  intro l b l' hrun
  cases hrun
  exact ⟨nofun, rfl⟩

lemma Awaits.bind {x : Linked α} {f : α → Linked β} {k k' : ℕ} (hx : Awaits x k)
    (hf : ∀ a, Awaits (f a) k') : Awaits (x >>= f) (k + k') := by
  intro l b l' hrun
  obtain ⟨a, l₁, hxrun, hfrun⟩ := Effect.bind_eq_ok hrun
  obtain ⟨hnone, hfaults⟩ := hx l a l₁ hxrun
  obtain ⟨hnone', hfaults'⟩ := hf a l₁ b l' hfrun
  rw [hfaults] at hnone' hfaults'
  refine ⟨?_, by rw [hfaults', List.drop_drop]⟩
  rw [List.take_add]
  exact List.forall_mem_append.mpr ⟨hnone, hnone'⟩

lemma awaits_failIf (c : Prop) [Decidable c] (e : PyErr) : Awaits (failIf c e) 0 := by
  unfold failIf
  split
  · intro l a l' hrun
    cases hrun
  · exact awaits_pure ()

lemma awaits_suspend : Awaits suspend 1 := by
  intro l u l' hrun
  unfold suspend at hrun
  split at hrun
  · rename_i hfaults
    cases hrun
    simp [hfaults]
  · rename_i faults hfaults
    cases hrun
    simp [hfaults]
  · cases hrun

/-- Doing something, and then awaiting it. -/
lemma awaits_emit (e : Event) : Awaits (emit e >>= fun _ => suspend) 1 := by
  intro l u l' hrun
  exact awaits_suspend { l with log := l.log ++ [e] } u l' hrun

lemma awaits_take (found : Link → Except Unread (List UInt8 × Inbox UInt8)) :
    Awaits (suspend >>= fun _ => (Effect.read : Linked Link) >>= fun l => take (found l)) 1 := by
  show Awaits _ (1 + 0)
  refine awaits_suspend.bind fun _ => ?_
  intro l bytes l' hrun
  rw [Effect.read_bind_run] at hrun
  unfold take at hrun
  split at hrun
  · cases hrun
  · cases hrun
  · cases hrun
    exact ⟨nofun, rfl⟩

lemma awaits_httpHandshake (tlsToProxy : Bool) :
    Awaits (httpHandshake rt target port params tlsToProxy) (httpAwaits tlsToProxy) := by
  have htls : Awaits (if tlsToProxy then startTls rt params else pure ())
      (if tlsToProxy then 1 else 0) := by
    split
    · exact awaits_emit _
    · exact awaits_pure ()
  have hall : Awaits (httpHandshake rt target port params tlsToProxy)
      ((if tlsToProxy then 1 else 0) + (1 + (1 + (0 + 0)))) :=
    htls.bind fun _ => (awaits_emit _).bind fun _ => (awaits_take _).bind fun _ =>
      (awaits_failIf _ _).bind fun _ => awaits_failIf _ _
  simpa [httpAwaits] using hall

/-- A handshake through HTTP returns from a connection exactly when the proxy accepts. -/
lemma httpHandshake_returns_iff {l : Link} {peer : Peer} {peers : List Peer} {tlsToProxy : Bool}
    (hrefuses : peer.refuses = none) :
    (∃ l', httpHandshake rt target port params tlsToProxy
        (l.dialled peer peers params.hostname params.port) = (.ok (), l')) ↔
      peer.Accepts tlsToProxy := by
  constructor
  · rintro ⟨l', hrun⟩
    obtain ⟨hnone, -⟩ := awaits_httpHandshake tlsToProxy _ () l' hrun
    obtain ⟨es, -, hstream, -, hheader⟩ := yields_httpHandshake tlsToProxy _ () l' hrun
    exact ⟨hrefuses, hnone, _, _, hheader, hstream⟩
  · rintro ⟨-, hnone, header, rest, hheader, hstream⟩
    obtain ⟨l', hrun, -⟩ := consumesIn_httpHandshake hheader tlsToProxy
      (l.dialled peer peers params.hostname params.port) rest hnone hstream
    exact ⟨l', hrun⟩

end Attempts

/-! ## What an attempt comes to -/

section Tried

variable {x : Linked Unit} {packet : List UInt8} {l l' : Link} {r : Except NetErr Unit}

/-- How an attempt ends: before the packet is written; or with the packet written and the
connection returned; or with the packet written and the connection closed.  The link `granted`
is what the handshake left when it returned. -/
inductive Tried (x : Linked Unit) (packet : List UInt8) (host : Option String) (port : Option ℤ)
    (l : Link) : Except NetErr Unit → Link → Prop
  | early (e : NetErr) (es : List Event) (l' : Link) (hpeers : l'.peers = l.peers.tail)
      (hlog : l'.log = l.log ++ es) (hes : ∀ event ∈ es, event.isForward = false)
      (hnot : ∀ peer peers granted, l.peers = peer :: peers → peer.refuses = none →
        x (l.dialled peer peers host port) ≠ (.ok (), granted)) :
      Tried x packet host port l (.error e) l'
  | returned (peer : Peer) (peers : List Peer) (granted l' : Link) (handshake : List Event)
      (hpeers : l.peers = peer :: peers) (hrefuses : peer.refuses = none)
      (hgranted : x (l.dialled peer peers host port) = (.ok (), granted))
      (hrest : l'.peers = peers)
      (hlog : l'.log = l.log ++ .dial host port :: (handshake ++ forwarded packet))
      (hhandshake : ∀ event ∈ handshake, event.InHandshake)
      (hfault : packet ≠ [] → ∀ e, granted.faults.head? ≠ some (some e)) :
      Tried x packet host port l (.ok ()) l'
  | lost (peer : Peer) (peers : List Peer) (granted l' : Link) (handshake : List Event) (e : NetErr)
      (hpeers : l.peers = peer :: peers) (hrefuses : peer.refuses = none)
      (hgranted : x (l.dialled peer peers host port) = (.ok (), granted))
      (hrest : l'.peers = peers)
      (hlog : l'.log = l.log ++ .dial host port :: (handshake ++ [.forward packet, .close]))
      (hhandshake : ∀ event ∈ handshake, event.InHandshake) (hne : packet ≠ [])
      (hfault : granted.faults.head? = some (some e)) :
      Tried x packet host port l (.error e) l'

lemma isForward_of_inHandshake {e : Event} (h : e.InHandshake) : e.isForward = false := by
  cases e <;> first | rfl | cases h

/-- Writing the packet after a handshake. -/
lemma writeFirst_run (packet : List UInt8) (l : Link) :
    (∃ l', writeFirst packet l = (.ok (), l') ∧ l'.peers = l.peers ∧
      l'.log = l.log ++ forwarded packet ∧ (packet ≠ [] → ∀ e, l.faults.head? ≠ some (some e))) ∨
    ∃ e l', writeFirst packet l = (.error e, l') ∧ l'.peers = l.peers ∧ packet ≠ [] ∧
      l'.log = l.log ++ [.forward packet] ∧ l.faults.head? = some (some e) := by
  unfold writeFirst forwarded
  by_cases hnil : packet = []
  · rw [if_neg (not_not.mpr hnil), if_pos hnil]
    exact .inl ⟨l, rfl, rfl, (List.append_nil _).symm, fun h => absurd hnil h⟩
  · rw [if_pos hnil, if_neg hnil]
    have hemit : emit (.forward packet) l = (.ok (), { l with log := l.log ++ [.forward packet] }) := rfl
    rw [Effect.bind_run_ok hemit]
    unfold suspend
    split
    · rename_i hfaults
      exact .inl ⟨_, rfl, rfl, rfl, fun _ e => by rw [show l.faults = [] from hfaults]; nofun⟩
    · rename_i faults hfaults
      exact .inl ⟨_, rfl, rfl, rfl, fun _ e => by
        rw [show l.faults = none :: faults from hfaults]; nofun⟩
    · rename_i e faults hfaults
      exact .inr ⟨e, _, rfl, rfl, hnil, rfl, by rw [show l.faults = some e :: faults from hfaults]; rfl⟩

/-- Every attempt with a quiet handshake ends in one of these ways. -/
lemma tried (hx : Quiet x) {host : Option String} {port : Option ℤ}
    (hrun : (dial host port >>= fun _ => closing (x >>= fun _ => writeFirst packet)) l = (r, l')) :
    Tried x packet host port l r l' := by
  have hemit : emit (.dial host port) l =
      (.ok (), { l with log := l.log ++ [.dial host port] }) := rfl
  have hdialled : ∀ e ∈ [Event.dial host port], e.isForward = false := by simp [Event.isForward]
  cases hpeers : l.peers with
  | nil =>
    rw [dial, Effect.bind_assoc, Effect.bind_run_ok hemit, Effect.bind_run, connect, hpeers] at hrun
    cases hrun
    exact .early _ [.dial host port] _ (by simp [hpeers]) rfl hdialled
      (by simp [hpeers])
  | cons peer peers =>
    cases hrefuses : peer.refuses with
    | some e =>
      have hdial : dial host port l =
          (.error e, { l with log := l.log ++ [.dial host port], peers := peers }) := by
        rw [dial, Effect.bind_run_ok hemit]
        simp only [connect, hpeers, hrefuses]
      rw [Effect.bind_run_error hdial] at hrun
      cases hrun
      refine .early e [.dial host port] _ (by rw [hpeers]; rfl) rfl hdialled ?_
      rintro peer' peers' granted hsame hnone
      rw [hpeers] at hsame
      cases hsame
      rw [hrefuses] at hnone
      cases hnone
    | none =>
      rw [Effect.bind_run_ok (dial_run hpeers hrefuses host port)] at hrun
      rcases hxrun : x (l.dialled peer peers host port) with ⟨rx, l₂⟩
      obtain ⟨hpeers₂, es, hlog₂, hes⟩ := hx _ rx l₂ hxrun
      have hquiet : ∀ e ∈ es, e.isForward = false := fun e he => isForward_of_inHandshake (hes e he)
      unfold closing Effect.handle at hrun
      cases rx with
      | error e =>
        rw [Effect.bind_run_error hxrun] at hrun
        cases hrun
        refine .early e (.dial host port :: (es ++ [.close])) _ ?_ ?_ ?_ ?_
        · rw [hpeers]
          exact hpeers₂
        · show l₂.log ++ [.close] = _
          rw [hlog₂, Link.dialled]
          simp
        · simp only [List.forall_mem_cons, List.forall_mem_append]
          exact ⟨rfl, hquiet, rfl, List.forall_mem_nil _⟩
        · rintro peer' peers' granted hsame -
          rw [hpeers] at hsame
          cases hsame
          rw [hxrun]
          rintro ⟨⟩
      | ok u =>
        rw [Effect.bind_run_ok hxrun] at hrun
        rcases writeFirst_run packet l₂ with ⟨l₃, hwrite, hpeers₃, hlog₃, hfault⟩ |
          ⟨e, l₃, hwrite, hpeers₃, hne, hlog₃, hfault⟩
        · rw [hwrite] at hrun
          cases hrun
          refine .returned peer peers l₂ _ es hpeers hrefuses hxrun (hpeers₃.trans hpeers₂) ?_ hes hfault
          rw [hlog₃, hlog₂, Link.dialled]
          simp
        · rw [hwrite] at hrun
          cases hrun
          refine .lost peer peers l₂ _ es e hpeers hrefuses hxrun (hpeers₃.trans hpeers₂) ?_ hes hne
            hfault
          show l₃.log ++ [.close] = _
          rw [hlog₃, hlog₂, Link.dialled]
          simp

lemma countP_forwarded (packet : List UInt8) :
    (forwarded packet).countP Event.isForward = if packet = [] then 0 else 1 := by
  unfold forwarded
  split <;> rfl

lemma countP_eq_zero {es : List Event} (h : ∀ e ∈ es, e.isForward = false) :
    es.countP Event.isForward = 0 :=
  List.countP_eq_zero.mpr fun e he => by simp [h e he]

lemma countP_inHandshake {es : List Event} (h : ∀ e ∈ es, e.InHandshake) :
    es.countP Event.isForward = 0 :=
  countP_eq_zero fun e he => isForward_of_inHandshake (h e he)

variable {host : Option String} {port : Option ℤ}

/-- One attempt after others that have not written the packet keeps the law. -/
lemma Tried.oneTunnel (h : Tried x packet host port l r l')
    (hlog : ∀ e ∈ l.log, e.isForward = false) : OneTunnel packet l'.log (r = .ok ()) := by
  have hzero := countP_eq_zero hlog
  cases h with
  | early e es l' hpeers hlog' hes hnot =>
    refine ⟨?_, nofun⟩
    rw [hlog', List.countP_append, hzero, countP_eq_zero hes]
    exact Nat.zero_le 1
  | returned peer peers granted l' handshake hpeers hrefuses hgranted hrest hlog' hhandshake hfault =>
    refine ⟨?_, fun _ => ⟨l.log, host, port, handshake, hlog', hlog, hhandshake⟩⟩
    rw [hlog', List.countP_append, hzero, List.countP_cons_of_neg (by simp [Event.isForward]),
      List.countP_append, countP_inHandshake hhandshake, countP_forwarded]
    split <;> decide
  | lost peer peers granted l' handshake e hpeers hrefuses hgranted hrest hlog' hhandshake hne hfault =>
    refine ⟨?_, nofun⟩
    rw [hlog', List.countP_append, hzero, List.countP_cons_of_neg (by simp [Event.isForward]),
      List.countP_append, countP_inHandshake hhandshake]
    exact Nat.le_refl 1

end Tried

/-! ## The attempts of a call -/

section Calls

variable {rt : Runtime} {target : String} {port : ℤ} {packet : List UInt8} {params : ProxyParams}
  {l l' : Link} {r : Except NetErr Unit} {tls tls' : Bool} {last : PyErr}

/-- An attempt through HTTP. -/
abbrev HttpTried (rt : Runtime) (target : String) (port : ℤ) (packet : List UInt8)
    (params : ProxyParams) (tls : Bool) : Link → Except NetErr Unit → Link → Prop :=
  Tried (httpHandshake rt target port params tls) packet params.hostname params.port

lemma httpOnce_tried (h : httpOnce rt target port packet params tls l = (r, l')) :
    HttpTried rt target port packet params tls l r l' :=
  tried (quiet_httpHandshake tls) h

/-- The last attempt. -/
lemma httpAttempts_last (h : httpAttempts rt target port packet params [tls] last l = (r, l')) :
    ∃ r₀, HttpTried rt target port packet params tls l r₀ l' ∧ (r = .ok () ↔ r₀ = .ok ()) := by
  rw [httpAttempts] at h
  rcases Effect.handle_cases h with ⟨a, hrun, rfl⟩ | ⟨e, l₁, hrun, h⟩
  · exact ⟨_, httpOnce_tried hrun, Iff.rfl⟩
  · have htried := httpOnce_tried hrun
    cases e <;> cases h
    · exact ⟨_, htried, by simp⟩
    · exact ⟨_, htried, Iff.rfl⟩

/-- The first of two attempts is the last one, unless it fails; then the other one follows. -/
lemma httpAttempts_two
    (h : httpAttempts rt target port packet params [tls, tls'] last l = (r, l')) :
    HttpTried rt target port packet params tls l r l' ∧ (∀ e, r ≠ .error (.failed e)) ∨
      ∃ e l₁ r₀, HttpTried rt target port packet params tls l (.error (.failed e)) l₁ ∧
        HttpTried rt target port packet params tls' l₁ r₀ l' ∧ (r = .ok () ↔ r₀ = .ok ()) := by
  rw [httpAttempts] at h
  rcases Effect.handle_cases h with ⟨a, hrun, rfl⟩ | ⟨e, l₁, hrun, h⟩
  · exact .inl ⟨httpOnce_tried hrun, nofun⟩
  · have htried := httpOnce_tried hrun
    cases e with
    | failed e =>
      obtain ⟨r₀, hlast, hiff⟩ := httpAttempts_last h
      exact .inr ⟨e, l₁, r₀, htried, hlast, hiff⟩
    | cancelled =>
      cases h
      exact .inl ⟨htried, nofun⟩

/-- A proxy that has granted a tunnel accepts, and what comes next is what it meets with next. -/
lemma accepts_of_granted {peer : Peer} {peers : List Peer} {granted : Link}
    (hrefuses : peer.refuses = none)
    (h : httpHandshake rt target port params tls
      (l.dialled peer peers params.hostname params.port) = (.ok (), granted)) :
    peer.Accepts tls ∧ granted.faults.head? = peer.faults[httpAwaits tls]? := by
  refine ⟨(httpHandshake_returns_iff hrefuses).mp ⟨granted, h⟩, ?_⟩
  rw [(awaits_httpHandshake tls _ () granted h).2, List.head?_drop]
  rfl

/-- An attempt writes the packet exactly when the proxy accepts; then it fails exactly when the
proxy loses the connection. -/
lemma Tried.forwards (h : HttpTried rt target port packet params tls l r l') :
    (l'.log.countP Event.isForward = l.log.countP Event.isForward ∧ (r = .ok () → packet = []) ∧
      ¬ (packet ≠ [] ∧ ∃ peer peers, l.peers = peer :: peers ∧ peer.Accepts tls)) ∨
    (l'.log.countP Event.isForward = l.log.countP Event.isForward + 1 ∧ packet ≠ [] ∧
      ∃ peer peers, l.peers = peer :: peers ∧ l'.peers = peers ∧ peer.Accepts tls ∧
        ((∃ e, r = .error (.failed e)) ↔ peer.Loses tls)) := by
  cases h with
  | early e es l' hpeers hlog hes hnot =>
    refine .inl ⟨by rw [hlog, List.countP_append, countP_eq_zero hes, Nat.add_zero], nofun, ?_⟩
    rintro ⟨-, peer, peers, hsame, haccepts⟩
    obtain ⟨granted, hgranted⟩ := (httpHandshake_returns_iff haccepts.1).mpr haccepts
    exact hnot peer peers granted hsame haccepts.1 hgranted
  | returned peer peers granted l' handshake hpeers hrefuses hgranted hrest hlog hhandshake hfault =>
    obtain ⟨haccepts, hnext⟩ := accepts_of_granted hrefuses hgranted
    have hcount : l'.log.countP Event.isForward =
        l.log.countP Event.isForward + if packet = [] then 0 else 1 := by
      rw [hlog, List.countP_append, List.countP_cons_of_neg (by simp [Event.isForward]),
        List.countP_append, countP_inHandshake hhandshake, countP_forwarded, Nat.zero_add]
    by_cases hnil : packet = []
    · rw [if_pos hnil] at hcount
      exact .inl ⟨hcount, fun _ => hnil, fun h => h.1 hnil⟩
    · rw [if_neg hnil] at hcount
      refine .inr ⟨hcount, hnil, peer, peers, hpeers, hrest, haccepts, ?_⟩
      refine iff_of_false (by simp) ?_
      rintro ⟨-, e, he⟩
      exact hfault hnil (.failed e) (hnext.trans he)
  | lost peer peers granted l' handshake e hpeers hrefuses hgranted hrest hlog hhandshake hne hfault =>
    obtain ⟨haccepts, hnext⟩ := accepts_of_granted hrefuses hgranted
    refine .inr ⟨?_, hne, peer, peers, hpeers, hrest, haccepts, ?_⟩
    · rw [hlog, List.countP_append, List.countP_cons_of_neg (by simp [Event.isForward]),
        List.countP_append, countP_inHandshake hhandshake, Nat.zero_add]
      rfl
    · rw [hnext] at hfault
      simp [Peer.Loses, haccepts, hfault]

/-- With two attempts, the law holds unless the first one loses its tunnel and the second one is
granted another. -/
lemma oneTunnel_two_iff {peers : List Peer}
    (h : httpAttempts rt target port packet params [tls, tls'] last (.start peers) = (r, l')) :
    OneTunnel packet l'.log (r = .ok ()) ↔
      ¬ (packet ≠ [] ∧ ∃ first second rest, peers = first :: second :: rest ∧
        first.Loses tls ∧ second.Accepts tls') := by
  have hstart : ∀ e ∈ (Link.start peers).log, e.isForward = false := nofun
  rcases httpAttempts_two h with ⟨hfirst, hlast⟩ | ⟨e, l₁, r₀, hfirst, hsecond, hiff⟩
  · refine iff_of_true (hfirst.oneTunnel hstart) ?_
    rintro ⟨hne, first, second, rest, rfl, hloses, -⟩
    rcases hfirst.forwards with ⟨-, -, hnot⟩ | ⟨-, -, peer, peers, hsame, -, -, hfails⟩
    · exact hnot ⟨hne, first, second :: rest, rfl, hloses.1⟩
    · cases hsame
      obtain ⟨e, he⟩ := hfails.mpr hloses
      exact hlast e he
  · rcases hfirst.forwards with ⟨hcount, -, hnot⟩ | ⟨hcount, hne, first, others, hsame, hrest, -, hfails⟩
    · -- the first attempt has not written the packet
      have hnone : ∀ e ∈ l₁.log, e.isForward = false := fun e he =>
        Bool.eq_false_iff.mpr (List.countP_eq_zero.mp hcount e he)
      rw [hiff]
      refine iff_of_true (hsecond.oneTunnel hnone) ?_
      rintro ⟨hne, first, second, rest, rfl, hloses, -⟩
      exact hnot ⟨hne, first, second :: rest, rfl, hloses.1⟩
    · -- the first attempt has lost its tunnel
      have hloses : first.Loses tls := hfails.mp ⟨e, rfl⟩
      have hone : l₁.log.countP Event.isForward = 1 := hcount
      rcases hsecond.forwards with ⟨hcount', hnil, hnot⟩ | ⟨hcount', -, second, rest, hsame', -, haccepts, -⟩
      · refine iff_of_true ⟨by rw [hcount', hone], fun hr => absurd (hnil (hiff.mp hr)) hne⟩ ?_
        rintro ⟨-, first', second, rest, rfl, -, haccepts⟩
        cases hsame
        exact hnot ⟨hne, second, rest, hrest, haccepts⟩
      · refine iff_of_false (fun hlaw => ?_) fun hnot => hnot ?_
        · have hmost := hlaw.atMost
          rw [hcount', hone] at hmost
          exact absurd hmost (by decide)
        · refine ⟨hne, first, second, rest, ?_, hloses, haccepts⟩
          rw [← hsame', hrest]
          exact hsame

/-- One attempt keeps the law. -/
lemma oneTunnel_last {peers : List Peer}
    (h : httpAttempts rt target port packet params [tls] last (.start peers) = (r, l')) :
    OneTunnel packet l'.log (r = .ok ()) := by
  obtain ⟨r₀, htried, hiff⟩ := httpAttempts_last h
  rw [hiff]
  exact htried.oneTunnel nofun

/-- Through one proxy, the law holds unless the packet is sent twice. -/
lemma oneTunnel_openVia_iff {endpoint : String} {peers : List Peer}
    (h : openVia rt endpoint target port packet (.start peers) = (r, l')) :
    OneTunnel packet l'.log (r = .ok ()) ↔ ¬ SentTwice rt endpoint packet peers := by
  cases hparse : parseProxyUrl rt endpoint with
  | error e =>
    rw [openVia, hparse] at h
    cases h
    refine iff_of_true ⟨Nat.zero_le 1, nofun⟩ ?_
    rintro ⟨-, params, first, second, rest, hok, -⟩
    rw [hparse] at hok
    cases hok
  | ok params =>
    have hother : params.scheme ≠ "https" → ¬ SentTwice rt endpoint packet peers := by
      rintro hscheme ⟨-, params', first, second, rest, hok, hhttps, -⟩
      rw [hparse] at hok
      cases hok
      exact hscheme hhttps
    have hgiven : (ofExcept (parseProxyUrl rt endpoint) : Linked ProxyParams) (.start peers) =
        (.ok params, .start peers) := by rw [hparse]; rfl
    rw [openVia, Effect.bind_run_ok hgiven] at h
    by_cases hsocks : params.scheme = "socks5"
    · rw [if_pos hsocks] at h
      exact iff_of_true ((tried quiet_socksHandshake h).oneTunnel nofun)
        (hother (by rw [hsocks]; decide))
    rw [if_neg hsocks, httpConnect] at h
    by_cases hhttps : params.scheme = "https"
    · -- both transports, in the order that suits the host
      have hsent : SentTwice rt endpoint packet peers ↔ packet ≠ [] ∧ ∃ first second rest,
          peers = first :: second :: rest ∧ first.Loses (!isIp rt (params.hostname.getD "")) ∧
            second.Accepts (isIp rt (params.hostname.getD "")) := by
        simp [SentTwice, hparse, hhttps]
      rw [hsent]
      rw [if_pos hhttps] at h
      cases hip : isIp rt (params.hostname.getD "") <;> rw [hip] at h <;>
        exact oneTunnel_two_iff h
    · rw [if_neg hhttps] at h
      exact iff_of_true (oneTunnel_last h) (hother hhttps)

end Calls

/-! ## The first packet of a call -/

/-- The addresses of the proxies of a call: the ones that it is given, or the one of its link. -/
def chosenEndpoints (server : Server) (link : Option Obj) (endpoints : Option (List String)) :
    Except PyErr (List String) := do
  let endpoints ← match endpoints with
    | some endpoints => pure endpoints
    | none => do pure (← endpointFromLink server link).toList
  return (endpoints.filter (· ≠ "")).dedup

/-- What a call does with these addresses. -/
def openChosen (server : Server) (address : String) (port : ℤ) (packet : List UInt8)
    (link : Option Obj) (proxyId : String) : List String → Linked Bool
  | [] => do
    failIf (linkUsesProxy server.site.rt link = true)
      (.proxyUnavailable "configured proxy did not resolve")
    dial (some address) (some port)
    pure false
  | [endpoint] =>
    (do openVia server.site.rt endpoint address port packet; pure true).handle fun e =>
      match e with
      | .cancelled => Effect.raise .cancelled
      | .failed _ =>
        let name := sliceTo 32 (if proxyId ≠ "" then proxyId else "unknown")
        fail (.osError ("selected proxy " ++ name ++ " failed closed"))
  | _ => fail (.proxyUnavailable "explicit routing accepts exactly one proxy endpoint")

section Call

variable {server : Server} {address : String} {port : ℤ} {packet : List UInt8} {link : Option Obj}
  {endpoints : Option (List String)} {proxyId : String}

lemma openOutbound_eq : openOutbound server address port packet link endpoints proxyId =
    (ofExcept (chosenEndpoints server link endpoints) >>=
      openChosen server address port packet link proxyId) := by
  unfold openOutbound chosenEndpoints
  cases endpoints with
  | some endpoints => rfl
  | none => cases endpointFromLink server link <;> rfl

/-- The call returns a connection through a proxy exactly when the attempts do. -/
lemma openChosen_one {endpoint : String} {l l' : Link} {r : Except NetErr Bool}
    (h : openChosen server address port packet link proxyId [endpoint] l = (r, l')) :
    ∃ r₀, openVia server.site.rt endpoint address port packet l = (r₀, l') ∧
      (r = .ok true ↔ r₀ = .ok ()) := by
  rw [openChosen, Effect.handle, Effect.bind_run] at h
  rcases hrun : openVia server.site.rt endpoint address port packet l with ⟨r₀, l₁⟩
  rw [hrun] at h
  rcases r₀ with (e | _) | _ <;> cases h
  · exact ⟨_, rfl, by simp⟩
  · exact ⟨_, rfl, by simp⟩
  · exact ⟨_, rfl, by simp⟩

lemma dial_log {host : Option String} {l l' : Link} {r : Except NetErr Unit}
    (h : dial host (some port) l = (r, l')) : l'.log = l.log ++ [.dial host (some port)] := by
  rw [dial, Effect.bind_run_ok (show emit _ l = (.ok (), _) from rfl)] at h
  exact (connect_reply h).1

/-- A call goes through the proxy that it is given, or through none. -/
lemma openOutbound_run {peers : List Peer} {r : Except NetErr Bool} {l' : Link}
    (h : openOutbound server address port packet link endpoints proxyId (.start peers) = (r, l')) :
    (∃ endpoint r₀, chosenEndpoints server link endpoints = .ok [endpoint] ∧
      openVia server.site.rt endpoint address port packet (.start peers) = (r₀, l') ∧
        (r = .ok true ↔ r₀ = .ok ())) ∨
      (∀ endpoint, chosenEndpoints server link endpoints ≠ .ok [endpoint]) ∧ r ≠ .ok true ∧
        ∀ e ∈ l'.log, e.isForward = false := by
  rw [openOutbound_eq] at h
  cases hchosen : chosenEndpoints server link endpoints with
  | error e =>
    rw [hchosen] at h
    cases h
    exact .inr ⟨nofun, nofun, nofun⟩
  | ok chosen =>
    rw [hchosen] at h
    replace h : openChosen server address port packet link proxyId chosen (.start peers) = (r, l') := h
    rcases chosen with _ | ⟨endpoint, _ | ⟨other, chosen⟩⟩
    · refine .inr ⟨nofun, ?_⟩
      rw [openChosen] at h
      unfold failIf at h
      split at h
      · cases h
        exact ⟨nofun, nofun⟩
      · rcases Effect.bind_cases h with ⟨_, l₁, hpure, h⟩ | ⟨e, hpure, -⟩
        · cases hpure
          rcases Effect.bind_cases h with ⟨_, l₂, hdial, hpure⟩ | ⟨e, hdial, rfl⟩
          · cases hpure
            refine ⟨nofun, ?_⟩
            rw [dial_log hdial]
            simp [Link.start, Event.isForward]
          · refine ⟨nofun, ?_⟩
            rw [dial_log hdial]
            simp [Link.start, Event.isForward]
        · cases hpure
    · obtain ⟨r₀, hvia, hiff⟩ := openChosen_one h
      exact .inl ⟨endpoint, r₀, rfl, hvia, hiff⟩
    · cases h
      exact .inr ⟨nofun, nofun, nofun⟩

/-- Exactly when the first packet enters one tunnel: unless the call goes through an `https`
endpoint whose first attempt loses the tunnel that the packet was written into, and whose second
attempt is granted another one. -/
theorem first_packet_once_iff (server : Server) (address : String) (port : ℤ)
    (packet : List UInt8) (link : Option Obj) (endpoints : Option (List String))
    (proxyId : String) (peers : List Peer) :
    let run := openOutbound server address port packet link endpoints proxyId (.start peers)
    OneTunnel packet run.2.log (run.1 = .ok true) ↔
      ¬ ∃ endpoint, chosenEndpoints server link endpoints = .ok [endpoint] ∧
        SentTwice server.site.rt endpoint packet peers := by
  intro run
  rcases openOutbound_run (show _ = (run.1, run.2) from rfl) with
    ⟨endpoint, r₀, hchosen, hvia, hiff⟩ | ⟨hnone, hnot, hlog⟩
  · rw [hiff, oneTunnel_openVia_iff hvia, hchosen]
    simp
  · refine iff_of_true ⟨?_, fun hok => absurd hok hnot⟩ fun ⟨endpoint, hchosen, _⟩ =>
      hnone endpoint hchosen
    rw [countP_eq_zero hlog]
    exact Nat.zero_le 1

end Call

/-! ## A packet that is sent twice -/

/-- The library with one address that it can read. -/
def httpsRuntime : Runtime :=
  { Runtime.ascii with
    urlsplit := fun _ =>
      some ⟨"https", "proxy.example:443", "", "", none, none, some "proxy.example", some (some 443)⟩ }

/-- A reply that grants a tunnel. -/
def okHeader : List UInt8 := utf8Bytes "HTTP/1.1 200 OK" ++ blankLine

/-- A proxy that grants a tunnel, and whose connection does or does not survive the packet. -/
def grants (faults : List (Option NetErr)) : Peer :=
  ⟨none, faults, [okHeader], .failed (.osError "incomplete read")⟩

/-- The proxy is reached with TLS, takes the packet, and the connection times out; then it is
reached without TLS, and takes the packet again. -/
theorem first_packet_sent_twice :
    let run := openOutbound (.bare httpsRuntime) "example.org" 443 [1, 2, 3] none
      (some ["https://proxy.example:443"]) ""
      (.start [grants [none, none, none, some (.failed (.osError "timed out"))], grants []])
    ¬ OneTunnel [1, 2, 3] run.2.log (run.1 = .ok true) := by
  intro run hlaw
  have hcount : run.2.log.countP Event.isForward = 2 := by decide +kernel
  have hmost := hlaw.atMost
  rw [hcount] at hmost
  exact absurd hmost (by decide)

end Routing.Tunnel
