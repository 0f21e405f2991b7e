import LumenRelay.Lib.Inbox
import LumenRelay.Routing.Outbound

/-!
# Handshakes on a stream of bytes

In `LumenRelay.Routing.Outbound` the network answers an `await` with a whole reply.  Here a proxy
is the stream of bytes that it sends, in pieces that come whenever they come, and the connector
reads from that stream what it waits for.  Every run of this connector is one of the other.
-/

namespace Routing

open Lib Py

/-- The limit of the readers, `STREAM_LIMIT`. -/
def streamLimit : ℕ := 32 * 1024 * 1024

/-- The end of a header. -/
def blankLine : List UInt8 := [13, 10, 13, 10]

namespace Tunnel

/-! ## A proxy -/

/-- What one connection to a proxy meets with. -/
structure Peer where
  /-- How dialling fails, if it does. -/
  refuses : Option NetErr
  /-- What the awaits after it raise, in turn: a failure, the timeout, a cancellation, or nothing. -/
  faults : List (Option NetErr)
  /-- The bytes that the proxy sends, in the pieces in which they come. -/
  segments : List (List UInt8)
  /-- What a read raises that waits for more: the end of the stream, or the timeout. -/
  ending : NetErr

/-- What the connector does. -/
inductive Event
  | dial (host : Option String) (port : Option ℤ)
  | startTls (serverHostname : Option String)
  | send (bytes : List UInt8)
  | read (bytes : List UInt8)
  /-- The first packet of the client is written. -/
  | forward (packet : List UInt8)
  | close

/-- The connections to come, the connection there is, and what was done so far. -/
structure Link where
  peers : List Peer
  faults : List (Option NetErr)
  inbox : Inbox UInt8
  ending : NetErr
  log : List Event

/-- A computation that uses a connection. -/
abbrev Linked (α : Type) : Type := Effect Link NetErr α

/-! ## Operations -/

/-- Do something that is not awaited. -/
def emit (e : Event) : Linked Unit := Effect.edit fun l => { l with log := l.log ++ [e] }

/-- An await, which may raise. -/
def suspend : Linked Unit := fun l =>
  match l.faults with
  | [] => (.ok (), l)
  | none :: faults => (.ok (), { l with faults := faults })
  | some e :: faults => (.error e, { l with faults := faults })

/-- Raise an exception. -/
def fail {α : Type} (e : PyErr) : Linked α := Effect.raise (.failed e)

/-- Raise an exception if a condition holds. -/
def failIf (c : Prop) [Decidable c] (e : PyErr) : Linked Unit := if c then fail e else pure ()

/-- A value that may be an exception. -/
def ofExcept {α : Type} : Except PyErr α → Linked α
  | .ok a => pure a
  | .error e => fail e

/-- The next connection takes the place of the one there is. -/
def connect : Linked Unit := fun l =>
  match l.peers with
  | [] => (.error (.failed (.osError "timed out")), l)
  | peer :: peers =>
    match peer.refuses with
    | some e => (.error e, { l with peers := peers })
    | none =>
      (.ok (), { l with
        peers := peers, faults := peer.faults, inbox := ⟨[], peer.segments⟩, ending := peer.ending })

/-- `_dial`. -/
def dial (host : Option String) (port : Option ℤ) : Linked Unit := do
  emit (.dial host port)
  connect

/-- `writer.write` and `writer.drain`. -/
def write (bytes : List UInt8) : Linked Unit := do
  emit (.send bytes)
  suspend

/-- What was read is taken out of the reader. -/
def take (found : Except Unread (List UInt8 × Inbox UInt8)) : Linked (List UInt8) := fun l =>
  match found with
  | .error .short => (.error l.ending, l)
  | .error .overrun => (.error (.failed (.valueError "limit overrun")), l)
  | .ok (bytes, inbox) => (.ok bytes, { l with inbox := inbox, log := l.log ++ [.read bytes] })

/-- `reader.readexactly`. -/
def readExactly (n : ℕ) : Linked (List UInt8) := do
  suspend
  let l ← Effect.read
  take (l.inbox.readExactly n)

/-- `reader.readuntil`, to the end of a header. -/
def readHeader : Linked (List UInt8) := do
  suspend
  let l ← Effect.read
  take (l.inbox.readUntil blankLine streamLimit)

/-- Write the first packet of the client, if there is one. -/
def writeFirst (firstPacket : List UInt8) : Linked Unit :=
  if firstPacket ≠ [] then do
    emit (.forward firstPacket)
    suspend
  else pure ()

/-- Close the connection when the handshake on it does not succeed. -/
def closing {α : Type} (x : Linked α) : Linked α := x.handle fun e => do
  emit .close
  Effect.raise e

/-! ## The connector -/

/-- `_read_socks_reply`. -/
def readSocksReply : Linked Unit := do
  match ← readExactly 4 with
  | [version, code, _, kind] =>
    failIf (version ≠ 5 ∨ code ≠ 0) (.osError ("SOCKS5 CONNECT failed: " ++ toString code.toNat))
    if kind = 1 then
      let _ ← readExactly 6
    else if kind = 4 then
      let _ ← readExactly 18
    else if kind = 3 then
      let length ← readExactly 1
      let _ ← readExactly ((length.headD 0).toNat + 2)
    else fail (.osError "SOCKS5 invalid reply address type")
  | _ => fail (.osError "incomplete read")

/-- The authentication of a SOCKS5 handshake. -/
def socksAuthenticate (params : ProxyParams) (hasAuth : Bool) (method : UInt8) : Linked Unit := do
  if method = 2 then
    failIf (hasAuth = false) (.osError "SOCKS5 authentication required")
    let user := utf8Bytes params.username
    let secret := utf8Bytes params.password
    failIf (255 < user.length ∨ 255 < secret.length) (.valueError "SOCKS5 credentials too long")
    write (1 :: UInt8.ofNat user.length :: user ++ UInt8.ofNat secret.length :: secret)
    failIf ((← readExactly 2) ≠ [1, 0]) (.osError "SOCKS5 authentication failed")
  else failIf (method ≠ 0) (.osError "SOCKS5 authentication method rejected")

/-- The handshake of `_socks_once`, on the connection. -/
def socksHandshake (rt : Runtime) (target : String) (port : ℤ) (params : ProxyParams) :
    Linked Unit := do
  let hasAuth := params.username ≠ "" || params.password ≠ ""
  write (if hasAuth then [5, 2, 0, 2] else [5, 1, 0])
  match ← readExactly 2 with
  | [version, method] =>
    failIf (version ≠ 5) (.osError "SOCKS5 invalid greeting")
    socksAuthenticate params hasAuth method
    write (5 :: 1 :: 0 :: (← ofExcept (socksTarget rt target port)))
    readSocksReply
  | _ => fail (.osError "incomplete read")

/-- `_socks_once`. -/
def socksOnce (rt : Runtime) (target : String) (port : ℤ) (firstPacket : List UInt8)
    (params : ProxyParams) : Linked Unit := do
  dial params.hostname params.port
  closing do
    socksHandshake rt target port params
    writeFirst firstPacket

/-- Start TLS to the proxy itself. -/
def startTls (rt : Runtime) (params : ProxyParams) : Linked Unit := do
  let host := params.hostname.getD ""
  emit (.startTls (if isIp rt host then none else some host))
  suspend

/-- The handshake of `_http_once`, on the connection. -/
def httpHandshake (rt : Runtime) (target : String) (port : ℤ) (params : ProxyParams)
    (tlsToProxy : Bool) : Linked Unit := do
  (if tlsToProxy then startTls rt params else pure ())
  write (connectRequest rt target port params)
  let header ← readHeader
  failIf (32 * 1024 < header.length) (.osError "proxy CONNECT header too long")
  let code := statusCode header
  failIf (code < 200 ∨ 300 ≤ code) (.osError ("proxy CONNECT failed: HTTP " ++ toString code))

/-- `_http_once`. -/
def httpOnce (rt : Runtime) (target : String) (port : ℤ) (firstPacket : List UInt8)
    (params : ProxyParams) (tlsToProxy : Bool) : Linked Unit := do
  dial params.hostname params.port
  closing do
    httpHandshake rt target port params tlsToProxy
    writeFirst firstPacket

/-- The attempts of `_http_connect`; `last` is the last error. -/
def httpAttempts (rt : Runtime) (target : String) (port : ℤ) (firstPacket : List UInt8)
    (params : ProxyParams) : List Bool → PyErr → Linked Unit
  | [], last => fail last
  | tlsToProxy :: transports, _ =>
    (httpOnce rt target port firstPacket params tlsToProxy).handle fun e =>
      match e with
      | .cancelled => Effect.raise .cancelled
      | .failed e => httpAttempts rt target port firstPacket params transports e

/-- `_http_connect`. -/
def httpConnect (rt : Runtime) (target : String) (port : ℤ) (firstPacket : List UInt8)
    (params : ProxyParams) : Linked Unit :=
  let transports :=
    if params.scheme = "https" then
      if isIp rt (params.hostname.getD "") then [false, true] else [true, false]
    else [false]
  httpAttempts rt target port firstPacket params transports
    (.osError "HTTP proxy connection failed")

/-- `_open_via`. -/
def openVia (rt : Runtime) (endpoint address : String) (port : ℤ) (packet : List UInt8) :
    Linked Unit := do
  let params ← ofExcept (parseProxyUrl rt endpoint)
  if params.scheme = "socks5" then socksOnce rt address port packet params
  else httpConnect rt address port packet params

/-- `open_outbound`: whether the session goes through a proxy. -/
def openOutbound (server : Server) (address : String) (port : ℤ) (firstPacket : List UInt8)
    (link : Option Obj) (endpoints : Option (List String)) (proxyId : String) : Linked Bool := do
  let rt := server.site.rt
  let endpoints ← match endpoints with
    | some endpoints => pure endpoints
    | none => do pure (← ofExcept (endpointFromLink server link)).toList
  match (endpoints.filter (· ≠ "")).dedup with
  | [] =>
    failIf (linkUsesProxy rt link = true) (.proxyUnavailable "configured proxy did not resolve")
    dial (some address) (some port)
    pure false
  | [endpoint] =>
    (do openVia rt endpoint address port firstPacket; pure true).handle fun e =>
      match e with
      | .cancelled => Effect.raise .cancelled
      | .failed _ =>
        let name := sliceTo 32 (if proxyId ≠ "" then proxyId else "unknown")
        fail (.osError ("selected proxy " ++ name ++ " failed closed"))
  | _ => fail (.proxyUnavailable "explicit routing accepts exactly one proxy endpoint")

/-! ## Refinement -/

/-- What the other connector keeps of an event. -/
def Event.plain : Event → List NetEvent
  | .dial host port => [.dial host port]
  | .startTls serverHostname => [.startTls serverHostname]
  | .send bytes => [.send bytes]
  | .read _ => []
  | .forward packet => [.send packet]
  | .close => [.close]

/-- Every run of the one is a run of the other, for a script of replies. -/
def Refines {α : Type} (x : Linked α) (y : Net α) : Prop :=
  ∀ l r l', x l = (r, l') → ∃ (script : List Reply) (es : List Event), l'.log = l.log ++ es ∧
    ∀ rest log, y ⟨script ++ rest, log⟩ = (r, ⟨rest, log ++ es.flatMap Event.plain⟩)

section Refinement

variable {α β : Type}

lemma refines_pure (a : α) : Refines (pure a) (pure a) := by
  intro l r l' hrun
  cases hrun
  exact ⟨[], [], by simp, fun rest log => by simp⟩

lemma refines_raise (e : NetErr) : Refines (Effect.raise e : Linked α) (Effect.raise e) := by
  intro l r l' hrun
  cases hrun
  exact ⟨[], [], by simp, fun rest log => by simp⟩

lemma Refines.bind {x : Linked α} {y : Net α} {f : α → Linked β} {g : α → Net β}
    (hx : Refines x y) (hf : ∀ a, Refines (f a) (g a)) : Refines (x >>= f) (y >>= g) := by
  intro l r l' hrun
  rcases Effect.bind_cases hrun with ⟨a, l₁, hxrun, hfrun⟩ | ⟨e, hxrun, rfl⟩
  · obtain ⟨script, es, hlog, hy⟩ := hx l _ l₁ hxrun
    obtain ⟨script', es', hlog', hg⟩ := hf a l₁ r l' hfrun
    refine ⟨script ++ script', es ++ es', by rw [hlog', hlog, List.append_assoc], fun rest log => ?_⟩
    rw [List.append_assoc, Effect.bind_run_ok (hy (script' ++ rest) log), hg, List.flatMap_append,
      List.append_assoc]
  · obtain ⟨script, es, hlog, hy⟩ := hx l _ l' hxrun
    exact ⟨script, es, hlog, fun rest log => Effect.bind_run_error (hy rest log)⟩

lemma Refines.handle {x : Linked α} {y : Net α} {h : NetErr → Linked α} {k : NetErr → Net α}
    (hx : Refines x y) (hh : ∀ e, Refines (h e) (k e)) : Refines (x.handle h) (y.handle k) := by
  intro l r l' hrun
  unfold Effect.handle at hrun ⊢
  rcases hxrun : x l with ⟨r₁, l₁⟩
  rw [hxrun] at hrun
  obtain ⟨script, es, hlog, hy⟩ := hx l r₁ l₁ hxrun
  cases r₁ with
  | ok a =>
    cases hrun
    exact ⟨script, es, hlog, fun rest log => by rw [hy]⟩
  | error e =>
    obtain ⟨script', es', hlog', hk⟩ := hh e l₁ r l' hrun
    refine ⟨script ++ script', es ++ es', by rw [hlog', hlog, List.append_assoc], fun rest log => ?_⟩
    rw [List.append_assoc, hy]
    dsimp only
    rw [hk, List.flatMap_append, List.append_assoc]

lemma refines_ite {c : Prop} [Decidable c] {x x' : Linked α} {y y' : Net α} (h : Refines x y)
    (h' : Refines x' y') : Refines (if c then x else x') (if c then y else y') := by
  split
  · exact h
  · exact h'

lemma refines_fail (e : PyErr) : Refines (fail e : Linked α) (Net.fail e) := refines_raise _

lemma refines_failIf (c : Prop) [Decidable c] (e : PyErr) : Refines (failIf c e) (Net.failIf c e) :=
  refines_ite (refines_fail e) (refines_pure ())

lemma refines_ofExcept (r : Except PyErr α) : Refines (ofExcept r) (Net.ofExcept r) := by
  cases r with
  | ok a => exact refines_pure a
  | error e => exact refines_fail e

/-- What is done is done in both, and awaited in both. -/
lemma refines_emit {e : Event} {e' : NetEvent} (h : e.plain = [e']) {x : Linked Unit}
    (hx : ∀ l r l', x l = (r, l') → l'.log = l.log ∧ ∃ reply, ∀ rest log,
      (Net.receive >>= fun _ => pure ()) ⟨reply :: rest, log⟩ = (r, ⟨rest, log⟩)) :
    Refines (emit e >>= fun _ => x)
      (Net.emit e' >>= fun _ => Net.receive >>= fun _ => pure ()) := by
  intro l r l' hrun
  obtain ⟨hlog, reply, hreply⟩ := hx _ r l' hrun
  refine ⟨[reply], [e], hlog, fun rest log => ?_⟩
  rw [List.flatMap_singleton, h]
  exact hreply rest (log ++ [e'])

/-- The reply for an exception. -/
def reply : NetErr → Reply
  | .failed e => .failed e
  | .cancelled => .cancelled

lemma receive_reply (e : NetErr) (rest : List Reply) (log : List NetEvent) :
    Net.receive ⟨reply e :: rest, log⟩ = (.error e, ⟨rest, log⟩) := by
  cases e <;> rfl

lemma suspend_reply {l l' : Link} {r : Except NetErr Unit} (hrun : suspend l = (r, l')) :
    l'.log = l.log ∧ ∃ reply, ∀ rest log,
      (Net.receive >>= fun _ => pure ()) ⟨reply :: rest, log⟩ = (r, ⟨rest, log⟩) := by
  unfold suspend at hrun
  split at hrun
  · cases hrun
    exact ⟨rfl, .ok [], fun _ _ => rfl⟩
  · cases hrun
    exact ⟨rfl, .ok [], fun _ _ => rfl⟩
  · rename_i e faults hfaults
    cases hrun
    exact ⟨rfl, reply e, fun rest log => Effect.bind_run_error (receive_reply e rest log)⟩

lemma connect_reply {l l' : Link} {r : Except NetErr Unit} (hrun : connect l = (r, l')) :
    l'.log = l.log ∧ ∃ reply, ∀ rest log,
      (Net.receive >>= fun _ => pure ()) ⟨reply :: rest, log⟩ = (r, ⟨rest, log⟩) := by
  unfold connect at hrun
  split at hrun
  · cases hrun
    exact ⟨rfl, .failed (.osError "timed out"), fun _ _ => rfl⟩
  · split at hrun
    · rename_i e hrefuses
      cases hrun
      exact ⟨rfl, reply e, fun rest log => Effect.bind_run_error (receive_reply e rest log)⟩
    · cases hrun
      exact ⟨rfl, .ok [], fun _ _ => rfl⟩

lemma refines_dial (host : Option String) (port : Option ℤ) :
    Refines (dial host port) (Net.dial host port) :=
  refines_emit rfl fun _ _ _ => connect_reply

lemma refines_write (bytes : List UInt8) : Refines (write bytes) (Net.write bytes) :=
  refines_emit rfl fun _ _ _ => suspend_reply

lemma refines_startTls (rt : Runtime) (params : ProxyParams) :
    Refines (startTls rt params) (Routing.startTls rt params) :=
  refines_emit rfl fun _ _ _ => suspend_reply

lemma refines_writeFirst (firstPacket : List UInt8) :
    Refines (writeFirst firstPacket) (Net.writeFirst firstPacket) :=
  refines_ite (refines_emit rfl fun _ _ _ => suspend_reply) (refines_pure ())

lemma refines_closing {x : Linked α} {y : Net α} (h : Refines x y) :
    Refines (closing x) (Net.closing y) := by
  refine h.handle fun e => ?_
  intro l r l' hrun
  cases hrun
  exact ⟨[], [.close], rfl, fun rest log => rfl⟩

/-- A read gives what was found, or raises; the other connector is given the same. -/
lemma take_reply {found : Except Unread (List UInt8 × Inbox UInt8)} {l l' : Link}
    {r : Except NetErr (List UInt8)} (hrun : take found l = (r, l')) :
    (∃ bytes inbox, found = .ok (bytes, inbox) ∧ r = .ok bytes ∧ l'.log = l.log ++ [.read bytes]) ∨
      ∃ e, r = .error e ∧ l'.log = l.log := by
  unfold take at hrun
  split at hrun
  · cases hrun
    exact .inr ⟨_, rfl, rfl⟩
  · cases hrun
    exact .inr ⟨_, rfl, rfl⟩
  · rename_i bytes inbox
    cases hrun
    exact .inl ⟨bytes, inbox, rfl, rfl, rfl⟩

/-- A read of the other connector. -/
lemma refines_take {found : Link → Except Unread (List UInt8 × Inbox UInt8)} {y : Net (List UInt8)}
    (herror : ∀ e rest log, y ⟨reply e :: rest, log⟩ = (.error e, ⟨rest, log⟩))
    (hok : ∀ l bytes inbox, found l = .ok (bytes, inbox) → ∀ rest log,
      y ⟨.ok bytes :: rest, log⟩ = (.ok bytes, ⟨rest, log⟩)) :
    Refines (suspend >>= fun _ => (Effect.read : Linked Link) >>= fun l => take (found l)) y := by
  intro l r l' hrun
  rcases Effect.bind_cases hrun with ⟨_, l₁, hsuspend, htake⟩ | ⟨e, hsuspend, rfl⟩
  · have hlog := (suspend_reply hsuspend).1
    rw [Effect.read_bind_run] at htake
    rcases take_reply htake with ⟨bytes, inbox, hfound, rfl, hread⟩ | ⟨e, rfl, hsame⟩
    · refine ⟨[.ok bytes], [.read bytes], by rw [hread, hlog], fun rest log => ?_⟩
      simpa [Event.plain] using hok l₁ bytes inbox hfound rest log
    · exact ⟨[reply e], [], by simp [hsame, hlog], fun rest log => by simpa using herror e rest log⟩
  · have hlog := (suspend_reply hsuspend).1
    exact ⟨[reply e], [], by simp [hlog], fun rest log => by simpa using herror e rest log⟩

lemma refines_readExactly (n : ℕ) : Refines (readExactly n) (Net.readExactly n) := by
  refine refines_take (fun e rest log => ?_) fun l bytes inbox hfound rest log => ?_
  · exact Effect.bind_run_error (receive_reply e rest log)
  · have hlength := (Inbox.readExactly_ok hfound).1
    have hreceive : Net.receive ⟨.ok bytes :: rest, log⟩ = (.ok bytes, ⟨rest, log⟩) := rfl
    rw [Net.readExactly, Effect.bind_run_ok hreceive, Net.failIf, if_neg (not_not.mpr hlength)]
    rfl

lemma refines_readHeader : Refines readHeader Net.receive :=
  refines_take receive_reply fun _ _ _ _ _ _ => rfl

lemma refines_readSocksReply : Refines readSocksReply Routing.readSocksReply := by
  refine (refines_readExactly 4).bind fun head => ?_
  rcases head with _ | ⟨version, _ | ⟨code, _ | ⟨reserved, _ | ⟨kind, _ | ⟨more, head⟩⟩⟩⟩⟩
  case cons.cons.cons.cons.nil =>
    refine (refines_failIf _ _).bind fun _ => refines_ite ?_ (refines_ite ?_ (refines_ite ?_ ?_))
    · exact (refines_readExactly 6).bind fun _ => refines_pure ()
    · exact (refines_readExactly 18).bind fun _ => refines_pure ()
    · exact (refines_readExactly 1).bind fun _ => (refines_readExactly _).bind fun _ =>
        refines_pure ()
    · exact refines_fail _
  all_goals exact refines_fail _

lemma refines_socksAuthenticate (params : ProxyParams) (hasAuth : Bool) (method : UInt8) :
    Refines (socksAuthenticate params hasAuth method)
      (Routing.socksAuthenticate params hasAuth method) := by
  refine refines_ite ?_ (refines_failIf _ _)
  refine (refines_failIf _ _).bind fun _ => (refines_failIf _ _).bind fun _ => ?_
  exact (refines_write _).bind fun _ => (refines_readExactly 2).bind fun _ => refines_failIf _ _

variable (rt : Runtime) (target : String) (port : ℤ) (firstPacket : List UInt8)
  (params : ProxyParams)

lemma refines_socksOnce : Refines (socksOnce rt target port firstPacket params)
    (Routing.socksOnce rt target port firstPacket params) := by
  refine (refines_dial _ _).bind fun _ => refines_closing ?_
  unfold socksHandshake
  rw [Effect.bind_assoc]
  refine (refines_write _).bind fun _ => ?_
  rw [Effect.bind_assoc]
  refine (refines_readExactly 2).bind fun greeting => ?_
  rcases greeting with _ | ⟨version, _ | ⟨method, _ | ⟨more, greeting⟩⟩⟩
  case cons.cons.nil =>
    simp only [Effect.bind_assoc]
    refine (refines_failIf _ _).bind fun _ => ?_
    refine (refines_socksAuthenticate params _ _).bind fun _ => ?_
    refine (refines_ofExcept _).bind fun _ => (refines_write _).bind fun _ => ?_
    exact refines_readSocksReply.bind fun _ => refines_writeFirst firstPacket
  all_goals exact refines_fail _

lemma refines_httpOnce (tlsToProxy : Bool) :
    Refines (httpOnce rt target port firstPacket params tlsToProxy)
      (Routing.httpOnce rt target port firstPacket params tlsToProxy) := by
  refine (refines_dial _ _).bind fun _ => refines_closing ?_
  unfold httpHandshake
  simp only [Effect.bind_assoc]
  refine (refines_ite (refines_startTls rt params) (refines_pure ())).bind fun _ => ?_
  refine (refines_write _).bind fun _ => refines_readHeader.bind fun header => ?_
  exact (refines_failIf _ _).bind fun _ => (refines_failIf _ _).bind fun _ =>
    refines_writeFirst firstPacket

lemma refines_httpAttempts (transports : List Bool) (last : PyErr) :
    Refines (httpAttempts rt target port firstPacket params transports last)
      (Routing.httpAttempts rt target port firstPacket params transports last) := by
  induction transports generalizing last with
  | nil => exact refines_fail last
  | cons tlsToProxy transports ih =>
    refine (refines_httpOnce rt target port firstPacket params tlsToProxy).handle fun e => ?_
    cases e with
    | failed e => exact ih e
    | cancelled => exact refines_raise _

lemma refines_openVia (endpoint : String) : Refines (openVia rt endpoint target port firstPacket)
    (Routing.openVia rt endpoint target port firstPacket) := by
  refine (refines_ofExcept _).bind fun params => refines_ite ?_ ?_
  · exact refines_socksOnce rt target port firstPacket params
  · exact refines_httpAttempts rt target port firstPacket params _ _

/-- A run of the connector on streams of bytes is a run of the connector on whole replies. -/
theorem refines_openOutbound (server : Server) (link : Option Obj)
    (endpoints : Option (List String)) (proxyId : String) :
    Refines (openOutbound server target port firstPacket link endpoints proxyId)
      (Routing.openOutbound server target port firstPacket link endpoints proxyId) := by
  unfold openOutbound Routing.openOutbound
  rcases endpoints with _ | endpoints
  on_goal 1 =>
    refine (refines_ofExcept (endpointFromLink server link)).bind fun endpoint => ?_
    refine (refines_pure endpoint.toList).bind fun endpoints => ?_
  on_goal 2 => refine (refines_pure endpoints).bind fun endpoints => ?_
  all_goals
    -- the rest is the same for an endpoint of the link and for one that is given
    dsimp only
    rcases (endpoints.filter fun e => decide (e ≠ "")).dedup with _ | ⟨endpoint, _ | ⟨other, rest⟩⟩
    · refine (refines_failIf _ _).bind fun _ => (refines_dial _ _).bind fun _ => ?_
      exact refines_pure false
    · refine Refines.handle ?_ fun e => ?_
      · exact (refines_openVia server.site.rt target port firstPacket endpoint).bind fun _ =>
          refines_pure true
      · cases e with
        | failed e => exact refines_fail _
        | cancelled => exact refines_raise _
    · exact refines_fail _

end Refinement

end Tunnel

end Routing
