import LumenRelay.Routing.Handshake

/-!
# Handshakes are transparent

A proxy answers a handshake, and what it sends after its answer belongs to the tunnel, even if it
comes in one piece with the answer.  A handshake reads the answer and nothing else, writes the
first packet after it, and closes the connection unless the answer is a success.
-/

namespace Routing.Tunnel

open Lib Py

/-! ## Replies -/

/-- The reply to a SOCKS5 request that was granted, for the three kinds of bound addresses. -/
inductive ConnectReply : List UInt8 → Prop
  | ipv4 (reserved : UInt8) (bound : List UInt8) (h : bound.length = 6) :
      ConnectReply (5 :: 0 :: reserved :: 1 :: bound)
  | domain (reserved length : UInt8) (bound : List UInt8) (h : bound.length = length.toNat + 2) :
      ConnectReply (5 :: 0 :: reserved :: 3 :: length :: bound)
  | ipv6 (reserved : UInt8) (bound : List UInt8) (h : bound.length = 18) :
      ConnectReply (5 :: 0 :: reserved :: 4 :: bound)

/-- There are credentials, and they can be sent. -/
def CanAuthenticate (params : ProxyParams) : Prop :=
  (params.username ≠ "" ∨ params.password ≠ "") ∧ (utf8Bytes params.username).length ≤ 255 ∧
    (utf8Bytes params.password).length ≤ 255

/-- What a proxy sends in a SOCKS5 handshake that succeeds. -/
inductive SocksReply (params : ProxyParams) : List UInt8 → Prop
  | plain (reply : List UInt8) (h : ConnectReply reply) : SocksReply params (5 :: 0 :: reply)
  | authenticated (reply : List UInt8) (h : ConnectReply reply) (hauth : CanAuthenticate params) :
      SocksReply params (5 :: 2 :: 1 :: 0 :: reply)

/-- A SOCKS5 handshake for a destination that can be named, and that succeeds. -/
def SocksExchange (rt : Runtime) (target : String) (port : ℤ) (params : ProxyParams)
    (reply : List UInt8) : Prop :=
  (∃ request, socksTarget rt target port = .ok request) ∧ SocksReply params reply

/-- The header of a reply to an HTTP request that was granted. -/
structure ConnectHeader (header : List UInt8) : Prop where
  ends : Inbox.cut blankLine header = some (header, [])
  length : header.length ≤ 32 * 1024
  status : 200 ≤ statusCode header ∧ statusCode header < 300

lemma firstLine_append {line : List UInt8} (h : 13 ∉ line) (rest : List UInt8) :
    firstLine (line ++ 13 :: 10 :: rest) = line := by
  induction line with
  | nil => rfl
  | cons b line ih =>
    rw [List.mem_cons, not_or] at h
    have hcons : firstLine (b :: (line ++ 13 :: 10 :: rest)) =
        b :: firstLine (line ++ 13 :: 10 :: rest) := by
      rw [firstLine]
      rintro l rfl
      exact absurd rfl h.1
    rw [List.cons_append, hcons, ih h.2]

/-- The status of a reply with a status line: a version, three digits, and a reason. -/
lemma statusCode_statusLine {version reason : List UInt8} {a b c : UInt8}
    (hne : version ≠ []) (hversion : ∀ x ∈ version, isBlank x = false)
    (hdigits : ∀ x ∈ [a, b, c], 48 ≤ x ∧ x ≤ 57) (hreason : 13 ∉ reason) (fields : List UInt8) :
    statusCode (version ++ 32 :: a :: b :: c :: (32 :: reason ++ 13 :: 10 :: fields)) =
      100 * (a.toNat - 48 : ℕ) + 10 * (b.toNat - 48 : ℕ) + (c.toNat - 48 : ℕ) := by
  have hline : firstLine (version ++ 32 :: a :: b :: c :: (32 :: reason ++ 13 :: 10 :: fields)) =
      version ++ 32 :: ([a, b, c] ++ 32 :: reason) := by
    have hplain : 13 ∉ version ++ 32 :: ([a, b, c] ++ 32 :: reason) := by
      have hv : 13 ∉ version := fun h => absurd (hversion 13 h) (by decide)
      have hd : 13 ∉ [a, b, c] := fun h => absurd (hdigits 13 h) (by decide)
      simp only [List.mem_append, List.mem_cons] at hd ⊢
      simp [hv, hreason]
      simpa using hd
    have happend := firstLine_append hplain fields
    simpa using happend
  have hblank : ∀ x ∈ [a, b, c], isBlank x = false := by
    intro x hx
    have h := hdigits x hx
    simp only [UInt8.le_iff_toNat_le] at h
    have h48 : (48 : UInt8).toNat = 48 := rfl
    simp only [isBlank, Bool.or_eq_false_iff, Bool.and_eq_false_iff, decide_eq_false_iff_not,
      UInt8.le_iff_toNat_le, ← UInt8.toNat_inj]
    have h57 : (57 : UInt8).toNat = 57 := rfl
    have h32 : (32 : UInt8).toNat = 32 := rfl
    have h13 : (13 : UInt8).toNat = 13 := rfl
    omega
  have hall : ([a, b, c].all fun x => 48 ≤ x && x ≤ 57) = true := by
    simpa using hdigits
  rw [statusCode, hline, List.splitOnP_append_cons_of_forall_mem hversion 32 rfl,
    List.splitOnP_append_cons_of_forall_mem hblank 32 rfl]
  simp only [List.filter_cons, hne, ne_eq, decide_not, decide_false, Bool.not_false, if_true,
    reduceCtorEq]
  rw [if_pos hall]
  simp only [List.foldl_cons, List.foldl_nil]
  push_cast
  ring

/-! ## Transparency -/

/-- The bytes that were read. -/
def readBytes (es : List Event) : List UInt8 :=
  es.flatMap fun
    | .read bytes => bytes
    | _ => []

/-- The event belongs to a handshake. -/
def Event.InHandshake : Event → Prop
  | .startTls _ | .send _ | .read _ => True
  | _ => False

/-- The first packet is written, if there is one. -/
def forwarded (packet : List UInt8) : List Event := if packet = [] then [] else [.forward packet]

/-- Nothing goes wrong but what the proxy sends. -/
def Peer.Calm (peer : Peer) : Prop := peer.refuses = none ∧ ∀ fault ∈ peer.faults, fault = none

/-- A handshake with a proxy, by the replies that are a success. -/
structure Transparent (Success : List UInt8 → Prop) (packet : List UInt8) (x : Linked Unit) :
    Prop where
  /-- After a success, what follows the reply is what the reader has, and the packet was written
  once, after the reply was read. -/
  returns : ∀ l peer peers reply rest, l.peers = peer :: peers → peer.Calm → Success reply →
    peer.segments.flatten = reply ++ rest → ∃ l', x l = (.ok (), l') ∧ l'.inbox.stream = rest ∧
      ∃ host port before, l'.log = l.log ++ .dial host port :: (before ++ forwarded packet) ∧
        readBytes before = reply ∧ ∀ e ∈ before, e.InHandshake
  /-- Whatever happens, it raises after a reply that is none, and the connection is closed. -/
  raises : ∀ l peer peers, l.peers = peer :: peers → peer.refuses = none →
    (∀ reply rest, peer.segments.flatten = reply ++ rest → ¬ Success reply) →
    ∃ e l', x l = (.error e, l') ∧ l'.log.getLast? = some .close
  /-- Whenever it raises on a connection, the connection is closed. -/
  closes : ∀ l peer peers e l', l.peers = peer :: peers → peer.refuses = none →
    x l = (.error e, l') → l'.log.getLast? = some .close

/-- The events of a handshake, or of a part of it, by the bytes that it reads. -/
def Reads (S : List UInt8 → Prop) (es : List Event) : Prop :=
  (∀ e ∈ es, e.InHandshake) ∧ S (readBytes es)

/-! ## What a computation that returns has done -/

section Yields

variable {α β : Type}

/-- A computation that returns has read the bytes of its events and left the others. -/
def Yields (x : Linked α) (S : α → List Event → Prop) : Prop :=
  ∀ l a l', x l = (.ok a, l') → ∃ es, l'.log = l.log ++ es ∧
    l.inbox.stream = readBytes es ++ l'.inbox.stream ∧ S a es

lemma readBytes_append (es es' : List Event) :
    readBytes (es ++ es') = readBytes es ++ readBytes es' := List.flatMap_append

lemma readBytes_forwarded (packet : List UInt8) : readBytes (forwarded packet) = [] := by
  unfold forwarded
  split <;> rfl

lemma yields_pure {a : α} {S : α → List Event → Prop} (h : S a []) : Yields (pure a) S := by
  intro l b l' hrun
  cases hrun
  exact ⟨[], (List.append_nil _).symm, rfl, h⟩

lemma yields_raise {e : NetErr} {S : α → List Event → Prop} :
    Yields (Effect.raise e : Linked α) S := by
  intro l b l' hrun
  cases hrun

lemma Yields.bind {x : Linked α} {f : α → Linked β} {S : α → List Event → Prop}
    {T : β → List Event → Prop} (hx : Yields x S)
    (hf : ∀ a es, S a es → Yields (f a) fun b es' => T b (es ++ es')) : Yields (x >>= f) T := by
  intro l b l' hrun
  obtain ⟨a, l₁, hxrun, hfrun⟩ := Effect.bind_eq_ok hrun
  obtain ⟨es, hlog, hstream, ha⟩ := hx l a l₁ hxrun
  obtain ⟨es', hlog', hstream', hb⟩ := hf a es ha l₁ b l' hfrun
  refine ⟨es ++ es', by rw [hlog', hlog, List.append_assoc], ?_, hb⟩
  rw [hstream, hstream', readBytes_append, List.append_assoc]

lemma yields_ite {c : Prop} [Decidable c] {x y : Linked α} {S : α → List Event → Prop}
    (hx : c → Yields x S) (hy : ¬ c → Yields y S) : Yields (if c then x else y) S := by
  split
  · exact hx ‹_›
  · exact hy ‹_›

lemma yields_failIf {c : Prop} [Decidable c] {e : PyErr} :
    Yields (failIf c e) fun _ es => es = [] ∧ ¬ c :=
  yields_ite (fun _ => yields_raise) fun hc => yields_pure ⟨rfl, hc⟩

/-- An await that returns has done nothing. -/
lemma suspend_ok {l l' : Link} {u : Unit} (h : suspend l = (.ok u, l')) :
    l'.log = l.log ∧ l'.inbox = l.inbox := by
  unfold suspend at h
  split at h <;> cases h <;> exact ⟨rfl, rfl⟩

lemma yields_suspend : Yields suspend fun _ es => es = [] := by
  intro l u l' hrun
  obtain ⟨hlog, hinbox⟩ := suspend_ok hrun
  exact ⟨[], by rw [hlog, List.append_nil], by rw [hinbox]; rfl, rfl⟩

lemma yields_emit {e : Event} (h : readBytes [e] = []) : Yields (emit e) fun _ es => es = [e] := by
  intro l u l' hrun
  cases hrun
  exact ⟨[e], rfl, by rw [h]; rfl, rfl⟩

lemma yields_ofExcept (r : Except PyErr α) :
    Yields (ofExcept r) fun a es => es = [] ∧ r = .ok a := by
  cases r with
  | ok a => exact yields_pure ⟨rfl, rfl⟩
  | error e => exact yields_raise

lemma Yields.mono {x : Linked α} {S T : α → List Event → Prop} (hx : Yields x S)
    (h : ∀ a es, S a es → T a es) : Yields x T := by
  intro l a l' hrun
  obtain ⟨es, hlog, hstream, ha⟩ := hx l a l' hrun
  exact ⟨es, hlog, hstream, h a es ha⟩

lemma reads_singleton {e : Event} (he : e.InHandshake) : Reads (· = readBytes [e]) [e] :=
  ⟨List.forall_mem_singleton.mpr he, rfl⟩

lemma yields_write (bytes : List UInt8) : Yields (write bytes) fun _ => Reads (· = []) := by
  refine (yields_emit rfl).bind fun _ es hes => ?_
  refine yields_suspend.mono fun _ es' hes' => ?_
  subst hes hes'
  exact reads_singleton trivial

/-- A read that returns has taken its bytes from the front of the stream. -/
lemma yields_take {found : Link → Except Unread (List UInt8 × Inbox UInt8)}
    {S : List UInt8 → Prop} (hfound : ∀ l bytes inbox, found l = .ok (bytes, inbox) →
      l.inbox.stream = bytes ++ inbox.stream ∧ S bytes) :
    Yields (suspend >>= fun _ => (Effect.read : Linked Link) >>= fun l => take (found l))
      fun bytes es => es = [.read bytes] ∧ S bytes := by
  intro l bytes l' hrun
  obtain ⟨_, l₁, hsuspend, hrun⟩ := Effect.bind_eq_ok hrun
  obtain ⟨hlog, hinbox⟩ := suspend_ok hsuspend
  rw [Effect.read_bind_run] at hrun
  rcases take_reply hrun with ⟨bytes', inbox, hok, hr, -⟩ | ⟨e, hr, -⟩
  · obtain rfl : bytes = bytes' := Except.ok.inj hr
    obtain ⟨hstream, hbytes⟩ := hfound l₁ bytes inbox hok
    simp only [take, hok] at hrun
    cases hrun
    refine ⟨[.read bytes], by rw [← hlog], ?_, rfl, hbytes⟩
    rw [← hinbox, hstream]
    simp [readBytes]
  · cases hr

lemma yields_readExactly (n : ℕ) :
    Yields (readExactly n) fun bytes es => es = [.read bytes] ∧ bytes.length = n :=
  yields_take fun _ _ _ h => (Inbox.readExactly_ok h).symm

lemma yields_readHeader : Yields readHeader fun header es =>
    es = [.read header] ∧ Inbox.cut blankLine header = some (header, []) := by
  refine yields_take fun l header inbox h => ?_
  have hcut := Inbox.readUntil_ok h
  exact ⟨(Inbox.cut_some hcut).1, Inbox.cut_self hcut⟩

lemma yields_writeFirst (packet : List UInt8) :
    Yields (writeFirst packet) fun _ es => es = forwarded packet := by
  refine yields_ite (fun hne => ?_) fun hnil => ?_
  · refine (yields_emit rfl).bind fun _ es hes => ?_
    refine yields_suspend.mono fun _ es' hes' => ?_
    rw [hes, hes', forwarded, if_neg hne]
    rfl
  · refine yields_pure ?_
    rw [forwarded, if_pos (not_not.mp hnil)]

end Yields

/-! ## What the handshakes read -/

section Handshakes

variable {params : ProxyParams}

lemma yields_readSocksReply : Yields readSocksReply fun _ => Reads ConnectReply := by
  refine (yields_readExactly 4).bind fun head es hes => ?_
  obtain ⟨rfl, hlength⟩ := hes
  obtain ⟨version, code, reserved, kind, rfl⟩ := List.length_eq_four.mp hlength
  refine yields_failIf.bind fun _ es hes => ?_
  obtain ⟨rfl, hgranted⟩ := hes
  obtain ⟨rfl, rfl⟩ : version = 5 ∧ code = 0 := by simpa using hgranted
  refine yields_ite (fun hkind => ?_) fun _ => yields_ite (fun hkind => ?_) fun _ =>
    yields_ite (fun hkind => ?_) fun _ => yields_raise
  · refine (yields_readExactly 6).bind fun bound es hes => yields_pure ?_
    obtain ⟨rfl, hbound⟩ := hes
    refine ⟨by simp [Event.InHandshake], ?_⟩
    simpa [readBytes, hkind] using ConnectReply.ipv4 reserved bound hbound
  · refine (yields_readExactly 18).bind fun bound es hes => yields_pure ?_
    obtain ⟨rfl, hbound⟩ := hes
    refine ⟨by simp [Event.InHandshake], ?_⟩
    simpa [readBytes, hkind] using ConnectReply.ipv6 reserved bound hbound
  · refine (yields_readExactly 1).bind fun length es hes => ?_
    obtain ⟨rfl, hone⟩ := hes
    obtain ⟨n, rfl⟩ := List.length_eq_one_iff.mp hone
    refine (yields_readExactly _).bind fun bound es hes => yields_pure ?_
    obtain ⟨rfl, hbound⟩ := hes
    refine ⟨by simp [Event.InHandshake], ?_⟩
    simpa [readBytes, hkind] using ConnectReply.domain reserved n bound hbound

/-- Starting TLS, if it is wanted, reads nothing. -/
lemma yields_transport {rt : Runtime} (tlsToProxy : Bool) :
    Yields (if tlsToProxy then startTls rt params else pure ()) fun _ => Reads (· = []) := by
  refine yields_ite (fun _ => ?_) fun _ => yields_pure ⟨nofun, rfl⟩
  refine (yields_emit rfl).bind fun _ es hes => ?_
  refine yields_suspend.mono fun _ es' hes' => ?_
  subst hes hes'
  exact ⟨by simp [Event.InHandshake], rfl⟩

/-- What a proxy sends for the authentication. -/
inductive AuthReply (params : ProxyParams) : UInt8 → List UInt8 → Prop
  | none : AuthReply params 0 []
  | password (hauth : CanAuthenticate params) : AuthReply params 2 [1, 0]

lemma yields_socksAuthenticate {hasAuth : Bool} {method : UInt8}
    (hasAuth_iff : hasAuth = true ↔ params.username ≠ "" ∨ params.password ≠ "") :
    Yields (socksAuthenticate params hasAuth method) fun _ =>
      Reads (AuthReply params method) := by
  refine yields_ite (fun hmethod => ?_) fun _ => ?_
  · refine yields_failIf.bind fun _ es hes => ?_
    obtain ⟨rfl, hhas⟩ := hes
    refine yields_failIf.bind fun _ es hes => ?_
    obtain ⟨rfl, hlong⟩ := hes
    refine (yields_write _).bind fun _ sent hsent => ?_
    refine (yields_readExactly 2).bind fun reply es hes => ?_
    obtain ⟨rfl, -⟩ := hes
    refine yields_failIf.mono fun _ es hes => ?_
    obtain ⟨rfl, hreply⟩ := hes
    obtain rfl := not_not.mp hreply
    rw [not_or, not_lt, not_lt] at hlong
    have hauth : CanAuthenticate params :=
      ⟨hasAuth_iff.mp (Bool.not_eq_false _ ▸ hhas), hlong.1, hlong.2⟩
    show Reads _ (sent ++ [.read [1, 0]])
    refine ⟨List.forall_mem_append.mpr ⟨hsent.1, List.forall_mem_singleton.mpr trivial⟩, ?_⟩
    rw [readBytes_append, hsent.2, hmethod]
    exact .password hauth
  · refine yields_failIf.mono fun _ es hes => ?_
    obtain ⟨rfl, hzero⟩ := hes
    obtain rfl := not_not.mp hzero
    exact ⟨nofun, .none⟩

/-- The two parts of a reply make one. -/
lemma SocksReply.of_parts {method : UInt8} {auth reply : List UInt8}
    (ha : AuthReply params method auth) (hr : ConnectReply reply) :
    SocksReply params (5 :: method :: (auth ++ reply)) := by
  cases ha with
  | none => exact .plain reply hr
  | password hauth => exact .authenticated reply hr hauth

/-- A reply has these two parts. -/
lemma SocksReply.parts {reply : List UInt8} (h : SocksReply params reply) :
    ∃ method auth connected, reply = 5 :: method :: (auth ++ connected) ∧
      AuthReply params method auth ∧ ConnectReply connected := by
  cases h with
  | plain connected h => exact ⟨0, [], connected, rfl, .none, h⟩
  | authenticated connected h hauth => exact ⟨2, [1, 0], connected, rfl, .password hauth, h⟩

variable {rt : Runtime} {target : String} {port : ℤ}

/-- A handshake through SOCKS5 returns only with a success. -/
lemma yields_socksHandshake : Yields (socksHandshake rt target port params) fun _ =>
    Reads (SocksExchange rt target port params) := by
  refine (yields_write _).bind fun _ first hfirst => ?_
  refine (yields_readExactly 2).bind fun greeting es hes => ?_
  obtain ⟨rfl, hlength⟩ := hes
  obtain ⟨version, method, rfl⟩ := List.length_eq_two.mp hlength
  refine yields_failIf.bind fun _ es hes => ?_
  obtain ⟨rfl, hversion⟩ := hes
  obtain rfl := not_not.mp hversion
  refine (yields_socksAuthenticate (by simp)).bind fun _ auth hauth => ?_
  refine (yields_ofExcept _).bind fun request es hes => ?_
  obtain ⟨rfl, htarget⟩ := hes
  refine (yields_write _).bind fun _ asked hasked => ?_
  refine yields_readSocksReply.mono fun _ reply hreply => ?_
  show Reads _ (first ++ .read [5, method] :: (auth ++ (asked ++ reply)))
  refine ⟨?_, ⟨request, htarget⟩, ?_⟩
  · have hread : (Event.read [5, method]).InHandshake := trivial
    simp only [List.forall_mem_cons, List.forall_mem_append]
    exact ⟨hfirst.1, hread, hauth.1, hasked.1, hreply.1⟩
  · have hparts := SocksReply.of_parts hauth.2 hreply.2
    have hbytes : readBytes (first ++ .read [5, method] :: (auth ++ (asked ++ reply))) =
        5 :: method :: (readBytes auth ++ readBytes reply) := by
      rw [readBytes_append, hfirst.2, ← List.singleton_append, readBytes_append, readBytes_append,
        readBytes_append, hasked.2]
      rfl
    rw [hbytes]
    exact hparts

/-- A handshake through HTTP returns only with a success. -/
lemma yields_httpHandshake (tlsToProxy : Bool) :
    Yields (httpHandshake rt target port params tlsToProxy) fun _ => Reads ConnectHeader := by
  refine (yields_transport tlsToProxy).bind fun _ tls htls => ?_
  refine (yields_write _).bind fun _ asked hasked => ?_
  refine yields_readHeader.bind fun header es hes => ?_
  obtain ⟨rfl, hends⟩ := hes
  refine yields_failIf.bind fun _ es hes => ?_
  obtain ⟨rfl, hlength⟩ := hes
  refine yields_failIf.mono fun _ es hes => ?_
  obtain ⟨rfl, hstatus⟩ := hes
  rw [not_or, not_lt, not_le] at hstatus
  show Reads _ (tls ++ (asked ++ [.read header]))
  refine ⟨?_, ?_⟩
  · have hread : (Event.read header).InHandshake := trivial
    simp only [List.forall_mem_append, List.forall_mem_singleton]
    exact ⟨htls.1, hasked.1, hread⟩
  · have hbytes : readBytes (tls ++ (asked ++ [.read header])) = header := by
      rw [readBytes_append, htls.2, readBytes_append, hasked.2]
      simp [readBytes]
    rw [hbytes]
    exact ⟨hends, not_lt.mp hlength, hstatus⟩

end Handshakes

/-! ## What a computation does with a reply that succeeds -/

section Consumes

variable {α β : Type}

/-- Given a stream, a computation returns with the front of it read, if none of a number of awaits
raises. -/
def ConsumesIn (x : Linked α) (a : α) (awaits : ℕ) (bytes : List UInt8) : Prop :=
  ∀ l rest, (∀ fault ∈ l.faults.take awaits, fault = none) → l.inbox.stream = bytes ++ rest →
    ∃ l', x l = (.ok a, l') ∧ l'.faults = l.faults.drop awaits ∧ l'.inbox.stream = rest

/-- The same for some number of awaits. -/
def Consumes (x : Linked α) (a : α) (bytes : List UInt8) : Prop :=
  ∃ awaits, ConsumesIn x a awaits bytes

variable {x : Linked α} {a : α} {k k' : ℕ} {bytes bytes' : List UInt8}

lemma consumesIn_pure (a : α) : ConsumesIn (pure a) a 0 [] :=
  fun l _ _ hstream => ⟨l, rfl, rfl, hstream⟩

lemma ConsumesIn.bind {f : α → Linked β} {b : β} (hx : ConsumesIn x a k bytes)
    (hf : ConsumesIn (f a) b k' bytes') : ConsumesIn (x >>= f) b (k + k') (bytes ++ bytes') := by
  intro l rest hcalm hstream
  rw [List.take_add, List.forall_mem_append] at hcalm
  rw [List.append_assoc] at hstream
  obtain ⟨l₁, hrun, hfaults, hstream₁⟩ := hx l _ hcalm.1 hstream
  obtain ⟨l₂, hrun₂, hfaults₂, hstream₂⟩ := hf l₁ rest (by rw [hfaults]; exact hcalm.2) hstream₁
  exact ⟨l₂, by rw [Effect.bind_run_ok hrun, hrun₂], by rw [hfaults₂, hfaults, List.drop_drop], hstream₂⟩

/-- Bytes that are read one part after the other. -/
lemma Consumes.bind {f : α → Linked β} {b : β} {whole : List UInt8} (hx : Consumes x a bytes)
    (hf : Consumes (f a) b bytes') (heq : bytes ++ bytes' = whole) : Consumes (x >>= f) b whole := by
  obtain ⟨k, hk⟩ := hx
  obtain ⟨k', hk'⟩ := hf
  exact ⟨k + k', heq ▸ hk.bind hk'⟩

lemma consumesIn_failIf {c : Prop} [Decidable c] {e : PyErr} (h : ¬ c) :
    ConsumesIn (failIf c e) () 0 [] := by
  rw [failIf, if_neg h]
  exact consumesIn_pure ()

lemma consumes_failIf {c : Prop} [Decidable c] {e : PyErr} (h : ¬ c) :
    Consumes (failIf c e) () [] := ⟨0, consumesIn_failIf h⟩

lemma suspend_run {l : Link} (h : ∀ fault ∈ l.faults.take 1, fault = none) :
    suspend l = (.ok (), { l with faults := l.faults.drop 1 }) := by
  cases hfaults : l.faults with
  | nil =>
    simp only [suspend, hfaults]
    rw [List.drop_nil, ← hfaults]
  | cons fault faults =>
    obtain rfl : fault = none := h fault (by simp [hfaults])
    simp only [suspend, hfaults]
    rfl

lemma consumesIn_suspend : ConsumesIn suspend () 1 [] :=
  fun _ _ hcalm hstream => ⟨_, suspend_run hcalm, rfl, hstream⟩

lemma consumesIn_emit {e : Event} {f : Unit → Linked α} (h : ConsumesIn (f ()) a k bytes) :
    ConsumesIn (emit e >>= f) a k bytes :=
  fun l rest hcalm hstream => h { l with log := l.log ++ [e] } rest hcalm hstream

lemma consumesIn_write (bytes : List UInt8) : ConsumesIn (write bytes) () 1 [] :=
  consumesIn_emit consumesIn_suspend

lemma consumes_write (bytes : List UInt8) : Consumes (write bytes) () [] :=
  ⟨1, consumesIn_write bytes⟩

lemma consumesIn_take {found : Link → Except Unread (List UInt8 × Inbox UInt8)}
    (hfound : ∀ l rest, l.inbox.stream = bytes ++ rest →
      ∃ inbox, found l = .ok (bytes, inbox) ∧ inbox.stream = rest) :
    ConsumesIn (suspend >>= fun _ => (Effect.read : Linked Link) >>= fun l => take (found l))
      bytes 1 bytes := by
  intro l rest hcalm hstream
  obtain ⟨inbox, hok, hrest⟩ := hfound { l with faults := l.faults.drop 1 } rest hstream
  refine ⟨{ l with
    faults := l.faults.drop 1, inbox := inbox, log := l.log ++ [.read bytes] }, ?_, rfl, hrest⟩
  rw [Effect.bind_run_ok (suspend_run hcalm), Effect.read_bind_run]
  simp only [take, hok]

lemma consumes_readExactly {n : ℕ} (h : bytes.length = n) :
    Consumes (readExactly n) bytes bytes :=
  ⟨1, consumesIn_take fun _ _ hstream => Inbox.readExactly_of_stream h hstream⟩

lemma consumesIn_readHeader {header : List UInt8}
    (h : Inbox.cut blankLine header = some (header, [])) (hlength : header.length ≤ streamLimit) :
    ConsumesIn readHeader header 1 header := by
  refine consumesIn_take fun l rest hstream => ?_
  have hcut : Inbox.cut blankLine l.inbox.stream = some (header, rest) := by
    rw [hstream, Inbox.cut_append h]
    rfl
  exact Inbox.readUntil_of_stream hcut hlength

lemma consumes_writeFirst (packet : List UInt8) : Consumes (writeFirst packet) () [] := by
  unfold writeFirst
  split
  · exact ⟨1, consumesIn_emit consumesIn_suspend⟩
  · exact ⟨0, consumesIn_pure ()⟩

variable {params : ProxyParams}

lemma consumes_readSocksReply {reply : List UInt8} (h : ConnectReply reply) :
    Consumes readSocksReply () reply := by
  have hlast : ∀ {bound : List UInt8} {n : ℕ}, bound.length = n →
      Consumes (readExactly n >>= fun _ => pure ()) () bound := fun hbound =>
    (consumes_readExactly hbound).bind ⟨0, consumesIn_pure ()⟩ (List.append_nil _)
  cases h with
  | ipv4 reserved bound hbound =>
    have hhead : [5, 0, reserved, 1].length = 4 := rfl
    refine (consumes_readExactly hhead).bind ?_ (by rfl : _ ++ bound = _)
    refine (consumes_failIf (by simp)).bind ?_ (List.nil_append _)
    rw [if_pos rfl]
    exact hlast hbound
  | domain reserved length bound hbound =>
    have hhead : [5, 0, reserved, 3].length = 4 := rfl
    have hone : [length].length = 1 := rfl
    refine (consumes_readExactly hhead).bind ?_ (by rfl : _ ++ (length :: bound) = _)
    refine (consumes_failIf (by simp)).bind ?_ (List.nil_append _)
    rw [if_neg (by decide), if_neg (by decide), if_pos rfl]
    exact (consumes_readExactly hone).bind (hlast hbound) rfl
  | ipv6 reserved bound hbound =>
    have hhead : [5, 0, reserved, 4].length = 4 := rfl
    refine (consumes_readExactly hhead).bind ?_ (by rfl : _ ++ bound = _)
    refine (consumes_failIf (by simp)).bind ?_ (List.nil_append _)
    rw [if_neg (by decide), if_pos rfl]
    exact hlast hbound

lemma consumes_socksAuthenticate {hasAuth : Bool} {method : UInt8} {auth : List UInt8}
    (hasAuth_iff : hasAuth = true ↔ params.username ≠ "" ∨ params.password ≠ "")
    (h : AuthReply params method auth) :
    Consumes (socksAuthenticate params hasAuth method) () auth := by
  cases h with
  | none =>
    have hzero : ¬ (0 : UInt8) ≠ 0 := not_not.mpr rfl
    rw [socksAuthenticate, if_neg (by decide)]
    exact consumes_failIf hzero
  | password hauth =>
    have hhas : ¬ hasAuth = false := by simp [hasAuth_iff.mpr hauth.1]
    have hshort : ¬ (255 < (utf8Bytes params.username).length ∨
        255 < (utf8Bytes params.password).length) := by
      have := hauth.2
      omega
    have htwo : [(1 : UInt8), 0].length = 2 := rfl
    have hsame : ¬ [(1 : UInt8), 0] ≠ [1, 0] := not_not.mpr rfl
    refine (consumes_failIf hhas).bind ?_ (List.nil_append _)
    refine (consumes_failIf hshort).bind ?_ (List.nil_append _)
    refine (consumes_write _).bind ?_ (List.nil_append _)
    exact (consumes_readExactly htwo).bind (consumes_failIf hsame) (List.append_nil _)

variable {rt : Runtime} {target : String} {port : ℤ}

/-- A SOCKS5 handshake goes through with a reply that is a success. -/
lemma consumes_socksHandshake {reply : List UInt8} (h : SocksExchange rt target port params reply) :
    Consumes (socksHandshake rt target port params) () reply := by
  obtain ⟨⟨request, htarget⟩, hreply⟩ := h
  obtain ⟨method, auth, connected, rfl, hauth, hconnected⟩ := hreply.parts
  have htwo : [5, method].length = 2 := rfl
  refine (consumes_write _).bind ?_ (List.nil_append _)
  refine (consumes_readExactly htwo).bind ?_ (by rfl : _ ++ (auth ++ connected) = _)
  refine (consumes_failIf (by simp)).bind ?_ (List.nil_append _)
  refine (consumes_socksAuthenticate (by simp) hauth).bind ?_ rfl
  rw [htarget]
  exact (consumes_write _).bind (consumes_readSocksReply hconnected) (List.nil_append _)

/-- The awaits of a handshake through HTTP. -/
def httpAwaits (tlsToProxy : Bool) : ℕ := (if tlsToProxy then 1 else 0) + 2

/-- An HTTP handshake goes through with a header that is a success. -/
lemma consumesIn_httpHandshake {header : List UInt8} (h : ConnectHeader header) (tlsToProxy : Bool) :
    ConsumesIn (httpHandshake rt target port params tlsToProxy) () (httpAwaits tlsToProxy) header := by
  have htls : ConsumesIn (if tlsToProxy then startTls rt params else pure ()) ()
      (if tlsToProxy then 1 else 0) [] := by
    split
    · exact consumesIn_emit consumesIn_suspend
    · exact consumesIn_pure ()
  have hlimit : header.length ≤ streamLimit := h.length.trans (by decide)
  have hstatus : ¬ (statusCode header < 200 ∨ 300 ≤ statusCode header) := by
    have := h.status
    omega
  have hall : ConsumesIn (httpHandshake rt target port params tlsToProxy) ()
      ((if tlsToProxy then 1 else 0) + (1 + (1 + (0 + 0)))) ([] ++ ([] ++ (header ++ ([] ++ [])))) :=
    htls.bind ((consumesIn_write _).bind ((consumesIn_readHeader h.ends hlimit).bind
      ((consumesIn_failIf (Nat.not_lt.mpr h.length)).bind (consumesIn_failIf hstatus))))
  simpa [httpAwaits] using hall

end Consumes

/-! ## Handshakes are transparent -/

section Connection

variable {Success : List UInt8 → Prop} {packet : List UInt8} {x : Linked Unit}

/-- The connection to a proxy that was dialled. -/
def Link.dialled (l : Link) (peer : Peer) (peers : List Peer) (host : Option String)
    (port : Option ℤ) : Link where
  peers := peers
  faults := peer.faults
  inbox := ⟨[], peer.segments⟩
  ending := peer.ending
  log := l.log ++ [.dial host port]

/-- Dialling a proxy that does not refuse. -/
lemma dial_run {l : Link} {peer : Peer} {peers : List Peer} (hpeers : l.peers = peer :: peers)
    (h : peer.refuses = none) (host : Option String) (port : Option ℤ) :
    dial host port l = (.ok (), l.dialled peer peers host port) := by
  have hemit : emit (.dial host port) l = (.ok (), { l with log := l.log ++ [.dial host port] }) := rfl
  rw [dial, Effect.bind_run_ok hemit]
  simp only [connect, hpeers, h]
  rfl

/-- A handshake that is closed when it raises. -/
lemma closing_error {α : Type} {x : Linked α} {l l' : Link} {e : NetErr}
    (h : closing x l = (.error e, l')) : l'.log.getLast? = some .close := by
  rcases Effect.handle_cases h with ⟨a, -, ha⟩ | ⟨e', l₁, -, h⟩
  · cases ha
  · cases h
    exact List.getLast?_concat

lemma closing_eq_ok {α : Type} {x : Linked α} {l l' : Link} {a : α}
    (h : closing x l = (.ok a, l')) : x l = (.ok a, l') := Effect.handle_eq_ok (fun e _ => ⟨e, rfl⟩) h

lemma closing_of_ok {α : Type} {x : Linked α} {l l' : Link} {a : α} (h : x l = (.ok a, l')) :
    closing x l = (.ok a, l') := Effect.handle_run_ok h

/-- A handshake that returns only with a success, and with every success, is transparent. -/
lemma transparent_of (hyields : Yields x fun _ => Reads Success)
    (hconsumes : ∀ reply, Success reply → Consumes x () reply) (host : Option String)
    (port : Option ℤ) : Transparent Success packet
      (dial host port >>= fun _ => closing (x >>= fun _ => writeFirst packet)) := by
  -- what is read is the reply, since writing the packet reads nothing
  have hread : ∀ l l', (x >>= fun _ => writeFirst packet) l = (.ok (), l') →
      ∃ before, Reads Success before ∧ l'.log = l.log ++ (before ++ forwarded packet) ∧
        l.inbox.stream = readBytes before ++ l'.inbox.stream := by
    intro l l' hrun
    obtain ⟨_, l₁, hxrun, hforward⟩ := Effect.bind_eq_ok hrun
    obtain ⟨before, hlog, hstream, hbefore⟩ := hyields l () l₁ hxrun
    obtain ⟨es, hlog', hstream', rfl⟩ := yields_writeFirst packet l₁ () l' hforward
    refine ⟨before, hbefore, by rw [hlog', hlog, List.append_assoc], ?_⟩
    rw [hstream, hstream', readBytes_forwarded, List.nil_append]
  refine ⟨fun l peer peers reply rest hpeers hcalm hreply hstream => ?_,
    fun l peer peers hpeers hrefuses hnone => ?_, fun l peer peers e l' hpeers hrefuses hrun => ?_⟩
  · have hdial := dial_run hpeers hcalm.1 host port
    have hwhole : Consumes (x >>= fun _ => writeFirst packet) () reply :=
      (hconsumes reply hreply).bind (consumes_writeFirst packet) (List.append_nil _)
    obtain ⟨k, hk⟩ := hwhole
    obtain ⟨l', hrun, -, hrest⟩ := hk (l.dialled peer peers host port) rest
      (fun fault hfault => hcalm.2 fault (List.mem_of_mem_take hfault)) hstream
    obtain ⟨before, hbefore, hlog, hsplit⟩ := hread _ l' hrun
    have hall : reply ++ rest = readBytes before ++ rest := by
      rw [← hstream, ← hrest]
      exact hsplit
    refine ⟨l', by rw [Effect.bind_run_ok hdial, closing_of_ok hrun], hrest, host, port, before, ?_,
      (List.append_cancel_right hall).symm, hbefore.1⟩
    rw [hlog, Link.dialled, List.append_assoc, List.singleton_append]
  · rw [Effect.bind_run_ok (dial_run hpeers hrefuses host port)]
    rcases hrun : closing (x >>= fun _ => writeFirst packet) (l.dialled peer peers host port) with
      ⟨r, l'⟩
    cases r with
    | ok u =>
      exfalso
      obtain ⟨before, hbefore, -, hsplit⟩ := hread _ l' (closing_eq_ok hrun)
      exact hnone _ _ hsplit hbefore.2
    | error e => exact ⟨e, l', rfl, closing_error hrun⟩
  · rw [Effect.bind_run_ok (dial_run hpeers hrefuses host port)] at hrun
    exact closing_error hrun

end Connection

/-- **Handshakes are transparent.**  After a reply that is a success, whatever the pieces in which
it and the rest come, the reader is left with the rest, and the first packet was written once,
after the reply; after any other reply, and whenever something fails, the handshake raises and
the connection is closed. -/
theorem handshakes_transparent (rt : Runtime) (target : String) (port : ℤ) (packet : List UInt8)
    (params : ProxyParams) :
    Transparent (SocksExchange rt target port params) packet
        (socksOnce rt target port packet params) ∧
      ∀ tlsToProxy, Transparent ConnectHeader packet
        (httpOnce rt target port packet params tlsToProxy) :=
  ⟨transparent_of yields_socksHandshake (fun _ h => consumes_socksHandshake h) _ _,
    fun tlsToProxy => transparent_of (yields_httpHandshake tlsToProxy)
      (fun _ h => ⟨_, consumesIn_httpHandshake h tlsToProxy⟩) _ _⟩

end Routing.Tunnel
