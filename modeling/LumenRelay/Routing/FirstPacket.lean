import LumenRelay.Routing.FailClosed

/-!
# The first packet

A connection that goes through a proxy has got the first packet of the client when the connector
returns it, right after the handshake; a direct connection has got nothing.
-/

namespace Routing

open Lib Py Net Effect

/-- The event uses a connection that is open. -/
def NetEvent.OnConnection : NetEvent → Prop
  | .send _ | .startTls _ => True
  | _ => False

/-- The computation, when it returns, has only used the connection that is open. -/
def Uses {α : Type} (x : Net α) : Prop :=
  ∀ s a s', x s = (.ok a, s') → ∃ es, s'.log = s.log ++ es ∧ ∀ e ∈ es, e.OnConnection

/-- The last connection that was opened was used, and then the packet was sent on it, if there is
one. -/
def OpenedWith (packet : List UInt8) (log : List NetEvent) : Prop :=
  ∃ before host port handshake,
    log = before ++ .dial host port :: handshake ++ (if packet = [] then [] else [.send packet]) ∧
      ∀ e ∈ handshake, e.OnConnection

/-! ## Handshakes -/

section

variable {α β : Type}

lemma uses_pure (a : α) : Uses (pure a : Net α) := by
  rintro s b s' hrun
  obtain ⟨-, rfl⟩ := Prod.mk.inj hrun
  exact ⟨[], (List.append_nil _).symm, nofun⟩

lemma Uses.bind {x : Net α} {f : α → Net β} (hx : Uses x) (hf : ∀ a, Uses (f a)) :
    Uses (x >>= f) := by
  intro s b s' hrun
  obtain ⟨a, s₁, hxrun, hfrun⟩ := Effect.bind_eq_ok hrun
  obtain ⟨es, hes, hon⟩ := hx s a s₁ hxrun
  obtain ⟨es', hes', hon'⟩ := hf a s₁ b s' hfrun
  exact ⟨es ++ es', by rw [hes', hes, List.append_assoc], List.forall_mem_append.mpr ⟨hon, hon'⟩⟩

lemma uses_ite {c : Prop} [Decidable c] {x y : Net α} (hx : Uses x) (hy : Uses y) :
    Uses (if c then x else y) := by
  split
  · exact hx
  · exact hy

lemma uses_emit {e : NetEvent} (h : e.OnConnection) : Uses (emit e) := by
  rintro s a s' hrun
  obtain ⟨-, rfl⟩ := Prod.mk.inj hrun
  exact ⟨[e], rfl, List.forall_mem_singleton.mpr h⟩

lemma uses_receive : Uses receive := by
  rintro s a s' hrun
  unfold receive at hrun
  split at hrun
  all_goals cases hrun
  exact ⟨[], (List.append_nil _).symm, nofun⟩

lemma uses_fail (e : PyErr) : Uses (fail e : Net α) := by
  rintro s a s' hrun
  cases hrun

lemma uses_failIf (c : Prop) [Decidable c] (e : PyErr) : Uses (failIf c e) :=
  uses_ite (uses_fail e) (uses_pure _)

lemma uses_ofExcept (r : Except PyErr α) : Uses (ofExcept r : Net α) := by
  cases r with
  | ok a => exact uses_pure a
  | error e => exact uses_fail e

lemma uses_write (bytes : List UInt8) : Uses (write bytes) :=
  (uses_emit (e := .send bytes) trivial).bind fun _ => uses_receive.bind fun _ => uses_pure _

lemma uses_readExactly (n : ℕ) : Uses (readExactly n) :=
  uses_receive.bind fun _ => (uses_failIf _ _).bind fun _ => uses_pure _

end

lemma uses_startTls (rt : Runtime) (params : ProxyParams) : Uses (startTls rt params) :=
  (uses_emit (e := .startTls _) trivial).bind fun _ => uses_receive.bind fun _ => uses_pure _

lemma uses_readSocksReply : Uses readSocksReply := by
  refine (uses_readExactly 4).bind fun reply => ?_
  split
  · refine (uses_failIf _ _).bind fun _ => ?_
    refine uses_ite ((uses_readExactly 6).bind fun _ => uses_pure _) ?_
    refine uses_ite ((uses_readExactly 18).bind fun _ => uses_pure _) ?_
    refine uses_ite ?_ (uses_fail _)
    exact (uses_readExactly 1).bind fun _ => (uses_readExactly _).bind fun _ => uses_pure _
  · exact uses_fail _

lemma uses_socksAuthenticate (params : ProxyParams) (hasAuth : Bool) (method : UInt8) :
    Uses (socksAuthenticate params hasAuth method) := by
  refine uses_ite ?_ (uses_failIf _ _)
  refine (uses_failIf _ _).bind fun _ => (uses_failIf _ _).bind fun _ => ?_
  exact (uses_write _).bind fun _ => (uses_readExactly 2).bind fun _ => uses_failIf _ _

/-! ## The packet -/

/-- The computation, when it returns, has used the connection that is open, and then sent the
packet, if there is one. -/
def SendsLast (packet : List UInt8) (x : Net Unit) : Prop :=
  ∀ s a s', x s = (.ok a, s') →
    ∃ es, s'.log = s.log ++ es ++ (if packet = [] then [] else [.send packet]) ∧
      ∀ e ∈ es, e.OnConnection

variable {packet : List UInt8}

lemma sendsLast_writeFirst (packet : List UInt8) : SendsLast packet (writeFirst packet) := by
  intro s a s' hrun
  unfold writeFirst at hrun
  by_cases hnil : packet = []
  · rw [if_neg (not_not.mpr hnil)] at hrun
    obtain ⟨-, rfl⟩ := Prod.mk.inj hrun
    exact ⟨[], by simp [hnil], nofun⟩
  · rw [if_pos hnil] at hrun
    obtain ⟨_, s₁, hemit, hrun⟩ := Effect.bind_eq_ok hrun
    obtain ⟨-, rfl⟩ := Prod.mk.inj hemit
    obtain ⟨_, s₂, hreceive, hrun⟩ := Effect.bind_eq_ok hrun
    obtain ⟨-, rfl⟩ := Prod.mk.inj hrun
    have hlog : s₂.log = s.log ++ [.send packet] := by
      unfold receive at hreceive
      split at hreceive
      all_goals cases hreceive
      rfl
    exact ⟨[], by rw [if_neg hnil, hlog, List.append_nil], nofun⟩

lemma SendsLast.after {α : Type} {x : Net α} {f : α → Net Unit} (hx : Uses x)
    (hf : ∀ a, SendsLast packet (f a)) : SendsLast packet (x >>= f) := by
  intro s b s' hrun
  obtain ⟨a, s₁, hxrun, hfrun⟩ := Effect.bind_eq_ok hrun
  obtain ⟨es, hes, hon⟩ := hx s a s₁ hxrun
  obtain ⟨es', hes', hon'⟩ := hf a s₁ b s' hfrun
  refine ⟨es ++ es', ?_, List.forall_mem_append.mpr ⟨hon, hon'⟩⟩
  rw [hes', hes, List.append_assoc s.log]

lemma sendsLast_fail (e : PyErr) : SendsLast packet (fail e) := by
  rintro s a s' hrun
  cases hrun

/-- Closing the connection after a failure does not matter to a computation that returns. -/
lemma closing_ok {α : Type} {x : Net α} {s s' : Wire} {a : α} (h : closing x s = (.ok a, s')) :
    x s = (.ok a, s') := Effect.handle_eq_ok (fun e _ => ⟨e, rfl⟩) h

/-- A connection that was opened, and whose computation sends the packet last. -/
lemma openedWith_dial {host : Option String} {port : Option ℤ} {x : Net Unit} {s s' : Wire} {a : Unit}
    (hx : SendsLast packet x) (h : (dial host port >>= fun _ => closing x) s = (.ok a, s')) :
    OpenedWith packet s'.log := by
  obtain ⟨_, s₁, hdial, hrun⟩ := Effect.bind_eq_ok h
  obtain ⟨_, s₂, hemit, hdial⟩ := Effect.bind_eq_ok hdial
  obtain ⟨-, rfl⟩ := Prod.mk.inj hemit
  obtain ⟨es, hes, hon⟩ := (uses_receive.bind fun _ => uses_pure ()) _ _ _ hdial
  obtain ⟨es', hes', hon'⟩ := hx _ _ _ (closing_ok hrun)
  refine ⟨s.log, host, port, es ++ es', ?_, List.forall_mem_append.mpr ⟨hon, hon'⟩⟩
  rw [hes', hes]
  simp

variable {rt : Runtime} {target : String} {port : ℤ} {params : ProxyParams} {s s' : Wire}

lemma openedWith_socksOnce {a : Unit}
    (h : socksOnce rt target port packet params s = (.ok a, s')) : OpenedWith packet s'.log := by
  refine openedWith_dial ?_ h
  refine .after (uses_write _) fun _ => .after (uses_readExactly 2) fun reply => ?_
  split
  · refine .after (uses_failIf _ _) fun _ => .after (uses_socksAuthenticate _ _ _) fun _ => ?_
    refine .after (uses_ofExcept _) fun _ => .after (uses_write _) fun _ => ?_
    exact .after uses_readSocksReply fun _ => sendsLast_writeFirst packet
  · exact sendsLast_fail _

lemma openedWith_httpOnce {tlsToProxy : Bool} {a : Unit}
    (h : httpOnce rt target port packet params tlsToProxy s = (.ok a, s')) :
    OpenedWith packet s'.log := by
  refine openedWith_dial ?_ h
  refine .after (uses_ite (uses_startTls rt params) (uses_pure ())) fun _ => ?_
  refine .after (uses_write _) fun _ => .after uses_receive fun header => ?_
  refine .after (uses_failIf _ _) fun _ => .after (uses_failIf _ _) fun _ => ?_
  exact sendsLast_writeFirst packet

/-- The attempt that succeeds has opened the last connection. -/
lemma openedWith_httpAttempts {transports : List Bool} {last : PyErr} {a : Unit}
    (h : httpAttempts rt target port packet params transports last s = (.ok a, s')) :
    OpenedWith packet s'.log := by
  induction transports generalizing last s with
  | nil => cases h
  | cons tlsToProxy transports ih =>
    rw [httpAttempts] at h
    rcases Effect.handle_cases h with ⟨b, hrun, -⟩ | ⟨e, s₁, -, h⟩
    · exact openedWith_httpOnce hrun
    · cases e with
      | cancelled => cases h
      | failed e => exact ih h

lemma openedWith_openVia {endpoint : String} {a : Unit}
    (h : openVia rt endpoint target port packet s = (.ok a, s')) : OpenedWith packet s'.log := by
  obtain ⟨params, s₁, -, h⟩ := Effect.bind_eq_ok h
  split at h
  · exact openedWith_socksOnce h
  · exact openedWith_httpAttempts h

lemma openedWith_proxyAttempt {endpoint proxyId : String} {proxied : Bool}
    (h : proxyAttempt rt endpoint target port packet proxyId s = (.ok proxied, s')) :
    OpenedWith packet s'.log := by
  have hrun := Effect.handle_eq_ok (fun e _ => by cases e <;> exact ⟨_, rfl⟩) h
  obtain ⟨_, s₂, hvia, hpure⟩ := Effect.bind_eq_ok hrun
  obtain ⟨-, rfl⟩ := Prod.mk.inj hpure
  exact openedWith_openVia hvia

/-- A dial that succeeds has opened the connection. -/
lemma dial_ok {host : Option String} {port : Option ℤ} {a : Unit} (h : dial host port s = (.ok a, s')) :
    s'.log = s.log ++ [.dial host port] := by
  obtain ⟨_, s₁, hemit, h⟩ := Effect.bind_eq_ok h
  obtain ⟨-, rfl⟩ := Prod.mk.inj hemit
  obtain ⟨_, s₂, hreceive, h⟩ := Effect.bind_eq_ok h
  obtain ⟨-, rfl⟩ := Prod.mk.inj h
  unfold receive at hreceive
  split at hreceive
  all_goals cases hreceive
  rfl

/-- A connection through a proxy has got the packet, and a direct one has got nothing. -/
theorem openOutbound_ok {server : Server} {endpoints : List String} {proxyId : String}
    {script : List Reply} {proxied : Bool}
    (h : openOutbound server target port packet none (some endpoints) proxyId ⟨script, []⟩ =
      (.ok proxied, s')) :
    if proxied then OpenedWith packet s'.log else s'.log = [.dial (some target) (some port)] := by
  unfold openOutbound at h
  dsimp only at h
  rw [Effect.pure_bind_run] at h
  rcases hexact : (endpoints.filter fun e => decide (e ≠ "")).dedup with
    _ | ⟨endpoint, _ | ⟨other, rest⟩⟩
  all_goals rw [hexact] at h
  · obtain ⟨_, s₁, hfail, h⟩ := Effect.bind_eq_ok h
    rw [show linkUsesProxy server.site.rt none = false from rfl, failIf, if_neg (by simp)] at hfail
    obtain ⟨-, rfl⟩ := Prod.mk.inj hfail
    obtain ⟨_, s₂, hdial, h⟩ := Effect.bind_eq_ok h
    obtain ⟨hproxied, rfl⟩ := Prod.mk.inj h
    obtain rfl := Except.ok.inj hproxied
    rw [if_neg (by simp), dial_ok hdial, List.nil_append]
  · obtain rfl := proxyAttempt_ok h
    rw [if_pos rfl]
    exact openedWith_proxyAttempt h
  · cases h

end Routing
