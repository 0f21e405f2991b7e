import LumenRelay.Bot.Effects
import LumenRelay.State.Changes
import LumenRelay.Py.Sample
import LumenRelay.Py.Text

/-!
# Provisioning an order

A paid order of a new service is provisioned by a chain of calls: a group for the customer, a
link in it, the owner of the link, the group again.  Each call changes what is in memory before
its own save, which may raise; the caller then pays back, or lets the order be tried again.
-/

namespace Provision

open Lib Py Routing State Bot

/-! ## The chain of calls -/

/-- The store of the bot, and the panel with what will become of its writes. -/
structure Shop where
  store : Store
  world : World

/-- What one call of `_finish_order` is given: who asked for it, how the order is paid, the
configuration, the clock at its three sections and what will be drawn. -/
structure Attempt where
  reviewerId : Option ℤ
  source : Source
  env : Env
  server : Server
  beganAt : ℤ
  endedAt : ℤ
  subDraw : ℕ
  token : Token
  linkDraw : ℕ

/-- An operation of the panel. -/
def onWorld {α : Type} (x : Effect World PyErr α) : Effect Shop PyErr α := fun s =>
  ((x s.world).1, { s with world := (x s.world).2 })

/-- An edit of the links. -/
def editLinks (f : Dict String Obj → Dict String Obj) : Effect Shop PyErr Unit :=
  Effect.edit fun s =>
    { s with world := { s.world with panel := { s.world.panel with links := f s.world.panel.links } } }

/-- The group of a customer, if there is one. -/
def customerSub (s : Shop) (userId : ℤ) : Option String :=
  ((s.store.users.get? (userKey userId)).bind User.subId).filter fun subId =>
    subId ≠ "" && s.world.panel.subs.contains subId

/-- `create_sub_group` for a customer. -/
def createCustomerSub (a : Attempt) (userId : ℤ) : Effect World PyErr (String × Obj) :=
  perform a.server (createSubGroup a.server a.subDraw a.token
    (.str ("سرویس‌های کاربر " ++ toString userId)) (.str "") (.str ""))

/-- `_ensure_customer_sub`. -/
def ensureCustomerSub (a : Attempt) (userId : ℤ) : Effect Shop PyErr String := do
  match customerSub (← Effect.read) userId with
  | some subId => return subId
  | none =>
    let (subId, _) ← onWorld (createCustomerSub a userId)
    Effect.edit fun s => { s with store := setCustomerSubLocked s.store userId subId }
    return subId

/-- `(base + timedelta(days=days)).isoformat()`; dates end with the year 9999. -/
def daysAfter (rt : Runtime) (base days : ℤ) : Except PyErr String :=
  if 0 ≤ base + days * day ∧ base + days * day ≤ lastInstant then
    .ok (rt.isoformat (base + days * day))
  else .error .overflowError

/-- `user.get("first_name") or str(user_id)`. -/
def labelName (st : Store) (userId : ℤ) : String :=
  match st.users.get? (userKey userId) with
  | some user => if user.firstName ≠ "" then user.firstName else toString userId
  | none => toString userId

/-- What `make_link` is called with for an order. -/
def serviceRequest (a : Attempt) (order : Order) (plan : Plan) (name expiresAt subId : String) :
    LinkRequest where
  label := .str (name ++ " · " ++ plan.quotaLabel ++ "/" ++ toString plan.days ++ "روز")
  limitBytes := plan.quotaBytes
  expiresAt := some expiresAt
  note := .str ("فروش خودکار تلگرام · سفارش " ++ order.id)
  subId := .str subId
  protocol := .str "vless-ws"
  fingerprint := .str defaultFingerprint
  alpn := .str "http/1.1"
  port := defaultPort
  ipLimit := a.env.ipLimit
  speedLimitBytes := 0

/-- What the link of an order says about its owner. -/
def ownerFields (order : Order) (plan : Plan) : List (String × Json) :=
  [("owner_telegram_id", .int order.userId), ("store_order_id", .str order.id),
    ("store_plan_id", .str plan.id), ("store_managed", .bool true)]

/-- The part of `_provision_new` that makes the link: `make_link`, the owner, `set_link_sub` and a
save that does not raise. -/
def makeService (a : Attempt) (r : LinkRequest) (subId : String) (fields : List (String × Json)) :
    Effect Shop PyErr String := do
  let (uid, _) ← onWorld (perform a.server (makeLink a.server a.linkDraw r))
  editLinks fun links => links.modify uid fun link => link.update fields
  let _ ← onWorld (perform a.server (setLinkSub a.server uid (some subId)))
  let _ ← onWorld (saveState a.server false)
  return uid

/-- `_provision_new`. -/
def provisionNew (a : Attempt) (order : Order) : Effect Shop PyErr String := do
  let name := labelName (← Effect.read).store order.userId
  match order.plan with
  | none => Effect.raise .typeError
  | some plan =>
    let expiresAt ← Effect.lift (daysAfter a.server.site.rt a.server.now plan.days)
    let subId ← ensureCustomerSub a order.userId
    makeService a (serviceRequest a order plan name expiresAt subId) subId (ownerFields order plan)

/-- The instant at which a service ends. -/
def serviceEnd (rt : Runtime) (now : ℤ) (link : Obj) : ℤ :=
  match link.get "expires_at" with
  | .str text => if text = "" then now else (rt.fromisoformat text).getD now
  | _ => now

/-- The fields of a link that a renewal assigns. -/
def renewal (a : Attempt) (order : Order) (link : Obj) : Except PyErr (List (String × Json)) := do
  let rt := a.server.site.rt
  let now := a.server.now
  let oldLimit ← ((link.getD "limit_bytes" (.int 0)).or (.int 0)).toInt rt
  let oldUsed ← ((link.getD "used_bytes" (.int 0)).or (.int 0)).toInt rt
  match order.plan with
  | none => throw .typeError
  | some plan =>
    let expiresAt ← daysAfter rt (max now (serviceEnd rt now link)) plan.days
    return [("limit_bytes", .int (max 0 (oldLimit - oldUsed) + plan.quotaBytes)),
      ("used_bytes", .int 0), ("expires_at", .str expiresAt), ("active", .bool true),
      ("protocol", .str "vless-ws"), ("fingerprint", .str defaultFingerprint),
      ("alpn", .str "http/1.1"), ("port", .int defaultPort), ("store_order_id", .str order.id),
      ("store_plan_id", .str plan.id), ("store_managed", .bool true)]

/-- The link that an order renews: one of its customer. -/
def renewedLink (rt : Runtime) (links : Dict String Obj) (order : Order) : Option (String × Obj) :=
  (order.serviceId.bind fun uid => (links.get? uid).map fun link => (uid, link)).filter fun service =>
    !service.2.isEmpty &&
      decide ((service.2.getD "owner_telegram_id" (.str "")).toStr rt = toString order.userId)

/-- `_provision_renew`. -/
def provisionRenew (a : Attempt) (order : Order) : Effect Shop PyErr String := do
  match renewedLink a.server.site.rt (← Effect.read).world.panel.links order with
  | none => Effect.raise (.valueError "service not found or ownership mismatch")
  | some (uid, link) =>
    let fields ← Effect.lift (renewal a order link)
    editLinks fun links => links.modify uid fun link => link.update fields
    let _ ← onWorld (saveState a.server false)
    return uid

/-- The part of `_finish_order` that may raise. -/
def deliver (a : Attempt) (order : Order) : Effect Shop PyErr (Option String) :=
  match order.kind with
  | .wallet => do
    Effect.edit fun s => { s with store := creditWalletLocked s.store order }
    return none
  | .new => do return some (← provisionNew a order)
  | .renew => do return some (← provisionRenew a order)
  | .other _ => Effect.raise (.valueError "unknown order kind")

/-- What `_finish_order` answers: `None` and an error, the order and an error, or the order. -/
inductive Answer
  | failed (message : String)
  | already (message : String)
  | delivered
deriving DecidableEq

/-- `_finish_order`. -/
def finishOrder (a : Attempt) (oid : String) (s : Shop) : Answer × Shop :=
  let rt := a.server.site.rt
  match finishBeginLocked rt a.beganAt s.store oid a.reviewerId a.source with
  | (st, .refused message) => (.failed message, { s with store := st })
  | (st, .already message) => (.already message, { s with store := st })
  | (st, .started order) =>
    match deliver a order { s with store := st } with
    | (.ok serviceId, s) =>
      (.delivered, { s with store := approveLocked rt a.endedAt s.store oid serviceId })
    | (.error e, s) =>
      (.failed "ساخت یا تمدید سرویس ناموفق بود؛ مبلغ کیف پول برگشت داده شد.",
        { s with store := rollbackLocked s.store oid a.source (errorText e) })

/-! ## All or nothing -/

/-- The links are as they were, and a group is as it was or is empty. -/
def NothingLeft (p p' : Panel) : Prop :=
  p'.links = p.links ∧ ∀ s, p'.subs.get? s = p.subs.get? s ∨
    ∃ sub, p'.subs.get? s = some sub ∧ memberIds sub = .arr []

/-- `_finish_order` returns a failure. -/
def Fails (a : Attempt) (oid : String) (s : Shop) : Prop :=
  ∃ message, (finishOrder a oid s).1 = .failed message

/-- Exactly one service was made, or one was renewed once, for an order. -/
def DeliveredOnce (a : Attempt) (order : Order) (p p' : Panel) : Prop :=
  match order.kind with
  | .new => ∃ uid link, p.links.get? uid = none ∧ p'.links = p.links.set uid link ∧
      link.get "store_order_id" = .str order.id
  | .renew => ∃ uid link fields, order.serviceId = some uid ∧ p.links.get? uid = some link ∧
      renewal a order link = .ok fields ∧ p'.links = p.links.set uid (link.update fields)
  | _ => p'.links = p.links

/-- The shop after some attempts at an order. -/
def after (oid : String) (attempts : List Attempt) (s : Shop) : Shop :=
  attempts.foldl (fun s a => (finishOrder a oid s).2) s

/-- A property of all attempts, each with the shop that it finds. -/
def EachAttempt (oid : String) (P : Attempt → Shop → Prop) (attempts : List Attempt) (s : Shop) : Prop :=
  ∀ done a rest, attempts = done ++ a :: rest → P a (after oid done s)

/-- A failed attempt leaves nothing behind; and when one succeeds after others have failed, the
order was delivered once. -/
def AllOrNothing (oid : String) (attempts : List Attempt) (s : Shop) : Prop :=
  EachAttempt oid (fun a s => Fails a oid s →
    NothingLeft s.world.panel (finishOrder a oid s).2.world.panel) attempts s ∧
  ∀ failed a order, attempts = failed ++ [a] → s.store.orders.get? oid = some order →
    EachAttempt oid (fun a s => Fails a oid s) failed s →
    (finishOrder a oid (after oid failed s)).1 = .delivered →
    DeliveredOnce a order s.world.panel (after oid attempts s).world.panel

/-! ## The condition -/

/-- A new link is in memory, but its group has no list that it can be written to, or one of the
two strict saves that follow raises. -/
def LinkStranded (server : Server) (w : World) (uid subId : String) (link owned : Obj) : Prop :=
  ∀ subs₁ subs₂ subs₃, EditsSub (.str subId) (listLink uid) w.panel.subs subs₁ →
    EditsSub (.str subId) (unlistLink uid) subs₁ subs₂ →
    EditsSub (.str subId) (listLink uid) subs₂ subs₃ →
    saveRaises server
      ⟨{ w.panel with links := w.panel.links.set uid link, subs := subs₁ }, w.writes⟩ = true ∨
    saveRaises server
      ⟨{ w.panel with links := w.panel.links.set uid owned, subs := subs₃ }, w.writes.tail⟩ = true

/-- An order of a new service gets as far as its link, which is then stranded. -/
def Strands (oid : String) (a : Attempt) (s : Shop) : Prop :=
  ∃ st order plan expiresAt subId s₁ uid link,
    finishBeginLocked a.server.site.rt a.beganAt s.store oid a.reviewerId a.source =
      (st, .started order) ∧
    order.kind = .new ∧ order.plan = some plan ∧
    daysAfter a.server.site.rt a.server.now plan.days = .ok expiresAt ∧
    ensureCustomerSub a order.userId { s with store := st } = (.ok subId, s₁) ∧
    prepareLink a.server a.linkDraw s₁.world.panel
      (serviceRequest a order plan (labelName st order.userId) expiresAt subId) = .ok (uid, link) ∧
    LinkStranded a.server s₁.world uid subId link (link.update (ownerFields order plan))

/-! ## Making a link and moving it -/

lemma onWorld_run {α : Type} {x : Effect World PyErr α} {s : Shop} {r : Except PyErr α} {w : World}
    (h : x s.world = (r, w)) : onWorld x s = (r, { s with world := w }) := by
  unfold onWorld
  rw [h]

variable {server : Server} {p p' : Panel}

/-- A group that is edited as a relation says is edited by the code. -/
lemma onSub_of_edits {s : String} {f : Obj → Except PyErr Obj} {subs : Dict String Obj}
    (h : EditsSub (.str s) f p.subs subs) : onSub (.str s) f p = (.ok (), { p with subs := subs }) := by
  unfold onSub
  cases h with
  | same hno =>
    by_cases hs : s = ""
    · rw [if_neg (by simp [Json.truthy, hs])]
      rfl
    · rw [if_pos (truthy_str_iff.mpr hs), Effect.read_bind_run, findSub, Effect.lift_ok_bind_run,
        hno s rfl hs]
      rfl
  | edit hkey hs hsub hf =>
    obtain rfl := Json.str.inj hkey
    rw [if_pos (truthy_str_iff.mpr hs), Effect.read_bind_run, findSub, Effect.lift_ok_bind_run, hsub,
      Option.map_some]
    dsimp only
    rw [hf, Effect.lift_ok_bind_run]
    rfl

lemma contains_of_edits {key : Json} {s : String} {f : Obj → Except PyErr Obj}
    {subs subs' : Dict String Obj} (h : EditsSub key f subs subs') (hs : subs.contains s = true) :
    subs'.contains s = true := by
  cases h with
  | same _ => exact hs
  | @edit t _ sub' _ _ _ _ =>
    obtain ⟨sub, hsub⟩ := Dict.contains_iff.mp hs
    refine Dict.contains_iff.mpr ?_
    rw [Dict.get?_set]
    split
    · exact ⟨sub', rfl⟩
    · exact ⟨sub, hsub⟩

/-- Editing a group does not touch the links. -/
lemma keeps_onSub (P : Dict String Obj → Prop) (key : Json) (f : Obj → Except PyErr Obj) :
    Effect.Keeps (fun p : Panel => P p.links) (onSub key f) := by
  unfold onSub
  refine Effect.keeps_ite (Effect.keeps_read.bind fun _ => (Effect.keeps_lift _).bind ?_)
    (Effect.keeps_pure ())
  rintro (_ | ⟨t, sub⟩)
  · exact Effect.keeps_pure ()
  · exact (Effect.keeps_lift _).bind fun _ => Effect.keeps_edit fun _ hp => hp

/-- A link that is in memory stays there while it is moved. -/
lemma keeps_setLinkSub (uid : String) (subId : Option String) :
    Effect.Keeps (fun p : Panel => p.links.contains uid = true) (setLinkSub server uid subId) := by
  unfold setLinkSub
  refine Effect.keeps_read.bind fun p => ?_
  split
  · exact Effect.keeps_pure _
  · exact Effect.keeps_pure _
  · dsimp only
    split
    · exact Effect.keeps_pure _
    · exact Effect.keeps_raise _
    · have hsub := keeps_onSub fun links => links.contains uid = true
      have hupdate : Effect.Keeps (fun p : Panel => p.links.contains uid = true)
          (updateFields uid [("sub_id", subKey subId)]) := by
        refine Effect.keeps_edit fun p hp => ?_
        rw [Dict.contains_modify]
        exact hp
      exact (hsub _ _).bind fun _ => (hsub _ _).bind fun _ =>
        hupdate.bind fun _ => Effect.keeps_pure _

/-- A link whose record could be made is in memory afterwards, also when `make_link` raises. -/
lemma contains_makeLink {draw : ℕ} {r : LinkRequest} {uid : String} {link : Obj}
    (hprep : prepareLink server draw p r = .ok (uid, link)) :
    (makeLink server draw r p).2.links.contains uid = true := by
  unfold makeLink
  rw [Effect.read_bind_run, hprep, Effect.lift_ok_bind_run]
  dsimp only
  rw [putLink, Effect.edit_bind_run]
  refine (keeps_onSub (fun links => links.contains uid = true) _ _).bind
    (fun _ => Effect.keeps_pure _) _ ?_
  exact Dict.contains_iff.mpr ⟨link, Dict.get?_set_self ..⟩

lemma makeLink_of_edits {draw : ℕ} {r : LinkRequest} {uid subId : String} {link : Obj}
    {subs : Dict String Obj} (hsub : r.subId = .str subId)
    (hprep : prepareLink server draw p r = .ok (uid, link))
    (hedit : EditsSub (.str subId) (listLink uid) p.subs subs) :
    makeLink server draw r p =
      (.ok (.save (uid, link)), { p with links := p.links.set uid link, subs := subs }) := by
  unfold makeLink
  rw [Effect.read_bind_run, hprep, Effect.lift_ok_bind_run]
  dsimp only
  rw [putLink, Effect.edit_bind_run, hsub]
  rw [Effect.bind_run_ok (onSub_of_edits (p := { p with links := p.links.set uid link }) hedit)]
  rfl

/-- A link that is not of Raw TCP may be in any group. -/
lemma validate_of_protocol {site : Site} {link : Obj} {ml : Json}
    (h : link.getD "protocol" (.str defaultProtocol) ≠ .str "vless-tcp") :
    validateRawTcpMultiLocation site (some link) ml = .ok () := by
  cases ml with
  | obj o => exact if_pos (.inl h)
  | _ => rfl

lemma setLinkSub_of_edits (server : Server) {uid subId : String} {link : Obj} {subs₁ subs₂ : Dict String Obj}
    (hlink : p.links.get? uid = some link) (hsub : p.subs.contains subId = true)
    (hprotocol : link.getD "protocol" (.str defaultProtocol) ≠ .str "vless-tcp")
    (hold : link.find "sub_id" = some (.str subId))
    (h₁ : EditsSub (.str subId) (unlistLink uid) p.subs subs₁)
    (h₂ : EditsSub (.str subId) (listLink uid) subs₁ subs₂) :
    setLinkSub server uid (some subId) p = (.ok (.save true), { p with subs := subs₂ }) := by
  obtain ⟨sub, hget⟩ := Dict.contains_iff.mp hsub
  unfold setLinkSub
  rw [Effect.read_bind_run, hlink]
  simp only [Option.elim_some, hget, Option.map_some]
  rw [validate_of_protocol hprotocol]
  dsimp only
  rw [get_of_find hold, Effect.bind_run_ok (onSub_of_edits h₁)]
  have h₂ : EditsSub (.str subId) (listLink uid) ({ p with subs := subs₁ } : Panel).subs subs₂ := h₂
  rw [subKey, Option.elim_some, Effect.bind_run_ok (onSub_of_edits h₂)]
  rw [Effect.bind_run_ok (updateFields_run (p := { p with subs := subs₂ }) hlink _ _)]
  rw [set_eq_self_iff.mpr hold, Dict.set_eq_self_iff.mpr hlink]
  rfl

lemma makeLink_not_done {draw : ℕ} {r : LinkRequest} {made : String × Obj} :
    makeLink server draw r p ≠ (.ok (.done made), p') := by
  intro h
  unfold makeLink at h
  rw [Effect.read_bind_run] at h
  obtain ⟨_, -, h⟩ := Effect.lift_bind_eq_ok h
  obtain ⟨_, _, -, h⟩ := Effect.bind_eq_ok h
  obtain ⟨_, _, -, h⟩ := Effect.bind_eq_ok h
  cases h

/-- With such a link `set_link_sub` does not end without a save. -/
lemma setLinkSub_not_done {uid subId : String} {link : Obj} {b : Bool}
    (hlink : p.links.get? uid = some link) (hsub : p.subs.contains subId = true)
    (hprotocol : link.getD "protocol" (.str defaultProtocol) ≠ .str "vless-tcp") :
    setLinkSub server uid (some subId) p ≠ (.ok (.done b), p') := by
  obtain ⟨sub, hget⟩ := Dict.contains_iff.mp hsub
  intro h
  unfold setLinkSub at h
  rw [Effect.read_bind_run, hlink] at h
  simp only [Option.elim_some, hget, Option.map_some] at h
  rw [validate_of_protocol hprotocol] at h
  dsimp only at h
  obtain ⟨_, p₁, -, h⟩ := Effect.bind_eq_ok h
  obtain ⟨_, p₂, -, h⟩ := Effect.bind_eq_ok h
  obtain ⟨_, p₃, -, h⟩ := Effect.bind_eq_ok h
  cases h

/-! ## The record of a service -/

lemma find_update_ne {key : String} {fields : List (String × Json)}
    (hkey : key ∉ fields.map Prod.fst) (link : Obj) : (link.update fields).find key = link.find key := by
  induction fields generalizing link with
  | nil => rfl
  | cons e fields ih =>
    simp only [List.map_cons, List.mem_cons, not_or] at hkey
    exact (ih hkey.2 _).trans (find_set_ne hkey.1 link e.2)

/-- A new link of WebSocket names its transport. -/
lemma prepareLink_protocol {draw : ℕ} {r : LinkRequest} {uid : String} {link : Obj}
    (hr : r.protocol = .str "vless-ws") (h : prepareLink server draw p r = .ok (uid, link)) :
    link.find "protocol" = some (.str "vless-ws") := by
  obtain ⟨protocol, settings, hvalid, hcases⟩ := prepareLink_cases h
  obtain rfl : protocol = "vless-ws" := by
    unfold Transports.validate at hvalid
    obtain ⟨adapter, hget, hvalid⟩ := bind_eq_ok hvalid
    obtain ⟨_, -, hvalid⟩ := bind_eq_ok hvalid
    obtain ⟨_, -, hvalid⟩ := bind_eq_ok hvalid
    obtain ⟨rfl, -⟩ := Prod.mk.inj (Except.ok.inj hvalid)
    have hws : Transports.get server.site (.str "vless-ws") = .ok adapter := hr ▸ hget
    unfold Transports.get at hws
    rw [Json.text_str, show strip "vless-ws" = "vless-ws" by decide] at hws
    dsimp only at hws
    split at hws
    · rename_i found hfound
      obtain rfl := Except.ok.inj hws
      simpa using List.find?_some hfound
    · cases hws
  obtain ⟨hraw, -⟩ | ⟨-, hnew⟩ := hcases
  · exact absurd hraw (by decide)
  · obtain ⟨-, _, _, _, _, -, -, -, hrecord⟩ := newLink_ok hnew
    unfold linkRecord at hrecord
    obtain ⟨_, -, hrecord⟩ := bind_eq_ok hrecord
    obtain ⟨_, -, hrecord⟩ := bind_eq_ok hrecord
    obtain ⟨_, -, hrecord⟩ := bind_eq_ok hrecord
    obtain ⟨_, -, hrecord⟩ := bind_eq_ok hrecord
    obtain rfl := Except.ok.inj hrecord
    rfl

/-- What a request of a service is like. -/
structure IsService (r : LinkRequest) (subId : String) (fields : List (String × Json)) : Prop where
  protocol : r.protocol = .str "vless-ws"
  subId : r.subId = .str subId
  fields : "protocol" ∉ fields.map Prod.fst ∧ "sub_id" ∉ fields.map Prod.fst

variable {a : Attempt} {r : LinkRequest} {subId uid : String} {fields : List (String × Json)}
  {link : Obj} {s s' : Shop}

lemma makeService_refused {e : PyErr}
    (hprep : prepareLink a.server a.linkDraw s.world.panel r = .error e) :
    makeService a r subId fields s = (.error e, s) := by
  unfold makeService
  refine Effect.bind_run_error ?_
  unfold onWorld perform makeLink
  rw [Effect.read_bind_run, hprep, Effect.lift_error_bind_run]

/-- The link of a service is one of WebSocket, in the group it was asked for. -/
lemma service_record (h : IsService r subId fields)
    (hprep : prepareLink a.server a.linkDraw s.world.panel r = .ok (uid, link)) :
    (link.update fields).getD "protocol" (.str defaultProtocol) ≠ .str "vless-tcp" ∧
      (link.update fields).find "sub_id" = some (.str subId) := by
  have hprotocol : (link.update fields).find "protocol" = some (.str "vless-ws") :=
    (find_update_ne h.fields.1 link).trans (prepareLink_protocol h.protocol hprep)
  constructor
  · unfold Obj.find at hprotocol
    rw [Obj.getD, hprotocol]
    decide
  · rw [find_update_ne h.fields.2, (prepareLink_ok hprep).2, h.subId]

/-- A link that is not stranded makes a service. -/
lemma makeService_delivered (h : IsService r subId fields)
    (hsub : s.world.panel.subs.contains subId = true)
    (hprep : prepareLink a.server a.linkDraw s.world.panel r = .ok (uid, link))
    (hkept : ¬ LinkStranded a.server s.world uid subId link (link.update fields)) :
    ∃ s', makeService a r subId fields s = (.ok uid, s') ∧ s'.store = s.store ∧
      s'.world.panel.links = s.world.panel.links.set uid (link.update fields) := by
  unfold LinkStranded at hkept
  push Not at hkept
  obtain ⟨subs₁, subs₂, subs₃, h₁, h₂, h₃, hsaved₁, hsaved₂⟩ := hkept
  obtain ⟨hprotocol, hgroup⟩ := service_record h hprep
  have hcontains₁ : subs₁.contains subId = true := contains_of_edits h₁ hsub
  have hmake := makeLink_of_edits h.subId hprep h₁
  have hset := setLinkSub_of_edits a.server
    (p := { s.world.panel with
      links := s.world.panel.links.set uid (link.update fields), subs := subs₁ })
    (Dict.get?_set_self ..) hcontains₁ hprotocol hgroup h₂ h₃
  unfold makeService
  rw [Effect.bind_run_ok (onWorld_run (perform_saved hmake hsaved₁))]
  dsimp only
  rw [editLinks, Effect.edit_bind_run]
  dsimp only
  rw [Dict.modify_of_some (Dict.get?_set_self ..), Dict.set_set,
    Effect.bind_run_ok (onWorld_run (perform_saved hset hsaved₂)), Effect.bind_run,
    onWorld_run (saveState_run ..), Bool.and_false, if_neg (by simp)]
  exact ⟨_, rfl, rfl, rfl⟩

/-- A link that is stranded stays in memory, and the service is not made. -/
lemma makeService_stranded (h : IsService r subId fields)
    (hsub : s.world.panel.subs.contains subId = true)
    (hprep : prepareLink a.server a.linkDraw s.world.panel r = .ok (uid, link))
    (hstranded : LinkStranded a.server s.world uid subId link (link.update fields)) :
    ∃ e s', makeService a r subId fields s = (.error e, s') ∧
      s'.world.panel.links.contains uid = true := by
  obtain ⟨hprotocol, hgroup⟩ := service_record h hprep
  unfold makeService
  rw [Effect.bind_run]
  rcases hmake : perform a.server (makeLink a.server a.linkDraw r) s.world with ⟨e | made, w₁⟩
  · -- the group has no list, or the first save raised
    rw [onWorld_run hmake]
    refine ⟨e, _, rfl, ?_⟩
    have hpanel : (perform a.server (makeLink a.server a.linkDraw r) s.world).2.panel =
        (makeLink a.server a.linkDraw r s.world.panel).2 := perform_panel ..
    rw [hmake] at hpanel
    dsimp only at hpanel ⊢
    rw [hpanel]
    exact contains_makeLink hprep
  · rw [onWorld_run hmake]
    rcases perform_ok hmake with ⟨hdone, -⟩ | ⟨p₁, hsave, hsaved₁, rfl⟩
    · exact absurd hdone makeLink_not_done
    obtain ⟨hprep', subs₁, h₁, rfl⟩ := makeLink_save hsave
    obtain rfl := Except.ok.inj (hprep'.symm.trans hprep)
    rw [h.subId] at h₁
    dsimp only at hsaved₁ ⊢
    rw [editLinks, Effect.edit_bind_run]
    dsimp only
    rw [Dict.modify_of_some (Dict.get?_set_self ..), Dict.set_set, Effect.bind_run]
    rcases hset : perform a.server (setLinkSub a.server uid (some subId))
      ⟨{ s.world.panel with
        links := s.world.panel.links.set uid (link.update fields), subs := subs₁ },
        s.world.writes.tail⟩ with ⟨e | moved, w₂⟩
    · -- the second save raised
      rw [onWorld_run hset]
      refine ⟨e, _, rfl, ?_⟩
      have hpanel : (perform a.server (setLinkSub a.server uid (some subId)) _).2.panel =
          (setLinkSub a.server uid (some subId) _).2 := perform_panel _ ⟨{ s.world.panel with
            links := s.world.panel.links.set uid (link.update fields), subs := subs₁ },
            s.world.writes.tail⟩
      rw [hset] at hpanel
      dsimp only at hpanel ⊢
      rw [hpanel]
      refine keeps_setLinkSub uid (some subId) _ ?_
      exact Dict.contains_iff.mpr ⟨_, Dict.get?_set_self ..⟩
    · -- both saves went through
      exfalso
      rcases perform_ok hset with ⟨hdone, -⟩ | ⟨p₂, hsave₂, hsaved₂, -⟩
      · exact setLinkSub_not_done (Dict.get?_set_self ..) (contains_of_edits h₁ hsub) hprotocol hdone
      · obtain ⟨link', subs₂, subs₃, hlink', -, h₂, h₃, rfl⟩ := setLinkSub_save hsave₂
        rw [Dict.get?_set_self] at hlink'
        obtain rfl := Option.some.inj hlink'
        rw [get_of_find hgroup] at h₂
        dsimp only at hsaved₂
        rw [Dict.set_set, show subKey (some subId) = .str subId from rfl,
          set_eq_self_iff.mpr hgroup] at hsaved₂
        rcases hstranded subs₁ subs₂ subs₃ h₁ h₂ h₃ with hraises | hraises
        · rw [hraises] at hsaved₁
          cases hsaved₁
        · rw [hraises] at hsaved₂
          cases hsaved₂

/-! ## The group of the customer -/

lemma NothingLeft.refl (p : Panel) : NothingLeft p p := ⟨rfl, fun _ => .inl rfl⟩

lemma nothingLeft_set (p : Panel) (subId : String) {sub : Obj} (hsub : memberIds sub = .arr []) :
    NothingLeft p { p with subs := p.subs.set subId sub } := by
  refine ⟨rfl, fun t => ?_⟩
  dsimp only
  rw [Dict.get?_set]
  split
  · exact .inr ⟨sub, rfl, hsub⟩
  · exact .inl rfl

/-- `create_sub_group` raises before it changes anything, or it adds an empty group. -/
lemma createSubGroup_cases (server : Server) (draw : ℕ) (token : Token) (name desc password : Json) (p : Panel) :
    (∃ e, createSubGroup server draw token name desc password p = (.error e, p)) ∨
      ∃ subId sub, memberIds sub = .arr [] ∧
        createSubGroup server draw token name desc password p =
          (.ok (.save (subId, sub)), { p with subs := p.subs.set subId sub }) := by
  unfold createSubGroup
  cases cutText 60 (name.or (.str "گروه جدید")) with
  | error e => exact .inl ⟨e, rfl⟩
  | ok n =>
    cases cutText 200 (desc.or (.str "")) with
    | error e => exact .inl ⟨e, rfl⟩
    | ok d =>
      cases stripText (password.or (.str "")) with
      | error e => exact .inl ⟨e, rfl⟩
      | ok w => exact .inr ⟨_, _, rfl, rfl⟩

/-- Looking for the group of a customer leaves at most an empty group behind, and finds one. -/
lemma ensureCustomerSub_spec (a : Attempt) (userId : ℤ) (s : Shop) :
    NothingLeft s.world.panel (ensureCustomerSub a userId s).2.world.panel ∧
      ∀ subId s', ensureCustomerSub a userId s = (.ok subId, s') →
        s'.world.panel.subs.contains subId = true := by
  unfold ensureCustomerSub
  rw [Effect.read_bind_run]
  cases hfound : customerSub s userId with
  | some subId =>
    refine ⟨NothingLeft.refl _, ?_⟩
    intro subId' s' h
    obtain ⟨hid, rfl⟩ := Prod.mk.inj h
    obtain rfl := Except.ok.inj hid
    have hknown := (Option.filter_eq_some_iff.mp hfound).2
    simp only [Bool.and_eq_true] at hknown
    exact hknown.2
  | none =>
    dsimp only
    rw [Effect.bind_run]
    rcases hcreate : createCustomerSub a userId s.world with ⟨e | ⟨subId, sub⟩, w⟩
    · -- the group stays when its save has raised
      rw [onWorld_run hcreate]
      have hpanel : (createCustomerSub a userId s.world).2.panel = (createSubGroup a.server a.subDraw
          a.token (.str ("سرویس‌های کاربر " ++ toString userId)) (.str "") (.str "")
          s.world.panel).2 := perform_panel ..
      rw [hcreate] at hpanel
      refine ⟨?_, fun _ _ h => by cases h⟩
      change NothingLeft s.world.panel w.panel
      rw [hpanel]
      rcases createSubGroup_cases a.server a.subDraw a.token
        (.str ("سرویس‌های کاربر " ++ toString userId)) (.str "") (.str "") s.world.panel with
        ⟨e', hrun⟩ | ⟨subId, sub, hsub, hrun⟩
      · rw [hrun]
        exact NothingLeft.refl _
      · rw [hrun]
        exact nothingLeft_set _ subId hsub
    · rw [onWorld_run hcreate]
      rcases createSubGroup_cases a.server a.subDraw a.token
        (.str ("سرویس‌های کاربر " ++ toString userId)) (.str "") (.str "") s.world.panel with
        ⟨e', hrun⟩ | ⟨subId', sub', hsub, hrun⟩
      · rcases perform_ok hcreate with ⟨hdone, -⟩ | ⟨p', hsave, -⟩
        · cases hrun.symm.trans hdone
        · cases hrun.symm.trans hsave
      · rcases perform_ok hcreate with ⟨hdone, -⟩ | ⟨p', hsave, -, rfl⟩
        · cases hrun.symm.trans hdone
        · obtain ⟨hmade, rfl⟩ := Prod.mk.inj (hrun.symm.trans hsave)
          cases hmade
          refine ⟨nothingLeft_set _ subId hsub, fun _ _ h => ?_⟩
          obtain ⟨hid, rfl⟩ := Prod.mk.inj h
          obtain rfl := Except.ok.inj hid
          exact Dict.contains_iff.mpr ⟨sub, Dict.get?_set_self ..⟩

/-! ## Delivery -/

lemma isService_serviceRequest (a : Attempt) (order : Order) (plan : Plan)
    (name expiresAt subId : String) :
    IsService (serviceRequest a order plan name expiresAt subId) subId (ownerFields order plan) :=
  ⟨rfl, rfl, by
    change "protocol" ∉ (["owner_telegram_id", "store_order_id", "store_plan_id", "store_managed"] : List String) ∧
      "sub_id" ∉ (["owner_telegram_id", "store_order_id", "store_plan_id", "store_managed"] : List String)
    decide⟩

/-- The link of an order of a new service, when it gets that far, and whether it is stranded. -/
def NewLink (a : Attempt) (order : Order) (s : Shop) (plan : Plan) (uid subId : String) (link : Obj)
    (s₁ : Shop) : Prop :=
  ∃ expiresAt, order.plan = some plan ∧
    daysAfter a.server.site.rt a.server.now plan.days = .ok expiresAt ∧
    ensureCustomerSub a order.userId s = (.ok subId, s₁) ∧
    prepareLink a.server a.linkDraw s₁.world.panel
      (serviceRequest a order plan (labelName s.store order.userId) expiresAt subId) = .ok (uid, link)

variable {order : Order} {plan : Plan}

lemma provisionNew_none (hplan : order.plan = none) (s : Shop) :
    provisionNew a order s = (.error .typeError, s) := by
  unfold provisionNew
  rw [Effect.read_bind_run, hplan]
  rfl

lemma provisionNew_some (hplan : order.plan = some plan) (s : Shop) :
    provisionNew a order s = (Effect.lift (daysAfter a.server.site.rt a.server.now plan.days) >>=
      fun expiresAt => ensureCustomerSub a order.userId >>= fun subId => makeService a
        (serviceRequest a order plan (labelName s.store order.userId) expiresAt subId) subId
        (ownerFields order plan)) s := by
  unfold provisionNew
  rw [Effect.read_bind_run, hplan]

/-- `_provision_new` ends before it has made a link, and leaves nothing, or it makes one. -/
lemma provisionNew_cases (a : Attempt) (order : Order) (s : Shop) :
    (∃ e s', provisionNew a order s = (.error e, s') ∧ NothingLeft s.world.panel s'.world.panel ∧
      ∀ plan uid subId link s₁, ¬ NewLink a order s plan uid subId link s₁) ∨
    ∃ plan uid subId link s₁ expiresAt, NewLink a order s plan uid subId link s₁ ∧
      s₁.world.panel.links = s.world.panel.links ∧
      s₁.world.panel.subs.contains subId = true ∧
      prepareLink a.server a.linkDraw s₁.world.panel
        (serviceRequest a order plan (labelName s.store order.userId) expiresAt subId) =
          .ok (uid, link) ∧
      provisionNew a order s = makeService a
        (serviceRequest a order plan (labelName s.store order.userId) expiresAt subId) subId
        (ownerFields order plan) s₁ := by
  cases hplan : order.plan with
  | none =>
    refine .inl ⟨_, s, provisionNew_none hplan s, NothingLeft.refl _, ?_⟩
    rintro plan uid subId link s₁ ⟨expiresAt, hsome, -⟩
    cases hplan.symm.trans hsome
  | some plan =>
    rw [provisionNew_some hplan]
    cases hexpires : daysAfter a.server.site.rt a.server.now plan.days with
    | error e =>
      refine .inl ⟨_, s, rfl, NothingLeft.refl _, ?_⟩
      rintro plan' uid subId link s₁ ⟨expiresAt, hsome, hok, -⟩
      obtain rfl := Option.some.inj (hplan.symm.trans hsome)
      cases hexpires.symm.trans hok
    | ok expiresAt =>
      rw [Effect.lift_ok_bind_run, Effect.bind_run]
      have hspec := ensureCustomerSub_spec a order.userId s
      rcases hensure : ensureCustomerSub a order.userId s with ⟨e | subId, s₁⟩
      · rw [hensure] at hspec
        refine .inl ⟨e, s₁, rfl, hspec.1, ?_⟩
        rintro plan' uid subId link s₂ ⟨expiresAt', -, -, hok, -⟩
        cases hensure.symm.trans hok
      · rw [hensure] at hspec
        dsimp only
        cases hprep : prepareLink a.server a.linkDraw s₁.world.panel
            (serviceRequest a order plan (labelName s.store order.userId) expiresAt subId) with
        | error e =>
          refine .inl ⟨e, s₁, makeService_refused hprep, hspec.1, ?_⟩
          rintro plan' uid subId' link s₂ ⟨expiresAt', hsome, hexpires', hok, hprep'⟩
          obtain rfl := Option.some.inj (hplan.symm.trans hsome)
          obtain rfl := Except.ok.inj (hexpires.symm.trans hexpires')
          obtain ⟨hid, rfl⟩ := Prod.mk.inj (hensure.symm.trans hok)
          obtain rfl := Except.ok.inj hid
          cases hprep.symm.trans hprep'
        | ok made =>
          obtain ⟨uid, link⟩ := made
          exact .inr ⟨plan, uid, subId, link, s₁, expiresAt, ⟨expiresAt, hplan, hexpires, hensure, hprep⟩,
            hspec.1.1, hspec.2 subId s₁ rfl, hprep, rfl⟩

/-- `_provision_renew` leaves the panel as it is, or it renews the link that the order names. -/
lemma provisionRenew_cases (a : Attempt) (order : Order) (s : Shop) :
    (∃ e, provisionRenew a order s = (.error e, s)) ∨
    ∃ uid link fields s', provisionRenew a order s = (.ok uid, s') ∧ order.serviceId = some uid ∧
      s.world.panel.links.get? uid = some link ∧ renewal a order link = .ok fields ∧
      s'.world.panel.links = s.world.panel.links.set uid (link.update fields) := by
  unfold provisionRenew
  rw [Effect.read_bind_run]
  cases hservice : renewedLink a.server.site.rt s.world.panel.links order with
  | none => exact .inl ⟨_, rfl⟩
  | some service =>
    obtain ⟨uid, link⟩ := service
    obtain ⟨hfound, -⟩ := Option.filter_eq_some_iff.mp hservice
    obtain ⟨uid', hid, hmap⟩ := Option.bind_eq_some_iff.mp hfound
    obtain ⟨link', hlink, heq⟩ := Option.map_eq_some_iff.mp hmap
    obtain ⟨rfl, rfl⟩ := Prod.mk.inj heq
    dsimp only
    cases hfields : renewal a order link' with
    | error e => exact .inl ⟨e, rfl⟩
    | ok fields =>
      rw [Effect.lift_ok_bind_run, editLinks, Effect.edit_bind_run, Effect.bind_run,
        onWorld_run (saveState_run ..), Bool.and_false, if_neg (by simp)]
      exact .inr ⟨uid', link', fields, _, rfl, hid, hlink, hfields, Dict.modify_of_some hlink _⟩

/-- An order of a new service reaches a link that is stranded. -/
def StrandsNew (a : Attempt) (order : Order) (s : Shop) : Prop :=
  ∃ plan uid subId link s₁, NewLink a order s plan uid subId link s₁ ∧
    LinkStranded a.server s₁.world uid subId link (link.update (ownerFields order plan))

lemma NewLink.unique {plan plan' : Plan} {uid uid' subId subId' : String} {link link' : Obj}
    {s₁ s₁' : Shop} (h : NewLink a order s plan uid subId link s₁)
    (h' : NewLink a order s plan' uid' subId' link' s₁') :
    plan' = plan ∧ uid' = uid ∧ subId' = subId ∧ link' = link ∧ s₁' = s₁ := by
  obtain ⟨expiresAt, hplan, hexpires, hensure, hprep⟩ := h
  obtain ⟨expiresAt', hplan', hexpires', hensure', hprep'⟩ := h'
  obtain rfl := Option.some.inj (hplan.symm.trans hplan')
  obtain rfl := Except.ok.inj (hexpires.symm.trans hexpires')
  obtain ⟨hid, rfl⟩ := Prod.mk.inj (hensure.symm.trans hensure')
  obtain rfl := Except.ok.inj hid
  obtain ⟨rfl, rfl⟩ := Prod.mk.inj (Except.ok.inj (hprep.symm.trans hprep'))
  exact ⟨rfl, rfl, rfl, rfl, rfl⟩

lemma owner_store_order_id (order : Order) (plan : Plan) (link : Obj) :
    (link.update (ownerFields order plan)).get "store_order_id" = .str order.id := by
  refine get_of_find ?_
  change (((Obj.set _ "store_order_id" _).set "store_plan_id" _).set "store_managed" _).find _ = _
  rw [find_set_ne (by decide), find_set_ne (by decide), find_set_self]

/-- What `_provision_new` leaves: nothing, a stranded link, or the service. -/
lemma provisionNew_spec (a : Attempt) (order : Order) (s : Shop) :
    (¬ StrandsNew a order s ∧ ∃ e s', provisionNew a order s = (.error e, s') ∧
      NothingLeft s.world.panel s'.world.panel) ∨
    (StrandsNew a order s ∧ ∃ e s', provisionNew a order s = (.error e, s') ∧
      ¬ NothingLeft s.world.panel s'.world.panel) ∨
    (¬ StrandsNew a order s ∧ ∃ uid link s', provisionNew a order s = (.ok uid, s') ∧
      s.world.panel.links.get? uid = none ∧
      s'.world.panel.links = s.world.panel.links.set uid link ∧
      link.get "store_order_id" = .str order.id) := by
  rcases provisionNew_cases a order s with ⟨e, s', hrun, hleft, hno⟩ |
    ⟨plan, uid, subId, link, s₁, expiresAt, hnew, hlinks, hsub, hprep, hrun⟩
  · refine .inl ⟨?_, e, s', hrun, hleft⟩
    rintro ⟨plan, uid, subId, link, s₁, hnew, -⟩
    exact hno plan uid subId link s₁ hnew
  · have hfree : s.world.panel.links.get? uid = none := by
      rw [← hlinks]
      exact (prepareLink_ok hprep).1
    have hservice := isService_serviceRequest a order plan (labelName s.store order.userId) expiresAt subId
    by_cases hstranded : LinkStranded a.server s₁.world uid subId link
        (link.update (ownerFields order plan))
    · obtain ⟨e, s', hmake, hcontains⟩ := makeService_stranded hservice hsub hprep hstranded
      refine .inr (.inl ⟨⟨plan, uid, subId, link, s₁, hnew, hstranded⟩, e, s', hrun.trans hmake, ?_⟩)
      rintro ⟨hsame, -⟩
      obtain ⟨found, hfound⟩ := Dict.contains_iff.mp hcontains
      rw [hsame, hfree] at hfound
      cases hfound
    · obtain ⟨s', hmake, -, hset⟩ := makeService_delivered hservice hsub hprep hstranded
      refine .inr (.inr ⟨?_, uid, _, s', hrun.trans hmake, hfree, hset.trans (by rw [hlinks]),
        owner_store_order_id order plan link⟩)
      rintro ⟨plan', uid', subId', link', s₁', hnew', hstranded'⟩
      obtain ⟨rfl, rfl, rfl, rfl, rfl⟩ := hnew.unique hnew'
      exact hstranded hstranded'

/-- A delivery that raises leaves nothing behind unless a new link is stranded. -/
lemma deliver_error {e : PyErr} (hrun : deliver a order s = (.error e, s')) :
    NothingLeft s.world.panel s'.world.panel ↔ ¬ (order.kind = .new ∧ StrandsNew a order s) := by
  unfold deliver at hrun
  cases hkind : order.kind with
  | wallet =>
    rw [hkind] at hrun
    cases hrun
  | other name =>
    rw [hkind] at hrun
    obtain ⟨-, rfl⟩ := Prod.mk.inj hrun
    exact iff_of_true (NothingLeft.refl _) (by simp)
  | renew =>
    rw [hkind] at hrun
    refine iff_of_true ?_ (by simp)
    rcases provisionRenew_cases a order s with ⟨e', hrenew⟩ | ⟨uid, link, fields, s₁, hrenew, -⟩
    · dsimp only at hrun
      rw [Effect.bind_run_error hrenew] at hrun
      obtain ⟨-, rfl⟩ := Prod.mk.inj hrun
      exact NothingLeft.refl _
    · dsimp only at hrun
      rw [Effect.bind_run_ok hrenew] at hrun
      cases hrun
  | new =>
    rw [hkind] at hrun
    dsimp only at hrun
    rcases provisionNew_spec a order s with ⟨hno, e', s₁, hnew, hleft⟩ | ⟨hstr, e', s₁, hnew, hleft⟩ |
      ⟨hno, uid, link, s₁, hnew, -⟩
    · rw [Effect.bind_run_error hnew] at hrun
      obtain ⟨-, rfl⟩ := Prod.mk.inj hrun
      exact iff_of_true hleft fun h => hno h.2
    · rw [Effect.bind_run_error hnew] at hrun
      obtain ⟨-, rfl⟩ := Prod.mk.inj hrun
      exact iff_of_false hleft (not_not.mpr ⟨rfl, hstr⟩)
    · rw [Effect.bind_run_ok hnew] at hrun
      cases hrun

/-- A delivery that returns has stranded no link and delivers once. -/
lemma deliver_ok {serviceId : Option String} (hrun : deliver a order s = (.ok serviceId, s')) :
    DeliveredOnce a order s.world.panel s'.world.panel ∧
      ¬ (order.kind = .new ∧ StrandsNew a order s) := by
  unfold deliver at hrun
  unfold DeliveredOnce
  cases hkind : order.kind with
  | wallet =>
    rw [hkind] at hrun
    dsimp only at hrun
    rw [Effect.edit_bind_run] at hrun
    obtain ⟨-, rfl⟩ := Prod.mk.inj hrun
    exact ⟨rfl, by simp⟩
  | other name =>
    rw [hkind] at hrun
    cases hrun
  | renew =>
    rw [hkind] at hrun
    dsimp only at hrun
    refine ⟨?_, by simp⟩
    rcases provisionRenew_cases a order s with ⟨e, hrenew⟩ |
      ⟨uid, link, fields, s₁, hrenew, hid, hlink, hfields, hset⟩
    · rw [Effect.bind_run_error hrenew] at hrun
      cases hrun
    · rw [Effect.bind_run_ok hrenew] at hrun
      obtain ⟨-, rfl⟩ := Prod.mk.inj hrun
      exact ⟨uid, link, fields, hid, hlink, hfields, hset⟩
  | new =>
    rw [hkind] at hrun
    dsimp only at hrun
    rcases provisionNew_spec a order s with ⟨-, e, s₁, hnew, -⟩ | ⟨-, e, s₁, hnew, -⟩ |
      ⟨hno, uid, link, s₁, hnew, hfree, hset, hid⟩
    · rw [Effect.bind_run_error hnew] at hrun
      cases hrun
    · rw [Effect.bind_run_error hnew] at hrun
      cases hrun
    · rw [Effect.bind_run_ok hnew] at hrun
      obtain ⟨-, rfl⟩ := Prod.mk.inj hrun
      exact ⟨⟨uid, link, hfree, hset, hid⟩, fun h => hno h.2⟩

/-! ## One attempt -/

/-- What an order is for. -/
structure SameRequest (o o' : Order) : Prop where
  id : o'.id = o.id
  kind : o'.kind = o.kind
  plan : o'.plan = o.plan
  serviceId : o'.serviceId = o.serviceId

lemma SameRequest.refl (o : Order) : SameRequest o o := ⟨rfl, rfl, rfl, rfl⟩

lemma SameRequest.trans {o₁ o₂ o₃ : Order} (h : SameRequest o₁ o₂) (h' : SameRequest o₂ o₃) :
    SameRequest o₁ o₃ :=
  ⟨h'.id.trans h.id, h'.kind.trans h.kind, h'.plan.trans h.plan, h'.serviceId.trans h.serviceId⟩

/-- What an order has delivered is told from what it is for and from the links. -/
lemma DeliveredOnce.congr {order' : Order} {p p' q : Panel} (h : SameRequest order order')
    (hlinks : q.links = p.links) (hdone : DeliveredOnce a order' q p') :
    DeliveredOnce a order p p' := by
  unfold DeliveredOnce at hdone ⊢
  rw [h.kind, hlinks] at hdone
  cases hkind : order.kind with
  | wallet =>
    rw [hkind] at hdone
    exact hdone
  | other name =>
    rw [hkind] at hdone
    exact hdone
  | new =>
    rw [hkind] at hdone
    rw [h.id] at hdone
    exact hdone
  | renew =>
    rw [hkind] at hdone
    obtain ⟨uid, link, fields, hid, hlink, hfields, hset⟩ := hdone
    refine ⟨uid, link, fields, h.serviceId ▸ hid, hlink, ?_, hset⟩
    unfold renewal at hfields ⊢
    rw [h.plan, h.id] at hfields
    exact hfields

/-- The order stays in the store for what it was. -/
def StaysFor (o : Order) (oid : String) (st : Store) : Prop :=
  ∃ o', st.orders.get? oid = some o' ∧ SameRequest o o'

variable {rt : Runtime} {now : ℤ} {st : Store} {oid : String} {o : Order}

lemma chargeLocked_request (user : User) (reviewerId : Option ℤ) (source : Source)
    (ho : st.orders.get? oid = some o) :
    StaysFor o oid (chargeLocked rt now st oid o user reviewerId source).1 ∧
      ∀ o', (chargeLocked rt now st oid o user reviewerId source).2 = .started o' →
        SameRequest o o' := by
  have hset : ∀ {st' : Store} {o' : Order}, st'.orders = st.orders.set oid o' → SameRequest o o' →
      StaysFor o oid st' := fun heq h => ⟨_, by rw [heq, Dict.get?_set_self], h⟩
  unfold chargeLocked
  cases source with
  | card =>
    refine ⟨hset rfl ⟨rfl, rfl, rfl, rfl⟩, fun o' h => ?_⟩
    obtain rfl := Begun.started.inj h
    exact ⟨rfl, rfl, rfl, rfl⟩
  | free =>
    dsimp only
    cases hr : reserveDiscountLocked rt now st.discountCodes o with
    | error message => exact ⟨⟨o, ho, .refl o⟩, fun o' h => by cases h⟩
    | ok result =>
      obtain ⟨codes, reserved⟩ := result
      obtain ⟨b, rfl⟩ := reserveDiscountLocked_order rt now hr
      refine ⟨hset rfl ⟨rfl, rfl, rfl, rfl⟩, fun o' h => ?_⟩
      obtain rfl := Begun.started.inj h
      exact ⟨rfl, rfl, rfl, rfl⟩
  | wallet =>
    dsimp only
    cases hr : reserveDiscountLocked rt now st.discountCodes o with
    | error message => exact ⟨⟨o, ho, .refl o⟩, fun o' h => by cases h⟩
    | ok result =>
      obtain ⟨codes, reserved⟩ := result
      obtain ⟨b, rfl⟩ := reserveDiscountLocked_order rt now hr
      dsimp only
      split_ifs
      · -- the balance does not cover the order
        obtain ⟨b', hb'⟩ := releaseDiscountLocked_order codes { o with discountReserved := b }
        exact ⟨hset rfl (by rw [hb']; exact ⟨rfl, rfl, rfl, rfl⟩), fun o' h => by cases h⟩
      · refine ⟨hset rfl ⟨rfl, rfl, rfl, rfl⟩, fun o' h => ?_⟩
        obtain rfl := Begun.started.inj h
        exact ⟨rfl, rfl, rfl, rfl⟩

lemma finishBeginLocked_request (rt : Runtime) (now : ℤ) (reviewerId : Option ℤ) (source : Source)
    (ho : st.orders.get? oid = some o) :
    StaysFor o oid (finishBeginLocked rt now st oid reviewerId source).1 ∧
      ∀ o', (finishBeginLocked rt now st oid reviewerId source).2 = .started o' →
        SameRequest o o' := by
  have hrefused : ∀ {b : Begun}, (∀ o', b ≠ .started o') →
      StaysFor o oid st ∧ ∀ o', b = .started o' → SameRequest o o' :=
    fun hb => ⟨⟨o, ho, .refl o⟩, fun o' h => absurd h (hb o')⟩
  unfold finishBeginLocked
  rw [ho]
  dsimp only
  split_ifs
  · exact ⟨⟨o, ho, .refl o⟩, fun _ h => h.elim⟩
  · exact ⟨⟨o, ho, .refl o⟩, fun _ h => h.elim⟩
  · cases hu : st.users.get? (userKey o.userId) with
    | none => exact hrefused (by simp)
    | some user =>
      dsimp only
      cases hrefusal : finishRefusal o user source with
      | some message => exact hrefused (by simp)
      | none => exact chargeLocked_request user reviewerId source ho

lemma rollbackLocked_request (source : Source) (message : String) (h : StaysFor o oid st) :
    StaysFor o oid (rollbackLocked st oid source message) := by
  obtain ⟨o', ho', hsame⟩ := h
  obtain ⟨b, hb⟩ := releaseDiscountLocked_order st.discountCodes o'
  unfold rollbackLocked
  rw [ho']
  cases source with
  | card => exact ⟨_, Dict.get?_set_self .., hsame.trans ⟨rfl, rfl, rfl, rfl⟩⟩
  | free => exact ⟨_, Dict.get?_set_self .., hsame.trans (by rw [hb]; exact ⟨rfl, rfl, rfl, rfl⟩)⟩
  | wallet => exact ⟨_, Dict.get?_set_self .., hsame.trans (by rw [hb]; exact ⟨rfl, rfl, rfl, rfl⟩)⟩

/-- Delivering an order does not change any order. -/
lemma keeps_deliver (a : Attempt) (order : Order) (P : Dict String Order → Prop) :
    Effect.Keeps (fun s : Shop => P s.store.orders) (deliver a order) := by
  have hworld : ∀ {α : Type} (x : Effect World PyErr α),
      Effect.Keeps (fun s : Shop => P s.store.orders) (onWorld x) := fun _ _ hs => hs
  have hlinks : ∀ f, Effect.Keeps (fun s : Shop => P s.store.orders) (editLinks f) :=
    fun _ => Effect.keeps_edit fun _ hs => hs
  have hensure : Effect.Keeps (fun s : Shop => P s.store.orders) (ensureCustomerSub a order.userId) := by
    refine Effect.keeps_read.bind fun s => ?_
    split
    · exact Effect.keeps_pure _
    · refine (hworld _).bind fun _ => Effect.Keeps.bind ?_ fun _ => Effect.keeps_pure _
      exact Effect.keeps_edit fun _ hs => hs
  have hmake : ∀ r subId fields,
      Effect.Keeps (fun s : Shop => P s.store.orders) (makeService a r subId fields) :=
    fun _ _ _ => (hworld _).bind fun _ => (hlinks _).bind fun _ => (hworld _).bind fun _ =>
      (hworld _).bind fun _ => Effect.keeps_pure _
  unfold deliver
  split
  · refine Effect.Keeps.bind ?_ fun _ => Effect.keeps_pure _
    exact Effect.keeps_edit fun _ hs => hs
  · refine Effect.Keeps.bind (Effect.keeps_read.bind fun s => ?_) fun _ => Effect.keeps_pure _
    split
    · exact Effect.keeps_raise _
    · exact (Effect.keeps_lift _).bind fun _ => hensure.bind fun _ => hmake _ _ _
  · refine Effect.Keeps.bind (Effect.keeps_read.bind fun s => ?_) fun _ => Effect.keeps_pure _
    split
    · exact Effect.keeps_raise _
    · exact (Effect.keeps_lift _).bind fun _ => (hlinks _).bind fun _ => (hworld _).bind fun _ =>
        Effect.keeps_pure _
  · exact Effect.keeps_raise _

/-- The three ways one attempt ends: it does not start, it raises, or it delivers. -/
inductive Ends (a : Attempt) (oid : String) (s : Shop) : Answer × Shop → Prop
  | notStarted {st : Store} {reply : Begun} {answer : Answer} :
      finishBeginLocked a.server.site.rt a.beganAt s.store oid a.reviewerId a.source = (st, reply) →
      (∀ order, reply ≠ .started order) → answer ≠ .delivered →
      Ends a oid s (answer, { s with store := st })
  | raised {st : Store} {order : Order} {e : PyErr} {s' : Shop} {message : String} :
      finishBeginLocked a.server.site.rt a.beganAt s.store oid a.reviewerId a.source =
        (st, .started order) →
      deliver a order { s with store := st } = (.error e, s') →
      Ends a oid s (.failed message,
        { s' with store := rollbackLocked s'.store oid a.source (errorText e) })
  | delivered {st st' : Store} {order : Order} {serviceId : Option String} {s' : Shop} :
      finishBeginLocked a.server.site.rt a.beganAt s.store oid a.reviewerId a.source =
        (st, .started order) →
      deliver a order { s with store := st } = (.ok serviceId, s') →
      Ends a oid s (.delivered, { s' with store := st' })

lemma finishOrder_ends (a : Attempt) (oid : String) (s : Shop) : Ends a oid s (finishOrder a oid s) := by
  unfold finishOrder
  dsimp only
  rcases hbegin : finishBeginLocked a.server.site.rt a.beganAt s.store oid a.reviewerId a.source with
    ⟨st, message | message | order⟩
  · refine .notStarted hbegin ?_ ?_
    · simp
    · simp
  · refine .notStarted hbegin ?_ ?_
    · simp
    · simp
  · dsimp only
    rcases hdeliver : deliver a order { s with store := st } with ⟨e | serviceId, s'⟩
    · exact .raised hbegin hdeliver
    · exact .delivered hbegin hdeliver

lemma strands_iff {st : Store} {order : Order}
    (hbegin : finishBeginLocked a.server.site.rt a.beganAt s.store oid a.reviewerId a.source =
      (st, .started order)) :
    Strands oid a s ↔ order.kind = .new ∧ StrandsNew a order { s with store := st } := by
  constructor
  · rintro ⟨st', order', plan, expiresAt, subId, s₁, uid, link, hbegin', hkind, hplan, hexpires,
      hensure, hprep, hstranded⟩
    obtain ⟨rfl, hstarted⟩ := Prod.mk.inj (hbegin.symm.trans hbegin')
    obtain rfl := Begun.started.inj hstarted
    exact ⟨hkind, plan, uid, subId, link, s₁, ⟨expiresAt, hplan, hexpires, hensure, hprep⟩, hstranded⟩
  · rintro ⟨hkind, plan, uid, subId, link, s₁, ⟨expiresAt, hplan, hexpires, hensure, hprep⟩, hstranded⟩
    exact ⟨st, order, plan, expiresAt, subId, s₁, uid, link, hbegin, hkind, hplan, hexpires, hensure,
      hprep, hstranded⟩

/-- One attempt: it leaves something behind exactly when it strands a link. -/
lemma finishOrder_nothingLeft (a : Attempt) (oid : String) (s : Shop) :
    (Fails a oid s → NothingLeft s.world.panel (finishOrder a oid s).2.world.panel) ↔
      ¬ Strands oid a s := by
  unfold Fails
  have hends := finishOrder_ends a oid s
  generalize finishOrder a oid s = result at hends ⊢
  cases hends with
  | notStarted hbegin hno _ =>
    refine iff_of_true (fun _ => NothingLeft.refl _) ?_
    rintro ⟨st, order, _, _, _, _, _, _, hbegin', -⟩
    exact hno order (Prod.mk.inj (hbegin.symm.trans hbegin')).2
  | raised hbegin hdeliver =>
    rw [strands_iff hbegin, ← deliver_error hdeliver]
    exact ⟨fun h => h ⟨_, rfl⟩, fun h _ => h⟩
  | delivered hbegin hdeliver =>
    rw [strands_iff hbegin]
    refine iff_of_true ?_ (deliver_ok hdeliver).2
    rintro ⟨message, h⟩
    cases h

/-- An attempt that fails keeps the order for another one. -/
lemma Fails.keeps_request (h : Fails a oid s) (ho : StaysFor o oid s.store) :
    StaysFor o oid (finishOrder a oid s).2.store := by
  obtain ⟨o', ho', hsame⟩ := ho
  have hkeep : ∀ {st : Store}, StaysFor o' oid st → StaysFor o oid st := by
    rintro st ⟨o'', ho'', hsame'⟩
    exact ⟨o'', ho'', hsame.trans hsame'⟩
  refine hkeep ?_
  obtain ⟨hstays, -⟩ := finishBeginLocked_request a.server.site.rt a.beganAt
    a.reviewerId a.source ho'
  obtain ⟨message, hfailed⟩ := h
  have hends := finishOrder_ends a oid s
  generalize finishOrder a oid s = result at hends hfailed ⊢
  cases hends with
  | notStarted hbegin _ _ =>
    rw [hbegin] at hstays
    exact hstays
  | @raised st order e s' _ hbegin hdeliver =>
    rw [hbegin] at hstays
    refine rollbackLocked_request a.source (errorText e) ?_
    have horders := keeps_deliver a order (fun orders => orders = st.orders) { s with store := st } rfl
    rw [hdeliver] at horders
    dsimp only at horders
    unfold StaysFor
    rw [horders]
    exact hstays
  | delivered _ _ => cases hfailed

/-- An attempt that delivers delivers once. -/
lemma finishOrder_delivered (h : (finishOrder a oid s).1 = .delivered) (ho : StaysFor o oid s.store) :
    DeliveredOnce a o s.world.panel (finishOrder a oid s).2.world.panel := by
  obtain ⟨o', ho', hsame⟩ := ho
  obtain ⟨-, hstarted⟩ := finishBeginLocked_request a.server.site.rt a.beganAt
    a.reviewerId a.source ho'
  have hends := finishOrder_ends a oid s
  generalize finishOrder a oid s = result at hends h ⊢
  cases hends with
  | notStarted _ _ hno => exact absurd h hno
  | raised _ _ => cases h
  | delivered hbegin hdeliver =>
    rw [hbegin] at hstarted
    exact (deliver_ok hdeliver).1.congr (hsame.trans (hstarted _ rfl)) rfl

/-! ## All attempts -/

lemma eachAttempt_cons {P : Attempt → Shop → Prop} {attempts : List Attempt} :
    EachAttempt oid P (a :: attempts) s ↔
      P a s ∧ EachAttempt oid P attempts (finishOrder a oid s).2 := by
  constructor
  · intro h
    refine ⟨h [] a attempts rfl, fun done b rest heq => ?_⟩
    exact h (a :: done) b rest (congrArg (a :: ·) heq)
  · rintro ⟨hfirst, hrest⟩ done b rest heq
    cases done with
    | nil =>
      obtain ⟨rfl, -⟩ := List.cons.inj heq
      exact hfirst
    | cons c done =>
      obtain ⟨rfl, htail⟩ := List.cons.inj heq
      exact hrest done b rest htail

/-- Attempts that fail without stranding a link keep the links and the order.  The induction is on
the attempts. -/
lemma after_failures {failed : List Attempt} (ho : StaysFor o oid s.store)
    (hfails : EachAttempt oid (fun a s => Fails a oid s) failed s)
    (hkept : EachAttempt oid (fun a s => ¬ Strands oid a s) failed s) :
    (after oid failed s).world.panel.links = s.world.panel.links ∧
      StaysFor o oid (after oid failed s).store := by
  induction failed generalizing s with
  | nil => exact ⟨rfl, ho⟩
  | cons a failed ih =>
    obtain ⟨hfail, hfails⟩ := eachAttempt_cons.mp hfails
    obtain ⟨hkeep, hkept⟩ := eachAttempt_cons.mp hkept
    obtain ⟨hlinks, hstays⟩ := ih (hfail.keeps_request ho) hfails hkept
    exact ⟨hlinks.trans ((finishOrder_nothingLeft a oid s).mpr hkeep hfail).1, hstays⟩

/-- Provisioning is all or nothing exactly when no attempt strands a link. -/
theorem provisioning_all_or_nothing (oid : String) (attempts : List Attempt) (s : Shop) :
    AllOrNothing oid attempts s ↔ EachAttempt oid (fun a s => ¬ Strands oid a s) attempts s := by
  constructor
  · rintro ⟨hleft, -⟩ done a rest heq
    exact (finishOrder_nothingLeft a oid _).mp (hleft done a rest heq)
  · intro hkept
    refine ⟨fun done a rest heq => (finishOrder_nothingLeft a oid _).mpr (hkept done a rest heq), ?_⟩
    rintro failed a order rfl horder hfails hdelivered
    have hbefore : EachAttempt oid (fun a s => ¬ Strands oid a s) failed s := by
      intro done b rest heq
      refine hkept done b (rest ++ [a]) ?_
      rw [heq, List.append_assoc, List.cons_append]
    obtain ⟨hlinks, hstays⟩ := after_failures ⟨order, horder, .refl order⟩ hfails hbefore
    have hafter : after oid (failed ++ [a]) s = (finishOrder a oid (after oid failed s)).2 := by
      unfold after
      rw [List.foldl_append]
      rfl
    rw [hafter]
    exact (finishOrder_delivered hdelivered hstays).congr (.refl order) hlinks

/-- A customer who can pay the order of a month, and a panel that cannot write its state once it
has written a new group. -/
def openShop : Shop where
  store :=
    let customer := (ensureUserLocked .sample 0 (defaultStore ⟨"", "", "", "", [9], 24, 2⟩) 7 "u" "U").1
    let month : Plan := ⟨"m1", "Month", 1073741824, "1 GB", 30, 50000, false, true⟩
    ((createOrderLocked .sample 0 (credit customer 7 50000) "O1" 7 .new (some month) none none).map
      Prod.fst).getD customer
  world := ⟨⟨.empty, .empty, .empty, .empty, .null⟩, [true, false]⟩

/-- The customer pays from the wallet. -/
def payment : Attempt where
  reviewerId := none
  source := .wallet
  env := ⟨"", "", "", "", [9], 24, 2⟩
  server := .bare .sample
  beganAt := 0
  endedAt := 0
  subDraw := 1
  token := ⟨"token", token_ne_empty, token_urlSafe⟩
  linkDraw := 2

/-- The customer is told that the service could not be made, and the link is in memory. -/
theorem link_left_behind : ¬ AllOrNothing "O1" [payment] openShop := by
  rintro ⟨hleft, -⟩
  have hrun : (finishOrder payment "O1" openShop).1 =
        .failed "ساخت یا تمدید سرویس ناموفق بود؛ مبلغ کیف پول برگشت داده شد." ∧
      (finishOrder payment "O1" openShop).2.world.panel.links.entries.length = 1 := by
    decide +kernel
  have hnone : after "O1" [] openShop = openShop := rfl
  obtain ⟨hlinks, -⟩ := hleft [] payment [] rfl ⟨_, hrun.1⟩
  rw [hnone] at hlinks
  have hafter := hrun.2
  rw [hlinks] at hafter
  cases hafter

end Provision
