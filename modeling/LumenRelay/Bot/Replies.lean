import LumenRelay.Bot.Privilege
import Std.Data.String.ToInt

/-!
# Who is shown what

A chat that belongs to no admin is only ever sent its own records: the record of its customer, its
orders and its services.  The data of a button, and the text of a message, may name any other order
or service.
-/

namespace Bot

open Lib Py Routing
open Provision (ShopKept)

variable {env : Env} {runtimes : Set Runtime} {t : Turn} {d : Desk} {chatId : ℤ}

/-! ## What a screen is about -/

/-- The record of a customer, if there is one, is the one of this chat. -/
def ofChat (chatId : ℤ) (user : Option User) : Prop := ∀ u, user = some u → u.id = chatId

/-- A service of the customer of this chat, as one of the runtimes reads the id in it. -/
def madeFor (runtimes : Set Runtime) (chatId : ℤ) (link : Obj) : Prop :=
  ∃ rt ∈ runtimes, ownedBy rt chatId link = true

/-- A screen shows no records but those of the customer of this chat.  What is for admins is not
such a screen. -/
def Screen.OnlyAbout (runtimes : Set Runtime) (chatId : ℤ) : Screen → Prop
  | .alert _ | .note _ | .plans _ | .guide _ => True
  | .menu user | .wallet user | .redeemed _ user => ofChat chatId user
  | .order o user => o.userId = chatId ∧ ofChat chatId user
  | .card o _ | .aboutOrder o _ => o.userId = chatId
  | .services user feed links =>
    ofChat chatId user ∧ (∀ e, feed = some e → user.bind User.subId = some e.1) ∧
      ∀ e ∈ links, madeFor runtimes chatId e.2
  | .renewals links => ∀ e ∈ links, madeFor runtimes chatId e.2
  | .service _ link | .config _ link _ | .subscription _ link | .renewPlans _ link _ =>
    madeFor runtimes chatId link
  | .adminPanel _ | .targets _ | .confirmAssignment _ _ | .assigned _ | .pendingOrders _ _
  | .review _ _ | .receipt _ _ | .stats _ _ _ | .created _ => False

/-- A reply goes to an admin, or it shows a chat its own records only. -/
def Discreet (env : Env) (runtimes : Set Runtime) (r : Reply) : Prop :=
  r.chatId ∈ env.adminIds ∨ r.screen.OnlyAbout runtimes r.chatId

lemma discreet_own {screens : List Screen} (h : ∀ s ∈ screens, s.OnlyAbout runtimes chatId) :
    ∀ r ∈ screens.map (Reply.mk chatId), Discreet env runtimes r := by
  intro r hr
  obtain ⟨s, hs, rfl⟩ := List.mem_map.mp hr
  exact .inr (h s hs)

lemma discreet_admin {screens : List Screen} (hc : chatId ∈ env.adminIds) :
    ∀ r ∈ screens.map (Reply.mk chatId), Discreet env runtimes r := by
  intro r hr
  obtain ⟨s, -, rfl⟩ := List.mem_map.mp hr
  exact .inl hc

/-! ## The records of a chat -/

lemma userKey_injective : Function.Injective userKey := fun _ _ h => Int.repr_injective h

/-- What is filed under the id of a chat is its record. -/
lemma Filed.ofChat {users : Dict String User} (h : Filed users) (chatId : ℤ) :
    ofChat chatId (users.get? (userKey chatId)) :=
  fun user huser => userKey_injective (h _ user huser)

lemma madeFor_of_ownLink {rt : Runtime} {uid : String} {link : Obj} (hrt : rt ∈ runtimes)
    (h : ownLink rt d chatId uid = some link) : madeFor runtimes chatId link :=
  ⟨rt, hrt, (Option.filter_eq_some_iff.mp h).2⟩

lemma repr_ne_empty (n : ℤ) : Int.repr n ≠ "" := by
  cases n with
  | ofNat n => exact Nat.repr_ne_empty
  | negSucc n =>
    intro h
    have hlength := congrArg String.length h
    rw [Int.repr, String.length_append] at hlength
    have hminus : "-".length = 1 := rfl
    have hempty : "".length = 0 := rfl
    omega

/-- A service that is listed has the id of the customer in it, so it is not empty. -/
lemma madeFor_of_userServices {rt : Runtime} (hrt : rt ∈ runtimes) {e : String × Obj}
    (h : e ∈ userServices rt d chatId) : madeFor runtimes chatId e.2 := by
  obtain ⟨-, hid⟩ := List.mem_filter.mp ((List.mem_insertionSort _).mp h)
  have hid : (Obj.getD e.2 "owner_telegram_id" (.str "")).toStr rt = toString chatId :=
    of_decide_eq_true hid
  refine ⟨rt, hrt, ?_⟩
  rw [ownedBy, hid, decide_eq_true rfl, Bool.and_true, Bool.not_eq_true']
  cases hlink : e.2 with
  | nil =>
    -- the missing owner reads as the empty text, and no id does
    rw [hlink] at hid
    exact absurd hid.symm (repr_ne_empty chatId)
  | cons _ _ => rfl

/-- The feed of a chat is the one of its own group. -/
lemma feedKey_group {e : String × String} (h : feedKey d chatId = some (some e)) :
    (d.user chatId).bind User.subId = some e.1 := by
  unfold feedKey at h
  split at h
  · cases h
  · rename_i subId hsub
    have hgroup := (Option.filter_eq_some_iff.mp hsub).1
    split at h
    · cases h
    · obtain rfl := Option.some.inj (Option.some.inj h)
      exact hgroup
    · cases h

/-! ## The orders that a customer is shown -/

section Orders

variable {rt : Runtime} {now : ℤ} {st st' : Store} {oid : String} {order : Order}

lemma createOrderLocked_owner {kind : Kind} {plan : Option Plan} {serviceId : Option String}
    {amount : Option ℤ}
    (h : createOrderLocked rt now st oid chatId kind plan serviceId amount = some (st', order)) :
    order.userId = chatId := by
  obtain ⟨price, -, heq⟩ := Option.map_eq_some_iff.mp h
  obtain ⟨-, rfl⟩ := Prod.mk.inj heq
  rfl

/-- A discount is only taken for an order of the customer. -/
lemma applyDiscountLocked_owner {code : String}
    (h : applyDiscountLocked rt now st oid chatId code = (st', .ok ()))
    (ho : st'.orders.get? oid = some order) : order.userId = chatId := by
  unfold applyDiscountLocked at h
  split at h
  · cases h
  · rename_i before _
    split_ifs at h with hguard
    · cases h
    · split at h
      · cases h
      · rw [← (Prod.mk.inj h).1, Dict.get?_set_self] at ho
        rw [← Option.some.inj ho]
        show before.userId = chatId
        tauto

/-- Only the customer of an order starts its payment. -/
lemma startCardLocked_owner (h : startCardLocked rt now env st oid chatId = (st', .ok ()))
    (ho : st'.orders.get? oid = some order) : order.userId = chatId := by
  unfold startCardLocked at h
  split_ifs at h
  · cases h
  · cases h
  · split at h
    · cases h
    · rename_i before _
      split_ifs at h with hguard
      · cases h
      · cases h
      · cases hr : reserveDiscountLocked rt now st.discountCodes before with
        | error message =>
          rw [hr] at h
          cases h
        | ok result =>
          obtain ⟨b, hb⟩ := reserveDiscountLocked_order rt now hr
          rw [hr] at h
          dsimp only at h
          rw [← (Prod.mk.inj h).1, Dict.get?_set_self, hb] at ho
          rw [← Option.some.inj ho]
          show before.userId = chatId
          tauto

/-- A receipt is only taken for an order of the customer. -/
lemma submitReceiptLocked_owner {receipt : Receipt} {asked : Option String} {e : String × Order}
    (h : submitReceiptLocked rt now st chatId receipt asked = (st', .ok ()))
    (he : receiptOrder st chatId asked = some e) (ho : st'.orders.get? e.1 = some order) :
    order.userId = chatId := by
  unfold submitReceiptLocked at h
  rw [he] at h
  dsimp only at h
  split_ifs at h with hguard
  · cases h
  · rw [← (Prod.mk.inj h).1, Dict.get?_set_self] at ho
    rw [← Option.some.inj ho]
    show e.2.userId = chatId
    tauto

end Orders

/-! ## The screens of the customers -/

lemma takeOrder_onlyAbout (h : Filed d.store.users) (kind : Kind) (plan : Plan)
    (serviceId : Option String) :
    ∀ s ∈ (takeOrder t d chatId kind plan serviceId).2, s.OnlyAbout runtimes chatId := by
  intro s hs
  unfold takeOrder at hs
  split at hs
  · cases hs
  · rename_i horder
    rw [List.mem_singleton.mp hs]
    exact ⟨createOrderLocked_owner horder, h.ofChat chatId⟩

lemma payOrder_onlyAbout (oid : String) (source : Source) (paid : String) :
    ∀ s ∈ (payOrder env t d chatId oid source paid).2, s.OnlyAbout runtimes chatId := by
  intro s hs
  unfold payOrder at hs
  split at hs
  · rw [List.mem_singleton.mp hs]
    trivial
  · split at hs <;> rw [List.mem_singleton.mp hs] <;> trivial

/-- The order that a started payment is about. -/
lemma cardScreens_onlyAbout {rt : Runtime} {now : ℤ} {st st' : Store} {oid : String}
    (h : startCardLocked rt now env st oid chatId = (st', .ok ())) :
    ∀ s ∈ ((st'.orders.get? oid).map fun order => Screen.card order st'.settings).toList,
      s.OnlyAbout runtimes chatId := by
  intro s hs
  obtain ⟨order, ho, rfl⟩ := Option.map_eq_some_iff.mp (Option.mem_toList.mp hs)
  exact startCardLocked_owner h ho

lemma payByCard_onlyAbout (oid : String) :
    ∀ s ∈ (payByCard env t d chatId oid).2, s.OnlyAbout runtimes chatId := by
  intro s hs
  unfold payByCard at hs
  split at hs
  · rw [List.mem_singleton.mp hs]
    trivial
  · rename_i hstart
    exact cardScreens_onlyAbout hstart s hs

/-- **The buttons of the customers** show a chat its own records. -/
lemma handleTap_onlyAbout (hrt : t.rt ∈ runtimes) (h : Filed d.store.users) (tap : Tap) :
    ∀ s ∈ (handleTap env t d chatId tap).2, s.OnlyAbout runtimes chatId := by
  intro s hs
  cases tap with
  | menu | wallet =>
    rw [List.mem_singleton.mp hs]
    exact h.ofChat chatId
  | plans | cancel | cancelpay | topup | gift | guide =>
    rw [List.mem_singleton.mp hs]
    trivial
  | payw oid => exact payOrder_onlyAbout oid _ _ s hs
  | free oid => exact payOrder_onlyAbout oid _ _ s hs
  | payc oid => exact payByCard_onlyAbout oid s hs
  | buy planId =>
    unfold handleTap at hs
    dsimp only at hs
    split at hs
    · rw [List.mem_singleton.mp hs]
      trivial
    · split at hs
      · rw [List.mem_singleton.mp hs]
        trivial
      · exact takeOrder_onlyAbout h _ _ _ s hs
  | disc oid =>
    unfold handleTap at hs
    dsimp only at hs
    split at hs <;> rw [List.mem_singleton.mp hs] <;> trivial
  | services =>
    unfold handleTap at hs
    dsimp only at hs
    split at hs
    · rw [List.mem_singleton.mp hs]
      trivial
    · cases hs
    · rename_i hfeed _
      rw [List.mem_singleton.mp hs]
      refine ⟨h.ofChat chatId, fun e he => feedKey_group (he ▸ hfeed), fun e he => ?_⟩
      exact madeFor_of_userServices hrt he
  | svc uid | sub uid | ren uid =>
    unfold handleTap at hs
    dsimp only at hs
    split at hs
    · rw [List.mem_singleton.mp hs]
      trivial
    · rename_i hlink
      rw [List.mem_singleton.mp hs]
      exact madeFor_of_ownLink hrt hlink
  | cfg uid =>
    unfold handleTap at hs
    dsimp only at hs
    split at hs
    · rw [List.mem_singleton.mp hs]
      trivial
    · rename_i hlink
      split at hs
      · rw [List.mem_singleton.mp hs]
        exact madeFor_of_ownLink hrt hlink
      · cases hs
  | renew =>
    unfold handleTap at hs
    dsimp only at hs
    split at hs
    · rw [List.mem_singleton.mp hs]
      trivial
    · rw [List.mem_singleton.mp hs]
      exact fun e he => madeFor_of_userServices hrt he
  | rplan choice =>
    unfold handleTap at hs
    dsimp only at hs
    split at hs
    · rw [List.mem_singleton.mp hs]
      trivial
    · exact takeOrder_onlyAbout h _ _ _ s hs

/-- What is sent for a value that a customer was asked for. -/
lemma valueScreens_onlyAbout {st : Store} (h : Filed st.users) {p : Pending}
    (hp : p.forAdmin = false) (text : String) :
    ∀ s ∈ valueScreens env t st chatId text p, s.OnlyAbout runtimes chatId := by
  intro s hs
  cases p with
  | cardNumber | cardHolder | proxyAssignment | dialogue => cases hp
  | receipt => cases hs
  | discount orderId =>
    unfold valueScreens at hs
    dsimp only at hs
    split at hs
    · rw [List.mem_singleton.mp hs]
      trivial
    · rename_i code _
      have hkept : Kept [chatId] (fun _ => True) (ordersBound [chatId]) st
          (applyDiscountLocked t.rt t.now st orderId chatId code).1 :=
        applyDiscountLocked_kept (List.mem_singleton_self chatId) orderId code
      split at hs
      · rw [List.mem_singleton.mp hs]
        trivial
      · rename_i st' _ hrun
        rw [hrun] at hkept
        obtain ⟨order, ho, rfl⟩ := Option.map_eq_some_iff.mp (Option.mem_toList.mp hs)
        exact ⟨applyDiscountLocked_owner hrun ho, (hkept.filed h).ofChat chatId⟩
  | giftRedeem =>
    unfold valueScreens at hs
    dsimp only at hs
    split at hs
    · rw [List.mem_singleton.mp hs]
      trivial
    · rename_i code _
      have hkept : Kept [chatId] (fun _ => True) (ordersBound [chatId]) st
          (redeemGiftLocked t.rt t.now st chatId code).1 :=
        redeemGiftLocked_kept (List.mem_singleton_self chatId) code
      split at hs
      · rw [List.mem_singleton.mp hs]
        trivial
      · rename_i st' amount hrun
        rw [hrun] at hkept
        rw [List.mem_singleton.mp hs]
        exact (hkept.filed h).ofChat chatId
  | topupAmount =>
    unfold valueScreens at hs
    dsimp only at hs
    split at hs
    · rw [List.mem_singleton.mp hs]
      trivial
    · split at hs
      · cases hs
      · split at hs
        · rw [List.mem_singleton.mp hs]
          trivial
        · rename_i hstart
          exact cardScreens_onlyAbout hstart s hs

lemma pendingScreens_onlyAbout {st : Store} (h : Filed st.users) {p : Pending}
    (hp : p.forAdmin = false) (text : String) :
    ∀ s ∈ pendingScreens env t st chatId text p, s.OnlyAbout runtimes chatId := by
  intro s hs
  unfold pendingScreens at hs
  split at hs
  · cases hp
  · split at hs
    · rw [List.mem_singleton.mp hs]
      trivial
    · exact valueScreens_onlyAbout h hp text s hs

/-- What is sent for a text message of a customer. -/
lemma textScreens_onlyAbout (h : Filed d.store.users) (hno : chatId ∉ env.adminIds)
    (hplain : ∀ p, d.pending.get? chatId = some p → p.forAdmin = false) (text : String) :
    ∀ s ∈ textScreens env t d chatId text, s.OnlyAbout runtimes chatId := by
  intro s hs
  have hmenu : ∀ s ∈ [Screen.menu (d.user chatId)], s.OnlyAbout runtimes chatId := by
    intro s hs
    rw [List.mem_singleton.mp hs]
    exact h.ofChat chatId
  unfold textScreens at hs
  split at hs
  · exact hmenu s hs
  · split at hs
    · rename_i hadmin
      exact absurd (List.contains_iff_mem.mp hadmin.2) hno
    · split at hs
      · rw [List.mem_singleton.mp hs]
        trivial
      · split at hs
        · exact hmenu s hs
        · rename_i p hp
          split at hs
          · exact pendingScreens_onlyAbout h (hplain p hp) text s hs
          · split at hs
            · rw [List.mem_singleton.mp hs]
              trivial
            · exact hmenu s hs

/-! ## The records stay filed -/

lemma meet_filed (h : Filed d.store.users) (chatId : ℤ) (username firstName : String) :
    Filed (meet t d chatId username firstName).store.users := by
  have hkept : Kept [chatId] (fun _ => True) (ordersBound [chatId]) d.store
      (meet t d chatId username firstName).store :=
    ensureUserLocked_kept (List.mem_singleton_self chatId) username firstName
  exact hkept.filed h

/-- What answers an action of an admin changes no customer. -/
lemma handlePendingText_users {rt : Runtime} {now : ℤ} (c : Chat) (chatId : ℤ)
    (oid : { oid : String // oid ≠ "" }) (text : String) {p : Pending} (hp : p.forAdmin = true) :
    (c.handlePendingText rt env now chatId oid text p).1.store.users = c.store.users := by
  unfold Chat.handlePendingText
  cases p with
  | discount | giftRedeem | topupAmount | receipt => cases hp
  | dialogue dialogue =>
    dsimp only
    unfold Chat.answerDialogue
    split
    · split <;> rfl
    · rfl
    · rename_i action hfinish
      have hcases : (∃ code amount maxUses expiresAt,
            action = .createGift chatId code amount maxUses expiresAt ∧ 1 ≤ maxUses) ∨
          ∃ code type value maxUses expiresAt,
            action = .createDiscount chatId code type value maxUses expiresAt ∧ 1 ≤ maxUses := by
        rcases handlePendingText_cases now c.store chatId text dialogue with heq | heq
        · exact .inl (adminGiftText_finish (heq ▸ hfinish))
        · exact .inr (adminPromoText_finish (heq ▸ hfinish))
      rcases hcases with ⟨_, _, _, _, rfl, -⟩ | ⟨_, _, _, _, _, rfl, -⟩ <;> rfl
  | proxyAssignment code =>
    dsimp only
    split <;> rfl
  | cardNumber =>
    dsimp only
    split
    · rfl
    · unfold Chat.readValue
      dsimp only
      split
      · split <;> rfl
      · rfl
  | cardHolder cardNumber =>
    dsimp only
    split
    · rfl
    · unfold Chat.readValue
      dsimp only
      split
      · split <;> rfl
      · rfl

lemma handleMessage_filed {rt : Runtime} {now : ℤ} {c : Chat} {msg : Message}
    {oid : { oid : String // oid ≠ "" }} (hfresh : c.store.orders.get? oid = none)
    (h : Filed c.store.users) : Filed (c.handleMessage rt env now msg oid).1.store.users := by
  by_cases hplain : ∀ p, c.pending = some p → p.forAdmin = false
  · have hkept : Kept [msg.chatId] (fun _ => True) (ordersBound [msg.chatId]) c.store
        (c.handleMessage rt env now msg oid).1.store :=
      handleMessage_kept (List.mem_singleton_self msg.chatId) hplain hfresh
    exact hkept.filed h
  · push Not at hplain
    obtain ⟨p, hp, hadmin⟩ := hplain
    have hmeet : Kept [msg.chatId] (fun _ => True) (ordersBound [msg.chatId]) c.store
        (ensureUserLocked rt now c.store msg.chatId msg.username msg.firstName).1 :=
      ensureUserLocked_kept (List.mem_singleton_self msg.chatId) _ _
    unfold Chat.handleMessage
    rw [hp]
    dsimp only
    split
    · exact hmeet.filed h
    · split
      · exact hmeet.filed h
      · split
        · exact hmeet.filed h
        · split
          · exact hmeet.filed h
          · rw [handlePendingText_users _ _ _ _ (by simpa using hadmin)]
            exact hmeet.filed h

/-- Finishing an order changes the record of its customer only. -/
lemma finishOrder_filed {a : Provision.Attempt} {s : Provision.Shop} {oid : String}
    (hgroup : s.world.panel.subs.contains (Provision.newGroup a) = false) (h : Filed s.store.users) :
    Filed (Provision.finishOrder a oid s).2.store.users := by
  have howner : ∀ o, s.store.orders.get? oid = some o →
      o.userId ∈ (s.store.orders.get? oid).toList.map Order.userId := by
    intro o ho
    rw [ho]
    exact List.mem_singleton_self _
  exact (Provision.finishOrder_only (Set.mem_univ _) hgroup howner).1.filed h

lemma handleAdminTap_filed (h : Filed d.store.users) (hfresh : t.fresh d = true) (tap : AdminTap) :
    Filed (handleAdminTap env t d chatId tap).1.store.users := by
  simp only [Turn.fresh, Bool.and_eq_true, Bool.not_eq_true'] at hfresh
  by_cases hshows : tap.shows = true
  · rw [handleAdminTap_shows hshows]
    exact h
  · cases tap with
    | asgncancel => exact h
    | agift => exact h
    | apromo => exact h
    | acard => exact h
    | asgn code =>
      unfold handleAdminTap
      dsimp only
      split <;> exact h
    | asgnok code =>
      unfold handleAdminTap confirmAssignment
      dsimp only
      split
      · split
        · split <;> exact h
        · exact h
      · exact h
    | aok oid =>
      have hfinish : Filed (Provision.finishOrder (t.attempt env (some chatId) .card) oid
          d.shop).2.store.users := finishOrder_filed hfresh.2 h
      unfold handleAdminTap approveOrder
      dsimp only
      split <;> rename_i hrun <;> rw [hrun] at hfinish <;> exact hfinish
    | ano oid =>
      have hreject : (rejectOrderLocked t.rt t.now d.store oid chatId).1.users = d.store.users := by
        unfold rejectOrderLocked
        split
        · rfl
        · split <;> rfl
      rw [← hreject] at h
      unfold handleAdminTap rejectOrder
      dsimp only
      split <;> rename_i hrun <;> rw [hrun] at h <;> exact h
    | ptype type =>
      unfold handleAdminTap chooseType
      dsimp only
      split
      · split <;> exact h
      · exact h
    | _ => exact absurd rfl hshows

lemma handleText_filed (h : Filed d.store.users) (hfresh : t.fresh d = true) (msg : Message) :
    Filed (handleText env t d msg).1.store.users := by
  simp only [Turn.fresh, Bool.and_eq_true, Bool.not_eq_true'] at hfresh
  unfold handleText Desk.store
  dsimp only
  rw [putChat_shop]
  exact handleMessage_filed (c := d.chat msg.chatId) (Dict.contains_eq_false_iff.mp hfresh.1) h

lemma handleReceipt_filed (h : Filed d.store.users) (receipt : Receipt) :
    Filed (handleReceipt env t d chatId receipt).1.store.users := by
  have hkept : ShopKept Set.univ [chatId] d.shop (handleReceipt env t d chatId receipt).1.shop :=
    handleReceipt_kept (List.mem_singleton_self chatId) receipt
  exact hkept.store.filed h

lemma dispatch_filed (h : Filed d.store.users) (hfresh : t.fresh d = true) (data : String) :
    Filed (dispatch env t d chatId data).1.store.users := by
  unfold dispatch
  split
  · rename_i tap _
    have hkept : ShopKept Set.univ [chatId] d.shop (handleTap env t d chatId tap).1.shop :=
      handleTap_kept (Set.mem_univ _) (List.mem_singleton_self chatId) hfresh tap
    exact hkept.store.filed h
  · split
    · exact h
    · split
      · exact handleAdminTap_filed h hfresh _
      · exact h

/-- Every update leaves the records where they are filed. -/
lemma handleUpdate_filed (h : Filed d.store.users) (hfresh : t.fresh d = true) (u : Update) :
    Filed (handleUpdate env t d u).1.store.users := by
  cases u with
  | text msg => exact handleText_filed h hfresh msg
  | attachment chatId username firstName a =>
    unfold handleUpdate handleAttachment
    dsimp only
    split
    · exact handleReceipt_filed (meet_filed h chatId username firstName) _
    · exact handleText_filed h hfresh _
  | callback cb =>
    unfold handleUpdate handleCallback
    dsimp only
    split_ifs
    · exact h
    · exact h
    · exact h
    · exact dispatch_filed (meet_filed h _ _ _) (fresh_meet hfresh _ _) cb.data

/-! ## The replies to an update -/

lemma handleText_discreet (hguarded : Guarded env d) (h : Filed d.store.users) (msg : Message) :
    ∀ r ∈ (handleText env t d msg).2, Discreet env runtimes r := by
  unfold handleText
  dsimp only
  by_cases hadmin : msg.chatId ∈ env.adminIds
  · exact discreet_admin hadmin
  · refine discreet_own (textScreens_onlyAbout (meet_filed h _ _ _) hadmin ?_ _)
    intro p hp
    by_contra hno
    exact hadmin (hguarded msg.chatId p hp (by simpa using hno))

lemma handleReceipt_discreet (receipt : Receipt) :
    ∀ r ∈ (handleReceipt env t d chatId receipt).2, Discreet env runtimes r := by
  intro r hr
  unfold handleReceipt at hr
  split at hr
  · rw [List.mem_singleton.mp hr]
    exact .inr trivial
  · rename_i hrun
    split at hr
    · cases hr
    · rename_i order horder
      obtain ⟨e, he, ho⟩ := Option.bind_eq_some_iff.mp horder
      rcases List.mem_cons.mp hr with rfl | hr
      · exact .inr (submitReceiptLocked_owner hrun he ho)
      · obtain ⟨adminId, hadmin, rfl⟩ := List.mem_map.mp hr
        exact .inl hadmin

/-- What an admin asks for is told to the admin, or to the customer of the order. -/
lemma handleAdminTap_discreet (hc : chatId ∈ env.adminIds) (tap : AdminTap) :
    ∀ r ∈ (handleAdminTap env t d chatId tap).2, Discreet env runtimes r := by
  have hone : ∀ screen r, r ∈ [Reply.mk chatId screen] → Discreet env runtimes r := by
    intro screen r hr
    rw [List.mem_singleton.mp hr]
    exact .inl hc
  -- a decision about an order goes to the customer of the order
  have hboth : ∀ {st : Store} {oid text text' : String},
      ∀ r ∈ orderReply st oid fun order =>
        [⟨chatId, .aboutOrder order text⟩, ⟨order.userId, .aboutOrder order text'⟩],
      Discreet env runtimes r := by
    intro st oid text text' r hr
    unfold orderReply at hr
    cases ho : st.orders.get? oid with
    | none =>
      rw [ho] at hr
      cases hr
    | some order =>
      rw [ho] at hr
      rcases List.mem_cons.mp hr with rfl | hr
      · exact .inl hc
      · rw [List.mem_singleton.mp hr]
        exact .inr rfl
  intro r hr
  cases tap with
  | admin | asgncancel | agift | apromo | acard | aplans | astats => exact hone _ r hr
  | assign | asgn code | ap page | aord oid =>
    unfold handleAdminTap at hr
    dsimp only at hr
    split at hr <;> exact hone _ r hr
  | asgnok code => exact hone _ r hr
  | areceipt oid =>
    obtain ⟨order, -, rfl⟩ := Option.map_eq_some_iff.mp (Option.mem_toList.mp hr)
    exact .inl hc
  | ptype type => exact discreet_admin hc r hr
  | aok oid =>
    unfold handleAdminTap approveOrder at hr
    dsimp only at hr
    split at hr
    · rename_i shop _
      unfold orderReply at hr
      cases ho : shop.store.orders.get? oid with
      | none =>
        rw [ho] at hr
        cases hr
      | some order =>
        rw [ho] at hr
        exact hone _ r hr
    · exact hone _ r hr
    · exact hboth r hr
  | ano oid =>
    unfold handleAdminTap rejectOrder at hr
    dsimp only at hr
    split at hr
    · exact hone _ r hr
    · exact hboth r hr

lemma dispatch_discreet (hrt : t.rt ∈ runtimes) (h : Filed d.store.users) (data : String) :
    ∀ r ∈ (dispatch env t d chatId data).2, Discreet env runtimes r := by
  unfold dispatch
  split
  · exact discreet_own (handleTap_onlyAbout hrt h _)
  · split
    · intro r hr
      rw [List.mem_singleton.mp hr]
      exact .inr trivial
    · rename_i hguard
      split
      · rename_i htap
        exact handleAdminTap_discreet (by simpa [guarded_of_adminWord htap] using hguard) _
      · intro r hr
        rw [List.mem_singleton.mp hr]
        exact .inr (h.ofChat chatId)

/-- **The replies to an update.** -/
lemma handleUpdate_discreet (hrt : t.rt ∈ runtimes) (hguarded : Guarded env d)
    (h : Filed d.store.users) (u : Update) :
    ∀ r ∈ (handleUpdate env t d u).2, Discreet env runtimes r := by
  cases u with
  | text msg => exact handleText_discreet hguarded h msg
  | attachment chatId username firstName a =>
    unfold handleUpdate handleAttachment
    dsimp only
    split
    · exact handleReceipt_discreet _
    · exact handleText_discreet hguarded h _
  | callback cb =>
    have hrefused : ∀ text, ∀ r ∈ [Reply.mk cb.chatId (.alert text)], Discreet env runtimes r := by
      intro text r hr
      rw [List.mem_singleton.mp hr]
      exact .inr trivial
    unfold handleUpdate handleCallback
    dsimp only
    split_ifs
    · exact hrefused _
    · exact hrefused _
    · exact hrefused _
    · exact dispatch_discreet hrt (meet_filed h _ _ _) cb.data

/-! ## Whole runs -/

/-- **Replies are private.**  Customers, admins and the panel act in any order: whatever a chat that
belongs to no admin is ever sent shows the records of its own customer only.  Whose service a link
is, is read by the runtimes that the updates are handled by. -/
theorem replies_private [DecidablePred (· ∈ runtimes)] {shop : Provision.Shop} {visited : List Desk}
    {replies : List Reply} (hfiled : Filed shop.store.users)
    (hrun : ((desk env).restrict fun _ l => runsOn runtimes l).Run (.opened shop) visited replies d) :
    ∀ r ∈ replies, r.chatId ∉ env.adminIds → r.screen.OnlyAbout runtimes r.chatId := by
  have hall : ∀ r ∈ replies, Discreet env runtimes r := by
    refine hrun.all_events (I := fun d => Guarded env d ∧ Filed d.store.users)
      ⟨guarded_opened env shop, hfiled⟩ ?_
    rintro d l d' es ⟨hguarded, h⟩ hstep
    obtain ⟨hrt, hstep⟩ := Machine.restrict_step.mp hstep
    have hguarded' := deskStep_guarded hguarded hstep
    obtain ⟨t, u, rfl, hfresh, rfl, rfl⟩ | ⟨server, op, -, rfl, rfl⟩ := deskStep_cases hstep
    · exact ⟨⟨hguarded', handleUpdate_filed h hfresh u⟩, handleUpdate_discreet hrt hguarded h u⟩
    · exact ⟨⟨hguarded', h⟩, fun r hr => absurd hr List.not_mem_nil⟩
  intro r hr hno
  exact (hall r hr).resolve_left hno

lemma filed_openShop : Filed Provision.openShop.store.users := by
  have hentries : ∀ e ∈ Provision.openShop.store.users.entries, userKey e.2.id = e.1 := by
    decide +kernel
  intro key user huser
  exact hentries _ (Dict.mem_entries_iff.mpr huser)

/-- A chat asks for the order of another customer, and is answered. -/
theorem replies_to_stranger :
    0 < (handleUpdate exampleEnv exampleTurn (.opened Provision.openShop) (press 8 "payc:O1")).2.length ∧
      ∀ r ∈ (handleUpdate exampleEnv exampleTurn (.opened Provision.openShop) (press 8 "payc:O1")).2,
        r.chatId ∉ exampleEnv.adminIds → r.screen.OnlyAbout {.sample} r.chatId := by
  have : DecidablePred fun rt => rt ∈ ({.sample} : Set Runtime) := Classical.decPred _
  exact ⟨by decide +kernel, replies_private filed_openShop
    (run_update (Set.mem_singleton _) (by decide +kernel))⟩

end Bot
