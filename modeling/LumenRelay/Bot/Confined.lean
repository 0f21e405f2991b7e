import LumenRelay.Bot.Provision
import LumenRelay.Bot.Reservations
import LumenRelay.Lib.Change

/-!
# What customers may change in the store

A group of customers acts on the store.  Each section that they reach leaves the settings, the terms
of the codes, the other customers and the orders of the others as they are, except that orders which
have waited too long for a receipt expire.
-/

namespace Bot

open Lib Py

variable (team : List ℤ)

/-! ## The bounds -/

/-- A key of one of the customers who act. -/
def teamKey (key : String) : Prop := ∃ c ∈ team, key = userKey c

/-- A record is filed under the text of its id. -/
def Filed (users : Dict String User) : Prop :=
  ∀ key user, users.get? key = some user → userKey user.id = key

/-- What may become of a customer: one who does not act stays, a group that a customer gets is one
that is granted, and the id stays unless the record is new. -/
structure UserKept (grants : String → Prop) (key : String) (u u' : Option User) : Prop where
  others : ¬ teamKey team key → u' = u
  group : ∀ subId, u'.bind User.subId = some subId → u.bind User.subId = some subId ∨ grants subId
  filed : ∀ user', u' = some user' → userKey user'.id = key ∨ ∃ user, u = some user ∧ user'.id = user.id

/-- The bound on the customers. -/
def usersBound (grants : String → Prop) : Bound String User where
  rel := UserKept team grants
  refl _ _ := ⟨fun _ => rfl, fun _ => .inl, fun user h => .inr ⟨user, h, rfl⟩⟩
  trans h h' := by
    refine ⟨fun hkey => (h'.others hkey).trans (h.others hkey), fun subId hsub => ?_,
      fun user'' huser => ?_⟩
    · rcases h'.group subId hsub with hsub | hgrant
      · exact h.group subId hsub
      · exact .inr hgrant
    · rcases h'.filed user'' huser with hfiled | ⟨user', huser', hid⟩
      · exact .inl hfiled
      · rw [hid]
        exact h.filed user' huser'

/-- The terms of a gift code: all of it but who has used it. -/
def GiftCode.terms (e : GiftCode) : GiftCode := { e with usedBy := [] }

/-- The terms of a discount code. -/
def DiscountCode.terms (e : DiscountCode) : DiscountCode :=
  { e with uses := 0, usedBy := [], orders := [] }

/-- A code keeps its terms, and only customers who act are added to its users. -/
def codesBound {ν τ : Type} (terms : ν → τ) (usedBy : ν → List String) : Bound String ν where
  rel _ e e' := e'.map terms = e.map terms ∧
    ∀ key ∈ e'.elim [] usedBy, key ∈ e.elim [] usedBy ∨ teamKey team key
  refl _ _ := ⟨rfl, fun _ => .inl⟩
  trans h h' := by
    refine ⟨h'.1.trans h.1, fun key hkey => ?_⟩
    rcases h'.2 key hkey with hkey | hteam
    · exact h.2 key hkey
    · exact .inr hteam

/-- An order expires: it had waited for its receipt. -/
def Expires (o o' : Order) : Prop :=
  o.status = .awaitingReceipt ∧ ∃ reserved cancelledAt, o' = { o with
    status := .expired, discountReserved := reserved, cancelledAt := cancelledAt }

/-- What may become of an order. -/
structure OrderKept (o o' : Order) : Prop where
  userId : o'.userId = o.userId
  kind : o'.kind = o.kind
  others : o.userId ∉ team → o' = o ∨ Expires o o'
  draft : o'.status = .draft → o.status = .draft
  approved : o'.status = .approved → o.status = .approved ∨ o.status = .draft

/-- What may become of the order with an id: a new one is of a customer who acts. -/
inductive OrderChange : Option Order → Option Order → Prop
  | none : OrderChange none none
  | created (o : Order) : o.userId ∈ team → OrderChange none (some o)
  | kept (o o' : Order) : OrderKept team o o' → OrderChange (some o) (some o')

lemma OrderKept.refl (o : Order) : OrderKept team o o := ⟨rfl, rfl, fun _ => .inl rfl, id, .inl⟩

variable {team}

lemma OrderKept.trans {o₁ o₂ o₃ : Order} (h : OrderKept team o₁ o₂) (h' : OrderKept team o₂ o₃) :
    OrderKept team o₁ o₃ := by
  constructor
  · exact h'.userId.trans h.userId
  · exact h'.kind.trans h.kind
  · intro hother
    rcases h'.others (h.userId ▸ hother) with rfl | hexpires
    · exact h.others hother
    · rcases h.others hother with rfl | ⟨-, _, _, rfl⟩
      · exact .inr hexpires
      · -- what has expired does not expire again
        cases hexpires.1
  · exact fun hs => h.draft (h'.draft hs)
  · intro hs
    rcases h'.approved hs with hs | hs
    · exact h.approved hs
    · exact .inr (h.draft hs)

variable (team)

/-- The bound on the orders. -/
def ordersBound : Bound String Order where
  rel _ := OrderChange team
  refl _ o := by
    cases o with
    | none => exact .none
    | some o => exact .kept o o (.refl team o)
  trans h h' := by
    cases h with
    | none => exact h'
    | created o ho =>
      cases h' with
      | kept _ o' h' => exact .created o' (h'.userId ▸ ho)
    | kept o o' h =>
      cases h' with
      | kept _ o'' h' => exact .kept o o'' (h.trans h')

/-- Only the order with this id changes, and it stays the order of its customer. -/
def onlyBound (oid : String) : Bound String Order where
  rel k o o' := (k ≠ oid → o' = o) ∧
    o'.map (fun o => (o.userId, o.kind)) = o.map fun o => (o.userId, o.kind)
  refl _ _ := ⟨fun _ => rfl, rfl⟩
  trans h h' := ⟨fun hk => (h'.1 hk).trans (h.1 hk), h'.2.trans h.2⟩

/-- What customers may do to the store, with a bound on the orders. -/
structure Kept (grants : String → Prop) (orders : Bound String Order) (st st' : Store) : Prop where
  settings : st'.settings = st.settings
  users : st.users.Within (usersBound team grants) st'.users
  orders : st.orders.Within orders st'.orders
  gifts : st.giftCodes.Within (codesBound team GiftCode.terms GiftCode.usedBy) st'.giftCodes
  discounts : st.discountCodes.Within (codesBound team DiscountCode.terms DiscountCode.usedBy)
    st'.discountCodes
  audit : ∀ r ∈ st'.redemptionAudit, r ∈ st.redemptionAudit ∨ r.userId ∈ team

namespace Kept

variable {team} {grants : String → Prop} {orders : Bound String Order} {st st' st'' : Store}

lemma refl (st : Store) : Kept team grants orders st st :=
  ⟨rfl, .refl _ _, .refl _ _, .refl _ _, .refl _ _, fun _ => .inl⟩

lemma trans (h : Kept team grants orders st st') (h' : Kept team grants orders st' st'') :
    Kept team grants orders st st'' := by
  refine ⟨h'.settings.trans h.settings, h.users.trans h'.users, h.orders.trans h'.orders,
    h.gifts.trans h'.gifts, h.discounts.trans h'.discounts, fun r hr => ?_⟩
  rcases h'.audit r hr with hr | hr
  · exact h.audit r hr
  · exact .inr hr

/-- What follows is that more groups could have been granted. -/
lemma mono {grants' : String → Prop} (h : Kept team grants orders st st')
    (hg : ∀ subId, grants subId → grants' subId) : Kept team grants' orders st st' := by
  refine ⟨h.settings, fun key => ⟨(h.users key).others, fun subId hsub => ?_, (h.users key).filed⟩,
    h.orders, h.gifts, h.discounts, h.audit⟩
  exact ((h.users key).group subId hsub).imp_right (hg subId)

/-- Records stay where they are filed. -/
lemma filed (h : Kept team grants orders st st') (hfiled : Filed st.users) : Filed st'.users := by
  intro key user' huser'
  rcases (h.users key).filed user' huser' with hkey | ⟨user, huser, hid⟩
  · exact hkey
  · rw [hid]
    exact hfiled key user huser

/-- A step that changes orders and the use of discounts. -/
lemma of_orders {orders' : Dict String Order} {codes : Dict String DiscountCode}
    (ho : st.orders.Within orders orders')
    (hc : st.discountCodes.Within (codesBound team DiscountCode.terms DiscountCode.usedBy) codes) :
    Kept team grants orders st { st with orders := orders', discountCodes := codes } :=
  ⟨rfl, .refl _ _, ho, .refl _ _, hc, fun _ => .inl⟩

/-- A step that changes the record of a customer who acts, but not the group. -/
lemma of_user {users : Dict String User} (h : st.users.Within (usersBound team grants) users) :
    Kept team grants orders st { st with users := users } :=
  ⟨rfl, h, .refl _ _, .refl _ _, .refl _ _, fun _ => .inl⟩

end Kept

variable {team} {grants : String → Prop} {orders : Bound String Order} {rt : Runtime} {now : ℤ}
  {st : Store} {chatId : ℤ}

/-! ## The use of codes -/

/-- Releasing a use keeps the terms. -/
lemma releaseDiscountLocked_within (codes : Dict String DiscountCode) (order : Order) :
    codes.Within (codesBound team DiscountCode.terms DiscountCode.usedBy)
      (releaseDiscountLocked codes order).1 := by
  unfold releaseDiscountLocked
  split
  · exact .refl _ _
  · refine Dict.within_modify fun e _ => ⟨rfl, ?_⟩
    intro key hkey
    exact .inl (List.mem_of_mem_erase hkey)

/-- A use is reserved by a customer who acts. -/
lemma reserveDiscountLocked_within {codes codes' : Dict String DiscountCode} {o o' : Order}
    (ho : o.userId ∈ team) (h : reserveDiscountLocked rt now codes o = .ok (codes', o')) :
    codes.Within (codesBound team DiscountCode.terms DiscountCode.usedBy) codes' := by
  rcases reserveDiscountLocked_cases h with ⟨rfl, -⟩ | ⟨code, e, -, -, -, he, -, -, -, rfl⟩
  · exact .refl _ _
  · refine Dict.within_set ?_
    rw [he]
    refine ⟨rfl, ?_⟩
    intro key hkey
    rcases List.mem_append.mp hkey with hkey | hkey
    · exact .inl hkey
    · exact .inr ⟨o.userId, ho, List.mem_singleton.mp hkey⟩

/-! ## The customers -/

/-- The record of a customer who acts may change, but not its group. -/
lemma within_setUser {users : Dict String User} {user : User} (hc : chatId ∈ team)
    (hsub : user.subId = (users.get? (userKey chatId)).bind User.subId)
    (hid : user.id = chatId ∨ ∃ u, users.get? (userKey chatId) = some u ∧ user.id = u.id) :
    users.Within (usersBound team grants) (users.set (userKey chatId) user) := by
  refine Dict.within_set ⟨fun hkey => absurd ⟨chatId, hc, rfl⟩ hkey, fun subId h => .inl ?_, ?_⟩
  · rw [← hsub]
    exact h
  · rintro user' huser'
    obtain rfl := Option.some.inj huser'
    exact hid.imp_left fun h => by rw [h]

lemma within_modifyUser {users : Dict String User} {f : User → User} (hc : chatId ∈ team)
    (hsub : ∀ user, (f user).subId = user.subId) (hid : ∀ user, (f user).id = user.id) :
    users.Within (usersBound team grants) (users.modify (userKey chatId) f) := by
  refine Dict.within_modify fun user _ =>
    ⟨fun hkey => absurd ⟨chatId, hc, rfl⟩ hkey, fun subId h => .inl ?_, fun user' h => .inr ?_⟩
  · rw [← h]
    exact (hsub user).symm
  · rw [← Option.some.inj h]
    exact ⟨user, rfl, hid user⟩

lemma ensureUserLocked_kept (hc : chatId ∈ team) (username firstName : String) :
    Kept team grants orders st (ensureUserLocked rt now st chatId username firstName).1 := by
  unfold ensureUserLocked
  dsimp only
  cases hu : st.users.get? (userKey chatId) with
  | none => exact .of_user (within_setUser hc (by rw [hu]; rfl) (.inl rfl))
  | some user => exact .of_user (within_setUser hc (by rw [hu]; rfl) (.inr ⟨user, hu, rfl⟩))

lemma credit_kept_team (hc : chatId ∈ team) (amount : ℤ) :
    Kept team grants orders st (credit st chatId amount) :=
  .of_user (within_modifyUser hc (fun _ => rfl) fun _ => rfl)

lemma setCustomerSubLocked_kept (hc : chatId ∈ team) {subId : String} (hg : grants subId) :
    Kept team grants orders st (setCustomerSubLocked st chatId subId) := by
  refine .of_user (Dict.within_modify fun user _ =>
    ⟨fun hkey => absurd ⟨chatId, hc, rfl⟩ hkey, fun subId' h => .inr ?_, fun user' h => .inr ?_⟩)
  · obtain rfl : subId = subId' := Option.some.inj h
    exact hg
  · rw [← Option.some.inj h]
    exact ⟨user, rfl, rfl⟩

lemma mem_of_mem_lastN {α : Type} {n : ℕ} {l : List α} {a : α} (h : a ∈ lastN n l) : a ∈ l :=
  List.mem_of_mem_drop h

lemma redeemGiftLocked_kept (hc : chatId ∈ team) (code : String) :
    Kept team grants orders st (redeemGiftLocked rt now st chatId code).1 := by
  unfold redeemGiftLocked
  dsimp only
  cases hu : st.users.get? (userKey chatId) with
  | none => exact .refl st
  | some user =>
    cases hg : st.giftCodes.get? code with
    | none => exact .refl st
    | some e =>
      dsimp only
      split_ifs
      · exact .refl st
      · exact .refl st
      · exact .refl st
      · exact .refl st
      · refine ⟨rfl, within_setUser hc (by rw [hu]; rfl) (.inr ⟨user, hu, rfl⟩), .refl _ _, Dict.within_set ?_, .refl _ _, ?_⟩
        · rw [hg]
          refine ⟨rfl, ?_⟩
          intro key hkey
          rcases List.mem_append.mp hkey with hkey | hkey
          · exact .inl hkey
          · exact .inr ⟨chatId, hc, List.mem_singleton.mp hkey⟩
        · intro r hr
          dsimp only at hr
          rcases List.mem_append.mp (mem_of_mem_lastN hr) with hr | hr
          · exact .inl hr
          · rw [List.mem_singleton.mp hr]
            exact .inr hc

/-! ## The orders of the customers who act -/

/-- One order of a customer who acts is rewritten. -/
lemma within_setOrder {oid : String} {o o' : Order} (ho : st.orders.get? oid = some o)
    (h : OrderKept team o o') : st.orders.Within (ordersBound team) (st.orders.set oid o') := by
  refine Dict.within_set ?_
  rw [ho]
  exact .kept o o' h

/-- An order of a customer who acts leaves a status that is not the end of a payment. -/
lemma OrderKept.of_move {o o' : Order} (hc : o.userId ∈ team) (huser : o'.userId = o.userId)
    (hkind : o'.kind = o.kind) (hdraft : o'.status ≠ .draft ∨ o.status = .draft)
    (happroved : o'.status ≠ .approved) : OrderKept team o o' :=
  ⟨huser, hkind, fun hno => absurd hc hno, fun hs => hdraft.resolve_left fun h => h hs,
    fun hs => absurd hs happroved⟩

lemma createOrderLocked_kept {oid : String} {kind : Kind} {plan : Option Plan}
    {serviceId : Option String} {amount : Option ℤ} {st' : Store} {order : Order} (hc : chatId ∈ team)
    (hfresh : st.orders.get? oid = none)
    (h : createOrderLocked rt now st oid chatId kind plan serviceId amount = some (st', order)) :
    Kept team grants (ordersBound team) st st' := by
  obtain ⟨price, -, heq⟩ := Option.map_eq_some_iff.mp h
  obtain ⟨rfl, -⟩ := Prod.mk.inj heq
  refine .of_orders (Dict.within_set ?_) (.refl _ _)
  rw [hfresh]
  exact .created _ hc

lemma cancelOrderLocked_kept (hc : chatId ∈ team) (oid : String) :
    Kept team grants (ordersBound team) st (cancelOrderLocked rt now st oid chatId).1 := by
  unfold cancelOrderLocked
  cases ho : st.orders.get? oid with
  | none => exact .refl st
  | some order =>
    dsimp only
    split_ifs with hguard
    · exact .refl st
    · obtain ⟨rfl, hdraft⟩ : order.userId = chatId ∧ order.status = .draft := by tauto
      exact .of_orders (within_setOrder ho (.of_move hc rfl rfl (.inr hdraft) (by simp))) (.refl _ _)

lemma applyDiscountLocked_kept (hc : chatId ∈ team) (oid code : String) :
    Kept team grants (ordersBound team) st (applyDiscountLocked rt now st oid chatId code).1 := by
  unfold applyDiscountLocked
  cases ho : st.orders.get? oid with
  | none => exact .refl st
  | some order =>
    dsimp only
    split_ifs with hguard
    · exact .refl st
    · obtain ⟨rfl, hdraft⟩ : order.userId = chatId ∧ order.status = .draft := by tauto
      cases discountValid rt now (st.discountCodes.get? code) order.userId with
      | error message => exact .refl st
      | ok e =>
        exact .of_orders (within_setOrder ho
          (.of_move hc rfl rfl (.inr hdraft) (by simp [hdraft]))) (.refl _ _)

lemma cancelWaitingLocked_kept (hc : chatId ∈ team) (oid : String) :
    Kept team grants (ordersBound team) st (cancelWaitingLocked rt now st oid chatId).1 := by
  unfold cancelWaitingLocked
  cases ho : st.orders.get? oid with
  | none => exact .refl st
  | some order =>
    dsimp only
    split_ifs with hguard
    · exact .refl st
    · obtain ⟨rfl, -⟩ : order.userId = chatId ∧ order.status = .awaitingReceipt := by tauto
      obtain ⟨b, hb⟩ := releaseDiscountLocked_order st.discountCodes order
      refine .of_orders (within_setOrder ho ?_) (releaseDiscountLocked_within _ _)
      rw [hb]
      exact .of_move hc rfl rfl (.inl (by simp)) (by simp)

/-- Any order may expire, also one of a customer who does not act. -/
lemma expireOne_kept (env : Env) (st : Store) (oid : String) :
    Kept team grants (ordersBound team) st (expireOne rt now env st oid) := by
  unfold expireOne
  cases ho : st.orders.get? oid with
  | none => exact .refl st
  | some order =>
    dsimp only
    split_ifs with hstale
    · obtain ⟨b, hb⟩ := releaseDiscountLocked_order st.discountCodes order
      have hwait : order.status = .awaitingReceipt := by
        simp only [isStale, decide_eq_true_eq] at hstale
        exact hstale.1
      refine .of_orders (within_setOrder ho ?_) (releaseDiscountLocked_within _ _)
      rw [hb]
      exact ⟨rfl, rfl, fun _ => .inr ⟨hwait, b, _, rfl⟩, by simp, by simp⟩
    · exact .refl st

lemma expireStaleLocked_kept (env : Env) (st : Store) :
    Kept team grants (ordersBound team) st (expireStaleLocked rt now env st).1 :=
  foldl_within Kept.refl Kept.trans (fun st oid => expireOne_kept env st oid) st.orders.keys st

lemma startCardLocked_kept (hc : chatId ∈ team) (env : Env) (oid : String) :
    Kept team grants (ordersBound team) st (startCardLocked rt now env st oid chatId).1 := by
  unfold startCardLocked
  split_ifs
  · exact .refl st
  · exact .refl st
  · cases ho : st.orders.get? oid with
    | none => exact .refl st
    | some order =>
      dsimp only
      split_ifs with hguard
      · exact .refl st
      · exact .refl st
      · obtain ⟨rfl, hdraft⟩ : order.userId = chatId ∧ order.status = .draft := by tauto
        cases hr : reserveDiscountLocked rt now st.discountCodes order with
        | error message => exact .refl st
        | ok result =>
          obtain ⟨b, hb⟩ := reserveDiscountLocked_order rt now hr
          refine .of_orders (within_setOrder ho ?_) (reserveDiscountLocked_within hc hr)
          rw [hb]
          exact .of_move hc rfl rfl (.inr hdraft) (by simp)

lemma submitReceiptLocked_kept (hc : chatId ∈ team) (receipt : Receipt) (oid : Option String) :
    Kept team grants (ordersBound team) st (submitReceiptLocked rt now st chatId receipt oid).1 := by
  unfold submitReceiptLocked
  cases hr : receiptOrder st chatId oid with
  | none => exact .refl st
  | some e =>
    obtain ⟨key, order⟩ := e
    dsimp only
    split_ifs with hguard
    · exact .refl st
    · obtain ⟨rfl, -⟩ : order.userId = chatId ∧ order.status = .awaitingReceipt := by tauto
      exact .of_orders (within_setOrder (receiptOrder_mem st hr)
        (.of_move hc rfl rfl (.inl (by simp)) (by simp))) (.refl _ _)

/-! ## An order that is finished -/

/-- An order is rewritten and stays the order of its customer. -/
lemma within_setOnly {oid : String} {o o' : Order} (ho : st.orders.get? oid = some o)
    (huser : o'.userId = o.userId) (hkind : o'.kind = o.kind) :
    st.orders.Within (onlyBound oid) (st.orders.set oid o') := by
  refine Dict.within_set ⟨fun hne => absurd rfl hne, ?_⟩
  rw [ho, Option.map_some, Option.map_some, huser, hkind]

/-- The charge of an order of a customer who acts. -/
lemma chargeLocked_kept {oid : String} {order : Order} {user : User} {reviewerId : Option ℤ}
    {source : Source} (ho : st.orders.get? oid = some order)
    (hu : st.users.get? (userKey order.userId) = some user) (hc : order.userId ∈ team) :
    Kept team grants (onlyBound oid) st
      (chargeLocked rt now st oid order user reviewerId source).1 := by
  unfold chargeLocked
  cases source with
  | card => exact .of_orders (within_setOnly ho rfl rfl) (.refl _ _)
  | free =>
    dsimp only
    cases hr : reserveDiscountLocked rt now st.discountCodes order with
    | error message => exact .refl st
    | ok result =>
      obtain ⟨codes, reserved⟩ := result
      obtain ⟨b, rfl⟩ := reserveDiscountLocked_order rt now hr
      exact .of_orders (within_setOnly ho rfl rfl) (reserveDiscountLocked_within hc hr)
  | wallet =>
    dsimp only
    cases hr : reserveDiscountLocked rt now st.discountCodes order with
    | error message => exact .refl st
    | ok result =>
      obtain ⟨codes, reserved⟩ := result
      obtain ⟨b, rfl⟩ := reserveDiscountLocked_order rt now hr
      have hcodes := reserveDiscountLocked_within hc hr
      dsimp only
      split_ifs
      · -- the reservation is undone
        obtain ⟨b', hb'⟩ := releaseDiscountLocked_order codes { order with discountReserved := b }
        refine .of_orders (within_setOnly ho ?_ ?_)
          (hcodes.trans (releaseDiscountLocked_within _ _))
        · rw [hb']
        · rw [hb']
      · exact ⟨rfl, within_setUser hc (by rw [hu]; rfl) (.inr ⟨user, hu, rfl⟩),
          within_setOnly ho rfl rfl, .refl _ _, hcodes, fun _ => .inl⟩

/-- The first section of `_finish_order` on an order of a customer who acts. -/
lemma finishBeginLocked_kept {oid : String} {reviewerId : Option ℤ} {source : Source}
    (hc : ∀ o, st.orders.get? oid = some o → o.userId ∈ team) :
    Kept team grants (onlyBound oid) st (finishBeginLocked rt now st oid reviewerId source).1 := by
  unfold finishBeginLocked
  cases ho : st.orders.get? oid with
  | none => exact .refl st
  | some order =>
    dsimp only
    split_ifs
    · exact .refl st
    · exact .refl st
    · cases hu : st.users.get? (userKey order.userId) with
      | none => exact .refl st
      | some user =>
        dsimp only
        cases finishRefusal order user source with
        | some message => exact .refl st
        | none => exact chargeLocked_kept ho hu (hc order ho)

lemma rollbackLocked_kept {oid message : String} {source : Source}
    (hc : ∀ o, st.orders.get? oid = some o → o.userId ∈ team) :
    Kept team grants (onlyBound oid) st (rollbackLocked st oid source message) := by
  unfold rollbackLocked
  cases ho : st.orders.get? oid with
  | none => exact .refl st
  | some current =>
    obtain ⟨b, hb⟩ := releaseDiscountLocked_order st.discountCodes current
    have horder : st.orders.Within (onlyBound oid) (st.orders.set oid
        { (releaseDiscountLocked st.discountCodes current).2 with
          status := .draft, lastError := some (sliceTo 300 message) }) := by
      rw [hb]
      exact within_setOnly ho rfl rfl
    have hcodes : st.discountCodes.Within (codesBound team DiscountCode.terms DiscountCode.usedBy)
        (releaseDiscountLocked st.discountCodes current).1 := releaseDiscountLocked_within _ _
    cases source with
    | card => exact .of_orders (within_setOnly ho rfl rfl) (.refl _ _)
    | free => exact .of_orders horder hcodes
    | wallet =>
      have hcredit : Kept team grants (onlyBound oid) st (credit st current.userId current.amount) :=
        credit_kept_team (hc current ho) current.amount
      exact ⟨rfl, hcredit.users, horder, .refl _ _, hcodes, fun _ => .inl⟩

lemma approveLocked_kept {oid : String} {serviceId : Option String}
    (hc : ∀ o, st.orders.get? oid = some o → o.userId ∈ team) :
    Kept team grants (onlyBound oid) st (approveLocked rt now st oid serviceId) := by
  unfold approveLocked
  cases ho : st.orders.get? oid with
  | none => exact .refl st
  | some current =>
    have husers : st.users.Within (usersBound team grants)
        (if current.isTrial then st.users.modify (userKey current.userId) fun user =>
          { user with trialUsedAt := some (iso rt now) } else st.users) := by
      split_ifs
      · exact within_modifyUser (hc current ho) (fun _ => rfl) fun _ => rfl
      · exact .refl _ _
    exact ⟨rfl, husers, within_setOnly ho rfl rfl, .refl _ _, .refl _ _, fun _ => .inl⟩

/-- The order that is finished belongs to the same customer all the time. -/
lemma Kept.owner {oid : String} {st' : Store} (h : Kept team grants (onlyBound oid) st st')
    (hc : ∀ o, st.orders.get? oid = some o → o.userId ∈ team) :
    ∀ o, st'.orders.get? oid = some o → o.userId ∈ team := by
  intro o' ho'
  have hbuyer := (h.orders oid).2
  rw [ho'] at hbuyer
  obtain ⟨o, ho, heq⟩ := Option.map_eq_some_iff.mp hbuyer.symm
  rw [← (Prod.mk.inj heq).1]
  exact hc o ho

/-- An order of a customer who acts that was a draft may have been finished. -/
lemma Kept.of_only {oid : String} {st' : Store} (h : Kept team grants (onlyBound oid) st st')
    (hc : ∀ o, st.orders.get? oid = some o → o.userId ∈ team ∧ o.status = .draft) :
    Kept team grants (ordersBound team) st st' := by
  refine ⟨h.settings, h.users, fun k => ?_, h.gifts, h.discounts, h.audit⟩
  by_cases hk : k = oid
  · subst hk
    have hbuyer := (h.orders k).2
    cases ho : st.orders.get? k with
    | none =>
      rw [ho] at hbuyer
      rw [Option.map_eq_none_iff.mp hbuyer]
      exact .none
    | some o =>
      rw [ho] at hbuyer
      obtain ⟨o', ho', heq⟩ := Option.map_eq_some_iff.mp hbuyer
      obtain ⟨huser, hkind⟩ := Prod.mk.inj heq
      obtain ⟨hteam, hdraft⟩ := hc o ho
      rw [ho']
      exact .kept o o' ⟨huser, hkind, fun hno => absurd hteam hno, fun _ => hdraft, fun _ => .inr hdraft⟩
  · rw [(h.orders k).1 hk]
    exact (ordersBound team).refl k _

end Bot
