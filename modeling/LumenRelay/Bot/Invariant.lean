import LumenRelay.Bot.Moves

/-!
# The invariant of the store

Amounts are not negative, orders that wait for a receipt or for an admin are card orders, and
the handler inside the provisioning lock works on an order that is in processing, paid the way
the handler was asked to finish it.
-/

namespace Bot

open Lib Py

/-! ## Orders across a quiet step -/

variable {R : String → Prop}

/-- An order after a quiet step was there before, is new, or was edited. -/
lemma Quiet.order_cases {st st' : Store} (hq : Quiet R st st') {oid : String} {o' : Order}
    (h : st'.orders.get? oid = some o') :
    st.orders.get? oid = some o' ∨
      (st.orders.get? oid = none ∧ o'.status = .draft ∧ 0 ≤ o'.amount ∧ o'.receipt = none) ∨
      ∃ o, st.orders.get? oid = some o ∧ QuietEdit (R oid) o o' := by
  have hstep := hq.orders oid
  generalize hb : st.orders.get? oid = before at hstep
  rw [h] at hstep
  cases hstep with
  | same => exact .inl rfl
  | created _ hs ha hr => exact .inr (.inl ⟨rfl, hs, ha, hr⟩)
  | edited o _ he => exact .inr (.inr ⟨o, rfl, he⟩)

/-- A quiet step leaves alone an order from which there is no quiet move. -/
lemma Quiet.kept {st st' : Store} (hq : Quiet R st st') {oid : String} {o : Order}
    (h : st.orders.get? oid = some o) (hno : ∀ t, ¬ QuietMove (R oid) o.status t) :
    st'.orders.get? oid = some o := by
  have hstep := hq.orders oid
  generalize ha : st'.orders.get? oid = after at hstep
  rw [h] at hstep
  cases hstep with
  | same => rfl
  | edited _ o' he => exact absurd he.move (hno _)

lemma not_quietMove_processing (refusal : Prop) (t : Status) : ¬ QuietMove refusal .processing t := by
  rintro ⟨⟩

lemma not_quietMove_approved (refusal : Prop) (t : Status) : ¬ QuietMove refusal .approved t := by
  rintro ⟨⟩

/-! ## The invariant -/

/-- Stages in which the order is in processing. -/
def Stage.working : Stage → Bool
  | .begin _ => false
  | .savingOutcome _ => false
  | _ => true

/-- The kinds of order a stage can be about. -/
def Stage.fits : Stage → Kind → Prop
  | .provisioning, kind => kind ≠ .wallet
  | .savingSub, kind => kind ≠ .wallet
  | .approve (some _), kind => kind ≠ .wallet
  | .approve none, kind => kind = .wallet
  | _, _ => True

/-- What holds of every order. -/
structure OrderOk (o : Order) : Prop where
  amount : 0 ≤ o.amount
  method : o.status = .awaitingReceipt ∨ o.status = .pendingAdmin → o.paymentMethod = some .card

/-- What holds of the order that the handler inside the lock works on. -/
structure HolderOk (st : Store) (h : Holder) (o : Order) : Prop where
  order : st.orders.get? h.oid = some o
  status : o.status = .processing
  method : o.paymentMethod = some h.source.method
  fits : h.stage.fits o.kind
  customer : ∃ user, st.users.get? (userKey o.userId) = some user

/-- The invariant. -/
structure Inv (s : State) : Prop where
  orders : ∀ oid o, s.store.orders.get? oid = some o → OrderOk o
  holder : ∀ h, s.holder = some h → h.stage.working = true → ∃ o, HolderOk s.store h o
  outcome : ∀ h, s.holder = some h → h.stage = .savingOutcome true →
    ∃ o, s.store.orders.get? h.oid = some o ∧ o.status = .approved

/-- The handler approves the order that it works on. -/
lemma Inv.approves {rt : Runtime} {s s' : State} (hinv : Inv s) {h : Holder}
    {serviceId : Option String} {now : ℤ} (hh : s.holder = some h)
    (hstage : h.stage = .approve serviceId)
    (hst : s'.store = approveLocked rt now s.store h.oid serviceId) :
    ∃ o o', HolderOk s.store h o ∧ Approved s.store s'.store h.oid o o' := by
  obtain ⟨o, hok⟩ := hinv.holder h hh (by rw [hstage]; rfl)
  obtain ⟨o', ha⟩ := approveLocked_spec rt now s.store serviceId hok.order
  rw [← hst] at ha
  exact ⟨o, o', hok, ha⟩

/-- The handler takes back the order that it works on. -/
lemma Inv.rollsBack {s s' : State} (hinv : Inv s) {h : Holder} {message : String}
    (hh : s.holder = some h) (hstage : h.stage = .rollback message)
    (hst : s'.store = rollbackLocked s.store h.oid h.source message) :
    ∃ o o', HolderOk s.store h o ∧ RolledBack s.store s'.store h.oid h.source o o' := by
  obtain ⟨o, hok⟩ := hinv.holder h hh (by rw [hstage]; rfl)
  obtain ⟨user, hu⟩ := hok.customer
  obtain ⟨o', hr⟩ := rollbackLocked_spec s.store h.source message hok.order hu
  rw [← hst] at hr
  exact ⟨o, o', hok, hr⟩

/-- A new way of payment, if any, is the card. -/
lemma QuietEdit.method_card {refusal : Prop} {o o' : Order} (he : QuietEdit refusal o o')
    (hok : OrderOk o) (hs : o'.status = .awaitingReceipt ∨ o'.status = .pendingAdmin) :
    o'.paymentMethod = some .card := by
  rcases he.method with ⟨hm, hne⟩ | hm
  · rw [hm]
    have hmove := he.move
    rcases hs with hs | hs
    · exact absurd hs hne
    · rw [hs] at hmove
      generalize hb : o.status = before at hmove
      cases hmove with
      | submit => exact hok.method (.inl hb)
  · exact hm

/-- A quiet step keeps what holds of every order. -/
lemma Quiet.orderOk {st st' : Store} (hq : Quiet R st st')
    (hok : ∀ oid o, st.orders.get? oid = some o → OrderOk o) :
    ∀ oid o, st'.orders.get? oid = some o → OrderOk o := by
  intro oid o' ho'
  rcases hq.order_cases ho' with ho | ⟨-, hs, ha, -⟩ | ⟨o, ho, he⟩
  · exact hok oid o' ho
  · exact ⟨ha, fun h => by simp [hs] at h⟩
  · exact ⟨he.amount (hok oid o ho).amount, he.method_card (hok oid o ho)⟩

/-- Writing one acceptable order keeps what holds of every order. -/
lemma orderOk_set {st st' : Store} {key : String} {o' : Order}
    (ha : st'.orders = st.orders.set key o') (ho' : OrderOk o')
    (hok : ∀ oid o, st.orders.get? oid = some o → OrderOk o) :
    ∀ oid o, st'.orders.get? oid = some o → OrderOk o := by
  intro oid o h
  rw [ha, Dict.get?_set] at h
  split_ifs at h with hk
  · exact Option.some.inj h ▸ ho'
  · exact hok oid o h

/-- What holds of the handler's order outlives a step that keeps the order and the users. -/
lemma HolderOk.mono {st st' : Store} {h : Holder} {o : Order} {stage : Stage}
    (hok : HolderOk st h o) (ho : st'.orders.get? h.oid = some o)
    (hkept : ∀ k user, st.users.get? k = some user → ∃ user', st'.users.get? k = some user')
    (hfits : stage.fits o.kind) : HolderOk st' { h with stage := stage } o := by
  obtain ⟨user, hu⟩ := hok.customer
  exact ⟨ho, hok.status, hok.method, hfits, hkept _ user hu⟩

/-- The store of the invariant changed and the handler inside the lock stayed where it was. -/
lemma Inv.of_store {s s' : State} (hinv : Inv s) (hholder : s'.holder = s.holder)
    (hok : ∀ oid o, s'.store.orders.get? oid = some o → OrderOk o)
    (hwork : ∀ oid o, s.store.orders.get? oid = some o →
      o.status = .processing ∨ o.status = .approved → s'.store.orders.get? oid = some o)
    (hkept : ∀ k user, s.store.users.get? k = some user →
      ∃ user', s'.store.users.get? k = some user') : Inv s' := by
  refine ⟨hok, fun h hh hw => ?_, fun h hh hstage => ?_⟩
  · obtain ⟨o, ho⟩ := hinv.holder h (hholder ▸ hh) hw
    have hok' : HolderOk s'.store { h with stage := h.stage } o :=
      ho.mono (hwork _ _ ho.order (.inl ho.status)) hkept ho.fits
    exact ⟨o, hok'⟩
  · obtain ⟨o, ho, hs⟩ := hinv.outcome h (hholder ▸ hh) hstage
    exact ⟨o, hwork _ _ ho (.inr hs), hs⟩

lemma Quiet.keeps_working {st st' : Store} (hq : Quiet R st st') (oid : String) (o : Order)
    (ho : st.orders.get? oid = some o) (hs : o.status = .processing ∨ o.status = .approved) :
    st'.orders.get? oid = some o := by
  refine hq.kept ho ?_
  rcases hs with hs | hs
  · rw [hs]; exact not_quietMove_processing _
  · rw [hs]; exact not_quietMove_approved _

variable {rt : Runtime} {s s' : State} {es : List Event}

/-- The kinds of order stay right along the steps inside the lock. -/
lemma Inside.fits {o : Order} {oid : String} {stage stage' : Stage}
    (h : Inside (some o) oid stage stage' es) (hfits : stage.fits o.kind) :
    stage'.fits o.kind := by
  cases h with
  | provision ho hk =>
    obtain rfl := Option.some.inj ho
    rcases hk with hk | hk <;> simp [Stage.fits, hk]
  | charged | unknown | failed => trivial
  | customerSub | subSaved | delivered => exact hfits

lemma Inside.working {o : Option Order} {oid : String} {stage stage' : Stage}
    (h : Inside o oid stage stage' es) : stage.working = true ∧ stage'.working = true := by
  cases h <;> exact ⟨rfl, rfl⟩

/-- The invariant is kept by every step. -/
theorem Inv.step (hinv : Inv s) (hm : Moves rt R s s' es) : Inv s' := by
  cases hm with
  | quiet hq hh =>
    exact hinv.of_store hh (hq.orderOk hinv.orders) hq.keeps_working hq.accounts.kept
  | redeemed hpos ho hb hk hh =>
    refine hinv.of_store hh ?_ (fun oid o h _ => by rw [ho, h]) hk
    rw [ho]
    exact hinv.orders
  | @enter h reviewerId hst hn hh hstage =>
    refine ⟨by rw [hst]; exact hinv.orders, fun h' hh' hw => ?_, fun h' hh' ht => ?_⟩
    · obtain rfl := Option.some.inj (hh.symm.trans hh')
      simp [hstage, Stage.working] at hw
    · obtain rfl := Option.some.inj (hh.symm.trans hh')
      simp [hstage] at ht
  | refused hh hstage hq hn =>
    exact ⟨hq.orderOk hinv.orders, fun h hh' => by simp [hn] at hh', fun h hh' => by simp [hn] at hh'⟩
  | @started h reviewerId o o' hh hstage hst hn =>
    have hold := hinv.orders _ _ hst.before
    refine ⟨orderOk_set hst.after ⟨?_, fun hs => ?_⟩ hinv.orders, fun h' hh' _ => ?_,
      fun h' hh' ht => ?_⟩
    · rw [hst.sale.amount]
      exact hold.amount
    · simp [hst.status] at hs
    · obtain rfl := Option.some.inj (hn.symm.trans hh')
      obtain ⟨user, hu⟩ := hst.customer
      refine ⟨o', by rw [hst.after]; exact Dict.get?_set_self _ _ _, hst.status, ?_, trivial, ?_⟩
      · rw [hst.method]
        split_ifs with hcard
        · have hpending : o.status = .pendingAdmin := by rw [hst.came, hcard]; rfl
          rw [hold.method (.inr hpending), hcard]
          rfl
        · rfl
      · rw [hst.sale.userId]
        exact hst.kept _ user hu
    · obtain rfl := Option.some.inj (hn.symm.trans hh')
      simp at ht
  | @inside h stage es hh hin hq ho hn =>
    have hw := hin.working
    refine ⟨hq.orderOk hinv.orders, fun h' hh' _ => ?_, fun h' hh' ht => ?_⟩
    · obtain rfl := Option.some.inj (hn.symm.trans hh')
      obtain ⟨o, hok⟩ := hinv.holder h hh hw.1
      rw [hok.order] at hin
      exact ⟨o, hok.mono (by rw [ho, hok.order]) hq.accounts.kept (hin.fits hok.fits)⟩
    · obtain rfl := Option.some.inj (hn.symm.trans hh')
      have hstage : stage = .savingOutcome true := ht
      simp [hstage, Stage.working] at hw
  | @credited h o hh hstage ho hk hst hn =>
    refine ⟨by rw [hst]; exact hinv.orders, fun h' hh' _ => ?_, fun h' hh' ht => ?_⟩
    · obtain rfl := Option.some.inj (hn.symm.trans hh')
      obtain ⟨o₁, hok⟩ := hinv.holder h hh (by rw [hstage]; rfl)
      obtain rfl : o = o₁ := Option.some.inj (ho.symm.trans hok.order)
      refine ⟨o, hok.mono (by rw [hst]; exact ho) (fun k user hu => ?_) hk⟩
      rw [hst]
      exact credit_kept s.store o.userId o.amount k hu
    · obtain rfl := Option.some.inj (hn.symm.trans hh')
      simp at ht
  | @approved h serviceId now hh hstage hst hn =>
    obtain ⟨o, o', hok, ha⟩ := hinv.approves hh hstage hst
    refine ⟨orderOk_set ha.after ⟨?_, fun hs => ?_⟩ hinv.orders, fun h' hh' hw => ?_,
      fun h' hh' _ => ?_⟩
    · rw [ha.sale.amount]
      exact (hinv.orders _ _ hok.order).amount
    · simp [ha.status] at hs
    · obtain rfl := Option.some.inj (hn.symm.trans hh')
      cases hw
    · obtain rfl := Option.some.inj (hn.symm.trans hh')
      exact ⟨o', by rw [ha.after]; exact Dict.get?_set_self _ _ _, ha.status⟩
  | @rolledBack h message hh hstage hst hn =>
    obtain ⟨o, o', hok, hr⟩ := hinv.rollsBack hh hstage hst
    refine ⟨orderOk_set hr.after ⟨?_, fun hs => ?_⟩ hinv.orders, fun h' hh' hw => ?_,
      fun h' hh' ht => ?_⟩
    · rw [hr.sale.amount]
      exact (hinv.orders _ _ hok.order).amount
    · rw [hr.method, hok.method]
      cases hsource : h.source with
      | card => rfl
      | wallet | free => simp [hr.status, hsource, Source.allowed] at hs
    · obtain rfl := Option.some.inj (hn.symm.trans hh')
      cases hw
    · obtain rfl := Option.some.inj (hn.symm.trans hh')
      simp at ht
  | returned hh hstage hst hn =>
    exact ⟨by rw [hst]; exact hinv.orders, fun h hh' => by simp [hn] at hh',
      fun h hh' => by simp [hn] at hh'⟩

/-- A bot over a store of acceptable orders, with no handler inside the lock. -/
lemma Inv.fresh {st : Store} (hok : ∀ oid o, st.orders.get? oid = some o → OrderOk o)
    (saved : Option Store) : Inv (.fresh st saved) :=
  ⟨hok, fun h hh => by simp [State.fresh] at hh, fun h hh => by simp [State.fresh] at hh⟩

end Bot
