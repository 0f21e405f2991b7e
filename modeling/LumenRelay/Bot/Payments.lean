import LumenRelay.Bot.Invariant

/-!
# Payments from the wallet

What a run does to the money of an order is read off the stores that it goes through: the order
enters processing as a wallet order, and leaves it again.  Every deduction is followed by one refund
of the same amount, or by the approval of the order; only the order that the handler inside the
provisioning lock is working on can be in between.
-/

namespace Bot

open Lib Py

/-! ## Orders in processing -/

/-- The handler inside the provisioning lock is working on an order. -/
def WorkedOn (s : State) (oid : String) : Prop :=
  ∃ h, s.holder = some h ∧ h.oid = oid ∧ h.stage.working = true

/-- The handler inside the lock is working on every order in processing of a kind. -/
def Attended (Q : String → Order → Prop) (s : State) : Prop :=
  ∀ oid o, s.store.orders.get? oid = some o → o.status = .processing → Q oid o → WorkedOn s oid

variable {rt : Runtime} {env : Env} {R : String → Prop} {Q : String → Order → Prop} {s s' : State}
  {visited : List State} {events es : List Event} {oid : String}

lemma WorkedOn.of_holder (h : WorkedOn s oid) (hh : s'.holder = s.holder) : WorkedOn s' oid := by
  obtain ⟨holder, hholder, hoid, hwork⟩ := h
  exact ⟨holder, hh.trans hholder, hoid, hwork⟩

lemma not_workedOn_of_none (h : s.holder = none) : ¬ WorkedOn s oid := by
  rintro ⟨holder, hholder, -⟩
  cases h.symm.trans hholder

lemma not_workedOn_of_stage {holder : Holder} (h : s.holder = some holder)
    (hwork : holder.stage.working = false) : ¬ WorkedOn s oid := by
  rintro ⟨holder', hholder, -, hwork'⟩
  obtain rfl := Option.some.inj (h.symm.trans hholder)
  simp [hwork] at hwork'

lemma not_quietMove_into_processing (refusal : Prop) (t : Status) :
    ¬ QuietMove refusal t .processing := by
  rintro ⟨⟩

/-- An order in processing was in processing before a quiet step. -/
lemma Quiet.processing {st st' : Store} (hq : Quiet R st st') {o : Order}
    (h : st'.orders.get? oid = some o) (hs : o.status = .processing) :
    st.orders.get? oid = some o := by
  rcases hq.order_cases h with hsame | ⟨-, hdraft, -⟩ | ⟨o', ho', he⟩
  · exact hsame
  · simp [hs] at hdraft
  · have hmove := he.move
    rw [hs] at hmove
    exact absurd hmove (not_quietMove_into_processing _ _)

/-- The orders in processing after a quiet step that ends or begins outside of the work. -/
lemma Attended.of_quiet (h : Attended Q s) (hq : Quiet R s.store s'.store)
    (hkeep : ∀ oid, WorkedOn s oid → WorkedOn s' oid) : Attended Q s' := fun oid o ho hs hQ =>
  hkeep oid (h oid o (hq.processing ho hs) hs hQ)

/-- The orders in processing after a step that rewrites the order of the handler, and no other. -/
lemma Attended.of_set {o' : Order} {key : String} (h : Attended Q s)
    (ha : s'.store.orders = s.store.orders.set key o')
    (hnew : o'.status = .processing → WorkedOn s' key)
    (hkeep : ∀ oid ≠ key, ¬ WorkedOn s oid) : Attended Q s' := by
  intro oid o ho hs hQ
  by_cases hk : oid = key
  · subst hk
    rw [ha, Dict.get?_set_self] at ho
    exact hnew (Option.some.inj ho ▸ hs)
  · rw [ha, Dict.get?_set_ne hk] at ho
    exact absurd (h oid o ho hs hQ) (hkeep oid hk)

lemma not_workedOn_of_ne {holder : Holder} (h : s.holder = some holder) (hne : oid ≠ holder.oid) :
    ¬ WorkedOn s oid := by
  rintro ⟨holder', hholder, hoid, -⟩
  obtain rfl := Option.some.inj (h.symm.trans hholder)
  exact hne hoid.symm

/-- The handler inside the lock stays with the orders in processing. -/
lemma Attended.step (h : Attended Q s) (hinv : Inv s) (hm : Moves rt R s s' es) : Attended Q s' := by
  cases hm with
  | quiet hq hh => exact h.of_quiet hq fun oid hw => hw.of_holder hh
  | redeemed hpos ho hb hk hh =>
    intro oid o hoid hs hQ
    exact (h oid o (ho ▸ hoid) hs hQ).of_holder hh
  | enter hst hn hh hstage =>
    intro oid o hoid hs hQ
    exact absurd (h oid o (hst ▸ hoid) hs hQ) (not_workedOn_of_none hn)
  | refused hh hstage hq hn =>
    refine h.of_quiet hq fun oid hw => absurd hw (not_workedOn_of_stage hh ?_)
    rw [hstage]
    rfl
  | started hh hstage hst hn =>
    refine h.of_set hst.after (fun _ => ⟨_, hn, rfl, rfl⟩) fun oid hne => not_workedOn_of_ne hh hne
  | inside hh hin hq ho hn =>
    intro oid o hoid hs hQ
    obtain ⟨holder, hholder, hoid', -⟩ := h oid o (ho ▸ hoid) hs hQ
    obtain rfl := Option.some.inj (hh.symm.trans hholder)
    exact ⟨_, hn, hoid', hin.working.2⟩
  | credited hh hstage ho hk hst hn =>
    intro oid o hoid hs hQ
    rw [hst] at hoid
    obtain ⟨holder, hholder, hoid', -⟩ := h oid o hoid hs hQ
    obtain rfl := Option.some.inj (hh.symm.trans hholder)
    exact ⟨_, hn, hoid', rfl⟩
  | approved hh hstage hst hn =>
    obtain ⟨o, o', hok, ha⟩ := hinv.approves hh hstage hst
    exact h.of_set ha.after (fun hs => by simp [ha.status] at hs) fun oid hne =>
      not_workedOn_of_ne hh hne
  | @rolledBack holder message hh hstage hst hn =>
    obtain ⟨o, o', hok, hr⟩ := hinv.rollsBack hh hstage hst
    refine h.of_set hr.after (fun hs => ?_) fun oid hne => not_workedOn_of_ne hh hne
    rw [hr.status] at hs
    cases hsource : holder.source <;> simp [hsource, Source.allowed] at hs
  | returned hh hstage hst hn =>
    intro oid o hoid hs hQ
    refine absurd (h oid o (hst ▸ hoid) hs hQ) (not_workedOn_of_stage hh ?_)
    rw [hstage]
    rfl

/-! ## What is seen of the payments of an order -/

/-- What happens to the money of an order that is paid from the wallet. -/
inductive Movement
  /-- The balance of its customer got smaller by an amount. -/
  | deducted (amount : ℤ)
  /-- The balance of its customer got larger by an amount. -/
  | refunded (amount : ℤ)
  /-- The order was approved. -/
  | approved
deriving DecidableEq

/-- An order that was paid from the wallet, and is not decided yet. -/
def Order.inPayment (o : Order) : Bool :=
  o.status = .processing && o.paymentMethod = some .wallet

/-- The order with an id, when it is in payment. -/
def inPayment (st : Store) (oid : String) : Option Order := (st.orders.get? oid).filter Order.inPayment

/-- What a step from one store to the next did to the money of an order. -/
def movement (oid : String) (before after : State) : List Movement :=
  match inPayment before.store oid, inPayment after.store oid with
  | none, some o =>
    [.deducted (balanceOf before.store (userKey o.userId) - balanceOf after.store (userKey o.userId))]
  | some o, none =>
    if (after.store.orders.get? oid).any fun o' => o'.status = .approved then [.approved]
    else [.refunded
      (balanceOf after.store (userKey o.userId) - balanceOf before.store (userKey o.userId))]
  | _, _ => []

/-- What the states that a run went through show of the money of an order. -/
def movements (oid : String) (visited : List State) : List Movement :=
  Machine.seen (movement oid) visited

/-- Each deduction is followed by the refund of the same amount. -/
inductive Refunded : List Movement → Prop
  | nil : Refunded []
  | next {ms : List Movement} {amount : ℤ} : Refunded ms → 0 ≤ amount →
      Refunded (ms ++ [.deducted amount, .refunded amount])

/-- Where the payments of an order stand: all deductions were refunded and the order is not in
payment; or the last one paid the order, which is approved; or the order is in payment, was deducted
once more, and the handler inside the lock is working on it. -/
inductive Account (s : State) (oid : String) : List Movement → Prop
  | refunded {ms : List Movement} : Refunded ms → inPayment s.store oid = none → Account s oid ms
  | approved {ms : List Movement} {o : Order} : Refunded ms →
      s.store.orders.get? oid = some o → o.status = .approved → o.paymentMethod = some .wallet →
      Account s oid (ms ++ [.deducted o.amount, .approved])
  | underway {ms : List Movement} {o : Order} : Refunded ms → inPayment s.store oid = some o →
      0 ≤ o.amount → WorkedOn s oid → Account s oid (ms ++ [.deducted o.amount])

lemma inPayment_eq_some {st : Store} {o : Order} : inPayment st oid = some o ↔
    st.orders.get? oid = some o ∧ o.status = .processing ∧ o.paymentMethod = some .wallet := by
  simp [inPayment, Order.inPayment, Option.filter_eq_some_iff]

lemma inPayment_eq_none_of_status {st : Store} {o : Order} (h : st.orders.get? oid = some o)
    (hs : o.status ≠ .processing) : inPayment st oid = none := by
  simp [inPayment, h, Order.inPayment, hs]

/-! ## What a step does to the payment of an order -/

/-- What a step does to the payment of an order. -/
inductive PaymentStep (s s' : State) (oid : String) : Prop
  | same : inPayment s'.store oid = inPayment s.store oid →
      (∀ o, s.store.orders.get? oid = some o → o.status = .approved →
        s'.store.orders.get? oid = some o) → PaymentStep s s' oid
  | deducted {o o' : Order} : s.store.orders.get? oid = some o → o.status = .draft →
      inPayment s'.store oid = some o' →
      balanceOf s.store (userKey o'.userId) - balanceOf s'.store (userKey o'.userId) = o'.amount →
      PaymentStep s s' oid
  | refunded {o o' : Order} : inPayment s.store oid = some o → s'.store.orders.get? oid = some o' →
      o'.status = .draft →
      balanceOf s'.store (userKey o.userId) - balanceOf s.store (userKey o.userId) = o.amount →
      PaymentStep s s' oid
  | approved {o o' : Order} : inPayment s.store oid = some o → s'.store.orders.get? oid = some o' →
      o'.status = .approved → o'.paymentMethod = some .wallet → o'.amount = o.amount →
      PaymentStep s s' oid

/-- The payments after a step that leaves the orders in processing and those approved alone. -/
lemma paymentStep_of_kept
    (hkept : ∀ o, s.store.orders.get? oid = some o → o.status = .processing ∨ o.status = .approved →
      s'.store.orders.get? oid = some o)
    (hback : ∀ o, s'.store.orders.get? oid = some o → o.status = .processing →
      s.store.orders.get? oid = some o) : PaymentStep s s' oid := by
  refine .same (Option.ext fun o => ?_) fun o ho hs => hkept o ho (.inr hs)
  rw [inPayment_eq_some, inPayment_eq_some]
  constructor
  · rintro ⟨ho, hs, hmethod⟩
    exact ⟨hback o ho hs, hs, hmethod⟩
  · rintro ⟨ho, hs, hmethod⟩
    exact ⟨hkept o ho (.inl hs), hs, hmethod⟩

lemma paymentStep_of_quiet (hq : Quiet R s.store s'.store) : PaymentStep s s' oid :=
  paymentStep_of_kept (fun o ho hs => hq.keeps_working oid o ho hs) fun _ ho hs => hq.processing ho hs

lemma paymentStep_of_orders (h : s'.store.orders = s.store.orders) : PaymentStep s s' oid :=
  paymentStep_of_kept (fun o ho _ => by rw [h, ho]) fun o ho _ => by rw [← h, ho]

/-- A step that writes one order, as far as the payments of the others go. -/
lemma paymentStep_of_set {o' : Order} {key : String}
    (ha : s'.store.orders = s.store.orders.set key o') (hkey : PaymentStep s s' key) :
    PaymentStep s s' oid := by
  by_cases hoid : oid = key
  · rw [hoid]
    exact hkey
  · refine paymentStep_of_kept (fun o ho _ => ?_) fun o ho _ => ?_
    · rw [ha, Dict.get?_set_ne hoid, ho]
    · rwa [ha, Dict.get?_set_ne hoid] at ho

lemma method_eq_wallet_iff {source : Source} : source.method = .wallet ↔ source = .wallet := by
  cases source <;> simp [Source.method]

/-- The order enters payment if it is paid from the wallet. -/
lemma Started.paymentStep {source : Source} {o o' : Order}
    (hst : Started s.store s'.store oid source o o')
    (hmethod : o'.paymentMethod = some source.method) : PaymentStep s s' oid := by
  have hget : s'.store.orders.get? oid = some o' := by rw [hst.after, Dict.get?_set_self]
  by_cases hwallet : source = .wallet
  · subst hwallet
    have hpayment : inPayment s'.store oid = some o' :=
      inPayment_eq_some.mpr ⟨hget, hst.status, hmethod⟩
    refine .deducted hst.before hst.came hpayment ?_
    rw [hst.balance, hst.sale.userId, hst.sale.amount, if_pos ⟨rfl, rfl⟩]
    omega
  · -- the order is paid another way, before and after
    have hdraft : o.status ≠ .processing ∧ o.status ≠ .approved := by
      rw [hst.came]
      cases source <;> simp [Source.allowed]
    have hafter : inPayment s'.store oid = none := by
      simp [inPayment, hget, Order.inPayment, hmethod, method_eq_wallet_iff, hwallet]
    refine .same (hafter.trans (inPayment_eq_none_of_status hst.before hdraft.1).symm) ?_
    intro o₂ ho₂ hs
    exact absurd (Option.some.inj (hst.before.symm.trans ho₂) ▸ hs) hdraft.2

/-- An order that is settled leaves payment, if it is paid from the wallet. -/
lemma paymentStep_of_settled {o o' : Order} (ho : s.store.orders.get? oid = some o)
    (hs : o.status = .processing) (ho' : s'.store.orders.get? oid = some o')
    (hs' : o'.status ≠ .processing) (hmethod : o.paymentMethod ≠ some .wallet) :
    PaymentStep s s' oid := by
  have hbefore : inPayment s.store oid = none := by
    simp [inPayment, ho, Order.inPayment, hmethod]
  refine .same ((inPayment_eq_none_of_status ho' hs').trans hbefore.symm) fun o₂ ho₂ happroved => ?_
  rw [← Option.some.inj (ho.symm.trans ho₂), hs] at happroved
  cases happroved

lemma Approved.paymentStep {o o' : Order} (ha : Approved s.store s'.store oid o o')
    (ho : s.store.orders.get? oid = some o) (hs : o.status = .processing) :
    PaymentStep s s' oid := by
  have hget : s'.store.orders.get? oid = some o' := by rw [ha.after, Dict.get?_set_self]
  by_cases hmethod : o.paymentMethod = some .wallet
  · exact .approved (inPayment_eq_some.mpr ⟨ho, hs, hmethod⟩) hget ha.status
      (ha.method.trans hmethod) ha.sale.amount
  · exact paymentStep_of_settled ho hs hget (by simp [ha.status]) hmethod

/-- The order leaves payment, and the amount is paid back. -/
lemma RolledBack.paymentStep {source : Source} {o o' : Order}
    (hr : RolledBack s.store s'.store oid source o o') (ho : s.store.orders.get? oid = some o)
    (hs : o.status = .processing) (hmethod : o.paymentMethod = some source.method) :
    PaymentStep s s' oid := by
  have hget : s'.store.orders.get? oid = some o' := by rw [hr.after, Dict.get?_set_self]
  by_cases hwallet : source = .wallet
  · subst hwallet
    refine .refunded (inPayment_eq_some.mpr ⟨ho, hs, hmethod⟩) hget hr.status ?_
    rw [hr.balance, if_pos ⟨rfl, rfl⟩]
    omega
  · refine paymentStep_of_settled ho hs hget ?_ ?_
    · rw [hr.status]
      cases source <;> simp [Source.allowed]
    · simp [hmethod, method_eq_wallet_iff, hwallet]

/-- What a step does to the payment of an order, said once. -/
lemma Moves.paymentStep (hinv : Inv s) (hm : Moves rt R s s' es) : PaymentStep s s' oid := by
  have hnext := hinv.step hm
  cases hm with
  | quiet hq hh => exact paymentStep_of_quiet hq
  | redeemed hpos ho hb hk hh => exact paymentStep_of_orders ho
  | enter hst hn hh hstage => exact paymentStep_of_orders (by rw [hst])
  | refused hh hstage hq hn => exact paymentStep_of_quiet hq
  | @started holder reviewerId o o' hh hstage hst hn =>
    obtain ⟨o₁, hok⟩ := hnext.holder _ hn rfl
    have hget : s'.store.orders.get? holder.oid = some o' := by
      rw [hst.after, Dict.get?_set_self]
    obtain rfl : o' = o₁ := Option.some.inj (hget.symm.trans hok.order)
    exact paymentStep_of_set hst.after (hst.paymentStep hok.method)
  | inside hh hin hq ho hn => exact paymentStep_of_orders ho
  | credited hh hstage ho hk hst hn => exact paymentStep_of_orders (by rw [hst]; rfl)
  | approved hh hstage hst hn =>
    obtain ⟨o, o', hok, ha⟩ := hinv.approves hh hstage hst
    exact paymentStep_of_set ha.after (ha.paymentStep hok.order hok.status)
  | rolledBack hh hstage hst hn =>
    obtain ⟨o, o', hok, hr⟩ := hinv.rollsBack hh hstage hst
    exact paymentStep_of_set hr.after (hr.paymentStep hok.order hok.status hok.method)
  | returned hh hstage hst hn => exact paymentStep_of_orders (by rw [hst])

/-! ## The account of an order -/

lemma movement_of_eq (h : inPayment s'.store oid = inPayment s.store oid) : movement oid s s' = [] := by
  unfold movement
  rw [h]
  cases inPayment s.store oid <;> rfl

/-- The account of an order is kept by every step. -/
lemma Account.step {ms : List Movement} (h : Account s oid ms) (hinv : Inv s')
    (hatt : Attended (fun _ _ => True) s') (hstep : PaymentStep s s' oid) :
    Account s' oid (ms ++ movement oid s s') := by
  have hwork : ∀ o, inPayment s'.store oid = some o → 0 ≤ o.amount ∧ WorkedOn s' oid := by
    intro o ho
    obtain ⟨hget, hs, -⟩ := inPayment_eq_some.mp ho
    exact ⟨(hinv.orders oid o hget).amount, hatt oid o hget hs trivial⟩
  cases hstep with
  | same heq hkeep =>
    rw [movement_of_eq heq, List.append_nil]
    cases h with
    | refunded hms hnone => exact .refunded hms (heq.trans hnone)
    | approved hms ho hs hm => exact .approved hms (hkeep _ ho hs) hs hm
    | underway hms ho hpos hw => exact .underway hms (heq.trans ho) hpos (hwork _ (heq.trans ho)).2
  | @deducted o o' ho hs hafter hbalance =>
    have hbefore : inPayment s.store oid = none := inPayment_eq_none_of_status ho (by simp [hs])
    have hmovement : movement oid s s' = [.deducted o'.amount] := by
      simp only [movement, hbefore, hafter, hbalance]
    rw [hmovement]
    cases h with
    | refunded hms hnone => exact .underway hms hafter (hwork _ hafter).1 (hwork _ hafter).2
    | approved hms ho' hs' hm =>
      rw [Option.some.inj (ho'.symm.trans ho), hs] at hs'
      cases hs'
    | underway hms ho' hpos hw => cases ho'.symm.trans hbefore
  | @refunded o o' hbefore ho' hs' hbalance =>
    have hafter : inPayment s'.store oid = none := inPayment_eq_none_of_status ho' (by simp [hs'])
    have hmovement : movement oid s s' = [.refunded o.amount] := by
      simp [movement, hbefore, hafter, hbalance, ho', hs']
    rw [hmovement]
    cases h with
    | refunded hms hnone => cases hbefore.symm.trans hnone
    | approved hms ho hs hm =>
      obtain ⟨hget, hprocessing, -⟩ := inPayment_eq_some.mp hbefore
      rw [Option.some.inj (ho.symm.trans hget), hprocessing] at hs
      cases hs
    | underway hms ho hpos hw =>
      obtain rfl := Option.some.inj (hbefore.symm.trans ho)
      rw [List.append_assoc]
      exact .refunded (.next hms hpos) hafter
  | @approved o o' hbefore ho' hs' hm' hamount =>
    have hafter : inPayment s'.store oid = none := inPayment_eq_none_of_status ho' (by simp [hs'])
    have hmovement : movement oid s s' = [.approved] := by
      simp [movement, hbefore, hafter, ho', hs']
    rw [hmovement]
    cases h with
    | refunded hms hnone => cases hbefore.symm.trans hnone
    | approved hms ho hs hm =>
      obtain ⟨hget, hprocessing, -⟩ := inPayment_eq_some.mp hbefore
      rw [Option.some.inj (ho.symm.trans hget), hprocessing] at hs
      cases hs
    | underway hms ho hpos hw =>
      obtain rfl := Option.some.inj (hbefore.symm.trans ho)
      rw [List.append_assoc, ← hamount]
      exact .approved hms ho' hs' hm'

/-- From a store without orders in processing, the handler inside the lock is with those that come
into processing, and every order has its account. -/
lemma account_of_run {st : Store} {saved : Option Store}
    (hok : ∀ oid o, st.orders.get? oid = some o → OrderOk o)
    (hnone : ∀ oid o, st.orders.get? oid = some o → o.status ≠ .processing)
    (h : (machine rt env).Run (.fresh st saved) visited events s) :
    Attended (fun _ _ => True) s ∧ ∀ oid, Account s oid (movements oid visited) := by
  have hall : Inv s ∧ Attended (fun _ _ => True) s ∧ ∀ oid, Account s oid (movements oid visited) := by
    refine h.induct_history
      (I := fun visited _ s => Inv s ∧ Attended (fun _ _ => True) s ∧
        ∀ oid, Account s oid (movements oid visited)) ⟨.fresh hok saved, ?_, fun oid => ?_⟩ ?_
    · intro oid o ho hs
      exact absurd hs (hnone oid o ho)
    · refine .refunded .nil (Option.eq_none_iff_forall_ne_some.mpr fun o ho => ?_)
      obtain ⟨hget, hs, -⟩ := inPayment_eq_some.mp ho
      exact hnone oid o hget hs
    · rintro visited events s l s' es hrun ⟨hinv, hatt, haccount⟩ hstep
      have hm := step_moves hstep
      refine ⟨hinv.step hm, hatt.step hinv hm, fun oid => ?_⟩
      rw [movements, Machine.seen_concat hrun.getLast?_visited]
      exact (haccount oid).step (hinv.step hm) (hatt.step hinv hm) (hm.paymentStep hinv)
  exact hall.2

end Bot
