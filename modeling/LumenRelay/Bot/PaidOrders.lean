import LumenRelay.Bot.OrderFlow

/-!
# Paid orders

An order is paid when the wallet was charged for it or its receipt was submitted.  What is known of
the orders in every run decides which paid orders are stranded: those that stay in processing, and
those that an admin refused.
-/

namespace Bot

open Lib Py

variable (rt : Runtime) (env : Env)

/-! ## Paid orders -/

/-- The wallet was charged for an order and the charge was not refunded. -/
def Charged (o : Order) : Prop :=
  o.paymentMethod = some .wallet ∧ (o.status = .processing ∨ o.status = .approved)

/-- The wallet was charged, or a receipt was submitted. -/
def Paid (o : Order) : Prop := Charged o ∨ o.receipt ≠ none

/-- Some operation of the bot takes an order on: it completes, refuses, cancels or expires it. -/
def Accepted (st : Store) (oid : String) : Prop :=
  (∃ now reviewerId source o, (finishBeginLocked rt now st oid reviewerId source).2 = .started o) ∨
    (∃ now adminId, (rejectOrderLocked rt now st oid adminId).2 = .ok ()) ∨
    (∃ now userId, (cancelOrderLocked rt now st oid userId).2 = true) ∨
    (∃ now userId, (cancelWaitingLocked rt now st oid userId).2 = true) ∨
    ∃ now o, st.orders.get? oid = some o ∧ isStale rt now env o = true

/-- What an approved order was approved for has been done. -/
def Delivered (events : List Event) (oid : String) : Kind → Prop
  | .wallet => .credited oid ∈ events
  | _ => ∃ serviceId, .provisioned oid serviceId ∈ events

/-- An order that is not stranded: it is approved and delivered, or some operation takes it on. -/
def NotStranded (events : List Event) (st : Store) (oid : String) (o : Order) : Prop :=
  (o.status = .approved ∧ Delivered events oid o.kind) ∨ Accepted rt env st oid

variable {rt env}

/-- No operation takes on an order in processing, or one that was rejected. -/
lemma not_accepted_of_status {st : Store} {oid : String} {o : Order}
    (ho : st.orders.get? oid = some o) (hs : o.status = .processing ∨ o.status = .rejected) :
    ¬ Accepted rt env st oid := by
  have hstatus : o.status ≠ .draft ∧ o.status ≠ .awaitingReceipt ∧ o.status ≠ .pendingAdmin ∧
      o.status ≠ .approved := by
    rcases hs with hs | hs <;> simp [hs]
  obtain ⟨hdraft, hawaiting, hpending, happroved⟩ := hstatus
  rintro (⟨now, reviewerId, source, o', h⟩ | ⟨now, adminId, h⟩ | ⟨now, userId, h⟩ |
    ⟨now, userId, h⟩ | ⟨now, o', ho', h⟩)
  · have hne : ¬ o.status = source.allowed := by cases source <;> simp [Source.allowed, *]
    simp [finishBeginLocked, ho, happroved, hne] at h
  · simp [rejectOrderLocked, ho, hpending] at h
  · simp [cancelOrderLocked, ho, hdraft] at h
  · simp [cancelWaitingLocked, ho, hawaiting] at h
  · obtain rfl := Option.some.inj (ho.symm.trans ho')
    simp [isStale, hawaiting] at h

/-- An admin can refuse the receipt of an order that waits for a decision. -/
lemma accepted_of_pendingAdmin {st : Store} {oid : String} {o : Order}
    (ho : st.orders.get? oid = some o) (hs : o.status = .pendingAdmin) : Accepted rt env st oid := by
  refine .inr (.inl ⟨0, 0, ?_⟩)
  simp [rejectOrderLocked, ho, hs]

/-! ## What is known of the orders of a store -/

/-- What is known of an order: a receipt belongs to a card order that was submitted, a card order
that an admin has to decide or has accepted has one, and what is approved is delivered. -/
structure Known (events : List Event) (oid : String) (o : Order) : Prop where
  ok : OrderOk o
  receipt : o.receipt ≠ none → o.paymentMethod = some .card ∧
    (o.status = .pendingAdmin ∨ o.status = .processing ∨ o.status = .approved ∨ o.status = .rejected)
  submitted : o.status = .pendingAdmin ∨ o.status = .processing ∧ o.paymentMethod = some .card →
    o.receipt ≠ none
  delivered : o.status = .approved → Delivered events oid o.kind

/-- What is known of the orders of a store. -/
def AllKnown (events : List Event) (st : Store) : Prop :=
  ∀ oid o, st.orders.get? oid = some o → Known events oid o

lemma Delivered.mono {events es : List Event} {oid : String} {kind : Kind}
    (h : Delivered events oid kind) : Delivered (events ++ es) oid kind := by
  cases kind with
  | wallet => exact List.mem_append_left _ h
  | new | renew | other name =>
    obtain ⟨serviceId, hmem⟩ := h
    exact ⟨serviceId, List.mem_append_left _ hmem⟩

lemma AllKnown.mono {events : List Event} {st : Store} (h : AllKnown events st) (es : List Event) :
    AllKnown (events ++ es) st := fun oid o ho =>
  ⟨(h oid o ho).ok, (h oid o ho).receipt, (h oid o ho).submitted,
    fun hs => ((h oid o ho).delivered hs).mono⟩

lemma AllKnown.set {events : List Event} {st st' : Store} {key : String} {o' : Order}
    (h : AllKnown events st) (ha : st'.orders = st.orders.set key o') (ho' : Known events key o') :
    AllKnown events st' := by
  intro oid o ho
  rw [ha, Dict.get?_set] at ho
  split_ifs at ho with hk
  · rw [hk, ← Option.some.inj ho]
    exact ho'
  · exact h oid o ho

lemma Quiet.allKnown {R : String → Prop} {events : List Event} {st st' : Store} (hq : Quiet R st st')
    (h : AllKnown events st) : AllKnown events st' := by
  have hok := hq.orderOk fun oid o ho => (h oid o ho).ok
  intro oid o' ho'
  rcases hq.order_cases ho' with ho | ⟨-, hs, -, hr⟩ | ⟨o, ho, he⟩
  · exact h oid o' ho
  · exact ⟨hok oid o' ho', fun hne => absurd hr hne, fun h => by simp [hs] at h,
      fun hap => by simp [hs] at hap⟩
  · have hknown := h oid o ho
    have hmove := he.move
    refine ⟨hok oid o' ho', fun hne => ?_, fun hcard => ?_, fun hap => ?_⟩
    · rcases he.receipt with hsame | hpending
      · -- the receipt was there before, so the order waited for the admin and was rejected
        obtain ⟨hm, hstatus⟩ := hknown.receipt (hsame ▸ hne)
        have hrejected : o'.status = .rejected := by
          rcases hstatus with hs | hs | hs | hs <;> rw [hs] at hmove <;>
            generalize o'.status = after at hmove <;> cases hmove
          rfl
        refine ⟨?_, .inr (.inr (.inr hrejected))⟩
        rcases he.method with ⟨hmethod, -⟩ | hmethod
        · rw [hmethod, hm]
        · exact hmethod
      · exact ⟨he.method_card hknown.ok (.inr hpending), .inl hpending⟩
    · rcases hcard with hpending | ⟨hprocessing, -⟩
      · exact he.submitted hpending
      · exact absurd hprocessing hmove.unsettled.2.2
    · exact absurd hap hmove.unsettled.2.1

/-! ## What is known after a step -/

/-- What the handler inside the lock is about to approve has been done. -/
def HolderKnown (events : List Event) (s : State) : Prop :=
  ∀ h, s.holder = some h →
    (∀ serviceId, h.stage = .approve (some serviceId) → .provisioned h.oid serviceId ∈ events) ∧
      (h.stage = .approve none → .credited h.oid ∈ events)

variable {R : String → Prop} {s s' : State} {events es : List Event} {oid : String}

/-- An order that was put into processing.  One that was accepted as a card order waited for an
admin before. -/
lemma Started.known {st st' : Store} {source : Source} {o o' : Order}
    (hst : Started st st' oid source o o') (hold : Known events oid o) (hnew : OrderOk o') :
    Known events oid o' := by
  have hcame := hst.came
  refine ⟨hnew, fun hne => ⟨?_, .inr (.inl hst.status)⟩, fun hcard => ?_, fun hap => ?_⟩
  · obtain ⟨hm, hstatus⟩ := hold.receipt (hst.sale.receipt ▸ hne)
    have hcard : source = .card := by
      cases source with
      | card => rfl
      | wallet | free => simp [hcame, Source.allowed] at hstatus
    rw [hst.method, if_pos hcard, hm]
  · have hmethod : o'.paymentMethod = some .card := by
      rcases hcard with hpending | ⟨-, hm⟩
      · simp [hst.status] at hpending
      · exact hm
    rw [hst.method] at hmethod
    rw [hst.sale.receipt]
    cases source with
    | card => exact hold.submitted (.inl hcame)
    | wallet | free => simp [Source.method] at hmethod
  · simp [hst.status] at hap

/-- An order that was approved once it was delivered. -/
lemma Approved.known {st st' : Store} {o o' : Order} (ha : Approved st st' oid o o')
    (hold : Known events oid o) (hnew : OrderOk o') (hdone : Delivered events oid o.kind) :
    Known events oid o' := by
  refine ⟨hnew, fun hne => ⟨?_, .inr (.inr (.inl ha.status))⟩, fun hcard => ?_, fun _ => ?_⟩
  · rw [ha.method]
    exact (hold.receipt (ha.sale.receipt ▸ hne)).1
  · simp [ha.status] at hcard
  · rw [ha.sale.kind]
    exact hdone

/-- An order that was taken back.  A card order waits for the admin again. -/
lemma RolledBack.known {st st' : Store} {source : Source} {o o' : Order}
    (hr : RolledBack st st' oid source o o') (hold : Known events oid o) (hnew : OrderOk o')
    (hs : o.status = .processing) (hmethod : o.paymentMethod = some source.method) :
    Known events oid o' := by
  have hstatus := hr.status
  refine ⟨hnew, fun hne => ?_, fun hcard => ?_, fun hap => ?_⟩
  · obtain ⟨hm, -⟩ := hold.receipt (hr.sale.receipt ▸ hne)
    refine ⟨by rw [hr.method, hm], .inl ?_⟩
    cases source with
    | card => exact hstatus
    | wallet | free => simp [hm, Source.method] at hmethod
  · rw [hr.sale.receipt]
    cases source with
    | card => exact hold.submitted (.inr ⟨hs, hmethod⟩)
    | wallet | free => simp [hstatus, Source.allowed] at hcard
  · cases source <;> simp [hstatus, Source.allowed] at hap

/-- What the handler is about to approve is delivered. -/
lemma HolderKnown.delivered (h : HolderKnown events s) {holder : Holder} {serviceId : Option String}
    {o : Order} (hholder : s.holder = some holder) (hstage : holder.stage = .approve serviceId)
    (hok : HolderOk s.store holder o) : Delivered events holder.oid o.kind := by
  have hfits := hok.fits
  have hdone := h holder hholder
  rw [hstage] at hfits hdone
  cases serviceId with
  | none =>
    have hkind : o.kind = .wallet := hfits
    rw [hkind]
    exact hdone.2 rfl
  | some serviceId =>
    have hkind : o.kind ≠ .wallet := hfits
    have hprovisioned := hdone.1 serviceId rfl
    cases hk : o.kind with
    | wallet => exact absurd hk hkind
    | new | renew | other name => exact ⟨serviceId, hprovisioned⟩

/-- The orders after a step are known. -/
lemma Moves.allKnown (hinv : Inv s) (h : AllKnown events s.store) (hh : HolderKnown events s)
    (hm : Moves rt R s s' es) : AllKnown (events ++ es) s'.store := by
  -- the order that a section writes is known as soon as it was before
  have hset : ∀ {key : String} {o' : Order}, s'.store.orders = s.store.orders.set key o' →
      (OrderOk o' → Known events key o') → AllKnown (events ++ es) s'.store := by
    intro key o' ha hknown
    refine (h.set ha (hknown ((hinv.step hm).orders key o' ?_))).mono es
    rw [ha, Dict.get?_set_self]
  have hsame : s'.store.orders = s.store.orders → AllKnown (events ++ es) s'.store := by
    intro ho oid o hoid
    rw [ho] at hoid
    exact h.mono es oid o hoid
  cases hm with
  | quiet hq _ => exact (hq.allKnown h).mono _
  | redeemed _ ho _ _ _ => exact hsame ho
  | enter hst _ _ _ => exact hsame (by rw [hst])
  | refused _ _ hq _ => exact (hq.allKnown h).mono _
  | started _ _ hst _ => exact hset hst.after (hst.known (h _ _ hst.before))
  | inside _ _ _ ho _ => exact hsame ho
  | credited _ _ _ _ hst _ => exact hsame (by rw [hst]; rfl)
  | approved hholder hstage hst _ =>
    obtain ⟨o, o', hok, ha⟩ := hinv.approves hholder hstage hst
    have hdone := hh.delivered hholder hstage hok
    exact hset ha.after fun hnew => ha.known (h _ _ hok.order) hnew hdone
  | rolledBack hholder hstage hst _ =>
    obtain ⟨o, o', hok, hr⟩ := hinv.rollsBack hholder hstage hst
    exact hset hr.after fun hnew => hr.known (h _ _ hok.order) hnew hok.status hok.method
  | returned _ _ hst _ => exact hsame (by rw [hst])

/-- What the handler inside the lock is about to approve, after a step. -/
lemma Moves.holderKnown (hh : HolderKnown events s) (hm : Moves rt R s s' es) :
    HolderKnown (events ++ es) s' := by
  have hkeep : s'.holder = s.holder → HolderKnown (events ++ es) s' := by
    intro hsame h hholder
    obtain ⟨hp, hc⟩ := hh h (hsame ▸ hholder)
    exact ⟨fun serviceId hs => List.mem_append_left _ (hp serviceId hs),
      fun hs => List.mem_append_left _ (hc hs)⟩
  have hnone : s'.holder = none → HolderKnown (events ++ es) s' := by
    intro hn h hholder
    rw [hn] at hholder
    cases hholder
  have hstage : ∀ h : Holder, s'.holder = some h → (∀ serviceId, h.stage ≠ .approve serviceId) →
      HolderKnown (events ++ es) s' := by
    intro h hholder hne h' hholder'
    obtain rfl := Option.some.inj (hholder.symm.trans hholder')
    exact ⟨fun serviceId hs => absurd hs (hne _), fun hs => absurd hs (hne _)⟩
  cases hm with
  | quiet hq hsame => exact hkeep hsame
  | redeemed hpos ho hb hk hsame => exact hkeep hsame
  | enter hst hn hholder hs => exact hstage _ hholder (by simp [hs])
  | refused _ hs hq hn => exact hnone hn
  | started _ hs hst hn => exact hstage _ hn (by simp)
  | @inside h stage es hholder hin hq ho hn =>
    intro h' hholder'
    obtain rfl := Option.some.inj (hn.symm.trans hholder')
    generalize h.stage = before at hin
    constructor
    · rintro serviceId rfl
      cases hin with
      | delivered => simp
    · rintro rfl
      cases hin
  | credited hholder hs ho hk hst hn =>
    intro h' hholder'
    obtain rfl := Option.some.inj (hn.symm.trans hholder')
    exact ⟨fun serviceId hs' => by simp at hs', fun _ => by simp⟩
  | approved _ hs hst hn => exact hstage _ hn (by simp)
  | rolledBack _ hs hst hn => exact hstage _ hn (by simp)
  | returned _ hs hst hn => exact hnone hn

/-- A paid order is not stranded if and only if it is neither in processing nor rejected. -/
lemma Known.notStranded_iff {st : Store} {oid : String} {o : Order} (h : Known events oid o)
    (ho : st.orders.get? oid = some o) (hpaid : Paid o) :
    NotStranded rt env events st oid o ↔ o.status ≠ .processing ∧ o.status ≠ .rejected := by
  constructor
  · rintro (⟨hs, -⟩ | hacc)
    · simp [hs]
    · exact ⟨fun hs => not_accepted_of_status ho (.inl hs) hacc,
        fun hs => not_accepted_of_status ho (.inr hs) hacc⟩
  · rintro ⟨hprocessing, hrejected⟩
    have happroved : o.status = .approved → NotStranded rt env events st oid o := fun hs =>
      .inl ⟨hs, h.delivered hs⟩
    rcases hpaid with ⟨-, hs | hs⟩ | hreceipt
    · exact absurd hs hprocessing
    · exact happroved hs
    · obtain ⟨-, hs | hs | hs | hs⟩ := h.receipt hreceipt
      · exact .inr (accepted_of_pendingAdmin ho hs)
      · exact absurd hs hprocessing
      · exact happroved hs
      · exact absurd hs hrejected

end Bot
