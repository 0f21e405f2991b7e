import LumenRelay.Bot.Machine

/-!
# What a step of the bot can do

`step_moves` says once what a step does to the store and to the handler inside the
provisioning lock; the invariants below and the results about runs are derived from it.
-/

namespace Bot

open Lib Py

/-- The steps of the handler inside the lock that change no balance and no order. -/
inductive Inside (order : Option Order) (oid : String) : Stage → Stage → List Event → Prop
  | charged : Inside order oid .savingCharge .deliver []
  | provision {o : Order} : order = some o → o.kind = .new ∨ o.kind = .renew →
      Inside order oid .deliver .provisioning [.provisioning oid]
  | unknown {message : String} : Inside order oid .deliver (.rollback message) []
  | customerSub : Inside order oid .provisioning .savingSub []
  | subSaved : Inside order oid .savingSub .provisioning []
  | delivered {serviceId : String} :
      Inside order oid .provisioning (.approve (some serviceId)) [.provisioned oid serviceId]
  | failed {message : String} : Inside order oid .provisioning (.rollback message) []

/-- What a step can do; it refuses the receipts of some orders only. -/
inductive Moves (rt : Runtime) (R : String → Prop) (s s' : State) : List Event → Prop
  | quiet : Quiet R s.store s'.store → s'.holder = s.holder → Moves rt R s s' []
  | redeemed {userId amount : ℤ} : 0 < amount → s'.store.orders = s.store.orders →
      (∀ k, balanceOf s'.store k =
        balanceOf s.store k + if k = userKey userId then amount else 0) →
      (∀ k user, s.store.users.get? k = some user → ∃ user', s'.store.users.get? k = some user') →
      s'.holder = s.holder → Moves rt R s s' [.redeemed (userKey userId) amount]
  | enter {h : Holder} {reviewerId : Option ℤ} : s'.store = s.store → s.holder = none →
      s'.holder = some h → h.stage = .begin reviewerId → Moves rt R s s' []
  | refused {h : Holder} {reviewerId : Option ℤ} : s.holder = some h →
      h.stage = .begin reviewerId → Quiet R s.store s'.store → s'.holder = none → Moves rt R s s' []
  | started {h : Holder} {reviewerId : Option ℤ} {o o' : Order} : s.holder = some h →
      h.stage = .begin reviewerId → Started s.store s'.store h.oid h.source o o' →
      s'.holder = some { h with stage := .savingCharge } → Moves rt R s s' []
  | inside {h : Holder} {stage : Stage} {events : List Event} : s.holder = some h →
      Inside (s.store.orders.get? h.oid) h.oid h.stage stage events → Quiet R s.store s'.store →
      s'.store.orders = s.store.orders →
      s'.holder = some { h with stage := stage } → Moves rt R s s' events
  | credited {h : Holder} {o : Order} : s.holder = some h → h.stage = .deliver →
      s.store.orders.get? h.oid = some o → o.kind = .wallet →
      s'.store = creditWalletLocked s.store o →
      s'.holder = some { h with stage := .approve none } → Moves rt R s s' [.credited h.oid]
  | approved {h : Holder} {serviceId : Option String} {now : ℤ} : s.holder = some h →
      h.stage = .approve serviceId → s'.store = approveLocked rt now s.store h.oid serviceId →
      s'.holder = some { h with stage := .savingOutcome true } → Moves rt R s s' []
  | rolledBack {h : Holder} {message : String} : s.holder = some h →
      h.stage = .rollback message → s'.store = rollbackLocked s.store h.oid h.source message →
      s'.holder = some { h with stage := .savingOutcome false } → Moves rt R s s' []
  | returned {h : Holder} {fulfilled : Bool} : s.holder = some h →
      h.stage = .savingOutcome fulfilled → s'.store = s.store → s'.holder = none →
      Moves rt R s s' (if fulfilled then [.fulfilled h.oid] else [])

/-- The orders whose receipt a step may refuse. -/
def Label.refuses : Label → String → Prop
  | .invoke _ _ (.rejectOrder oid _), key => key = oid
  | _, _ => False

variable {rt : Runtime} {env : Env} {R : String → Prop} {s s' : State} {es : List Event}

/-- A move depends on the store and on the handler inside the lock only. -/
lemma Moves.of_eq {t : State} (h : Moves rt R t s' es) (hstore : t.store = s.store)
    (hholder : t.holder = s.holder) : Moves rt R s s' es := by
  rcases s with ⟨store, saved, writer, tasks, holder⟩
  obtain rfl : t.store = store := hstore
  obtain rfl : t.holder = holder := hholder
  cases h with
  | quiet hq hh => exact .quiet hq hh
  | redeemed hpos ho hb hk hh => exact .redeemed hpos ho hb hk hh
  | enter hst hn hh hstage => exact .enter hst hn hh hstage
  | refused hh hstage hq hn => exact .refused hh hstage hq hn
  | started hh hstage hst hn => exact .started hh hstage hst hn
  | inside hh hin hq ho hn => exact .inside hh hin hq ho hn
  | credited hh hstage ho hk hst hn => exact .credited hh hstage ho hk hst hn
  | approved hh hstage hst hn => exact .approved hh hstage hst hn
  | rolledBack hh hstage hst hn => exact .rolledBack hh hstage hst hn
  | returned hh hstage hst hn => exact .returned hh hstage hst hn

/-- The first section of an operation is quiet, or it redeems a gift code. -/
lemma firstSection_cases {pid : ℕ} {now : ℤ} {st st' : Store} {action : Action} {pc : Option Pc}
    (h : firstSection rt env now st action = some (st', pc, es)) :
    Quiet (Label.invoke pid now action).refuses st st' ∧ es = [] ∨
      ∃ userId amount, Redeems st userId (st', .ok amount) ∧
        es = [.redeemed (userKey userId) amount] := by
  cases action with
  | ensureUser userId username firstName =>
    cases h
    exact .inl ⟨ensureUserLocked_quiet rt now st userId username firstName, rfl⟩
  | createGift chatId code amount maxUses expiresAt =>
    cases h
    exact .inl ⟨createGiftLocked_quiet rt now st chatId code amount maxUses expiresAt, rfl⟩
  | createDiscount chatId code type value maxUses expiresAt =>
    cases h
    exact .inl ⟨createDiscountLocked_quiet rt now st chatId code type value maxUses expiresAt, rfl⟩
  | setCard cardNumber cardHolder =>
    cases h
    exact .inl ⟨setCardLocked_quiet st cardNumber cardHolder, rfl⟩
  | createOrder oid userId kind plan serviceId amount =>
    simp only [firstSection] at h
    by_cases hfresh : st.orders.contains oid = true
    · simp [hfresh] at h
    · rw [if_neg hfresh] at h
      rw [Bool.not_eq_true, Dict.contains_eq_false_iff] at hfresh
      cases hc : createOrderLocked rt now st oid userId kind plan serviceId amount with
      | none =>
        rw [hc] at h
        cases h
        exact .inl ⟨.refl st, rfl⟩
      | some r =>
        obtain ⟨st₁, order⟩ := r
        rw [hc] at h
        cases h
        exact .inl ⟨createOrderLocked_quiet rt now st hfresh hc, rfl⟩
  | applyDiscount oid userId text =>
    simp only [firstSection] at h
    cases hn : normalizeCode rt text with
    | none =>
      rw [hn] at h
      cases h
      exact .inl ⟨.refl st, rfl⟩
    | some code =>
      rw [hn] at h
      cases h
      exact .inl ⟨applyDiscountLocked_quiet rt now st oid userId code, rfl⟩
  | cancelOrder oid userId =>
    cases h
    exact .inl ⟨cancelOrderLocked_quiet rt now st oid userId, rfl⟩
  | cancelWaitingOrder oid userId =>
    cases h
    exact .inl ⟨cancelWaitingLocked_quiet rt now st oid userId, rfl⟩
  | expireStaleOrders =>
    cases h
    exact .inl ⟨expireStaleLocked_quiet rt now st env, rfl⟩
  | startCardPayment oid userId =>
    cases h
    exact .inl ⟨expireStaleLocked_quiet rt now st env, rfl⟩
  | submitReceipt userId receipt oid =>
    cases h
    exact .inl ⟨submitReceiptLocked_quiet rt now st userId receipt oid, rfl⟩
  | rejectOrder oid adminId =>
    cases h
    exact .inl ⟨rejectOrderLocked_quiet rt now st oid adminId, rfl⟩
  | redeemGift userId text =>
    simp only [firstSection] at h
    cases hn : normalizeCode rt text with
    | none =>
      rw [hn] at h
      cases h
      exact .inl ⟨.refl st, rfl⟩
    | some code =>
      rw [hn] at h
      dsimp only at h
      have hr := redeemGiftLocked_redeems rt now st userId code
      revert h hr
      cases redeemGiftLocked rt now st userId code with
      | mk st₁ reply =>
        intro h hr
        cases reply with
        | error message =>
          cases h
          cases hr
          exact .inl ⟨.refl st, rfl⟩
        | ok amount =>
          cases h
          exact .inr ⟨userId, amount, hr, rfl⟩
  | finishOrder oid reviewerId source =>
    cases h
    exact .inl ⟨.refl st, rfl⟩

lemma runHolder_moves {now : ℤ} {h : Holder} (hh : s.holder = some h)
    (hr : runHolder rt now s h = some (s', es)) : Moves rt R s s' es := by
  unfold runHolder at hr
  cases hstage : h.stage with
  | begin reviewerId =>
    rw [hstage] at hr
    have hb := finishBeginLocked_begins rt now s.store h.oid reviewerId h.source
    revert hr hb
    dsimp only
    cases finishBeginLocked rt now s.store h.oid reviewerId h.source with
    | mk st reply =>
      intro hr hb
      cases hb with
      | refused hne hq =>
        cases reply with
        | started o => exact absurd rfl (hne o)
        | refused message =>
          cases hr
          exact .refused hh hstage (hq R) rfl
        | already message =>
          cases hr
          exact .refused hh hstage (hq R) rfl
      | started hst =>
        cases hr
        exact .started hh hstage hst rfl
  | deliver =>
    rw [hstage] at hr
    dsimp only at hr
    cases ho : s.store.orders.get? h.oid with
    | none => simp [ho] at hr
    | some order =>
      rw [ho] at hr
      dsimp only at hr
      cases hk : order.kind with
      | wallet =>
        rw [hk] at hr
        cases hr
        exact .credited hh hstage ho hk rfl rfl
      | new =>
        rw [hk] at hr
        cases hr
        exact .inside hh (by rw [hstage]; exact .provision ho (.inl hk)) (.refl _) rfl rfl
      | renew =>
        rw [hk] at hr
        cases hr
        exact .inside hh (by rw [hstage]; exact .provision ho (.inr hk)) (.refl _) rfl rfl
      | other name =>
        rw [hk] at hr
        cases hr
        exact .inside hh (by rw [hstage]; exact .unknown) (.refl _) rfl rfl
  | approve serviceId =>
    rw [hstage] at hr
    cases hr
    exact .approved hh hstage rfl rfl
  | rollback message =>
    rw [hstage] at hr
    cases hr
    exact .rolledBack hh hstage rfl rfl
  | savingCharge | provisioning | savingSub | savingOutcome fulfilled =>
    rw [hstage] at hr
    cases hr

lemma afterSave_moves {pid : ℕ} (h : afterSave s pid = some (s', es)) : Moves rt R s s' es := by
  unfold afterSave at h
  cases ht : s.tasks.get? pid with
  | some pc =>
    rw [ht] at h
    cases pc with
    | saving =>
      cases h
      exact .quiet (.refl _) rfl
    | savingSweep oid userId =>
      cases h
      exact .quiet (.refl _) rfl
    | startCard oid userId => cases h
    | finishWait oid reviewerId source => cases h
  | none =>
    rw [ht] at h
    dsimp only at h
    cases hh : s.holder with
    | none => simp [hh] at h
    | some holder =>
      rw [hh] at h
      dsimp only at h
      cases hstage : holder.stage with
      | savingCharge =>
        rw [hstage] at h
        cases h
        exact .inside hh (by rw [hstage]; exact .charged) (.refl _) rfl rfl
      | savingSub =>
        rw [hstage] at h
        cases h
        exact .inside hh (by rw [hstage]; exact .subSaved) (.refl _) rfl rfl
      | savingOutcome fulfilled =>
        rw [hstage] at h
        cases h
        exact .returned hh hstage rfl rfl
      | begin reviewerId | deliver | provisioning | approve serviceId | rollback message =>
        rw [hstage] at h
        cases h

/-- What a step can do, said once. -/
theorem step_moves {l : Label} (h : step rt env s l = some (s', es)) : Moves rt l.refuses s s' es := by
  cases l with
  | invoke pid now action =>
    simp only [step] at h
    split_ifs at h
    cases hf : firstSection rt env now s.store action with
    | none => simp [hf] at h
    | some r =>
      obtain ⟨st, pc, events⟩ := r
      rw [hf] at h
      dsimp only at h
      have hs : (({ s with store := st } : State).suspend pid pc).store = st ∧
          (({ s with store := st } : State).suspend pid pc).holder = s.holder := by
        cases pc <;> exact ⟨rfl, rfl⟩
      simp only [Option.some.injEq, Prod.mk.injEq] at h
      obtain ⟨rfl, rfl⟩ := h
      rcases firstSection_cases hf with ⟨hq, rfl⟩ | ⟨userId, amount, hr, rfl⟩
      · exact .quiet (by rw [hs.1]; exact hq) hs.2
      · cases hr with
        | redeemed hpos ho hb hk =>
          exact .redeemed hpos (by rw [hs.1, ho]) (by rw [hs.1]; exact hb) (by rw [hs.1]; exact hk) hs.2
  | enter pid =>
    simp only [step] at h
    cases ht : s.tasks.get? pid with
    | none => simp [ht] at h
    | some pc =>
      cases pc with
      | finishWait oid reviewerId source =>
        cases hh : s.holder with
        | none =>
          rw [ht, hh] at h
          cases h
          exact .enter rfl hh rfl rfl
        | some holder => simp [ht, hh] at h
      | saving => simp [ht] at h
      | savingSweep oid userId => simp [ht] at h
      | startCard oid userId => simp [ht] at h
  | run pid now =>
    simp only [step] at h
    cases ht : s.tasks.get? pid with
    | some pc =>
      rw [ht] at h
      cases pc with
      | startCard oid userId =>
        dsimp only at h
        have hq : Quiet (Label.run pid now).refuses s.store
            (startCardLocked rt now env s.store oid userId).1 :=
          startCardLocked_quiet rt now s.store env oid userId
        simp only [Option.some.injEq, Prod.mk.injEq] at h
        obtain ⟨rfl, rfl⟩ := h
        refine .quiet ?_ ?_
        · cases saveIf (succeeded (startCardLocked rt now env s.store oid userId).2) <;> exact hq
        · cases saveIf (succeeded (startCardLocked rt now env s.store oid userId).2) <;> rfl
      | saving => cases h
      | savingSweep oid userId => cases h
      | finishWait oid reviewerId source => cases h
    | none =>
      rw [ht] at h
      dsimp only at h
      cases hh : s.holder with
      | none => simp [hh] at h
      | some holder =>
        rw [hh] at h
        dsimp only at h
        split_ifs at h
        exact runHolder_moves hh h
  | customerSub pid subId =>
    simp only [step] at h
    cases hh : s.holder with
    | none => simp [hh] at h
    | some holder =>
      rw [hh] at h
      dsimp only at h
      split at h
      · rename_i order hstage ho
        split_ifs at h
        cases h
        exact .inside hh (by rw [hstage]; exact .customerSub) (setCustomerSubLocked_quiet _ _ _) rfl rfl
      · cases h
  | provisioned pid outcome =>
    simp only [step] at h
    cases hh : s.holder with
    | none => simp [hh] at h
    | some holder =>
      rw [hh] at h
      dsimp only at h
      split at h
      · rename_i hstage
        split_ifs at h
        cases outcome with
        | ok serviceId =>
          cases h
          exact .inside hh (by rw [hstage]; exact .delivered) (.refl _) rfl rfl
        | error message =>
          cases h
          exact .inside hh (by rw [hstage]; exact .failed) (.refl _) rfl rfl
      · cases h
  | startSave pid =>
    simp only [step] at h
    split_ifs at h
    cases h
    exact .quiet (.refl _) rfl
  | endSave pid written =>
    simp only [step] at h
    split at h
    · rename_i writerPid snapshot hw
      by_cases hpid : writerPid = pid
      · rw [if_pos hpid] at h
        exact (afterSave_moves h).of_eq rfl rfl
      · rw [if_neg hpid] at h
        cases h
    · cases h

end Bot
