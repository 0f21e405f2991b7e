import LumenRelay.Bot.Payments

/-!
# The wallet ledger

In every run of the bot, the balance of a user is what the gift codes and the approved
top-ups brought, less what the approved orders took, up to the order that the handler inside
the provisioning lock has charged or credited and not yet decided.
-/

namespace Bot

open Lib Py

/-! ## The entries of the ledger -/

/-- What the gift codes brought: the amounts at the redemptions. -/
def giftSum (key : String) (events : List Event) : ℤ :=
  (events.map fun
    | .redeemed key' amount => if key' = key then amount else 0
    | _ => 0).sum

/-- What an approved top-up brings. -/
def topupEntry (key : String) (o : Order) : ℤ :=
  if userKey o.userId = key ∧ o.status = .approved ∧ o.kind = .wallet then o.amount else 0

/-- What an approved order paid from the wallet takes. -/
def paidEntry (key : String) (o : Order) : ℤ :=
  if userKey o.userId = key ∧ o.status = .approved ∧ o.paymentMethod = some .wallet then o.amount
  else 0

/-- The top-ups of a user. -/
def topups (st : Store) (key : String) : ℤ := st.orders.sumBy (topupEntry key)

/-- The wallet payments of a user. -/
def walletPaid (st : Store) (key : String) : ℤ := st.orders.sumBy (paidEntry key)

lemma giftSum_append (key : String) (events es : List Event) :
    giftSum key (events ++ es) = giftSum key events + giftSum key es := by
  simp [giftSum]

lemma giftSum_redeemed (key key' : String) (amount : ℤ) :
    giftSum key [.redeemed key' amount] = if key' = key then amount else 0 := by
  simp [giftSum]

/-! ## Orders in processing -/

/-- The entry of an order that counts a charge as soon as it is made. -/
def entry (key : String) (o : Order) : ℤ :=
  if userKey o.userId = key then
    (if o.status = .approved ∧ o.kind = .wallet then o.amount else 0) -
      if (o.status = .approved ∨ o.status = .processing) ∧ o.paymentMethod = some .wallet then
        o.amount
      else 0
  else 0

/-- What the handler inside the lock has credited for an order that is not approved yet. -/
def inFlight (s : State) (key : String) : ℤ :=
  match s.holder with
  | none => 0
  | some h =>
    match h.stage with
    | .approve none =>
      (s.store.orders.get? h.oid).elim 0 fun o => if userKey o.userId = key then o.amount else 0
    | _ => 0

lemma entry_eq_zero {key : String} {o : Order} (ha : o.status ≠ .approved)
    (hp : o.status ≠ .processing) : entry key o = 0 := by
  simp [entry, ha, hp]

/-- Both ends of a quiet move are outside of the ledger. -/
lemma QuietMove.unsettled {refusal : Prop} {a b : Status} (h : QuietMove refusal a b) :
    (a ≠ .approved ∧ a ≠ .processing) ∧ b ≠ .approved ∧ b ≠ .processing := by
  cases h <;> simp

lemma Quiet.sum_entry {R : String → Prop} {st st' : Store} (hq : Quiet R st st') (key : String) :
    st'.orders.sumBy (entry key) = st.orders.sumBy (entry key) := by
  refine Dict.sumBy_congr fun oid => ?_
  have hstep := hq.orders oid
  generalize st.orders.get? oid = before at hstep ⊢
  generalize st'.orders.get? oid = after at hstep ⊢
  cases hstep with
  | same => rfl
  | created o hs =>
    have hzero : entry key o = 0 := entry_eq_zero (by simp [hs]) (by simp [hs])
    simp [hzero]
  | edited o o' he =>
    obtain ⟨⟨ha, hp⟩, ha', hp'⟩ := he.move.unsettled
    simp [entry_eq_zero ha hp, entry_eq_zero ha' hp']

lemma inFlight_of_holder_none {s : State} (h : s.holder = none) (key : String) :
    inFlight s key = 0 := by
  simp [inFlight, h]

lemma inFlight_of_stage {s : State} {h : Holder} (hh : s.holder = some h)
    (hne : h.stage ≠ .approve none) (key : String) : inFlight s key = 0 := by
  rcases hs : h.stage with _ | _ | _ | _ | _ | serviceId | _ | _
  case approve =>
    cases serviceId with
    | none => exact absurd hs hne
    | some serviceId => simp [inFlight, hh, hs]
  all_goals simp [inFlight, hh, hs]

/-- The steps inside the lock that only pass on the order leave the ledger alone. -/
lemma Inside.no_topup {o : Option Order} {oid : String} {stage stage' : Stage} {es : List Event}
    (h : Inside o oid stage stage' es) :
    stage ≠ .approve none ∧ stage' ≠ .approve none ∧ ∀ key, giftSum key es = 0 := by
  cases h <;> simp [giftSum]

/-! ## The invariant of the ledger -/

/-- The ledger balances up to the order in flight. -/
structure LedgerInv (events : List Event) (s : State) : Prop where
  inv : Inv s
  nonneg : ∀ key, 0 ≤ balanceOf s.store key
  ledger : ∀ key, balanceOf s.store key =
    giftSum key events + s.store.orders.sumBy (entry key) + inFlight s key

variable {rt : Runtime} {env : Env} {R : String → Prop} {s s' : State} {events es : List Event}

/-- A quiet step of a handler leaves what is in flight as it is. -/
lemma Inv.inFlight_eq (hinv : Inv s) (hh : s'.holder = s.holder)
    (hwork : ∀ oid o, s.store.orders.get? oid = some o → o.status = .processing ∨ o.status = .approved →
      s'.store.orders.get? oid = some o) (key : String) : inFlight s' key = inFlight s key := by
  cases hs : s.holder with
  | none => rw [inFlight_of_holder_none hs, inFlight_of_holder_none (hh.trans hs)]
  | some h =>
    by_cases hstage : h.stage = .approve none
    · obtain ⟨o, ho⟩ := hinv.holder h hs (by rw [hstage]; rfl)
      simp [inFlight, hh, hs, hstage, ho.order, hwork _ _ ho.order (.inl ho.status)]
    · rw [inFlight_of_stage hs hstage, inFlight_of_stage (hh.trans hs) hstage]

/-- The ledger across a step that only rewrites one order: its entry changes as much as the
balance and what is in flight do. -/
lemma ledger_set {st st' : Store} {oid : String} {o o' : Order} {key : String} {g f f' : ℤ}
    (hledger : balanceOf st key = g + st.orders.sumBy (entry key) + f)
    (hb : st.orders.get? oid = some o) (ha : st'.orders = st.orders.set oid o')
    (hd : balanceOf st' key - balanceOf st key = entry key o' - entry key o + (f' - f)) :
    balanceOf st' key = g + st'.orders.sumBy (entry key) + f' := by
  rw [ha, Dict.sumBy_set_of_some hb]
  omega

/-- The ledger balances after every step. -/
theorem LedgerInv.step (hinv : LedgerInv events s) (hm : Moves rt R s s' es) :
    LedgerInv (events ++ es) s' := by
  have hnext := hinv.inv.step hm
  cases hm with
  | quiet hq hh =>
    refine ⟨hnext, fun key => by rw [hq.accounts.balance]; exact hinv.nonneg key, fun key => ?_⟩
    rw [hq.accounts.balance, hq.sum_entry, hinv.inv.inFlight_eq hh hq.keeps_working,
      List.append_nil]
    exact hinv.ledger key
  | @redeemed userId amount hpos ho hb hk hh =>
    refine ⟨hnext, fun key => ?_, fun key => ?_⟩
    · have := hinv.nonneg key
      rw [hb]
      split_ifs <;> omega
    · have hflight := hinv.inv.inFlight_eq hh (fun oid o h _ => by rw [ho, h]) key
      have := hinv.ledger key
      rw [hb, ho, hflight, giftSum_append, giftSum_redeemed]
      simp only [@eq_comm _ (userKey userId)]
      omega
  | enter hst hn hh hstage =>
    refine ⟨hnext, by rw [hst]; exact hinv.nonneg, fun key => ?_⟩
    rw [inFlight_of_stage hh (by simp [hstage]), hst, List.append_nil,
      ← inFlight_of_holder_none hn key]
    exact hinv.ledger key
  | refused hh hstage hq hn =>
    refine ⟨hnext, fun key => by rw [hq.accounts.balance]; exact hinv.nonneg key, fun key => ?_⟩
    rw [hq.accounts.balance, hq.sum_entry, inFlight_of_holder_none hn, List.append_nil,
      ← inFlight_of_stage hh (by simp [hstage]) key]
    exact hinv.ledger key
  | @started h reviewerId o o' hh hstage hst hn =>
    refine ⟨hnext, fun key => ?_, fun key => ?_⟩
    · have hpos := hinv.nonneg key
      rw [hst.balance]
      split_ifs with hw
      · have hcovered := hst.covered hw.1
        rw [← hw.2] at hcovered
        omega
      · omega
    · rw [List.append_nil]
      refine ledger_set (hinv.ledger key) hst.before hst.after ?_
      rw [inFlight_of_stage hh (by simp [hstage]), inFlight_of_stage hn (by simp), hst.balance]
      have hold : entry key o = 0 := by
        apply entry_eq_zero <;> rw [hst.came] <;> cases h.source <;> simp [Source.allowed]
      have hcharge : o'.paymentMethod = some .wallet ↔ h.source = .wallet := by
        obtain ⟨o₁, hok⟩ := hnext.holder _ hn rfl
        obtain rfl : o' = o₁ := by
          have := hok.order
          rw [hst.after, Dict.get?_set_self] at this
          exact Option.some.inj this
        rw [hok.method]
        cases h.source <;> simp [Source.method]
      rw [hold]
      simp only [entry, hst.status, hst.sale.userId, hst.sale.amount, hcharge]
      by_cases hkey : userKey o.userId = key
      · subst hkey
        by_cases hw : h.source = .wallet <;> simp [hw]
      · simp [hkey, Ne.symm hkey]
  | @inside h stage es hh hin hq ho hn =>
    obtain ⟨hne, hne', hgift⟩ := hin.no_topup
    refine ⟨hnext, fun key => by rw [hq.accounts.balance]; exact hinv.nonneg key, fun key => ?_⟩
    rw [hq.accounts.balance, ho, inFlight_of_stage hn hne', ← inFlight_of_stage hh hne key,
      giftSum_append, hgift, add_zero (giftSum key events)]
    exact hinv.ledger key
  | @credited h o hh hstage ho hk hst hn =>
    obtain ⟨o₁, hok⟩ := hinv.inv.holder h hh (by rw [hstage]; rfl)
    obtain rfl : o = o₁ := Option.some.inj (ho.symm.trans hok.order)
    obtain ⟨user, hu⟩ := hok.customer
    have hamount := (hinv.inv.orders _ _ ho).amount
    have hbalance : ∀ key, balanceOf s'.store key =
        balanceOf s.store key + if key = userKey o.userId then o.amount else 0 := by
      rw [hst]
      exact balanceOf_credit s.store hu o.amount
    have horders : s'.store.orders = s.store.orders := by rw [hst]; rfl
    refine ⟨hnext, fun key => ?_, fun key => ?_⟩
    · have := hinv.nonneg key
      rw [hbalance]
      split_ifs <;> omega
    · have hflight : inFlight s' key = if userKey o.userId = key then o.amount else 0 := by
        simp [inFlight, hn, horders, ho]
      have hledger := hinv.ledger key
      rw [inFlight_of_stage hh (by simp [hstage])] at hledger
      rw [hbalance, hflight, horders, giftSum_append, hledger]
      have hgift : giftSum key [.credited h.oid] = 0 := rfl
      simp only [hgift, @eq_comm _ key]
      omega
  | @approved h serviceId now hh hstage hst hn =>
    obtain ⟨o, o', hok, ha⟩ := hinv.inv.approves hh hstage hst
    refine ⟨hnext, fun key => by rw [ha.accounts.balance]; exact hinv.nonneg key, fun key => ?_⟩
    rw [List.append_nil]
    refine ledger_set (hinv.ledger key) hok.order ha.after ?_
    rw [inFlight_of_stage hn (by simp), ha.accounts.balance]
    simp only [entry, ha.status, ha.sale.userId, ha.sale.amount, ha.sale.kind, ha.method, hok.status]
    have hfits := hok.fits
    rw [hstage] at hfits
    cases serviceId with
    | none =>
      have hkind : o.kind = .wallet := hfits
      simp only [inFlight, hh, hstage, hok.order, Option.elim_some, hkind]
      by_cases hkey : userKey o.userId = key <;> simp [hkey]
    | some serviceId =>
      have hkind : o.kind ≠ .wallet := hfits
      simp [inFlight, hh, hstage, hkind]
  | @rolledBack h message hh hstage hst hn =>
    obtain ⟨o, o', hok, hr⟩ := hinv.inv.rollsBack hh hstage hst
    have hamount := (hinv.inv.orders _ _ hok.order).amount
    refine ⟨hnext, fun key => ?_, fun key => ?_⟩
    · have := hinv.nonneg key
      rw [hr.balance]
      split_ifs <;> omega
    · rw [List.append_nil]
      refine ledger_set (hinv.ledger key) hok.order hr.after ?_
      rw [inFlight_of_stage hh (by simp [hstage]), inFlight_of_stage hn (by simp), hr.balance]
      have hnew : entry key o' = 0 := by
        apply entry_eq_zero <;> rw [hr.status] <;> cases h.source <;> simp [Source.allowed]
      rw [hnew]
      simp only [entry, hok.status, hok.method]
      by_cases hkey : userKey o.userId = key
      · subst hkey
        cases h.source <;> simp [Source.method]
      · simp [hkey, Ne.symm hkey]
  | @returned h fulfilled hh hstage hst hn =>
    have hgift : ∀ key, giftSum key (if fulfilled then [Event.fulfilled h.oid] else []) = 0 := by
      intro key
      cases fulfilled <;> rfl
    refine ⟨hnext, by rw [hst]; exact hinv.nonneg, fun key => ?_⟩
    rw [hst, inFlight_of_holder_none hn, giftSum_append, hgift, add_zero (giftSum key events),
      ← inFlight_of_stage hh (by simp [hstage]) key]
    exact hinv.ledger key

/-- The ledger balances at every moment of a run from an empty store. -/
lemma ledgerInv_of_run {visited : List State} {saved : Option Store}
    (h : (machine rt env).Run (.fresh (defaultStore env) saved) visited events s) :
    LedgerInv events s := by
  refine h.invariant_events ⟨.fresh (fun oid o ho => by cases ho) _, fun key => ?_, fun key => ?_⟩
    fun events s l s' es hinv hs => hinv.step (step_moves hs)
  · exact le_refl 0
  · rfl

/-- Without an order in processing, the entries of a user are the top-ups less the payments. -/
lemma sum_entry_settled {st : Store} {key : String}
    (hsettled : ∀ oid o, st.orders.get? oid = some o → userKey o.userId = key →
      o.status ≠ .processing) :
    st.orders.sumBy (entry key) = topups st key - walletPaid st key := by
  have hentry : ∀ oid o, st.orders.get? oid = some o →
      entry key o = topupEntry key o - paidEntry key o := by
    intro oid o ho
    by_cases hkey : userKey o.userId = key
    · simp [entry, topupEntry, paidEntry, hkey, hsettled oid o ho hkey]
    · simp [entry, topupEntry, paidEntry, hkey]
  have hall : ∀ k ∈ st.orders.keys, k ∈ st.orders.keys.toFinset := fun k hk =>
    List.mem_toFinset.mpr hk
  unfold topups walletPaid
  rw [Dict.sumBy_eq_sum _ hall, Dict.sumBy_eq_sum _ hall, Dict.sumBy_eq_sum _ hall,
    ← Finset.sum_sub_distrib]
  refine Finset.sum_congr rfl fun oid _ => ?_
  cases ho : st.orders.get? oid with
  | none => rfl
  | some o => exact hentry oid o ho

/-- **Conservation.**  In every run from an empty store no balance is ever negative, and
whenever none of a user's orders is in processing the user's balance is what the redeemed gift
codes and the approved top-ups brought, less what the approved wallet orders took.  An order is in
processing only while the handler inside the lock is working on it, and every deduction that the
states of the run show is followed by exactly one refund of its amount or by the approval of its
order, up to the one that this handler is working on. -/
theorem wallet_conservation {visited : List State}
    (h : (machine rt env).Run (.fresh (defaultStore env) none) visited events s) :
    (∀ key, 0 ≤ balanceOf s.store key) ∧
      (∀ key, (∀ oid o, s.store.orders.get? oid = some o → userKey o.userId = key →
          o.status ≠ .processing) →
        balanceOf s.store key =
          giftSum key events + topups s.store key - walletPaid s.store key) ∧
      (∀ oid o, s.store.orders.get? oid = some o → o.status = .processing → WorkedOn s oid) ∧
      ∀ oid, Account s oid (movements oid visited) := by
  have hinv := ledgerInv_of_run h
  obtain ⟨hattended, haccount⟩ := account_of_run (fun oid o ho => by cases ho)
    (fun oid o ho => by cases ho) h
  refine ⟨hinv.nonneg, fun key hsettled => ?_, fun oid o ho hs => hattended oid o ho hs trivial,
    haccount⟩
  have hflight : inFlight s key = 0 := by
    cases hs : s.holder with
    | none => exact inFlight_of_holder_none hs key
    | some holder =>
      by_cases hstage : holder.stage = .approve none
      · obtain ⟨o, ho⟩ := hinv.inv.holder holder hs (by rw [hstage]; rfl)
        have hne : userKey o.userId ≠ key := fun hkey =>
          hsettled holder.oid o ho.order hkey ho.status
        simp [inFlight, hs, hstage, ho.order, hne]
      · exact inFlight_of_stage hs hstage key
  have hledger := hinv.ledger key
  rw [hflight, sum_entry_settled hsettled] at hledger
  omega

/-! A customer redeems a code of 50000 and pays a renewal of 30000 from the wallet; provisioning
fails at first. -/

/-- An environment with one admin. -/
def exampleEnv : Env := ⟨"Shop", "", "", "", [9], 24, 2⟩

/-- The steps of a save. -/
def saveSteps (pid : ℕ) : List Label := [.startSave pid, .endSave pid true]

/-- The steps that pay an order from the wallet and provision it. -/
def payWalletSteps (pid : ℕ) (oid serviceId : String) : List Label :=
  [.invoke pid 0 (.finishOrder oid none .wallet), .enter pid, .run pid 0] ++ saveSteps pid ++
    [.run pid 0, .provisioned pid (.ok serviceId), .run pid 0] ++ saveSteps pid

/-- The steps of a customer who redeems a gift code and orders a renewal. -/
def customerSteps : List Label :=
  [.invoke 1 0 (.ensureUser 7 "u" "U")] ++ saveSteps 1 ++
    [.invoke 1 0 (.createGift 9 "WELCOME" 50000 10 none)] ++ saveSteps 1 ++
    [.invoke 1 0 (.redeemGift 7 "WELCOME")] ++ saveSteps 1 ++
    [.invoke 1 0 (.createOrder "O1" 7 .renew
      (some ⟨"p", "P", 10, "10 B", 30, 30000, false, true⟩) (some "svc") none)] ++ saveSteps 1

/-- The steps that pay an order from the wallet and cannot provision it. -/
def failWalletSteps (pid : ℕ) (oid message : String) : List Label :=
  [.invoke pid 0 (.finishOrder oid none .wallet), .enter pid, .run pid 0] ++ saveSteps pid ++
    [.run pid 0, .provisioned pid (.error message), .run pid 0] ++ saveSteps pid

/-- The payment fails, and is made again. -/
def renewalSteps : List Label :=
  customerSteps ++ failWalletSteps 1 "O1" "no link" ++ payWalletSteps 1 "O1" "svc"

theorem wallet_conservation_renewal : ∃ visited events s,
    (machine .ascii exampleEnv).Run (.fresh (defaultStore exampleEnv) none) visited events s ∧
      balanceOf s.store "7" = 20000 ∧
      balanceOf s.store "7" =
        giftSum "7" events + topups s.store "7" - walletPaid s.store "7" ∧
      movements "O1" visited = [.deducted 30000, .refunded 30000, .deducted 30000, .approved] ∧
      Account s "O1" (movements "O1" visited) := by
  have hends : ∃ visited events s,
      (machine .ascii exampleEnv).Run (.fresh (defaultStore exampleEnv) none) visited events s ∧
        balanceOf s.store "7" = 20000 ∧
        (∀ e ∈ s.store.orders.entries, e.2.status ≠ .processing) ∧
        movements "O1" visited = [.deducted 30000, .refunded 30000, .deducted 30000, .approved] :=
    Machine.exists_run renewalSteps (by decide +kernel)
  obtain ⟨visited, events, s, hrun, hbalance, hsettled, hmovements⟩ := hends
  obtain ⟨-, hledger, -, haccount⟩ := wallet_conservation hrun
  refine ⟨visited, events, s, hrun, hbalance, hledger "7" fun oid o ho _ => ?_, hmovements,
    haccount "O1"⟩
  exact hsettled (oid, o) (Dict.mem_entries_iff.mpr ho)

end Bot
