import LumenRelay.Bot.Orders

/-!
# What the critical sections do

The sections before the payment of an order, and those that have nothing to do with orders,
are quiet: they leave every balance as it is and move an order, if at all, between statuses
in which nothing has been charged or delivered.  The four sections of `_finish_order` and the
one of `_redeem_gift` are described one by one.
-/

namespace Bot

open Lib Py

/-! ## Balances -/

/-- The balance behind a user key; an unknown user has none. -/
def balanceOf (st : Store) (key : String) : ℤ := ((st.users.get? key).map User.balance).getD 0

/-- The balances are the same and no user is lost. -/
structure SameAccounts (st st' : Store) : Prop where
  balance : ∀ key, balanceOf st' key = balanceOf st key
  kept : ∀ key user, st.users.get? key = some user → ∃ user', st'.users.get? key = some user'

lemma SameAccounts.of_users {st st' : Store} (h : st'.users = st.users) : SameAccounts st st' :=
  ⟨fun key => by simp [balanceOf, h], fun key user hu => ⟨user, by rw [h, hu]⟩⟩

lemma SameAccounts.trans {st₁ st₂ st₃ : Store} (h : SameAccounts st₁ st₂)
    (h' : SameAccounts st₂ st₃) : SameAccounts st₁ st₃ := by
  refine ⟨fun key => (h'.balance key).trans (h.balance key), fun key user hu => ?_⟩
  obtain ⟨user', hu'⟩ := h.kept key user hu
  exact h'.kept key user' hu'

/-- Replacing the record of a user, or adding one without money, by a record with the balance
the key had. -/
lemma SameAccounts.of_set {st st' : Store} {key : String} {user : User}
    (h : st'.users = st.users.set key user) (hb : user.balance = balanceOf st key) :
    SameAccounts st st' := by
  constructor
  · intro k
    by_cases hk : k = key
    · subst hk
      simp [balanceOf, h] at hb ⊢
      exact hb
    · simp [balanceOf, h, Dict.get?_set_ne hk]
  · intro k u hu
    rw [h, Dict.get?_set]
    split_ifs
    · exact ⟨user, rfl⟩
    · exact ⟨u, hu⟩

lemma SameAccounts.of_modify {st st' : Store} {key : String} {f : User → User}
    (h : st'.users = st.users.modify key f) (hf : ∀ user, (f user).balance = user.balance) :
    SameAccounts st st' := by
  cases hu : st.users.get? key with
  | none => exact .of_users (by rw [h, Dict.modify_of_none hu])
  | some user =>
    refine .of_set (by rw [h, Dict.modify_of_some hu]) ?_
    simp [balanceOf, hu, hf]

/-! ## Quiet steps -/

/-- The moves between statuses in which nothing has been charged or delivered; an admin may have
refused the order, or not. -/
inductive QuietMove (refusal : Prop) : Status → Status → Prop
  | edit : QuietMove refusal .draft .draft
  | startCard : QuietMove refusal .draft .awaitingReceipt
  | cancel : QuietMove refusal .draft .cancelled
  | cancelWaiting : QuietMove refusal .awaitingReceipt .cancelled
  | expire : QuietMove refusal .awaitingReceipt .expired
  | submit : QuietMove refusal .awaitingReceipt .pendingAdmin
  | reject : refusal → QuietMove refusal .pendingAdmin .rejected

/-- What a quiet step may do to an order. -/
structure QuietEdit (refusal : Prop) (o o' : Order) : Prop where
  move : QuietMove refusal o.status o'.status
  userId : o'.userId = o.userId
  kind : o'.kind = o.kind
  amount : 0 ≤ o.amount → 0 ≤ o'.amount
  method : o'.paymentMethod = o.paymentMethod ∧ o'.status ≠ .awaitingReceipt ∨
    o'.paymentMethod = some .card
  receipt : o'.receipt = o.receipt ∨ o'.status = .pendingAdmin
  submitted : o'.status = .pendingAdmin → o'.receipt ≠ none

/-- What a quiet step may do at one order id. -/
inductive OrderStep (refusal : Prop) : Option Order → Option Order → Prop
  | same (o : Option Order) : OrderStep refusal o o
  | created (o : Order) : o.status = .draft → 0 ≤ o.amount → o.receipt = none →
      OrderStep refusal none (some o)
  | edited (o o' : Order) : QuietEdit refusal o o' → OrderStep refusal (some o) (some o')

/-- A step that charges, refunds and delivers nothing, and refuses orders of some ids only. -/
structure Quiet (R : String → Prop) (st st' : Store) : Prop where
  accounts : SameAccounts st st'
  orders : ∀ oid, OrderStep (R oid) (st.orders.get? oid) (st'.orders.get? oid)

variable {R : String → Prop}

lemma Quiet.of_orders_eq {st st' : Store} (h : SameAccounts st st')
    (ho : st'.orders = st.orders) : Quiet R st st' :=
  ⟨h, fun oid => by rw [ho]; exact .same _⟩

lemma Quiet.refl (st : Store) : Quiet R st st := .of_orders_eq (.of_users rfl) rfl

/-- Rewriting one order by a quiet edit. -/
lemma Quiet.of_edit {st st' : Store} {oid : String} {o o' : Order} (h : SameAccounts st st')
    (hb : st.orders.get? oid = some o) (ha : st'.orders = st.orders.set oid o')
    (he : QuietEdit (R oid) o o') : Quiet R st st' := by
  refine ⟨h, fun k => ?_⟩
  rw [ha, Dict.get?_set]
  split_ifs with hk
  · subst hk
    rw [hb]
    exact .edited o o' he
  · exact .same _

variable (rt : Runtime) (now : ℤ) (st : Store)

/-! ## The sections that are quiet -/

lemma ensureUserLocked_quiet (userId : ℤ) (username firstName : String) :
    Quiet R st (ensureUserLocked rt now st userId username firstName).1 := by
  unfold ensureUserLocked
  dsimp only
  cases hu : st.users.get? (userKey userId) with
  | none =>
    refine .of_orders_eq (.of_set rfl ?_) rfl
    simp [balanceOf, hu]
  | some user =>
    refine .of_orders_eq (.of_set rfl ?_) rfl
    simp [balanceOf, hu]

lemma createGiftLocked_quiet (chatId : ℤ) (code : String) (amount maxUses : ℤ)
    (expiresAt : Option String) :
    Quiet R st (createGiftLocked rt now st chatId code amount maxUses expiresAt) :=
  .of_orders_eq (.of_users rfl) rfl

lemma createDiscountLocked_quiet (chatId : ℤ) (code : String) (type : DiscountType)
    (value maxUses : ℤ) (expiresAt : Option String) :
    Quiet R st (createDiscountLocked rt now st chatId code type value maxUses expiresAt) :=
  .of_orders_eq (.of_users rfl) rfl

lemma setCardLocked_quiet (cardNumber cardHolder : String) :
    Quiet R st (setCardLocked st cardNumber cardHolder) :=
  .of_orders_eq (.of_users rfl) rfl

lemma setCustomerSubLocked_quiet (userId : ℤ) (subId : String) :
    Quiet R st (setCustomerSubLocked st userId subId) :=
  .of_orders_eq (.of_modify rfl fun _ => rfl) rfl

lemma createOrderLocked_quiet {oid : String} {userId : ℤ} {kind : Kind} {plan : Option Plan}
    {serviceId : Option String} {amount : Option ℤ} {st' : Store} {order : Order}
    (hfresh : st.orders.get? oid = none)
    (h : createOrderLocked rt now st oid userId kind plan serviceId amount = some (st', order)) :
    Quiet R st st' := by
  simp only [createOrderLocked, Option.map_eq_some_iff, Prod.mk.injEq] at h
  obtain ⟨price, -, rfl, -⟩ := h
  refine ⟨.of_users rfl, fun k => ?_⟩
  simp only [Dict.get?_set]
  split_ifs with hk
  · rw [hk, hfresh]
    exact .created _ rfl (le_max_left 0 price) rfl
  · exact .same _

lemma cancelOrderLocked_quiet (oid : String) (userId : ℤ) :
    Quiet R st (cancelOrderLocked rt now st oid userId).1 := by
  unfold cancelOrderLocked
  cases ho : st.orders.get? oid with
  | none => exact .refl st
  | some order =>
    dsimp only
    split_ifs with hguard
    · exact .refl st
    · have hdraft : order.status = .draft := by tauto
      refine .of_edit (.of_users rfl) ho rfl ⟨?_, rfl, rfl, id, .inl ⟨rfl, by simp⟩, .inl rfl, by simp⟩
      rw [hdraft]
      exact .cancel

/-- A payable amount is not negative. -/
lemma calculatePayable_nonneg (base : ℤ) (entry : Option DiscountCode) :
    0 ≤ (calculatePayable base entry).1 := by
  unfold calculatePayable
  cases entry with
  | none => exact le_max_left 0 base
  | some e => simp only [sub_nonneg]; exact min_le_left _ _

lemma applyDiscountLocked_quiet (oid : String) (userId : ℤ) (code : String) :
    Quiet R st (applyDiscountLocked rt now st oid userId code).1 := by
  unfold applyDiscountLocked
  cases ho : st.orders.get? oid with
  | none => exact .refl st
  | some order =>
    dsimp only
    split_ifs with hguard
    · exact .refl st
    · have hdraft : order.status = .draft := by tauto
      cases hv : discountValid rt now (st.discountCodes.get? code) userId with
      | error message => exact .refl st
      | ok e =>
        refine .of_edit (.of_users rfl) ho rfl
          ⟨?_, rfl, rfl, fun _ => calculatePayable_nonneg _ _, .inl ⟨rfl, by simp [hdraft]⟩, .inl rfl,
            by simp [hdraft]⟩
        simp only [hdraft]
        exact .edit

/-- What a reservation or a release may change in an order. -/
lemma releaseDiscountLocked_order (codes : Dict String DiscountCode) (order : Order) :
    ∃ b, (releaseDiscountLocked codes order).2 = { order with discountReserved := b } := by
  unfold releaseDiscountLocked
  split_ifs
  · exact ⟨order.discountReserved, rfl⟩
  · exact ⟨false, rfl⟩

lemma reserveDiscountLocked_order {codes codes' : Dict String DiscountCode} {order order' : Order}
    (h : reserveDiscountLocked rt now codes order = .ok (codes', order')) :
    ∃ b, order' = { order with discountReserved := b } := by
  unfold reserveDiscountLocked at h
  split_ifs at h
  · cases h
    exact ⟨order.discountReserved, rfl⟩
  · revert h
    dsimp only
    cases discountValid rt now (codes.get? (order.discountCode.getD "")) order.userId with
    | error message => intro h; cases h
    | ok e =>
      intro h
      cases h
      exact ⟨true, rfl⟩

lemma cancelWaitingLocked_quiet (oid : String) (userId : ℤ) :
    Quiet R st (cancelWaitingLocked rt now st oid userId).1 := by
  unfold cancelWaitingLocked
  cases ho : st.orders.get? oid with
  | none => exact .refl st
  | some order =>
    dsimp only
    split_ifs with hguard
    · exact .refl st
    · have hwait : order.status = .awaitingReceipt := by tauto
      obtain ⟨b, hb⟩ := releaseDiscountLocked_order st.discountCodes order
      refine .of_edit (.of_users rfl) ho rfl ?_
      rw [hb]
      refine ⟨?_, rfl, rfl, id, .inl ⟨rfl, by simp⟩, .inl rfl, by simp⟩
      simp only [hwait]
      exact .cancelWaiting

/-- One order at most expires, and quietly. -/
lemma expireOne_spec (env : Env) (oid : String) :
    SameAccounts st (expireOne rt now env st oid) ∧
      OrderStep (R oid) (st.orders.get? oid) ((expireOne rt now env st oid).orders.get? oid) ∧
      ∀ k ≠ oid, (expireOne rt now env st oid).orders.get? k = st.orders.get? k := by
  unfold expireOne
  cases ho : st.orders.get? oid with
  | none => exact ⟨.of_users rfl, by simp only [ho]; exact .same _, fun _ _ => rfl⟩
  | some order =>
    dsimp only
    split_ifs with hguard
    · obtain ⟨b, hb⟩ := releaseDiscountLocked_order st.discountCodes order
      refine ⟨.of_users rfl, ?_, fun k hk => Dict.get?_set_ne hk _ _⟩
      simp only [Dict.get?_set_self]
      rw [hb]
      refine .edited _ _ ⟨?_, rfl, rfl, id, .inl ⟨rfl, by simp⟩, .inl rfl, by simp⟩
      have hwait : order.status = .awaitingReceipt := by
        simp only [isStale, decide_eq_true_eq] at hguard
        exact hguard.1
      simp only [hwait]
      exact .expire
    · exact ⟨.of_users rfl, by simp only [ho]; exact .same _, fun _ _ => rfl⟩

/-- The sweep visits every order once, so each order takes at most one quiet step.  The
induction is on the keys still to visit. -/
lemma expireFold_spec (env : Env) (keys : List String) (hnd : keys.Nodup) (st : Store) :
    let st' := keys.foldl (expireOne rt now env) st
    SameAccounts st st' ∧ ∀ oid, (oid ∉ keys → st'.orders.get? oid = st.orders.get? oid) ∧
      OrderStep (R oid) (st.orders.get? oid) (st'.orders.get? oid) := by
  induction keys generalizing st with
  | nil => exact ⟨.of_users rfl, fun oid => ⟨fun _ => rfl, .same _⟩⟩
  | cons a keys ih =>
    obtain ⟨hacc, hstep, hother⟩ := expireOne_spec rt now st env a
    obtain ⟨hacc', hrest⟩ := ih (List.nodup_cons.mp hnd).2 (expireOne rt now env st a)
    simp only [List.foldl_cons]
    refine ⟨hacc.trans hacc', fun oid => ⟨fun hmem => ?_, ?_⟩⟩
    · rw [List.mem_cons, not_or] at hmem
      rw [(hrest oid).1 hmem.2, hother oid hmem.1]
    · by_cases ha : oid = a
      · subst ha
        rw [(hrest oid).1 (List.nodup_cons.mp hnd).1]
        exact hstep
      · rw [← hother oid ha]
        exact (hrest oid).2

lemma expireStaleLocked_quiet (env : Env) : Quiet R st (expireStaleLocked rt now env st).1 := by
  obtain ⟨hacc, hrest⟩ := expireFold_spec rt now env st.orders.keys st.orders.nodup st
  exact ⟨hacc, fun oid => (hrest oid).2⟩

lemma startCardLocked_quiet (env : Env) (oid : String) (userId : ℤ) :
    Quiet R st (startCardLocked rt now env st oid userId).1 := by
  unfold startCardLocked
  split_ifs
  · exact .refl st
  · exact .refl st
  · cases ho : st.orders.get? oid with
    | none => exact .refl st
    | some order =>
      dsimp only
      split_ifs with hguard
      · exact .refl st
      · exact .refl st
      · have hdraft : order.status = .draft := by tauto
        cases hr : reserveDiscountLocked rt now st.discountCodes order with
        | error message => exact .refl st
        | ok result =>
          obtain ⟨b, hb⟩ := reserveDiscountLocked_order rt now hr
          refine .of_edit (.of_users rfl) ho rfl ?_
          rw [hb]
          refine ⟨?_, rfl, rfl, id, .inr rfl, .inl rfl, by simp⟩
          simp only [hdraft]
          exact .startCard

lemma latestAwaiting_mem {userId : ℤ} {e : String × Order} (h : latestAwaiting st userId = some e) :
    st.orders.get? e.1 = some e.2 := by
  have hfold : ∀ (choose : Option (String × Order) → String × Order → Option (String × Order)),
      (∀ best a, choose best a = best ∨ choose best a = some a) →
      ∀ (l : List (String × Order)) (best : Option (String × Order)),
      l.foldl choose best = some e → e ∈ l ∨ best = some e := by
    intro choose hchoose l
    induction l with
    | nil => intro best h; exact .inr h
    | cons a l ih =>
      intro best h
      rw [List.foldl_cons] at h
      rcases ih _ h with hmem | hbest
      · exact .inl (List.mem_cons_of_mem _ hmem)
      · rcases hchoose best a with hsame | hnew
        · exact .inr (hsame.symm.trans hbest)
        · exact .inl (by simp [Option.some.inj (hnew.symm.trans hbest)])
  have hmem := hfold _ (fun best a => by
    cases best with
    | none => exact .inr rfl
    | some b =>
      dsimp only
      split
      · exact .inr rfl
      · exact .inl rfl) _ _ h
  rcases hmem with hmem | hnone
  · exact Dict.mem_entries_iff.mp (List.mem_filter.mp hmem).1
  · cases hnone

lemma receiptOrder_mem {userId : ℤ} {oid : Option String} {key : String} {order : Order}
    (h : receiptOrder st userId oid = some (key, order)) : st.orders.get? key = some order := by
  unfold receiptOrder at h
  split_ifs at h
  · simp only [Option.map_eq_some_iff, Prod.mk.injEq] at h
    obtain ⟨o, ho, rfl, rfl⟩ := h
    exact ho
  · exact latestAwaiting_mem st h

lemma submitReceiptLocked_quiet (userId : ℤ) (receipt : Receipt) (oid : Option String) :
    Quiet R st (submitReceiptLocked rt now st userId receipt oid).1 := by
  unfold submitReceiptLocked
  cases hr : receiptOrder st userId oid with
  | none => exact .refl st
  | some e =>
    obtain ⟨key, order⟩ := e
    dsimp only
    split_ifs with hguard
    · exact .refl st
    · have hwait : order.status = .awaitingReceipt := by tauto
      refine .of_edit (.of_users rfl) (receiptOrder_mem st hr) rfl
        ⟨?_, rfl, rfl, id, .inl ⟨rfl, by simp⟩, .inr rfl, by simp⟩
      simp only [hwait]
      exact .submit

lemma rejectOrderLocked_quiet (oid : String) (adminId : ℤ) :
    Quiet (· = oid) st (rejectOrderLocked rt now st oid adminId).1 := by
  unfold rejectOrderLocked
  cases ho : st.orders.get? oid with
  | none => exact .refl st
  | some order =>
    dsimp only
    split_ifs with hguard
    · exact .refl st
    · have hpending : order.status = .pendingAdmin := by tauto
      obtain ⟨b, hb⟩ := releaseDiscountLocked_order st.discountCodes order
      refine .of_edit (.of_users rfl) ho rfl ?_
      rw [hb]
      refine ⟨?_, rfl, rfl, id, .inl ⟨rfl, by simp⟩, .inl rfl, by simp⟩
      simp only [hpending]
      exact .reject trivial

/-! ## The sections that move money -/

/-- The two ways a redemption ends: it is refused and changes nothing, or it adds the amount
of the code to one balance and leaves the orders alone. -/
inductive Redeems (st : Store) (userId : ℤ) : Store × Except String ℤ → Prop
  | refused {message : String} : Redeems st userId (st, .error message)
  | redeemed {st' : Store} {amount : ℤ} : 0 < amount → st'.orders = st.orders →
      (∀ k, balanceOf st' k = balanceOf st k + if k = userKey userId then amount else 0) →
      (∀ k user, st.users.get? k = some user → ∃ user', st'.users.get? k = some user') →
      Redeems st userId (st', .ok amount)

lemma redeemGiftLocked_redeems (userId : ℤ) (code : String) :
    Redeems st userId (redeemGiftLocked rt now st userId code) := by
  unfold redeemGiftLocked
  dsimp only
  cases hu : st.users.get? (userKey userId) with
  | none => exact .refused
  | some user =>
    cases hg : st.giftCodes.get? code with
    | none => exact .refused
    | some e =>
      dsimp only
      split_ifs with h₁ h₂ h₃ h₄
      · exact .refused
      · exact .refused
      · exact .refused
      · exact .refused
      · refine .redeemed (by omega) rfl (fun k => ?_) fun k u hk => ?_
        · by_cases hkey : k = userKey userId
          · subst hkey
            simp [balanceOf, hu]
          · simp [balanceOf, Dict.get?_set_ne hkey, hkey]
        · rw [Dict.get?_set]
          split_ifs
          · exact ⟨_, rfl⟩
          · exact ⟨u, hk⟩

/-- The sections of `_finish_order` keep who ordered what and the receipt. -/
structure SameSale (o o' : Order) : Prop where
  userId : o'.userId = o.userId
  kind : o'.kind = o.kind
  amount : o'.amount = o.amount
  receipt : o'.receipt = o.receipt

/-- What the first section of `_finish_order` has done when it starts the processing. -/
structure Started (st st' : Store) (oid : String) (source : Source) (o o' : Order) : Prop where
  before : st.orders.get? oid = some o
  after : st'.orders = st.orders.set oid o'
  came : o.status = source.allowed
  status : o'.status = .processing
  sale : SameSale o o'
  method : o'.paymentMethod = if source = .card then o.paymentMethod else some source.method
  customer : ∃ user, st.users.get? (userKey o.userId) = some user
  balance : ∀ k, balanceOf st' k =
    balanceOf st k - if source = .wallet ∧ k = userKey o.userId then o.amount else 0
  covered : source = .wallet → o.amount ≤ balanceOf st (userKey o.userId)
  kept : ∀ k user, st.users.get? k = some user → ∃ user', st'.users.get? k = some user'

/-- The two ways the first section of `_finish_order` ends: it refuses, quietly, or it puts the
order into processing. -/
inductive Begins (st : Store) (oid : String) (source : Source) : Store × Begun → Prop
  | refused {st' : Store} {reply : Begun} : (∀ o, reply ≠ .started o) → (∀ R, Quiet R st st') →
      Begins st oid source (st', reply)
  | started {st' : Store} {o o' : Order} : Started st st' oid source o o' →
      Begins st oid source (st', .started o')

/-- The charge, on an order with an acceptable status. -/
lemma chargeLocked_begins {oid : String} {order : Order} {user : User} (reviewerId : Option ℤ)
    {source : Source} (ho : st.orders.get? oid = some order)
    (hu : st.users.get? (userKey order.userId) = some user)
    (hallowed : order.status = source.allowed) :
    Begins st oid source (chargeLocked rt now st oid order user reviewerId source) := by
  unfold chargeLocked
  cases source with
  | card =>
    exact .started ⟨ho, rfl, hallowed, rfl, ⟨rfl, rfl, rfl, rfl⟩, rfl, ⟨user, hu⟩,
      by simp [balanceOf], by simp, fun k u hk => ⟨u, hk⟩⟩
  | free =>
    dsimp only
    cases hr : reserveDiscountLocked rt now st.discountCodes order with
    | error message => exact .refused (by simp) fun _ => .refl st
    | ok result =>
      obtain ⟨codes, reserved⟩ := result
      obtain ⟨b, rfl⟩ := reserveDiscountLocked_order rt now hr
      exact .started ⟨ho, rfl, hallowed, rfl, ⟨rfl, rfl, rfl, rfl⟩, rfl, ⟨user, hu⟩,
        by simp [balanceOf], by simp, fun k u hk => ⟨u, hk⟩⟩
  | wallet =>
    dsimp only
    cases hr : reserveDiscountLocked rt now st.discountCodes order with
    | error message => exact .refused (by simp) fun _ => .refl st
    | ok result =>
      obtain ⟨codes, reserved⟩ := result
      obtain ⟨b, rfl⟩ := reserveDiscountLocked_order rt now hr
      dsimp only
      split_ifs with hshort
      · -- the balance does not cover the order, and the reservation is undone
        obtain ⟨b', hb'⟩ := releaseDiscountLocked_order codes { order with discountReserved := b }
        have hdraft : order.status = .draft := hallowed
        refine .refused (by simp) fun _ => .of_edit (.of_users rfl) ho rfl ?_
        rw [hb']
        refine ⟨?_, rfl, rfl, id, .inl ⟨rfl, by simp [hdraft]⟩, .inl rfl, by simp [hdraft]⟩
        simp only [hdraft]
        exact .edit
      · refine .started ⟨ho, rfl, hallowed, rfl, ⟨rfl, rfl, rfl, rfl⟩, rfl, ⟨user, hu⟩,
          fun k => ?_, fun _ => ?_, fun k u hk => ?_⟩
        · by_cases hkey : k = userKey order.userId
          · subst hkey
            simp [balanceOf, hu]
          · simp [balanceOf, hkey, Dict.get?_set_ne hkey]
        · simpa [balanceOf, hu] using hshort
        · rw [Dict.get?_set]
          split_ifs
          · exact ⟨_, rfl⟩
          · exact ⟨u, hk⟩

lemma finishBeginLocked_begins (oid : String) (reviewerId : Option ℤ) (source : Source) :
    Begins st oid source (finishBeginLocked rt now st oid reviewerId source) := by
  unfold finishBeginLocked
  cases ho : st.orders.get? oid with
  | none => exact .refused (by simp) fun _ => .refl st
  | some order =>
    dsimp only
    by_cases happroved : order.status = .approved
    · rw [if_pos happroved]
      exact .refused (by simp) fun _ => .refl st
    · rw [if_neg happroved]
      by_cases hallowed : order.status = source.allowed
      · rw [if_neg (not_not.mpr hallowed)]
        cases hu : st.users.get? (userKey order.userId) with
        | none => exact .refused (by simp) fun _ => .refl st
        | some user =>
          dsimp only
          cases hrefusal : finishRefusal order user source with
          | some message => exact .refused (by simp) fun _ => .refl st
          | none => exact chargeLocked_begins rt now st reviewerId ho hu hallowed
      · rw [if_pos hallowed]
        exact .refused (by simp) fun _ => .refl st

/-- Crediting a known customer. -/
lemma balanceOf_credit {userId : ℤ} {user : User} (hu : st.users.get? (userKey userId) = some user)
    (amount : ℤ) (k : String) :
    balanceOf (credit st userId amount) k =
      balanceOf st k + if k = userKey userId then amount else 0 := by
  unfold balanceOf credit
  simp only [Dict.get?_modify, hu]
  by_cases hk : k = userKey userId
  · subst hk
    simp [hu]
  · simp [hk]

lemma credit_kept (userId amount : ℤ) (k : String) {user : User} (h : st.users.get? k = some user) :
    ∃ user', (credit st userId amount).users.get? k = some user' := by
  unfold credit
  simp only [Dict.get?_modify]
  split_ifs with hk
  · subst hk
    exact ⟨_, by rw [h]; rfl⟩
  · exact ⟨user, h⟩

/-- What the section after a failure does to the order it takes back. -/
structure RolledBack (st st' : Store) (oid : String) (source : Source) (o o' : Order) : Prop where
  after : st'.orders = st.orders.set oid o'
  status : o'.status = source.allowed
  sale : SameSale o o'
  method : o'.paymentMethod = o.paymentMethod
  balance : ∀ k, balanceOf st' k =
    balanceOf st k + if source = .wallet ∧ k = userKey o.userId then o.amount else 0
  kept : ∀ k user, st.users.get? k = some user → ∃ user', st'.users.get? k = some user'

lemma rollbackLocked_spec {oid : String} {o : Order} {user : User} (source : Source)
    (message : String) (ho : st.orders.get? oid = some o)
    (hu : st.users.get? (userKey o.userId) = some user) :
    ∃ o', RolledBack st (rollbackLocked st oid source message) oid source o o' := by
  obtain ⟨b, hb⟩ := releaseDiscountLocked_order st.discountCodes o
  unfold rollbackLocked
  simp only [ho]
  cases source with
  | card => exact ⟨_, rfl, rfl, ⟨rfl, rfl, rfl, rfl⟩, rfl, by simp [balanceOf], fun k u hk => ⟨u, hk⟩⟩
  | free =>
    simp only [hb]
    exact ⟨_, rfl, rfl, ⟨rfl, rfl, rfl, rfl⟩, rfl, by simp [balanceOf], fun k u hk => ⟨u, hk⟩⟩
  | wallet =>
    simp only [hb]
    refine ⟨_, rfl, rfl, ⟨rfl, rfl, rfl, rfl⟩, rfl, fun k => ?_, fun k u hk => ?_⟩
    · simpa [balanceOf] using balanceOf_credit st hu o.amount k
    · exact credit_kept st o.userId o.amount k hk

/-- What the last section of `_finish_order` does to the order it approves. -/
structure Approved (st st' : Store) (oid : String) (o o' : Order) : Prop where
  accounts : SameAccounts st st'
  after : st'.orders = st.orders.set oid o'
  status : o'.status = .approved
  sale : SameSale o o'
  method : o'.paymentMethod = o.paymentMethod

lemma approveLocked_spec {oid : String} {o : Order} (serviceId : Option String)
    (ho : st.orders.get? oid = some o) :
    ∃ o', Approved st (approveLocked rt now st oid serviceId) oid o o' := by
  unfold approveLocked
  simp only [ho]
  refine ⟨_, ?_, rfl, rfl, ⟨rfl, rfl, rfl, rfl⟩, rfl⟩
  by_cases htrial : o.isTrial
  · exact .of_modify (if_pos htrial) fun _ => rfl
  · exact .of_users (if_neg htrial)

end Bot
