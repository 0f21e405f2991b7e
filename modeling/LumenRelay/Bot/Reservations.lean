import LumenRelay.Bot.Machine

/-!
# Discount reservations

An order that has reserved its discount holds one use of the code.  The customers in `usedBy`
are, up to their order, the customers of the orders that hold the code, and only an order that
waits for its payment, is being worked on or is approved holds one.  Every section of the store
keeps this, the one that stores a new code as long as it stores it over no other.
-/

namespace Bot

open Lib Py

/-! ## The orders that hold a code -/

/-- Whether an order holds a use of a code. -/
def Order.reserves (code : String) (order : Order) : Bool :=
  order.discountReserved && order.discountCode == some code

/-- The customers of the orders that hold a code. -/
def holders (orders : Dict String Order) (code : String) : List String :=
  (orders.values.filter (Order.reserves code)).map fun order => userKey order.userId

/-- Two versions of an order that hold the same. -/
structure SameHold (o o' : Order) : Prop where
  userId : o'.userId = o.userId
  reserved : o'.discountReserved = o.discountReserved
  code : o.discountReserved = true → o'.discountCode = o.discountCode

lemma SameHold.reserves {o o' : Order} (h : SameHold o o') (code : String) :
    o'.reserves code = o.reserves code := by
  unfold Order.reserves
  rw [h.reserved]
  cases hr : o.discountReserved with
  | false => rfl
  | true => rw [h.code hr]

/-- Rewriting one order, with the use that the old and the new version may hold. -/
lemma holders_set {orders : Dict String Order} {oid : String} {o : Order}
    (ho : orders.get? oid = some o) (o' : Order) (code : String) :
    ((if o.reserves code then [userKey o.userId] else []) ++ holders (orders.set oid o') code).Perm
      ((if o'.reserves code then [userKey o'.userId] else []) ++ holders orders code) := by
  have hperm := ((Dict.perm_values_set ho o').filter (Order.reserves code)).map
    fun order => userKey order.userId
  rw [List.filter_cons, List.filter_cons] at hperm
  by_cases hb : o.reserves code <;> by_cases ha : o'.reserves code <;>
    simp only [hb, ha, if_true, if_false, List.map_cons, Bool.false_eq_true] at hperm ⊢ <;>
    exact hperm

/-- A new order that holds nothing. -/
lemma holders_set_new {orders : Dict String Order} {oid code : String} {o : Order}
    (ho : orders.get? oid = none) (hr : o.discountReserved = false) :
    holders (orders.set oid o) code = holders orders code := by
  simp [holders, Dict.values_set_of_none ho, Order.reserves, hr]

lemma mem_holders {orders : Dict String Order} {oid code : String} {o : Order}
    (ho : orders.get? oid = some o) (hr : o.reserves code = true) :
    userKey o.userId ∈ holders orders code :=
  List.mem_map.mpr ⟨o, List.mem_filter.mpr ⟨Dict.mem_values_iff.mpr ⟨oid, ho⟩, hr⟩, rfl⟩

/-! ## The accounts of the discount codes -/

/-- The account of a code: it counts its users, each once and no more than it may have, and
they are the customers of the orders that hold it. -/
structure CodeSound (orders : Dict String Order) (code : String) (e : DiscountCode) : Prop where
  uses : e.uses = e.usedBy.length
  once : e.usedBy.Nodup
  cap : e.uses ≤ e.maxUses
  held : e.usedBy.Perm (holders orders code)

/-- The accounts of all codes; an order that holds a use holds it of a code that is there. -/
structure Accounted (orders : Dict String Order) (codes : Dict String DiscountCode) : Prop where
  sound : ∀ code e, codes.get? code = some e → CodeSound orders code e
  known : ∀ oid o, orders.get? oid = some o → o.discountReserved = true →
    ∃ code e, o.discountCode = some code ∧ code ≠ "" ∧ codes.get? code = some e

lemma CodeSound.of_perm {orders orders' : Dict String Order} {code : String} {e : DiscountCode}
    (h : CodeSound orders code e) (hperm : (holders orders' code).Perm (holders orders code)) :
    CodeSound orders' code e :=
  ⟨h.uses, h.once, h.cap, h.held.trans hperm.symm⟩

namespace Accounted

variable {orders : Dict String Order} {codes codes' : Dict String DiscountCode}
  {oid : String} {o o₁ o' : Order} {rt : Runtime} {now : ℤ}

/-- Rewriting an order without touching what it holds. -/
lemma rewrite (h : Accounted orders codes) (ho : orders.get? oid = some o) (hs : SameHold o o') :
    Accounted (orders.set oid o') codes := by
  refine ⟨fun code e he => (h.sound code e he).of_perm ?_, fun k o₂ hk hr => ?_⟩
  · have hperm := holders_set ho o' code
    rw [hs.reserves code, hs.userId] at hperm
    exact (List.perm_append_left_iff _).mp hperm
  · rw [Dict.get?_set] at hk
    split_ifs at hk
    · obtain rfl := Option.some.inj hk
      rw [hs.reserved] at hr
      rw [hs.code hr]
      exact h.known oid o ho hr
    · exact h.known k o₂ hk hr

/-- A new order that holds nothing. -/
lemma create (h : Accounted orders codes) (ho : orders.get? oid = none)
    (hr : o.discountReserved = false) : Accounted (orders.set oid o) codes := by
  refine ⟨fun code e he => (h.sound code e he).of_perm ?_, fun k o₂ hk hr₂ => ?_⟩
  · rw [holders_set_new ho hr]
  · rw [Dict.get?_set] at hk
    split_ifs at hk
    · obtain rfl := Option.some.inj hk
      rw [hr] at hr₂
      cases hr₂
    · exact h.known k o₂ hk hr₂

/-- A new code, stored over no other. -/
lemma addCode (h : Accounted orders codes) {code : String} {e : DiscountCode}
    (hnew : codes.get? code = none) (huses : e.uses = 0) (hused : e.usedBy = [])
    (hmax : 0 ≤ e.maxUses) : Accounted orders (codes.set code e) := by
  have hnone : holders orders code = [] := by
    unfold holders
    rw [List.map_eq_nil_iff, List.filter_eq_nil_iff]
    intro o hmem hr
    obtain ⟨oid, ho⟩ := Dict.mem_values_iff.mp hmem
    simp only [Order.reserves, Bool.and_eq_true, beq_iff_eq] at hr
    obtain ⟨code', e', hc, -, he'⟩ := h.known oid o ho hr.1
    obtain rfl : code = code' := Option.some.inj (hr.2.symm.trans hc)
    rw [hnew] at he'
    cases he'
  refine ⟨fun c e' he' => ?_, fun k o hk hr => ?_⟩
  · rw [Dict.get?_set] at he'
    split_ifs at he' with hc
    · obtain rfl := Option.some.inj he'
      subst hc
      exact ⟨by simp [huses, hused], by simp [hused], by omega, by simp [hused, hnone]⟩
    · exact h.sound c e' he'
  · obtain ⟨code', e', hc, hne, he'⟩ := h.known k o hk hr
    refine ⟨code', if code' = code then e else e', hc, hne, ?_⟩
    rw [Dict.get?_set]
    split_ifs <;> first | rfl | exact he'

/-- Rewriting an order and the code it holds or held a use of. -/
lemma settle (h : Accounted orders codes) (ho : orders.get? oid = some o) {code : String}
    {e e' : DiscountCode} (he : codes.get? code = some e)
    (hsound : CodeSound (orders.set oid o') code e')
    (hbefore : o.discountReserved = true → o.discountCode = some code)
    (hafter : o'.discountReserved = true → o'.discountCode = some code ∧ code ≠ "") :
    Accounted (orders.set oid o') (codes.set code e') := by
  refine ⟨fun c e₂ he₂ => ?_, fun k o₂ hk hr => ?_⟩
  · rw [Dict.get?_set] at he₂
    split_ifs at he₂ with hc
    · obtain rfl := Option.some.inj he₂
      rw [hc]
      exact hsound
    · -- another code: neither version of the order holds it
      have hother : ∀ o₃ : Order, (o₃.discountReserved = true → o₃.discountCode = some code) →
          o₃.reserves c = false := by
        intro o₃ h₃
        unfold Order.reserves
        cases hr : o₃.discountReserved with
        | false => rfl
        | true => simp [h₃ hr, Ne.symm hc]
      have hperm := holders_set ho o' c
      rw [hother o hbefore, hother o' fun hr => (hafter hr).1] at hperm
      exact (h.sound c e₂ he₂).of_perm hperm
  · have hstays : ∀ c e₂, codes.get? c = some e₂ → ∃ e₃, (codes.set code e').get? c = some e₃ := by
      intro c e₂ he₂
      rw [Dict.get?_set]
      split_ifs
      · exact ⟨e', rfl⟩
      · exact ⟨e₂, he₂⟩
    rw [Dict.get?_set] at hk
    split_ifs at hk
    · obtain rfl := Option.some.inj hk
      obtain ⟨e₃, he₃⟩ := hstays code e he
      exact ⟨code, e₃, (hafter hr).1, (hafter hr).2, he₃⟩
    · obtain ⟨c, e₂, hc, hne, he₂⟩ := h.known k o₂ hk hr
      obtain ⟨e₃, he₃⟩ := hstays c e₂ he₂
      exact ⟨c, e₃, hc, hne, he₃⟩

end Accounted

/-! ## Reserving and releasing -/

/-- A valid code has a use left, and none for the customer yet. -/
lemma discountValid_ok {rt : Runtime} {now : ℤ} {entry : Option DiscountCode} {userId : ℤ}
    {e : DiscountCode} (h : discountValid rt now entry userId = .ok e) :
    entry = some e ∧ e.uses < e.maxUses ∧ userKey userId ∉ e.usedBy := by
  unfold discountValid at h
  cases entry with
  | none => cases h
  | some e₀ =>
    dsimp only at h
    split_ifs at h with hactive huses hused
    cases h
    exact ⟨rfl, by omega, hused⟩

lemma given_iff {text : Option String} : given text = true ↔ ∃ s, text = some s ∧ s ≠ "" := by
  cases text <;> simp [given]

/-- A reservation that was not there is added to its code. -/
lemma reserveDiscountLocked_cases {rt : Runtime} {now : ℤ} {codes codes' : Dict String DiscountCode}
    {o o₁ : Order} (h : reserveDiscountLocked rt now codes o = .ok (codes', o₁)) :
    (codes' = codes ∧ o₁ = o) ∨ ∃ code e, o.discountCode = some code ∧ code ≠ "" ∧
      o.discountReserved = false ∧ codes.get? code = some e ∧ e.uses < e.maxUses ∧
      userKey o.userId ∉ e.usedBy ∧ o₁ = { o with discountReserved := true } ∧
      codes' = codes.set code
        { e with
          uses := e.uses + 1
          usedBy := e.usedBy ++ [userKey o.userId]
          orders := e.orders ++ [o.id] } := by
  unfold reserveDiscountLocked at h
  split_ifs at h with hskip
  · cases h
    exact .inl ⟨rfl, rfl⟩
  · simp only [Bool.or_eq_true, Bool.not_eq_true', not_or, Bool.not_eq_false, Bool.not_eq_true]
      at hskip
    obtain ⟨code, hc, hne⟩ := given_iff.mp hskip.1
    rw [hc] at h
    dsimp only [Option.getD_some] at h
    cases hv : discountValid rt now (codes.get? code) o.userId with
    | error message => simp [hv] at h
    | ok e =>
      rw [hv] at h
      cases h
      obtain ⟨he, huses, hused⟩ := discountValid_ok hv
      exact .inr ⟨code, e, hc, hne, hskip.2, he, huses, hused, by rw [hc], rfl⟩

namespace Accounted

variable {orders : Dict String Order} {codes codes' : Dict String DiscountCode}
  {oid : String} {o o₁ o' : Order} {rt : Runtime} {now : ℤ}

/-- The accounts after a reservation, whatever else the section writes into the order. -/
lemma reserve (h : Accounted orders codes) (ho : orders.get? oid = some o)
    (hr : reserveDiscountLocked rt now codes o = .ok (codes', o₁)) (hs : SameHold o₁ o') :
    Accounted (orders.set oid o') codes' := by
  rcases reserveDiscountLocked_cases hr with
    ⟨rfl, rfl⟩ | ⟨code, e, hc, hne, hfree, he, huses, hused, rfl, rfl⟩
  · exact h.rewrite ho hs
  · have hbefore : o.reserves code = false := by simp [Order.reserves, hfree]
    have hafter : o'.reserves code = true := by
      rw [hs.reserves code]
      simp [Order.reserves, hc]
    have hsound := h.sound code e he
    refine h.settle ho he ⟨?_, ?_, ?_, ?_⟩ (by simp [hfree]) fun _ => ⟨(hs.code rfl).trans hc, hne⟩
    · rw [List.length_append, hsound.uses]
      simp
    · rw [List.nodup_append]
      refine ⟨hsound.once, List.nodup_singleton _, fun a ha b hb => ?_⟩
      rintro rfl
      exact hused (List.mem_singleton.mp hb ▸ ha)
    · show e.uses + 1 ≤ e.maxUses
      omega
    · have hperm := holders_set ho o' code
      rw [hbefore, hafter, hs.userId] at hperm
      exact (List.perm_append_comm.trans (hsound.held.append_left _)).trans hperm.symm

/-- An order that releases its use holds none afterwards. -/
lemma release_order (h : Accounted orders codes) (ho : orders.get? oid = some o) :
    (releaseDiscountLocked codes o).2 = { o with discountReserved := false } := by
  cases hr : o.discountReserved with
  | false =>
    rw [releaseDiscountLocked, if_pos (by simp [hr]), ← hr]
  | true =>
    obtain ⟨code, e, hc, hne, -⟩ := h.known oid o ho hr
    rw [releaseDiscountLocked, if_neg (by simp [hr, hc, given, hne])]

/-- The accounts after a release, whatever else the section writes into the order. -/
lemma release (h : Accounted orders codes) (ho : orders.get? oid = some o)
    (hs : SameHold (releaseDiscountLocked codes o).2 o') :
    Accounted (orders.set oid o') (releaseDiscountLocked codes o).1 := by
  cases hr : o.discountReserved with
  | false =>
    rw [releaseDiscountLocked, if_pos (by simp [hr])] at hs ⊢
    exact h.rewrite ho hs
  | true =>
    obtain ⟨code, e, hc, hne, he⟩ := h.known oid o ho hr
    have hsound := h.sound code e he
    have hbefore : o.reserves code = true := by simp [Order.reserves, hr, hc]
    have hmem : userKey o.userId ∈ e.usedBy := hsound.held.mem_iff.mpr (mem_holders ho hbefore)
    have hlen := List.length_erase_of_mem hmem
    have hpos := List.length_pos_of_mem hmem
    rw [releaseDiscountLocked, if_neg (by simp [hr, hc, given, hne])] at hs ⊢
    simp only [hc, Option.getD_some, Dict.modify_of_some he] at hs ⊢
    have hfree : o'.discountReserved = false := hs.reserved
    have hafter : o'.reserves code = false := by simp [Order.reserves, hfree]
    refine h.settle ho he ⟨?_, hsound.once.erase _, ?_, ?_⟩ (fun _ => hc) (by simp [hfree])
    · show max 0 (e.uses - 1) = _
      rw [hsound.uses, hlen]
      omega
    · show max 0 (e.uses - 1) ≤ e.maxUses
      have := hsound.cap
      have := hsound.uses
      omega
    · have hperm := holders_set ho o' code
      rw [hbefore, hafter] at hperm
      have herase := (hsound.held.trans hperm.symm).erase (userKey o.userId)
      simpa using herase

end Accounted

/-! ## The sections of the store -/

/-- The statuses in which an order may hold a use of its code. -/
def Status.mayHold : Status → Bool
  | .awaitingReceipt | .pendingAdmin | .processing | .approved => true
  | .draft | .cancelled | .expired | .rejected => false

/-- What holds of every order. -/
structure OrderSound (o : Order) : Prop where
  base : 0 ≤ o.baseAmount
  amount : 0 ≤ o.amount ∧ o.amount ≤ o.baseAmount
  held : o.discountReserved = true → o.status.mayHold = true

/-- The accounts of the discount codes and the state of the orders. -/
structure StoreSound (st : Store) : Prop where
  accounts : Accounted st.orders st.discountCodes
  orders : ∀ oid o, st.orders.get? oid = some o → OrderSound o

namespace StoreSound

variable {st st' : Store} {oid : String} {o o' : Order}

lemma of_eq (h : StoreSound st) (ho : st'.orders = st.orders)
    (hc : st'.discountCodes = st.discountCodes) : StoreSound st' := by
  constructor
  · rw [ho, hc]
    exact h.accounts
  · rw [ho]
    exact h.orders

/-- A section that writes one order. -/
lemma of_set (h : StoreSound st) (ha : Accounted st'.orders st'.discountCodes)
    (ho : st'.orders = st.orders.set oid o') (hs : OrderSound o') : StoreSound st' := by
  refine ⟨ha, fun k o₂ hk => ?_⟩
  rw [ho, Dict.get?_set] at hk
  split_ifs at hk
  · exact Option.some.inj hk ▸ hs
  · exact h.orders k o₂ hk

/-- A draft holds nothing. -/
lemma draft_free (h : StoreSound st) (ho : st.orders.get? oid = some o) (hd : o.status = .draft) :
    o.discountReserved = false := by
  cases hr : o.discountReserved with
  | false => rfl
  | true =>
    have hmay := (h.orders oid o ho).held hr
    rw [hd] at hmay
    cases hmay

/-- A section in which one order releases its use, whatever status it takes. -/
lemma of_release (h : StoreSound st) (ho : st.orders.get? oid = some o)
    (hc : st'.discountCodes = (releaseDiscountLocked st.discountCodes o).1)
    (hset : st'.orders = st.orders.set oid o')
    (hs : SameHold (releaseDiscountLocked st.discountCodes o).2 o')
    (hbase : o'.baseAmount = (releaseDiscountLocked st.discountCodes o).2.baseAmount)
    (hamount : o'.amount = (releaseDiscountLocked st.discountCodes o).2.amount) : StoreSound st' := by
  have hsound := h.orders oid o ho
  have hfree := h.accounts.release_order ho
  refine h.of_set ?_ hset ⟨?_, ?_, fun hr => ?_⟩
  · rw [hc, hset]
    exact h.accounts.release ho hs
  · rw [hbase, hfree]
    exact hsound.base
  · rw [hamount, hbase, hfree]
    exact hsound.amount
  · rw [hs.reserved, hfree] at hr
    cases hr

/-- A section in which one order reserves its use and takes a status that may hold one. -/
lemma of_reserve (h : StoreSound st) (ho : st.orders.get? oid = some o)
    {rt : Runtime} {now : ℤ} {codes : Dict String DiscountCode} {o₁ : Order}
    (hr : reserveDiscountLocked rt now st.discountCodes o = .ok (codes, o₁))
    (hc : st'.discountCodes = codes) (hset : st'.orders = st.orders.set oid o')
    (hs : SameHold o₁ o') (hbase : o'.baseAmount = o₁.baseAmount) (hamount : o'.amount = o₁.amount)
    (hmay : o'.status.mayHold = true) : StoreSound st' := by
  have hsound := h.orders oid o ho
  have hsame : o₁.baseAmount = o.baseAmount ∧ o₁.amount = o.amount := by
    rcases reserveDiscountLocked_cases hr with ⟨-, rfl⟩ | ⟨code, e, -, -, -, -, -, -, rfl, -⟩
    · exact ⟨rfl, rfl⟩
    · exact ⟨rfl, rfl⟩
  refine h.of_set ?_ hset ⟨?_, ?_, fun _ => hmay⟩
  · rw [hc, hset]
    exact h.accounts.reserve ho hr hs
  · rw [hbase, hsame.1]
    exact hsound.base
  · rw [hamount, hbase, hsame.1, hsame.2]
    exact hsound.amount

end StoreSound

section Sections

variable {rt : Runtime} {now : ℤ} {st : Store}

lemma createDiscountLocked_sound (h : StoreSound st) {chatId : ℤ} {code : String}
    {type : DiscountType} {value maxUses : ℤ} {expiresAt : Option String}
    (hnew : st.discountCodes.get? code = none) (hmax : 0 ≤ maxUses) :
    StoreSound (createDiscountLocked rt now st chatId code type value maxUses expiresAt) :=
  ⟨h.accounts.addCode hnew rfl rfl hmax, h.orders⟩

lemma ensureUserLocked_sound (h : StoreSound st) (userId : ℤ) (username firstName : String) :
    StoreSound (ensureUserLocked rt now st userId username firstName).1 := by
  unfold ensureUserLocked
  dsimp only
  cases st.users.get? (userKey userId) with
  | none => exact h.of_eq rfl rfl
  | some user => exact h.of_eq rfl rfl

lemma redeemGiftLocked_sound (h : StoreSound st) (userId : ℤ) (code : String) :
    StoreSound (redeemGiftLocked rt now st userId code).1 := by
  unfold redeemGiftLocked
  dsimp only
  split
  · split_ifs <;> first | exact h | exact h.of_eq rfl rfl
  · exact h

lemma createOrderLocked_sound (h : StoreSound st) {oid : String} {userId : ℤ} {kind : Kind}
    {plan : Option Plan} {serviceId : Option String} {amount : Option ℤ} {st' : Store} {order : Order}
    (hfresh : st.orders.get? oid = none)
    (hc : createOrderLocked rt now st oid userId kind plan serviceId amount = some (st', order)) :
    StoreSound st' := by
  simp only [createOrderLocked, Option.map_eq_some_iff, Prod.mk.injEq] at hc
  obtain ⟨price, -, rfl, rfl⟩ := hc
  refine h.of_set (h.accounts.create hfresh rfl) rfl ⟨le_max_left 0 price, ?_, by simp⟩
  exact ⟨le_max_left 0 price, le_rfl⟩

lemma cancelOrderLocked_sound (h : StoreSound st) (oid : String) (userId : ℤ) :
    StoreSound (cancelOrderLocked rt now st oid userId).1 := by
  unfold cancelOrderLocked
  cases ho : st.orders.get? oid with
  | none => exact h
  | some order =>
    dsimp only
    split_ifs with hguard
    · exact h
    · have hfree := h.draft_free ho (by tauto)
      have hs := h.orders oid order ho
      refine h.of_set (h.accounts.rewrite ho ⟨rfl, rfl, fun _ => rfl⟩) rfl ⟨hs.base, hs.amount, ?_⟩
      intro hr
      rw [hfree] at hr
      cases hr

/-- The payable amount lies between nothing and the base. -/
lemma calculatePayable_bounds {base : ℤ} (hbase : 0 ≤ base) (entry : Option DiscountCode) :
    0 ≤ (calculatePayable base entry).1 ∧ (calculatePayable base entry).1 ≤ base := by
  unfold calculatePayable
  cases entry with
  | none =>
    show 0 ≤ max 0 base ∧ max 0 base ≤ base
    omega
  | some e =>
    dsimp only
    omega

lemma applyDiscountLocked_sound (h : StoreSound st) (oid : String) (userId : ℤ) (code : String) :
    StoreSound (applyDiscountLocked rt now st oid userId code).1 := by
  unfold applyDiscountLocked
  cases ho : st.orders.get? oid with
  | none => exact h
  | some order =>
    dsimp only
    split_ifs with hguard
    · exact h
    · have hfree := h.draft_free ho (by tauto)
      have hs := h.orders oid order ho
      cases discountValid rt now (st.discountCodes.get? code) userId with
      | error message => exact h
      | ok e =>
        -- the draft holds nothing, so it may change its code
        refine h.of_set (h.accounts.rewrite ho ⟨rfl, rfl, fun hr => ?_⟩) rfl
          ⟨hs.base, calculatePayable_bounds hs.base _, fun hr => ?_⟩
        · rw [hfree] at hr
          cases hr
        · rw [show order.discountReserved = true from hr] at hfree
          cases hfree

lemma cancelWaitingLocked_sound (h : StoreSound st) (oid : String) (userId : ℤ) :
    StoreSound (cancelWaitingLocked rt now st oid userId).1 := by
  unfold cancelWaitingLocked
  cases ho : st.orders.get? oid with
  | none => exact h
  | some order =>
    dsimp only
    split_ifs with hguard
    · exact h
    · exact h.of_release ho rfl rfl ⟨rfl, rfl, fun _ => rfl⟩ rfl rfl

lemma expireOne_sound (h : StoreSound st) (env : Env) (oid : String) :
    StoreSound (expireOne rt now env st oid) := by
  unfold expireOne
  cases ho : st.orders.get? oid with
  | none => exact h
  | some order =>
    dsimp only
    split_ifs with hguard
    · exact h.of_release ho rfl rfl ⟨rfl, rfl, fun _ => rfl⟩ rfl rfl
    · exact h

/-- The sweep, by induction on the orders still to visit. -/
lemma expireStaleLocked_sound (h : StoreSound st) (env : Env) :
    StoreSound (expireStaleLocked rt now env st).1 := by
  have hfold : ∀ (keys : List String) (st : Store), StoreSound st →
      StoreSound (keys.foldl (expireOne rt now env) st) := by
    intro keys
    induction keys with
    | nil => exact fun st h => h
    | cons oid keys ih => exact fun st h => ih _ (expireOne_sound h env oid)
  exact hfold _ st h

lemma startCardLocked_sound (h : StoreSound st) (env : Env) (oid : String) (userId : ℤ) :
    StoreSound (startCardLocked rt now env st oid userId).1 := by
  unfold startCardLocked
  split_ifs
  · exact h
  · exact h
  · cases ho : st.orders.get? oid with
    | none => exact h
    | some order =>
      dsimp only
      split_ifs
      · exact h
      · exact h
      · cases hr : reserveDiscountLocked rt now st.discountCodes order with
        | error message => exact h
        | ok result => exact h.of_reserve ho hr rfl rfl ⟨rfl, rfl, fun _ => rfl⟩ rfl rfl rfl

lemma submitReceiptLocked_sound (h : StoreSound st) (userId : ℤ) (receipt : Receipt)
    (oid : Option String) : StoreSound (submitReceiptLocked rt now st userId receipt oid).1 := by
  unfold submitReceiptLocked
  cases hr : receiptOrder st userId oid with
  | none => exact h
  | some e =>
    obtain ⟨key, order⟩ := e
    dsimp only
    split_ifs
    · exact h
    · have ho := receiptOrder_mem st hr
      have hs := h.orders key order ho
      exact h.of_set (h.accounts.rewrite ho ⟨rfl, rfl, fun _ => rfl⟩) rfl
        ⟨hs.base, hs.amount, fun _ => rfl⟩

lemma rejectOrderLocked_sound (h : StoreSound st) (oid : String) (adminId : ℤ) :
    StoreSound (rejectOrderLocked rt now st oid adminId).1 := by
  unfold rejectOrderLocked
  cases ho : st.orders.get? oid with
  | none => exact h
  | some order =>
    dsimp only
    split_ifs
    · exact h
    · exact h.of_release ho rfl rfl ⟨rfl, rfl, fun _ => rfl⟩ rfl rfl

/-- The charge; a refused one gives back the use it has just reserved. -/
lemma chargeLocked_sound (h : StoreSound st) {oid : String} {order : Order}
    (ho : st.orders.get? oid = some order) (user : User) (reviewerId : Option ℤ) (source : Source) :
    StoreSound (chargeLocked rt now st oid order user reviewerId source).1 := by
  have hs := h.orders oid order ho
  cases source with
  | card =>
    exact h.of_set (h.accounts.rewrite ho ⟨rfl, rfl, fun _ => rfl⟩) rfl
      ⟨hs.base, hs.amount, fun _ => rfl⟩
  | free =>
    unfold chargeLocked
    dsimp only
    cases hr : reserveDiscountLocked rt now st.discountCodes order with
    | error message => exact h
    | ok result => exact h.of_reserve ho hr rfl rfl ⟨rfl, rfl, fun _ => rfl⟩ rfl rfl rfl
  | wallet =>
    unfold chargeLocked
    dsimp only
    cases hr : reserveDiscountLocked rt now st.discountCodes order with
    | error message => exact h
    | ok result =>
      obtain ⟨codes, reserved⟩ := result
      dsimp only
      split_ifs with hshort
      · have hmid := h.accounts.reserve ho hr ⟨rfl, rfl, fun _ => rfl⟩
        have hget : (st.orders.set oid reserved).get? oid = some reserved := Dict.get?_set_self _ _ _
        have hback := hmid.release hget ⟨rfl, rfl, fun _ => rfl⟩
        rw [Dict.set_set] at hback
        obtain ⟨b, hb⟩ := reserveDiscountLocked_order rt now hr
        refine h.of_set hback rfl ?_
        rw [hmid.release_order hget, hb]
        exact ⟨hs.base, hs.amount, by simp⟩
      · exact h.of_reserve ho hr rfl rfl ⟨rfl, rfl, fun _ => rfl⟩ rfl rfl rfl

lemma finishBeginLocked_sound (h : StoreSound st) (oid : String) (reviewerId : Option ℤ)
    (source : Source) : StoreSound (finishBeginLocked rt now st oid reviewerId source).1 := by
  unfold finishBeginLocked
  cases ho : st.orders.get? oid with
  | none => exact h
  | some order =>
    dsimp only
    split_ifs
    · exact h
    · exact h
    · cases st.users.get? (userKey order.userId) with
      | none => exact h
      | some user =>
        dsimp only
        cases finishRefusal order user source with
        | some message => exact h
        | none => exact chargeLocked_sound h ho user reviewerId source

lemma rollbackLocked_sound (h : StoreSound st) (oid : String) (source : Source) (message : String) :
    StoreSound (rollbackLocked st oid source message) := by
  unfold rollbackLocked
  cases ho : st.orders.get? oid with
  | none => exact h
  | some order =>
    have hs := h.orders oid order ho
    cases source with
    | card =>
      -- the order goes back to its review and keeps its use
      exact h.of_set (h.accounts.rewrite ho ⟨rfl, rfl, fun _ => rfl⟩) rfl
        ⟨hs.base, hs.amount, fun _ => rfl⟩
    | free => exact h.of_release ho rfl rfl ⟨rfl, rfl, fun _ => rfl⟩ rfl rfl
    | wallet => exact h.of_release ho rfl rfl ⟨rfl, rfl, fun _ => rfl⟩ rfl rfl

lemma approveLocked_sound (h : StoreSound st) (oid : String) (serviceId : Option String) :
    StoreSound (approveLocked rt now st oid serviceId) := by
  unfold approveLocked
  cases ho : st.orders.get? oid with
  | none => exact h
  | some order =>
    have hs := h.orders oid order ho
    exact h.of_set (h.accounts.rewrite ho ⟨rfl, rfl, fun _ => rfl⟩) rfl
      ⟨hs.base, hs.amount, fun _ => rfl⟩

end Sections

/-! ## What a step does to the store -/

/-- The sections that run after the first one of their operation. -/
inductive Later (rt : Runtime) (env : Env) (st : Store) : Store → Prop
  | same : Later rt env st st
  | startCard (now : ℤ) (oid : String) (userId : ℤ) :
      Later rt env st (startCardLocked rt now env st oid userId).1
  | begin (now : ℤ) (oid : String) (reviewerId : Option ℤ) (source : Source) :
      Later rt env st (finishBeginLocked rt now st oid reviewerId source).1
  | credit (order : Order) : Later rt env st (creditWalletLocked st order)
  | customerSub (userId : ℤ) (subId : String) : Later rt env st (setCustomerSubLocked st userId subId)
  | approve (now : ℤ) (oid : String) (serviceId : Option String) :
      Later rt env st (approveLocked rt now st oid serviceId)
  | rollback (oid : String) (source : Source) (message : String) :
      Later rt env st (rollbackLocked st oid source message)

section Steps

variable {rt : Runtime} {env : Env} {s s' : State} {es : List Event}

@[simp] lemma State.suspend_store (s : State) (pid : ℕ) (pc : Option Pc) :
    (s.suspend pid pc).store = s.store := by
  cases pc <;> rfl

@[simp] lemma State.goTo_store (s : State) (h : Holder) (stage : Stage) :
    (s.goTo h stage).store = s.store := rfl

lemma runHolder_later {now : ℤ} {h : Holder} (hr : runHolder rt now s h = some (s', es)) :
    Later rt env s.store s'.store := by
  unfold runHolder at hr
  cases hstage : h.stage with
  | begin reviewerId =>
    rw [hstage] at hr
    have hlater : Later rt env s.store
        (finishBeginLocked rt now s.store h.oid reviewerId h.source).1 :=
      Later.begin now h.oid reviewerId h.source
    revert hr hlater
    dsimp only
    cases finishBeginLocked rt now s.store h.oid reviewerId h.source with
    | mk st reply =>
      intro hr hlater
      cases reply <;> cases hr <;> exact hlater
  | deliver =>
    rw [hstage] at hr
    dsimp only at hr
    cases ho : s.store.orders.get? h.oid with
    | none => simp [ho] at hr
    | some order =>
      rw [ho] at hr
      dsimp only at hr
      cases hk : order.kind with
      | wallet =>
        rw [hk] at hr
        cases hr
        exact .credit order
      | new | renew | other name =>
        rw [hk] at hr
        cases hr
        exact .same
  | approve serviceId =>
    rw [hstage] at hr
    cases hr
    exact .approve now h.oid serviceId
  | rollback message =>
    rw [hstage] at hr
    cases hr
    exact .rollback h.oid h.source message
  | savingCharge | provisioning | savingSub | savingOutcome fulfilled =>
    rw [hstage] at hr
    cases hr

lemma afterSave_store {pid : ℕ} (h : afterSave s pid = some (s', es)) : s'.store = s.store := by
  unfold afterSave at h
  split at h
  · cases h
    rfl
  · cases h
    rfl
  · cases h
  · split at h
    · cases h
    · split at h <;> cases h <;> rfl

/-- A step runs the first section of an operation, or a later one. -/
theorem step_section {l : Label} (h : step rt env s l = some (s', es)) :
    (∃ pid now action pc, l = .invoke pid now action ∧
        firstSection rt env now s.store action = some (s'.store, pc, es)) ∨
      (∀ pid now action, l ≠ .invoke pid now action) ∧ Later rt env s.store s'.store := by
  cases l with
  | invoke pid now action =>
    simp only [step] at h
    split_ifs at h
    cases hf : firstSection rt env now s.store action with
    | none => simp [hf] at h
    | some r =>
      obtain ⟨st, pc, events⟩ := r
      rw [hf] at h
      simp only [Option.some.injEq, Prod.mk.injEq] at h
      obtain ⟨rfl, rfl⟩ := h
      exact .inl ⟨pid, now, action, pc, rfl, by rw [State.suspend_store, hf]⟩
  | enter pid =>
    refine .inr ⟨by simp, ?_⟩
    simp only [step] at h
    split at h
    · cases h
      exact .same
    · cases h
  | run pid now =>
    refine .inr ⟨by simp, ?_⟩
    simp only [step] at h
    split at h
    · rename_i oid userId ht
      simp only [Option.some.injEq, Prod.mk.injEq] at h
      obtain ⟨rfl, -⟩ := h
      rw [State.suspend_store]
      exact .startCard now oid userId
    · cases h
    · split at h
      · split_ifs at h
        exact runHolder_later h
      · cases h
  | customerSub pid subId =>
    refine .inr ⟨by simp, ?_⟩
    simp only [step] at h
    split at h
    · split at h
      · split_ifs at h
        cases h
        exact .customerSub _ subId
      · cases h
    · cases h
  | provisioned pid outcome =>
    refine .inr ⟨by simp, ?_⟩
    simp only [step] at h
    split at h
    · split at h
      · split_ifs at h
        cases outcome <;> cases h <;> exact .same
      · cases h
    · cases h
  | startSave pid =>
    refine .inr ⟨by simp, ?_⟩
    simp only [step] at h
    split_ifs at h
    cases h
    exact .same
  | endSave pid written =>
    refine .inr ⟨by simp, ?_⟩
    simp only [step] at h
    split at h
    · rename_i writerPid snapshot hw
      by_cases hpid : writerPid = pid
      · rw [if_pos hpid] at h
        rw [afterSave_store h]
        exact .same
      · rw [if_neg hpid] at h
        cases h
    · cases h

/-- The later sections keep the accounts. -/
lemma Later.sound {st st' : Store} (h : StoreSound st) (hl : Later rt env st st') :
    StoreSound st' := by
  cases hl with
  | same => exact h
  | startCard now oid userId => exact startCardLocked_sound h env oid userId
  | begin now oid reviewerId source => exact finishBeginLocked_sound h oid reviewerId source
  | credit order => exact h.of_eq rfl rfl
  | customerSub userId subId => exact h.of_eq rfl rfl
  | approve now oid serviceId => exact approveLocked_sound h oid serviceId
  | rollback oid source message => exact rollbackLocked_sound h oid source message

/-- Whether an operation stores a new code. -/
def Action.storesCode : Action → Bool
  | .createGift .. | .createDiscount .. => true
  | _ => false

/-- The first sections keep the accounts, those that store a code aside. -/
lemma firstSection_sound {st st' : Store} {now : ℤ} {action : Action} {pc : Option Pc}
    (h : StoreSound st) (hf : firstSection rt env now st action = some (st', pc, es))
    (hcode : action.storesCode = false) : StoreSound st' := by
  cases action with
  | ensureUser userId username firstName =>
    cases hf
    exact ensureUserLocked_sound h userId username firstName
  | createGift => cases hcode
  | createDiscount => cases hcode
  | setCard cardNumber cardHolder =>
    cases hf
    exact h.of_eq rfl rfl
  | createOrder oid userId kind plan serviceId amount =>
    simp only [firstSection] at hf
    split_ifs at hf with hfresh
    rw [Bool.not_eq_true, Dict.contains_eq_false_iff] at hfresh
    split at hf
    · cases hf
      exact h
    · rename_i hc
      cases hf
      exact createOrderLocked_sound h hfresh hc
  | applyDiscount oid userId text =>
    simp only [firstSection] at hf
    split at hf
    · cases hf
      exact h
    · rename_i code hn
      cases hf
      exact applyDiscountLocked_sound h oid userId code
  | cancelOrder oid userId =>
    cases hf
    exact cancelOrderLocked_sound h oid userId
  | cancelWaitingOrder oid userId =>
    cases hf
    exact cancelWaitingLocked_sound h oid userId
  | expireStaleOrders =>
    cases hf
    exact expireStaleLocked_sound h env
  | startCardPayment oid userId =>
    cases hf
    exact expireStaleLocked_sound h env
  | submitReceipt userId receipt oid =>
    cases hf
    exact submitReceiptLocked_sound h userId receipt oid
  | rejectOrder oid adminId =>
    cases hf
    exact rejectOrderLocked_sound h oid adminId
  | redeemGift userId text =>
    simp only [firstSection] at hf
    split at hf
    · cases hf
      exact h
    · rename_i code hn
      have hsound : StoreSound (redeemGiftLocked rt now st userId code).1 :=
        redeemGiftLocked_sound h userId code
      revert hf hsound
      cases redeemGiftLocked rt now st userId code with
      | mk st₁ reply =>
        intro hf hsound
        cases reply <;> cases hf <;> exact hsound
  | finishOrder oid reviewerId source =>
    cases hf
    exact h

end Steps

end Bot
