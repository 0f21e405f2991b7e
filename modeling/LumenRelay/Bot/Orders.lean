import LumenRelay.Bot.Data

/-!
# The critical sections of the store

Every operation of the store changes it inside sections that hold the state lock and contain
no suspension point.  Each section is a function on the store here; what an operation does
between its sections is in `LumenRelay.Bot.Machine`.  A section gives the store after it and
its reply, an error reply being the text shown to the user.
-/

namespace Bot

open Lib Py

variable (rt : Runtime) (now : ℤ)

/-! ## Small helpers -/

/-- Truthiness of an optional text. -/
def given : Option String → Bool
  | some s => s ≠ ""
  | none => false

/-- `_FA_DIGITS`. -/
def faDigit (c : Char) : Char :=
  let n := c.toNat
  if 0x6f0 ≤ n ∧ n ≤ 0x6f9 then Char.ofNat (n - 0x6f0 + 48)
  else if 0x660 ≤ n ∧ n ≤ 0x669 then Char.ofNat (n - 0x660 + 48)
  else c

/-- The characters of a code. -/
def codeChar (c : Char) : Bool := c.isUpper || c.isDigit || c == '_' || c == '-'

/-- `_normalize_code`. -/
def normalizeCode (text : String) : Option String :=
  let code := keepChars (· ≠ ' ') (rt.upper (strip (String.ofList (text.toList.map faDigit))))
  if 3 ≤ code.length ∧ code.length ≤ 32 ∧ code.toList.all codeChar then some code else none

/-- `_expired`: an unreadable instant counts as past. -/
def expired (iso : Option String) : Bool :=
  if given iso then
    match rt.fromisoformat (iso.getD "") with
    | some t => t ≤ now
    | none => true
  else false

/-- The text of the current instant. -/
def iso : String := rt.isoformat now

/-! ## Discounts -/

/-- `_discount_valid`. -/
def discountValid (entry : Option DiscountCode) (userId : ℤ) : Except String DiscountCode :=
  match entry with
  | none => .error "کد غیرفعال یا منقضی شده است."
  | some e =>
    if !e.active || expired rt now e.expiresAt then .error "کد غیرفعال یا منقضی شده است."
    else if e.maxUses ≤ e.uses then .error "ظرفیت استفاده از این کد تمام شده است."
    else if userKey userId ∈ e.usedBy then .error "این کد قبلاً توسط شما استفاده شده است."
    else .ok e

/-- `_calculate_payable`: the payable amount and the discount. -/
def calculatePayable (baseAmount : ℤ) (entry : Option DiscountCode) : ℤ × ℤ :=
  let base := max 0 baseAmount
  match entry with
  | none => (base, 0)
  | some e =>
    let value := max 0 e.value
    let discount :=
      match e.type with
      | .percent => base * min 100 value / 100
      | .fixed => min base value
    let discount := min base (max 0 discount)
    (base - discount, discount)

/-- `_reserve_discount_locked`: the codes and the order after it. -/
def reserveDiscountLocked (codes : Dict String DiscountCode) (order : Order) :
    Except String (Dict String DiscountCode × Order) :=
  if !given order.discountCode || order.discountReserved then .ok (codes, order)
  else
    let code := order.discountCode.getD ""
    match discountValid rt now (codes.get? code) order.userId with
    | .error message => .error message
    | .ok e =>
      .ok (codes.set code
          { e with
            uses := e.uses + 1
            usedBy := e.usedBy ++ [userKey order.userId]
            orders := e.orders ++ [order.id] },
        { order with discountReserved := true })

/-- `_release_discount_locked`: the codes and the order after it. -/
def releaseDiscountLocked (codes : Dict String DiscountCode) (order : Order) :
    Dict String DiscountCode × Order :=
  if !given order.discountCode || !order.discountReserved then (codes, order)
  else
    (codes.modify (order.discountCode.getD "") fun e =>
        { e with
          uses := max 0 (e.uses - 1)
          usedBy := e.usedBy.erase (userKey order.userId)
          orders := e.orders.erase order.id },
      { order with discountReserved := false })

/-! ## Customers, codes and settings -/

/-- The section of `_ensure_user`, and whether it asks for a save. -/
def ensureUserLocked (st : Store) (userId : ℤ) (username firstName : String) : Store × Bool :=
  let key := userKey userId
  let name := if firstName ≠ "" then firstName else "کاربر"
  match st.users.get? key with
  | none =>
    ({ st with
        users := st.users.set key
          { id := userId, username := username, firstName := name, balance := 0,
            createdAt := iso rt now, lastSeenAt := iso rt now, subId := none, giftCodes := [],
            trialUsedAt := none } }, true)
  | some user =>
    ({ st with
        users := st.users.set key
          { user with username := username, firstName := name, lastSeenAt := iso rt now } },
      user.username ≠ username || user.firstName ≠ name)

/-- The section of `_admin_gift_text` that stores the code of a finished dialogue. -/
def createGiftLocked (st : Store) (chatId : ℤ) (code : String) (amount maxUses : ℤ)
    (expiresAt : Option String) : Store :=
  { st with
    giftCodes := st.giftCodes.set code
      { code := code, amount := amount, maxUses := maxUses, usedBy := [], active := true,
        createdAt := iso rt now, createdBy := chatId, expiresAt := expiresAt } }

/-- The section of `_admin_promo_text` that stores the code of a finished dialogue. -/
def createDiscountLocked (st : Store) (chatId : ℤ) (code : String) (type : DiscountType)
    (value maxUses : ℤ) (expiresAt : Option String) : Store :=
  { st with
    discountCodes := st.discountCodes.set code
      { code := code, type := type, value := value, maxUses := maxUses, uses := 0, usedBy := [],
        orders := [], active := true, createdAt := iso rt now, createdBy := chatId,
        expiresAt := expiresAt } }

/-- The section of `_handle_pending_text` that stores the card of the shop. -/
def setCardLocked (st : Store) (cardNumber cardHolder : String) : Store :=
  { st with settings := { st.settings with cardNumber := cardNumber, cardHolder := cardHolder } }

/-- The section of `_ensure_customer_sub` that records the group of a customer. -/
def setCustomerSubLocked (st : Store) (userId : ℤ) (subId : String) : Store :=
  { st with users := st.users.modify (userKey userId) fun user => { user with subId := some subId } }

/-- The section of `_redeem_gift`, after the code was normalised. -/
def redeemGiftLocked (st : Store) (userId : ℤ) (code : String) : Store × Except String ℤ :=
  let key := userKey userId
  match st.users.get? key, st.giftCodes.get? code with
  | some user, some e =>
    if !e.active || expired rt now e.expiresAt then (st, .error "کد هدیه نامعتبر یا منقضی است.")
    else if key ∈ e.usedBy then (st, .error "این کد را قبلاً استفاده کرده‌اید.")
    else if e.maxUses ≤ e.usedBy.length then (st, .error "ظرفیت این کد هدیه تمام شده است.")
    else if e.amount ≤ 0 then (st, .error "مبلغ کد هدیه نامعتبر است.")
    else
      ({ st with
          giftCodes := st.giftCodes.set code { e with usedBy := e.usedBy ++ [key] }
          users := st.users.set key
            { user with
              balance := user.balance + e.amount
              giftCodes := user.giftCodes ++ [code] }
          redemptionAudit := lastN 5000 (st.redemptionAudit ++
            [⟨code, userId, e.amount, iso rt now⟩]) }, .ok e.amount)
  | _, _ => (st, .error "کد هدیه نامعتبر یا منقضی است.")

/-! ## Orders before their payment -/

/-- The section of `_create_order`; `oid` is the id that `_new_order_id` drew.  Without a plan
and an amount the price cannot be read and the section raises. -/
def createOrderLocked (st : Store) (oid : String) (userId : ℤ) (kind : Kind)
    (plan : Option Plan) (serviceId : Option String) (amount : Option ℤ) : Option (Store × Order) :=
  (amount <|> plan.map Plan.price).map fun price =>
    let order : Order :=
      { id := oid, userId := userId, kind := kind, planId := plan.map Plan.id, plan := plan,
        serviceId := serviceId, baseAmount := max 0 price, discountAmount := 0,
        discountCode := none, discountReserved := false, amount := max 0 price,
        paymentMethod := none, status := .draft, createdAt := iso rt now, cancelledAt := none,
        paymentStartedAt := none, receipt := none, receiptAt := none, reviewerId := none,
        processingAt := none, lastError := none, approvedAt := none, rejectedAt := none }
    ({ st with orders := st.orders.set oid order }, order)

/-- The section of `_cancel_order`. -/
def cancelOrderLocked (st : Store) (oid : String) (userId : ℤ) : Store × Bool :=
  match st.orders.get? oid with
  | none => (st, false)
  | some order =>
    if order.userId ≠ userId ∨ order.status ≠ .draft then (st, false)
    else
      ({ st with
          orders := st.orders.set oid
            { order with status := .cancelled, cancelledAt := some (iso rt now) } }, true)

/-- The section of `_apply_discount`, after the code was normalised. -/
def applyDiscountLocked (st : Store) (oid : String) (userId : ℤ) (code : String) :
    Store × Except String Unit :=
  match st.orders.get? oid with
  | none => (st, .error "این سفارش برای تخفیف معتبر نیست.")
  | some order =>
    if order.userId ≠ userId ∨ order.status ≠ .draft ∨ order.kind = .wallet then
      (st, .error "این سفارش برای تخفیف معتبر نیست.")
    else
      match discountValid rt now (st.discountCodes.get? code) userId with
      | .error message => (st, .error message)
      | .ok e =>
        let payable := calculatePayable order.baseAmount (some e)
        ({ st with
            orders := st.orders.set oid
              { order with
                discountCode := some code, discountAmount := payable.2, amount := payable.1 } },
          .ok ())

/-- The section of `_cancel_waiting_order`; its callers leave `reason` at `cancelled`. -/
def cancelWaitingLocked (st : Store) (oid : String) (userId : ℤ) : Store × Bool :=
  match st.orders.get? oid with
  | none => (st, false)
  | some order =>
    if order.userId ≠ userId ∨ order.status ≠ .awaitingReceipt then (st, false)
    else
      let (codes, order) := releaseDiscountLocked st.discountCodes order
      ({ st with
          discountCodes := codes
          orders := st.orders.set oid
            { order with status := .cancelled, cancelledAt := some (iso rt now) } }, true)

/-- The instant a payment started; an unreadable one counts as the earliest instant. -/
def startedAt (order : Order) : ℤ :=
  let text := if given order.paymentStartedAt then order.paymentStartedAt.getD "" else order.createdAt
  (rt.fromisoformat text).getD 0

/-- Whether the flow of an order that waits for a receipt is abandoned. -/
def isStale (env : Env) (order : Order) : Bool :=
  order.status = .awaitingReceipt ∧
    startedAt rt order ≤ now - env.receiptTimeoutHours * 3600000000

/-- What `_expire_stale_orders` does with one order. -/
def expireOne (env : Env) (st : Store) (oid : String) : Store :=
  match st.orders.get? oid with
  | none => st
  | some order =>
    if isStale rt now env order then
      let (codes, order) := releaseDiscountLocked st.discountCodes order
      { st with
        discountCodes := codes
        orders := st.orders.set oid
          { order with status := .expired, cancelledAt := some (iso rt now) } }
    else st

/-- The section of `_expire_stale_orders`, and whether it changed an order. -/
def expireStaleLocked (env : Env) (st : Store) : Store × Bool :=
  (st.orders.keys.foldl (expireOne rt now env) st, st.orders.values.any (isStale rt now env))

/-- The section of `_start_card_payment`, with the checks of the settings before it. -/
def startCardLocked (env : Env) (st : Store) (oid : String) (userId : ℤ) :
    Store × Except String Unit :=
  if env.adminIds = [] then (st, .error "ادمین پرداخت در سیستم تنظیم نشده است.")
  else if st.settings.cardNumber = "" ∨ st.settings.cardHolder = "" then
    (st, .error "اطلاعات کارت هنوز توسط ادمین تنظیم نشده است.")
  else
    match st.orders.get? oid with
    | none => (st, .error "سفارش معتبر نیست یا قبلاً پرداخت شده است.")
    | some order =>
      if order.userId ≠ userId ∨ order.status ≠ .draft then
        (st, .error "سفارش معتبر نیست یا قبلاً پرداخت شده است.")
      else if order.amount ≤ 0 then
        (st, .error "این سفارش نیاز به پرداخت ندارد؛ فعال‌سازی رایگان را انتخاب کن.")
      else
        match reserveDiscountLocked rt now st.discountCodes order with
        | .error message => (st, .error message)
        | .ok (codes, order) =>
          ({ st with
              discountCodes := codes
              orders := st.orders.set oid
                { order with
                  paymentMethod := some .card
                  status := .awaitingReceipt
                  paymentStartedAt := some (iso rt now) } }, .ok ())

/-- The entry of the order that a receipt without an order id belongs to: of the user's orders
that wait for one, the one whose payment started last. -/
def latestAwaiting (st : Store) (userId : ℤ) : Option (String × Order) :=
  (st.orders.entries.filter fun e =>
      e.2.userId = userId ∧ e.2.status = .awaitingReceipt).foldl
    (fun best e =>
      match best with
      | none => some e
      | some b =>
        if b.2.paymentStartedAt.getD "" < e.2.paymentStartedAt.getD "" then some e else some b)
    none

/-- The order a receipt is for, with its key. -/
def receiptOrder (st : Store) (userId : ℤ) (oid : Option String) : Option (String × Order) :=
  if given oid then (st.orders.get? (oid.getD "")).map fun o => (oid.getD "", o)
  else latestAwaiting st userId

/-- The section of `_submit_receipt`. -/
def submitReceiptLocked (st : Store) (userId : ℤ) (receipt : Receipt) (oid : Option String) :
    Store × Except String Unit :=
  match receiptOrder st userId oid with
  | none => (st, .error "سفارش منتظر رسید پیدا نشد.")
  | some (key, order) =>
    if order.userId ≠ userId ∨ order.status ≠ .awaitingReceipt then
      (st, .error "سفارش منتظر رسید پیدا نشد.")
    else
      ({ st with
          orders := st.orders.set key
            { order with
              receipt := some receipt, receiptAt := some (iso rt now), status := .pendingAdmin } },
        .ok ())

/-- The section of `_reject_order`. -/
def rejectOrderLocked (st : Store) (oid : String) (adminId : ℤ) : Store × Except String Unit :=
  match st.orders.get? oid with
  | none => (st, .error "سفارش در انتظار تایید نیست.")
  | some order =>
    if order.status ≠ .pendingAdmin then (st, .error "سفارش در انتظار تایید نیست.")
    else
      let (codes, order) := releaseDiscountLocked st.discountCodes order
      ({ st with
          discountCodes := codes
          orders := st.orders.set oid
            { order with
              status := .rejected, reviewerId := some adminId, rejectedAt := some (iso rt now) } },
        .ok ())

/-! ## The sections of `_finish_order` -/

/-- What asks for an order to be finished. -/
inductive Source
  | wallet
  | free
  | card
deriving DecidableEq, Repr

/-- The status an order must have. -/
def Source.allowed : Source → Status
  | .card => .pendingAdmin
  | _ => .draft

/-- How the order counts as paid. -/
def Source.method : Source → Method
  | .wallet => .wallet
  | .free => .free
  | .card => .card

/-- The reply of the first section. -/
inductive Begun
  | refused (message : String)
  | already (message : String)
  | started (order : Order)
deriving DecidableEq, Repr

/-- Whether the plan of an order is a trial. -/
def Order.isTrial (order : Order) : Bool :=
  match order.plan with
  | some plan => plan.trial
  | none => false

/-- Put an order into processing. -/
def Order.process (order : Order) (reviewerId : Option ℤ) : Order :=
  { order with
    status := .processing, reviewerId := reviewerId, processingAt := some (iso rt now) }

/-- The checks of the first section that read both the order and its customer. -/
def finishRefusal (order : Order) (user : User) (source : Source) : Option String :=
  if order.isTrial && given user.trialUsedAt then
    some "پلن تستی قبلاً برای این حساب استفاده شده است."
  else if source = .free ∧ order.amount ≠ 0 then
    some "فعال‌سازی رایگان برای این سفارش معتبر نیست."
  else if source = .card ∧ order.amount ≤ 0 then
    some "تایید پرداخت برای سفارش رایگان معتبر نیست."
  else none

/-- The part of the first section after the checks: the reservation of the discount, the
charge and the new status. -/
def chargeLocked (st : Store) (oid : String) (order : Order) (user : User)
    (reviewerId : Option ℤ) (source : Source) : Store × Begun :=
  match source with
  | .card =>
    let order := order.process rt now reviewerId
    ({ st with orders := st.orders.set oid order }, .started order)
  | .wallet =>
    match reserveDiscountLocked rt now st.discountCodes order with
    | .error message => (st, .refused message)
    | .ok (codes, order) =>
      if user.balance < order.amount then
        let (codes, order) := releaseDiscountLocked codes order
        ({ st with discountCodes := codes, orders := st.orders.set oid order },
          .refused "موجودی کیف پول کافی نیست.")
      else
        let paid := { order with paymentMethod := some .wallet }.process rt now reviewerId
        ({ st with
            discountCodes := codes
            users := st.users.set (userKey order.userId)
              { user with balance := user.balance - order.amount }
            orders := st.orders.set oid paid }, .started paid)
  | .free =>
    match reserveDiscountLocked rt now st.discountCodes order with
    | .error message => (st, .refused message)
    | .ok (codes, order) =>
      let paid := { order with paymentMethod := some .free }.process rt now reviewerId
      ({ st with discountCodes := codes, orders := st.orders.set oid paid }, .started paid)

/-- The first section: the checks and the charge. -/
def finishBeginLocked (st : Store) (oid : String) (reviewerId : Option ℤ) (source : Source) :
    Store × Begun :=
  match st.orders.get? oid with
  | none => (st, .refused "سفارش پیدا نشد.")
  | some order =>
    if order.status = .approved then (st, .already "قبلاً تایید شده است.")
    else if order.status ≠ source.allowed then
      (st, .refused "وضعیت سفارش اجازه تایید نمی‌دهد.")
    else
      match st.users.get? (userKey order.userId) with
      | none => (st, .refused "کاربر پیدا نشد.")
      | some user =>
        match finishRefusal order user source with
        | some message => (st, .refused message)
        | none => chargeLocked rt now st oid order user reviewerId source

/-- Add an amount to the balance of a customer.  The first section has found the customer and
no operation removes one. -/
def credit (st : Store) (userId amount : ℤ) : Store :=
  { st with
    users := st.users.modify (userKey userId) fun user =>
      { user with balance := user.balance + amount } }

/-- The section that credits a wallet order. -/
def creditWalletLocked (st : Store) (order : Order) : Store := credit st order.userId order.amount

/-- The section after a failure: the refund and the way back. -/
def rollbackLocked (st : Store) (oid : String) (source : Source) (message : String) : Store :=
  match st.orders.get? oid with
  | none => st
  | some current =>
    let lastError := some (sliceTo 300 message)
    match source with
    | .card =>
      { st with
        orders := st.orders.set oid
          { current with status := .pendingAdmin, lastError := lastError } }
    | .free =>
      let (codes, current) := releaseDiscountLocked st.discountCodes current
      { st with
        discountCodes := codes
        orders := st.orders.set oid { current with status := .draft, lastError := lastError } }
    | .wallet =>
      let (codes, order) := releaseDiscountLocked st.discountCodes current
      { credit st current.userId current.amount with
        discountCodes := codes
        orders := st.orders.set oid { order with status := .draft, lastError := lastError } }

/-- The last section: the order is approved. -/
def approveLocked (st : Store) (oid : String) (serviceId : Option String) : Store :=
  match st.orders.get? oid with
  | none => st
  | some current =>
    let approvedAt := some (iso rt now)
    { st with
      users :=
        if current.isTrial then
          st.users.modify (userKey current.userId) fun user => { user with trialUsedAt := approvedAt }
        else st.users
      orders := st.orders.set oid
        { current with
          status := .approved, approvedAt := approvedAt
          serviceId := if given serviceId then serviceId else current.serviceId } }

end Bot
