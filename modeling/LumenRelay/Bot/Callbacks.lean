import LumenRelay.Bot.AssignmentSave
import LumenRelay.Bot.Cancel
import LumenRelay.Bot.Provision
import LumenRelay.Session.Links

/-!
# The updates of the bot

An update is a message or the press of a button in a private chat.  The data of a button is free
text: a client may send any data, also that of a button it was never shown.  The dispatcher compares
it with the words it knows, one after the other, and stops those who are no admins before the words
of the admins.  The loop that polls for updates handles one after the other; operations of the panel
fall in between.
-/

namespace Bot

open Lib Py Routing

/-! ## The plans -/

/-- `DEFAULT_PLANS`, of which `PLANS` is a copy. -/
def defaultPlans : List Plan :=
  [⟨"economic", "اقتصادی", 10 * 1024 ^ 3, "10 GB", 25, 80000, false, true⟩,
    ⟨"standard", "استاندارد", 20 * 1024 ^ 3, "20 GB", 30, 100000, false, true⟩,
    ⟨"trial", "تستی", 150 * 1024 ^ 2, "150 MB", 1, 0, true, true⟩]

/-- `_active_plan`. -/
def activePlan (planId : String) : Option Plan :=
  (defaultPlans.find? fun plan => plan.id = planId).filter Plan.active

/-- The plans that `_plans_text` and `_plans_kb` list. -/
def offeredPlans (user : Option User) (includeTrial : Bool) : List Plan :=
  defaultPlans.filter fun plan => plan.active && (includeTrial || !plan.trial) &&
    !(plan.trial && user.any fun user => given user.trialUsedAt)

/-! ## What a chat is shown -/

/-- What a chat is shown: the records that its texts and buttons are made of. -/
inductive Screen
  /-- `_answer` with an alert. -/
  | alert (text : String)
  /-- A text without a record. -/
  | note (text : String)
  | menu (user : Option User)
  | plans (offered : List Plan)
  | order (order : Order) (user : Option User)
  /-- `_card_instructions`. -/
  | card (order : Order) (settings : Settings)
  /-- The services of a customer, and the feed of all of them: its group and its key. -/
  | services (user : Option User) (feed : Option (String × String)) (links : List (String × Obj))
  | service (uid : String) (link : Obj)
  | config (uid : String) (link : Obj) (uri : String)
  | subscription (uid : String) (link : Obj)
  | renewals (links : List (String × Obj))
  | renewPlans (uid : String) (link : Obj) (offered : List Plan)
  | wallet (user : Option User)
  | redeemed (amount : ℤ) (user : Option User)
  | guide (support : String)
  /-- A text with the id of an order. -/
  | aboutOrder (order : Order) (text : String)
  | adminPanel (text : String)
  | targets (targets : List Target)
  | confirmAssignment (target : Target) (eligible : List (String × Obj))
  | assigned (result : Assigned)
  | pendingOrders (page : ℕ) (orders : List Order)
  /-- `_admin_order_text`. -/
  | review (order : Order) (user : Option User)
  /-- `_send_receipt`. -/
  | receipt (order : Order) (user : Option User)
  | stats (users : ℕ) (orders : List Order) (managed : ℕ)
  /-- A code that was created in a dialogue. -/
  | created (action : Action)

/-- A screen and the chat that it is sent to. -/
structure Reply where
  chatId : ℤ
  screen : Screen

/-! ## The desk -/

/-- The shop and the pending actions of the chats. -/
structure Desk where
  shop : Provision.Shop
  /-- `_pending`. -/
  pending : Dict ℤ Pending

namespace Desk

/-- The store of the shop. -/
def store (d : Desk) : Store := d.shop.store

/-- The panel of the shop. -/
def panel (d : Desk) : Panel := d.shop.world.panel

/-- Another store. -/
def put (d : Desk) (st : Store) : Desk := { d with shop := { d.shop with store := st } }

/-- `_pending[chat_id] = p`. -/
def await (d : Desk) (chatId : ℤ) (p : Pending) : Desk := { d with pending := d.pending.set chatId p }

/-- `_pending.pop(chat_id, None)`. -/
def forget (d : Desk) (chatId : ℤ) : Desk := { d with pending := d.pending.erase chatId }

/-- What a chat has of the desk. -/
def chat (d : Desk) (chatId : ℤ) : Chat := ⟨d.store, d.pending.get? chatId⟩

/-- The desk after its part of a chat has changed. -/
def putChat (d : Desk) (chatId : ℤ) (c : Chat) : Desk :=
  match c.pending with
  | some p => (d.put c.store).await chatId p
  | none => (d.put c.store).forget chatId

/-- `STORE["users"][str(chat_id)]`. -/
def user (d : Desk) (chatId : ℤ) : Option User := d.store.users.get? (userKey chatId)

end Desk

/-- What an update is handled with: the configuration, the clock at the first sections and at the
last one, what will be drawn, and `get_host()`. -/
structure Turn where
  server : Server
  now : ℤ
  endedAt : ℤ
  subDraw : ℕ
  token : Token
  linkDraw : ℕ
  oid : { oid : String // oid ≠ "" }
  host : String

namespace Turn

/-- The runtime of a turn. -/
abbrev rt (t : Turn) : Runtime := t.server.site.rt

/-- A call of `_finish_order`. -/
def attempt (t : Turn) (env : Env) (reviewerId : Option ℤ) (source : Source) : Provision.Attempt :=
  ⟨reviewerId, source, env, t.server, t.now, t.endedAt, t.subDraw, t.token, t.linkDraw⟩

/-- The ids that are drawn are new: `_new_order_id` draws again while one is taken, and a new group
gets a random UUID. -/
def fresh (t : Turn) (d : Desk) : Bool :=
  !d.store.orders.contains t.oid && !d.panel.subs.contains (State.generateUuid t.rt t.subDraw)

end Turn

/-! ## The words of the dispatcher -/

/-- The buttons of the customers. -/
inductive Tap
  | menu
  | plans
  | buy (planId : String)
  | disc (oid : String)
  | payw (oid : String)
  | free (oid : String)
  | payc (oid : String)
  | cancel (oid : String)
  | cancelpay (oid : String)
  | services
  | svc (uid : String)
  | cfg (uid : String)
  | sub (uid : String)
  | renew
  | ren (uid : String)
  | rplan (choice : String)
  | wallet
  | topup
  | gift
  | guide

/-- The buttons of the admins. -/
inductive AdminTap
  | admin
  | assign
  | asgn (code : String)
  | asgncancel
  | asgnok (code : String)
  | ap (page : String)
  | aord (oid : String)
  | areceipt (oid : String)
  | aok (oid : String)
  | ano (oid : String)
  | agift
  | apromo
  | ptype (type : String)
  | acard
  | aplans
  | astats

/-- `if data == word`. -/
def onWord {τ : Type} (word : String) (tap : τ) (data : String) : Option τ :=
  if data = word then some tap else none

/-- `if data.startswith(word)`, with `data.split(":", 1)[1]`; the word ends with its only colon. -/
def onCall {τ : Type} (word : String) (tap : String → τ) (data : String) : Option τ :=
  if startsWith word data then some (tap (String.ofList (data.toList.drop word.length))) else none

/-- The first word that data is. -/
def firstOf {τ : Type} (words : List (String → Option τ)) (data : String) : Option τ :=
  words.findSome? fun word => word data

/-- The words before the guard, in the order of the code. -/
def customerWords : List (String → Option Tap) :=
  [onWord "menu" .menu, onWord "plans" .plans, onCall "buy:" .buy, onCall "disc:" .disc,
    onCall "payw:" .payw, onCall "free:" .free, onCall "payc:" .payc, onCall "cancel:" .cancel,
    onCall "cancelpay:" .cancelpay, onWord "services" .services, onCall "svc:" .svc,
    onCall "cfg:" .cfg, onCall "sub:" .sub, onWord "renew" .renew, onCall "ren:" .ren,
    onCall "rplan:" .rplan, onWord "wallet" .wallet, onWord "topup" .topup, onWord "gift" .gift,
    onWord "guide" .guide]

/-- The words after the guard, in the order of the code. -/
def adminWords : List (String → Option AdminTap) :=
  [onWord "admin" .admin, onWord "assign" .assign, onCall "asgn:" .asgn,
    onWord "asgncancel" .asgncancel, onCall "asgnok:" .asgnok, onCall "ap:" .ap,
    onCall "aord:" .aord, onCall "areceipt:" .areceipt, onCall "aok:" .aok, onCall "ano:" .ano,
    onWord "agift" .agift, onWord "apromo" .apromo, onCall "ptype:" .ptype, onWord "acard" .acard,
    onWord "aplans" .aplans, onWord "astats" .astats]

/-- The beginnings that the guard looks for. -/
def guardWords : List String :=
  ["admin", "ap:", "aord:", "areceipt:", "aok:", "ano:", "agift", "apromo", "ptype:", "acard",
    "aplans", "astats", "assign", "asgn:", "asgnok:", "asgncancel"]

/-- Whether data is for admins. -/
def guarded (data : String) : Bool := guardWords.any fun word => startsWith word data

/-! ## The buttons of the customers -/

variable (env : Env)

/-- Whether a link is a service of a customer: `str(link.get("owner_telegram_id", ""))` is the id. -/
def ownedBy (rt : Runtime) (chatId : ℤ) (link : Obj) : Bool :=
  !link.isEmpty && decide ((link.getD "owner_telegram_id" (.str "")).toStr rt = toString chatId)

/-- `LINKS.get(uid)`, if it is a service of the customer. -/
def ownLink (rt : Runtime) (d : Desk) (chatId : ℤ) (uid : String) : Option Obj :=
  (d.panel.links.get? uid).filter (ownedBy rt chatId)

/-- The instant that services are sorted by. -/
def createdAt (e : String × Obj) : String :=
  match Obj.get e.2 "created_at" with
  | .str text => text
  | _ => ""

/-- `_user_services`, the newest one first. -/
def userServices (rt : Runtime) (d : Desk) (chatId : ℤ) : List (String × Obj) :=
  (d.panel.links.entries.filter fun e =>
    (Obj.getD e.2 "owner_telegram_id" (.str "")).toStr rt = toString chatId).insertionSort
      fun e e' => createdAt e' ≤ createdAt e

/-- The order of a button, if it is one of the customer. -/
def ownOrder (d : Desk) (chatId : ℤ) (oid : String) : Option Order :=
  (d.store.orders.get? oid).filter fun order => order.userId = chatId

/-- The group of a customer and the key of its feed; `none` when the group has no key, which
raises. -/
def feedKey (d : Desk) (chatId : ℤ) : Option (Option (String × String)) :=
  match Provision.customerSub d.shop chatId with
  | none => some none
  | some subId =>
    match (d.panel.subs.get? subId).map fun sub : Obj => sub.get "uuid_key" with
    | none => some none
    | some (.str key) => some (some (subId, key))
    | some _ => none

/-- A new order and what the customer is shown of it. -/
def takeOrder (t : Turn) (d : Desk) (chatId : ℤ) (kind : Kind) (plan : Plan)
    (serviceId : Option String) : Desk × List Screen :=
  match createOrderLocked t.rt t.now d.store t.oid chatId kind (some plan) serviceId none with
  | none => (d, [])
  | some (st, order) => (d.put st, [.order order (d.user chatId)])

/-- An order that its customer pays without an admin. -/
def payOrder (t : Turn) (d : Desk) (chatId : ℤ) (oid : String) (source : Source) (paid : String) :
    Desk × List Screen :=
  match ownOrder d chatId oid with
  | none => (d, [.alert "سفارش متعلق به شما نیست"])
  | some _ =>
    match Provision.finishOrder (t.attempt env none source) oid d.shop with
    | (.delivered, shop) => ({ d with shop := shop }, [.note paid])
    | (.failed message, shop) => ({ d with shop := shop }, [.note ("❗️ " ++ message)])
    | (.already message, shop) => ({ d with shop := shop }, [.note ("❗️ " ++ message)])

/-- The start of a card payment; the ids of orders are not empty. -/
def payByCard (t : Turn) (d : Desk) (chatId : ℤ) (oid : String) : Desk × List Screen :=
  match startCardLocked t.rt t.now env (expireStaleLocked t.rt t.now env d.store).1 oid chatId with
  | (st, .error message) => (d.put st, [.note ("❗️ " ++ message)])
  | (st, .ok _) =>
    let d := if h : oid ≠ "" then (d.put st).await chatId (.receipt ⟨oid, h⟩) else d.put st
    (d, ((st.orders.get? oid).map fun order => Screen.card order st.settings).toList)

/-- `data.split(":", 2)`, for the service and the plan of a renewal. -/
def renewalChoice (rt : Runtime) (d : Desk) (chatId : ℤ) (choice : String) : Option (String × Plan) := do
  let (uid, planId) ← splitOnce ':' choice
  let _ ← ownLink rt d chatId uid
  let plan ← (activePlan planId).filter fun plan => !plan.trial
  return (uid, plan)

/-- The part of `_handle_callback` for a button of the customers. -/
def handleTap (t : Turn) (d : Desk) (chatId : ℤ) : Tap → Desk × List Screen
  | .menu => (d.forget chatId, [.menu (d.user chatId)])
  | .plans => (d, [.plans (offeredPlans (d.user chatId) true)])
  | .buy planId =>
    match activePlan planId with
    | none => (d, [.note "این پلن فعال نیست."])
    | some plan =>
      if plan.trial && (d.user chatId).any fun user => given user.trialUsedAt then
        (d, [.note "پلن تستی قبلاً برای این حساب استفاده شده است."])
      else takeOrder t d chatId .new plan none
  | .disc oid =>
    match (ownOrder d chatId oid).filter fun order => order.status = .draft with
    | none => (d, [.alert "سفارش معتبر نیست"])
    | some _ =>
      (d.await chatId (.discount oid), [.note "🏷 کد تخفیف را بفرست؛ برای انصراف /cancel را ارسال کن."])
  | .payw oid =>
    payOrder env t d chatId oid .wallet "✅ پرداخت از کیف پول انجام شد و سرویس آماده است."
  | .free oid => payOrder env t d chatId oid .free "✅ سرویس رایگان با موفقیت فعال شد."
  | .payc oid => payByCard env t d chatId oid
  | .cancel oid =>
    (d.put (cancelOrderLocked t.rt t.now d.store oid chatId).1, [.note "سفارش لغو شد."])
  | .cancelpay oid =>
    ((d.put (cancelWaitingLocked t.rt t.now d.store oid chatId).1).forget chatId,
      [.note "پرداخت لغو شد."])
  | .services =>
    match userServices t.rt d chatId, feedKey d chatId with
    | [], _ => (d, [.note "هنوز سرویسی نداری. از بخش خرید سرویس شروع کن."])
    | _, none => (d, [])
    | links, some feed => (d, [.services (d.user chatId) feed links])
  | .svc uid =>
    match ownLink t.rt d chatId uid with
    | none => (d, [.alert "سرویس پیدا نشد"])
    | some link => (d, [.service uid link])
  | .cfg uid =>
    match ownLink t.rt d chatId uid with
    | none => (d, [.alert "سرویس پیدا نشد"])
    | some link =>
      -- what has no entry raises, and nothing is sent
      match vlessEntriesForLink t.server.site d.panel.subs link uid t.host with
      | .ok (entry :: _) => (d, [.config uid link entry.vlessLink])
      | _ => (d, [])
  | .sub uid =>
    match ownLink t.rt d chatId uid with
    | none => (d, [.alert "سرویس پیدا نشد"])
    | some link => (d, [.subscription uid link])
  | .renew =>
    match userServices t.rt d chatId with
    | [] => (d, [.note "سرویسی برای تمدید وجود ندارد."])
    | links => (d, [.renewals links])
  | .ren uid =>
    match ownLink t.rt d chatId uid with
    | none => (d, [.alert "سرویس پیدا نشد"])
    | some link => (d, [.renewPlans uid link (offeredPlans none false)])
  | .rplan choice =>
    match renewalChoice t.rt d chatId choice with
    | none => (d, [.alert "انتخاب نامعتبر است"])
    | some (uid, plan) => takeOrder t d chatId .renew plan (some uid)
  | .wallet => (d, [.wallet (d.user chatId)])
  | .topup =>
    (d.await chatId .topupAmount,
      [.note "مبلغ شارژ را به تومان بفرست.\nحداقل: 20,000 تومان\nبرای انصراف /cancel را ارسال کن."])
  | .gift =>
    (d.await chatId .giftRedeem, [.note "🎁 کد هدیه را ارسال کن؛ برای انصراف /cancel را بفرست."])
  | .guide => (d, [.guide d.store.settings.support])

/-! ## The buttons of the admins -/

/-- The orders that wait for an admin. -/
def pendingOrders (d : Desk) : List Order :=
  d.store.orders.values.filter fun order => order.status = .pendingAdmin

/-- The user of an order. -/
def orderUser (d : Desk) (order : Order) : Option User := d.store.users.get? (userKey order.userId)

/-- A reply that names an order, if it is there. -/
def orderReply (st : Store) (oid : String) (reply : Order → List Reply) : List Reply :=
  (st.orders.get? oid).elim [] reply

/-- The approval of an order by an admin: both the admin and the customer are told. -/
def approveOrder (t : Turn) (d : Desk) (chatId : ℤ) (oid : String) : Desk × List Reply :=
  match Provision.finishOrder (t.attempt env (some chatId) .card) oid d.shop with
  | (.already _, shop) =>
    ({ d with shop := shop }, orderReply shop.store oid fun order => [⟨chatId, .aboutOrder order
      ("ℹ️ سفارش <code>" ++ oid ++ "</code> قبلاً تایید شده است.")⟩])
  | (.failed message, shop) => ({ d with shop := shop }, [⟨chatId, .adminPanel ("❗️ " ++ message)⟩])
  | (.delivered, shop) =>
    ({ d with shop := shop }, orderReply shop.store oid fun order =>
      [⟨chatId, .aboutOrder order ("✅ سفارش <code>" ++ oid ++ "</code> تایید و اعمال شد.")⟩,
        ⟨order.userId, .aboutOrder order ("✅ پرداخت سفارش <code>" ++ oid ++
          "</code> تایید شد. سرویس یا موجودی کیف پول آماده استفاده است.")⟩])

/-- The rejection of an order. -/
def rejectOrder (t : Turn) (d : Desk) (chatId : ℤ) (oid : String) : Desk × List Reply :=
  match rejectOrderLocked t.rt t.now d.store oid chatId with
  | (st, .error message) => (d.put st, [⟨chatId, .alert message⟩])
  | (st, .ok _) =>
    (d.put st, orderReply st oid fun order =>
      [⟨chatId, .aboutOrder order ("❌ سفارش <code>" ++ oid ++ "</code> رد شد.")⟩,
        ⟨order.userId, .aboutOrder order ("❌ رسید سفارش <code>" ++ oid ++
          "</code> تایید نشد. در صورت نیاز با پشتیبانی تماس بگیر.")⟩])

/-- The desk with the links of an assignment, and its save; one that fails is not noticed. -/
def putLinks (t : Turn) (d : Desk) (links : Dict String Obj) : Desk :=
  let world := { d.shop.world with panel := { d.panel with links := links } }
  { d with shop := { d.shop with world := (State.saveState t.server false world).2 } }

/-- A confirmed assignment. -/
def confirmAssignment (t : Turn) (d : Desk) (chatId : ℤ) (code : String) : Desk × Screen :=
  match d.pending.get? chatId with
  | some (.proxyAssignment asked) =>
    if asked = code then
      match applyProxyAssignment env t.server.catalog d.store.users d.panel.links chatId code with
      | (.error message, _) => (d.forget chatId, .adminPanel ("❗️ " ++ message))
      | (.ok result, links) => ((putLinks t d links).forget chatId, .assigned result)
    else (d, .alert "تایید منقضی شده است")
  | _ => (d, .alert "تایید منقضی شده است")

/-- The type of a discount as its button names it. -/
def DiscountType.named : String → Option DiscountType
  | "percent" => some .percent
  | "fixed" => some .fixed
  | _ => none

/-- The choice of the type of a new discount. -/
def chooseType (d : Desk) (chatId : ℤ) (type : String) : Desk × List Screen :=
  match d.pending.get? chatId with
  | some (.dialogue (.promoType code)) =>
    match DiscountType.named type with
    | none => (d, [])
    | some .percent =>
      (d.await chatId (.dialogue (.promoValue code .percent)),
        [.note "درصد تخفیف (۱ تا ۱۰۰) را بفرست:"])
    | some .fixed =>
      (d.await chatId (.dialogue (.promoValue code .fixed)),
        [.note "مبلغ ثابت تخفیف به تومان را بفرست:"])
  | _ => (d, [.alert "عملیات منقضی شده"])

/-- `max(0, int(page or 0))`. -/
def pageOf (rt : Runtime) (page : String) : Option ℕ :=
  if page = "" then some 0 else (parseInt rt page).map Int.toNat

/-- The part of `_handle_callback` after the guard. -/
def handleAdminTap (t : Turn) (d : Desk) (chatId : ℤ) : AdminTap → Desk × List Reply
  | .admin => (d, [⟨chatId, .adminPanel "🛠 <b>پنل مدیریت فروش</b>"⟩])
  | .assign =>
    match assignmentTargets t.server.catalog with
    | [] => (d, [⟨chatId, .adminPanel "موقعیت قابل تخصیصی در حال حاضر وجود ندارد."⟩])
    | targets => (d, [⟨chatId, .targets targets⟩])
  | .asgn code =>
    let code := t.rt.upper code
    match (assignmentTargets t.server.catalog).find? fun target => target.code = code with
    | none => (d, [⟨chatId, .alert "موقعیت نامعتبر است"⟩])
    | some target =>
      (d.await chatId (.proxyAssignment code), [⟨chatId, .confirmAssignment target
        (eligibleAssignmentLinks t.rt d.store.users d.panel.links)⟩])
  | .asgncancel => (d.forget chatId, [⟨chatId, .adminPanel "تخصیص لغو شد."⟩])
  | .asgnok code =>
    let r := confirmAssignment env t d chatId (t.rt.upper code)
    (r.1, [⟨chatId, r.2⟩])
  | .ap page =>
    match pageOf t.rt page with
    | none => (d, [⟨chatId, .alert "صفحه نامعتبر است"⟩])
    | some page => (d, [⟨chatId, .pendingOrders page (pendingOrders d)⟩])
  | .aord oid =>
    match d.store.orders.get? oid with
    | none => (d, [⟨chatId, .alert "سفارش پیدا نشد"⟩])
    | some order => (d, [⟨chatId, .review order (orderUser d order)⟩])
  | .areceipt oid =>
    (d, ((d.store.orders.get? oid).map fun order =>
      Reply.mk chatId (.receipt order (orderUser d order))).toList)
  | .aok oid => approveOrder env t d chatId oid
  | .ano oid => rejectOrder t d chatId oid
  | .agift =>
    (d.await chatId (.dialogue .giftCode), [⟨chatId, .note
      "🎁 کد هدیه جدید را بفرست؛ مثال: <code>WELCOME50</code>\nبرای لغو /cancel را ارسال کن."⟩])
  | .apromo =>
    (d.await chatId (.dialogue .promoCode), [⟨chatId, .note
      "🏷 کد تخفیف جدید را بفرست؛ مثال: <code>OFF20</code>\nبرای لغو /cancel را ارسال کن."⟩])
  | .ptype type =>
    let r := chooseType d chatId type
    (r.1, r.2.map (Reply.mk chatId))
  | .acard =>
    (d.await chatId .cardNumber, [⟨chatId, .note
      "💳 شماره کارت ۱۶ رقمی را بدون فاصله بفرست؛ برای لغو /cancel را ارسال کن."⟩])
  | .aplans => (d, [⟨chatId, .plans (offeredPlans none true)⟩])
  | .astats =>
    (d, [⟨chatId, .stats d.store.users.keys.length d.store.orders.values
      (d.panel.links.values.countP fun link => (link.get "store_managed").truthy)⟩])

/-! ## The handlers -/

/-- The press of a button. -/
structure Callback where
  chatId : ℤ
  fromId : ℤ
  username : String
  firstName : String
  isPrivate : Bool
  data : String

/-- The part of `_handle_callback` after the checks of the update itself. -/
def dispatch (t : Turn) (d : Desk) (chatId : ℤ) (data : String) : Desk × List Reply :=
  match firstOf customerWords data with
  | some tap =>
    let r := handleTap env t d chatId tap
    (r.1, r.2.map (Reply.mk chatId))
  | none =>
    if guarded data && !env.adminIds.contains chatId then
      (d, [⟨chatId, .alert "دسترسی ادمین لازم است"⟩])
    else
      match firstOf adminWords data with
      | some tap => handleAdminTap env t d chatId tap
      | none => (d, [⟨chatId, .menu (d.user chatId)⟩])

/-- What `_ensure_user` does to the desk. -/
def meet (t : Turn) (d : Desk) (chatId : ℤ) (username firstName : String) : Desk :=
  d.put (ensureUserLocked t.rt t.now d.store chatId username firstName).1

/-- `_handle_callback`. -/
def handleCallback (t : Turn) (d : Desk) (cb : Callback) : Desk × List Reply :=
  if !cb.isPrivate then (d, [⟨cb.chatId, .alert "این عمل فقط در چت خصوصی در دسترس است"⟩])
  else if cb.fromId ≠ cb.chatId then (d, [⟨cb.chatId, .alert "این دکمه برای حساب دیگری است"⟩])
  else if cb.data = "" ∨ 64 < cb.data.utf8ByteSize then
    (d, [⟨cb.chatId, .alert "درخواست نامعتبر است"⟩])
  else dispatch env t (meet t d cb.chatId cb.username cb.firstName) cb.chatId cb.data

/-- What a message carries besides its text. -/
inductive Attachment
  | photo (fileId fileUniqueId : String)
  | document (mimeType fileId fileUniqueId : String)

/-- The receipt that an attachment is: a photo, or a document of a type that is accepted. -/
def Attachment.receipt : Attachment → Option Receipt
  | .photo fileId fileUniqueId => some ⟨"photo", fileId, fileUniqueId, none⟩
  | .document mimeType fileId fileUniqueId =>
    if startsWith "image/" mimeType ∨ mimeType = "application/pdf" then
      some ⟨"document", fileId, fileUniqueId, some mimeType⟩
    else none

/-- The order that the pending action of a chat waits for the receipt of. -/
def awaited (d : Desk) (chatId : ℤ) : Option String :=
  match d.pending.get? chatId with
  | some (.receipt oid) => some oid.1
  | _ => none

/-- `_handle_receipt_message`, of a message with a receipt. -/
def handleReceipt (t : Turn) (d : Desk) (chatId : ℤ) (receipt : Receipt) : Desk × List Reply :=
  match submitReceiptLocked t.rt t.now d.store chatId receipt (awaited d chatId) with
  | (st, .error message) => (d.put st, [⟨chatId, .note ("❗️ " ++ message)⟩])
  | (st, .ok _) =>
    match (receiptOrder d.store chatId (awaited d chatId)).bind fun e => st.orders.get? e.1 with
    | none => ((d.put st).forget chatId, [])
    | some order =>
      ((d.put st).forget chatId, ⟨chatId, .aboutOrder order ("✅ رسید سفارش <code>" ++
          order.id ++ "</code> دریافت شد. پس از بررسی ادمین نتیجه برایت ارسال می‌شود.")⟩ ::
        env.adminIds.map fun adminId => ⟨adminId, .receipt order (orderUser (d.put st) order)⟩)

end Bot
