import LumenRelay.Bot.Callbacks
import LumenRelay.State.Requests

/-!
# The desk as a machine

Text messages, receipts and buttons of any chats come in any order, and operations of the panel
come between them.  A text message changes the desk as `LumenRelay.Bot.Cancel` has it; here is also
what is sent back.
-/

namespace Bot

open Lib Py Routing

variable (env : Env)

/-! ## The answers to text messages -/

/-- What an admin is asked at a stage of a dialogue. -/
def Dialogue.question : Dialogue → String
  | .giftCode => "🎁 کد هدیه جدید را بفرست؛ مثال: <code>WELCOME50</code>\nبرای لغو /cancel را ارسال کن."
  | .giftAmount _ => "مبلغ شارژ کیف پول را به تومان بفرست؛ مثلاً <code>50000</code>:"
  | .giftUses _ _ | .promoUses _ _ _ => "حداکثر تعداد استفاده را بفرست:"
  | .giftDays _ _ _ | .promoDays _ _ _ _ => "اعتبار کد چند روز باشد؟ عدد ۰ یعنی بدون انقضا:"
  | .promoCode => "🏷 کد تخفیف جدید را بفرست؛ مثال: <code>OFF20</code>\nبرای لغو /cancel را ارسال کن."
  | .promoType _ => "نوع تخفیف را انتخاب کن:"
  | .promoValue _ .percent => "درصد تخفیف (۱ تا ۱۰۰) را بفرست:"
  | .promoValue _ .fixed => "مبلغ ثابت تخفیف به تومان را بفرست:"

/-- What an admin is told when an answer cannot be taken; the type of a discount has a button, and a
message at that stage is passed over. -/
def Dialogue.complaint : Dialogue → Option String
  | .giftCode | .promoCode => some "کد باید ۳ تا ۳۲ کاراکتر انگلیسی/عدد و یکتا باشد. دوباره بفرست:"
  | .giftAmount _ => some "مبلغ نامعتبر است. عددی بین ۱٬۰۰۰ تا ۲۰٬۰۰۰٬۰۰۰ بفرست:"
  | .giftUses _ _ | .promoUses _ _ _ => some "تعداد استفاده نامعتبر است. دوباره بفرست:"
  | .giftDays _ _ _ | .promoDays _ _ _ _ => some "روز اعتبار نامعتبر است. دوباره بفرست:"
  | .promoType _ => none
  | .promoValue _ _ => some "مقدار تخفیف نامعتبر است. دوباره بفرست:"

/-- The reply to a code that cannot be used. -/
def retry (message : String) : Screen :=
  .note ("❗️ " ++ message ++ "\nکد دیگری بفرست یا /cancel را ارسال کن.")

/-- An order and its customer. -/
def orderScreen (st : Store) (oid : String) (chatId : ℤ) : List Screen :=
  ((st.orders.get? oid).map fun order =>
    Screen.order order (st.users.get? (userKey chatId))).toList

/-- What is sent for a message that a pending action takes, in the store as it was before. -/
def valueScreens (t : Turn) (st : Store) (chatId : ℤ) (text : String) : Pending → List Screen
  | .discount orderId =>
    match normalizeCode t.rt text with
    | none => [retry "فرمت کد تخفیف معتبر نیست."]
    | some code =>
      match applyDiscountLocked t.rt t.now st orderId chatId code with
      | (_, .error message) => [retry message]
      | (st, .ok _) => orderScreen st orderId chatId
  | .giftRedeem =>
    match normalizeCode t.rt text with
    | none => [retry "فرمت کد هدیه معتبر نیست."]
    | some code =>
      match redeemGiftLocked t.rt t.now st chatId code with
      | (_, .error message) => [retry message]
      | (st, .ok amount) => [.redeemed amount (st.users.get? (userKey chatId))]
  | .topupAmount =>
    match parseIntText t.rt text 20000 20000000 with
    | none =>
      [.note "مبلغی بین 20,000 تومان تا 20,000,000 تومان بفرست یا /cancel را ارسال کن."]
    | some amount =>
      match createOrderLocked t.rt t.now st t.oid chatId .wallet none none (some amount.1) with
      | none => []
      | some (st, _) =>
        match startCardLocked t.rt t.now env (expireStaleLocked t.rt t.now env st).1 t.oid chatId with
        | (_, .error message) => [.note ("❗️ " ++ message)]
        | (st, .ok _) => ((st.orders.get? t.oid).map fun order => Screen.card order st.settings).toList
  | .cardNumber =>
    if env.adminIds.contains chatId then
      let digits := keepChars (fun ch => t.rt.digitValue ch ≠ none)
        (String.ofList (text.toList.map faDigit))
      if digits.length ≠ 16 then
        [.note "شماره کارت باید دقیقاً ۱۶ رقم باشد. دوباره بفرست یا /cancel را ارسال کن."]
      else [.note "نام صاحب کارت را بفرست:"]
    else []
  | .cardHolder _ =>
    if env.adminIds.contains chatId then
      if (sliceTo 80 (strip text)).length < 3 then [.note "نام صاحب کارت معتبر نیست. دوباره بفرست:"]
      else [.adminPanel "✅ اطلاعات کارت ذخیره شد."]
    else []
  | .receipt _ | .proxyAssignment _ | .dialogue _ => []

/-- What `_handle_pending_text` sends. -/
def pendingScreens (t : Turn) (st : Store) (chatId : ℤ) (text : String) : Pending → List Screen
  | .dialogue dialogue =>
    match handlePendingText t.rt t.now st chatId text dialogue with
    | .again => (dialogue.complaint.map Screen.note).toList
    | .next dialogue => [.note dialogue.question]
    | .finish action => [.created action]
  | p =>
    if text = "لغو" ∨ text = "/cancel" then [.note "عملیات لغو شد."]
    else valueScreens env t st chatId text p

/-- What `_handle_message` sends for a text message of a known user. -/
def textScreens (t : Turn) (d : Desk) (chatId : ℤ) (text : String) : List Screen :=
  if text = "/start" ∨ text = "/menu" then [.menu (d.user chatId)]
  else if text = "/admin" ∧ env.adminIds.contains chatId then
    [.adminPanel "🛠 <b>پنل مدیریت فروش</b>"]
  else if text.toList.head? = some '/' then [.note "دستور شناخته نشد. از منوی زیر استفاده کن."]
  else
    match d.pending.get? chatId with
    | none => [.menu (d.user chatId)]
    | some p =>
      if text ≠ "" then pendingScreens env t d.store chatId text p
      else
        match p with
        | .receipt _ => [.note "لطفاً تصویر یا فایل PDF رسید را ارسال کن؛ برای لغو /cancel را بفرست."]
        | _ => [.menu (d.user chatId)]

/-- `_handle_message` on a text message in a private chat. -/
def handleText (t : Turn) (d : Desk) (msg : Message) : Desk × List Reply :=
  (d.putChat msg.chatId ((d.chat msg.chatId).handleMessage t.rt env t.now msg t.oid).1,
    (textScreens env t (meet t d msg.chatId msg.username msg.firstName) msg.chatId
      (strip msg.text)).map (Reply.mk msg.chatId))

/-- `_handle_message` on a message with an attachment; one that is no receipt leaves an empty text. -/
def handleAttachment (t : Turn) (d : Desk) (chatId : ℤ) (username firstName : String)
    (a : Attachment) : Desk × List Reply :=
  match a.receipt with
  | some receipt => handleReceipt env t (meet t d chatId username firstName) chatId receipt
  | none => handleText env t d ⟨chatId, username, firstName, ""⟩

/-! ## The machine -/

/-- An update. -/
inductive Update
  | text (msg : Message)
  | attachment (chatId : ℤ) (username firstName : String) (a : Attachment)
  | callback (cb : Callback)

/-- The chat that an update comes from. -/
def Update.chatId : Update → ℤ
  | .text msg => msg.chatId
  | .attachment chatId _ _ _ => chatId
  | .callback cb => cb.chatId

/-- The part of `_poll_loop` that handles an update. -/
def handleUpdate (t : Turn) (d : Desk) : Update → Desk × List Reply
  | .text msg => handleText env t d msg
  | .attachment chatId username firstName a => handleAttachment env t d chatId username firstName a
  | .callback cb => handleCallback env t d cb

/-- The steps of the desk. -/
inductive DeskLabel
  | update (t : Turn) (u : Update)
  | panel (server : Server) (op : State.Op)

/-- A step of the desk. -/
def deskStep (d : Desk) : DeskLabel → Option (Desk × List Reply)
  | .update t u => if t.fresh d then some (handleUpdate env t d u) else none
  | .panel server op =>
    some ({ d with shop := { d.shop with world := (op.run server d.shop.world).2 } }, [])

variable {env} in
/-- An update is handled when what will be drawn is new. -/
lemma deskStep_update {t : Turn} {d : Desk} (hfresh : t.fresh d = true) (u : Update) :
    deskStep env d (.update t u) = some (handleUpdate env t d u) :=
  if_pos hfresh

variable {env} in
/-- A step of the desk handles an update, or it is an operation of the panel. -/
lemma deskStep_cases {d d' : Desk} {l : DeskLabel} {es : List Reply}
    (hstep : deskStep env d l = some (d', es)) :
    (∃ t u, l = .update t u ∧ t.fresh d = true ∧ d' = (handleUpdate env t d u).1 ∧
      es = (handleUpdate env t d u).2) ∨
    ∃ server op, l = .panel server op ∧
      d' = { d with shop := { d.shop with world := (op.run server d.shop.world).2 } } ∧ es = [] := by
  cases l with
  | update t u =>
    obtain ⟨hfresh, hstep⟩ := Option.ite_none_right_eq_some.mp hstep
    have heq := Option.some.inj hstep
    exact .inl ⟨t, u, rfl, hfresh, by rw [heq], by rw [heq]⟩
  | panel server op =>
    obtain ⟨rfl, rfl⟩ := Prod.mk.inj (Option.some.inj hstep)
    exact .inr ⟨server, op, rfl, rfl, rfl⟩

/-- The desk as a machine; what it emits is what the chats are sent. -/
def desk : Machine Desk DeskLabel Reply := ⟨deskStep env⟩

variable {env} in
/-- The run of one update, of a kind that is allowed. -/
lemma run_update {P : Desk → DeskLabel → Prop} [∀ d l, Decidable (P d l)] {t : Turn} {d : Desk}
    {u : Update} (hP : P d (.update t u)) (hfresh : t.fresh d = true) :
    ((desk env).restrict P).Run d ([d] ++ [(handleUpdate env t d u).1])
      (handleUpdate env t d u).2 (handleUpdate env t d u).1 :=
  .next .start (Machine.restrict_step.mpr ⟨hP, deskStep_update hfresh u⟩)

/-- A desk of a bot that has just started. -/
def Desk.opened (shop : Provision.Shop) : Desk := ⟨shop, .empty⟩

/-- Whether a step is an update of one of some chats, or an operation of the panel. -/
def ofTeam (team : List ℤ) : DeskLabel → Prop
  | .update _ u => u.chatId ∈ team
  | .panel _ _ => True

/-- Whether a step is an update of one of some chats. -/
def ofTeamOnly (team : List ℤ) : DeskLabel → Prop
  | .update _ u => u.chatId ∈ team
  | .panel _ _ => False

/-- Whether the runtime that a step is handled by is one of some runtimes. -/
def runsOn (runtimes : Set Runtime) : DeskLabel → Prop
  | .update t _ => t.rt ∈ runtimes
  | .panel _ _ => True

instance (team : List ℤ) (l : DeskLabel) : Decidable (ofTeam team l) :=
  match l with
  | .update _ u => inferInstanceAs (Decidable (u.chatId ∈ team))
  | .panel _ _ => inferInstanceAs (Decidable True)

instance (team : List ℤ) (l : DeskLabel) : Decidable (ofTeamOnly team l) :=
  match l with
  | .update _ u => inferInstanceAs (Decidable (u.chatId ∈ team))
  | .panel _ _ => inferInstanceAs (Decidable False)

instance (runtimes : Set Runtime) [DecidablePred (· ∈ runtimes)] (l : DeskLabel) :
    Decidable (runsOn runtimes l) :=
  match l with
  | .update t _ => inferInstanceAs (Decidable (t.rt ∈ runtimes))
  | .panel _ _ => inferInstanceAs (Decidable True)

end Bot
