import LumenRelay.Bot.Wizard

/-!
# Cancelling a pending action

What the bot asked a chat for is its pending action.  The prompts promise that `/cancel` ends
it.  A text message passes two layers: `_handle_message` answers the commands, and
`_handle_pending_text` gives everything else to the pending action, where the words that cancel
are looked for after the dialogues of the admins have had the message.
-/

namespace Bot

open Lib Py

/-- What `_pending` keeps of a chat. -/
inductive Pending
  | discount (orderId : String)
  | giftRedeem
  | topupAmount
  /-- A receipt for an order; the ids of orders are not empty. -/
  | receipt (orderId : { oid : String // oid ≠ "" })
  | cardNumber
  | cardHolder (cardNumber : String)
  | proxyAssignment (code : String)
  | dialogue (d : Dialogue)

/-- The store and the pending action of a chat. -/
structure Chat where
  store : Store
  pending : Option Pending

/-- How a text message was taken. -/
inductive Taken
  /-- As a command that the bot knows. -/
  | command
  /-- As a command that it does not know. -/
  | unknownCommand
  /-- As the value that the pending action waits for, be it valid or not. -/
  | value
  | cancel
  /-- As nothing the bot waits for. -/
  | other
deriving DecidableEq

/-- A text message in a private chat. -/
structure Message where
  chatId : ℤ
  username : String
  firstName : String
  text : String

variable (rt : Runtime) (env : Env) (now : ℤ)

namespace Chat

/-- A message in a dialogue; the type of a discount is not chosen with a message. -/
def answerDialogue (c : Chat) (chatId : ℤ) (text : String) (d : Dialogue) : Chat × Taken :=
  match handlePendingText rt now c.store chatId text d with
  | .again =>
    match d with
    | .promoType _ => (c, .other)
    | _ => (c, .value)
  | .next d' => ({ c with pending := some (.dialogue d') }, .value)
  | .finish action =>
    match firstSection rt env now c.store action with
    | some (st, _, _) => (⟨st, none⟩, .value)
    | none => (c, .value)

/-- The branch of `_handle_pending_text` that cancels. -/
def cancelPending (c : Chat) (chatId : ℤ) : Pending → Chat
  | .receipt orderId => ⟨(cancelWaitingLocked rt now c.store orderId chatId).1, none⟩
  | _ => ⟨c.store, none⟩

/-- The branch of `_handle_pending_text` for the amount of a top-up; `oid` is the id that
`_new_order_id` draws. -/
def topup (c : Chat) (chatId : ℤ) (oid : { oid : String // oid ≠ "" }) (text : String) : Chat :=
  match parseIntText rt text 20000 20000000 with
  | none => c
  | some amount =>
    match createOrderLocked rt now c.store oid chatId .wallet none none (some amount.1) with
    | none => c
    | some (st, _) =>
      match startCardLocked rt now env (expireStaleLocked rt now env st).1 oid chatId with
      | (st, .error _) => ⟨st, none⟩
      | (st, .ok _) => ⟨st, some (.receipt oid)⟩

/-- The branches of `_handle_pending_text` that read the value they wait for. -/
def readValue (c : Chat) (chatId : ℤ) (oid : { oid : String // oid ≠ "" }) (text : String) :
    Pending → Chat × Taken
  | .discount orderId =>
    match normalizeCode rt text with
    | none => (c, .value)
    | some code =>
      match applyDiscountLocked rt now c.store orderId chatId code with
      | (_, .error _) => (c, .value)
      | (st, .ok _) => (⟨st, none⟩, .value)
  | .giftRedeem =>
    match normalizeCode rt text with
    | none => (c, .value)
    | some code =>
      match redeemGiftLocked rt now c.store chatId code with
      | (_, .error _) => (c, .value)
      | (st, .ok _) => (⟨st, none⟩, .value)
  | .topupAmount => (c.topup rt env now chatId oid text, .value)
  | .cardNumber =>
    if env.adminIds.contains chatId then
      let digits := keepChars (fun ch => rt.digitValue ch ≠ none)
        (String.ofList (text.toList.map faDigit))
      if digits.length ≠ 16 then (c, .value)
      else ({ c with pending := some (.cardHolder digits) }, .value)
    else (c, .other)
  | .cardHolder cardNumber =>
    if env.adminIds.contains chatId then
      let holder := sliceTo 80 (strip text)
      if holder.length < 3 then (c, .value)
      else (⟨setCardLocked c.store cardNumber holder, none⟩, .value)
    else (c, .other)
  | .receipt _ | .proxyAssignment _ | .dialogue _ => (c, .other)

/-- `_handle_pending_text`. -/
def handlePendingText (c : Chat) (chatId : ℤ) (oid : { oid : String // oid ≠ "" }) (text : String)
    (p : Pending) : Chat × Taken :=
  match p with
  | .dialogue d => c.answerDialogue rt env now chatId text d
  | p =>
    if text = "لغو" ∨ text = "/cancel" then (c.cancelPending rt now chatId p, .cancel)
    else c.readValue rt env now chatId oid text p

/-- `_handle_message` on a text message in a private chat; `oid` is the id of the order that it
may create. -/
def handleMessage (c : Chat) (msg : Message) (oid : { oid : String // oid ≠ "" }) : Chat × Taken :=
  let c : Chat :=
    { c with
      store := (ensureUserLocked rt now c.store msg.chatId msg.username msg.firstName).1 }
  let text := strip msg.text
  if text = "/start" ∨ text = "/menu" then (⟨c.store, none⟩, .command)
  else if text = "/admin" ∧ env.adminIds.contains msg.chatId then (⟨c.store, none⟩, .command)
  else if text.toList.head? = some '/' then (c, .unknownCommand)
  else
    match c.pending with
    | some p =>
      if text = "" then (c, .other) else c.handlePendingText rt env now msg.chatId oid text p
    | none => (c, .other)

end Chat

/-! ## What cancelling should do -/

/-- Whether an order holds a use of a code. -/
def Order.holdsCode (order : Order) : Bool := given order.discountCode && order.discountReserved

/-- An order gives back the use of a code that it holds, and nothing else. -/
structure Released (codes codes' : Dict String DiscountCode) (order : Order) : Prop where
  held : order.holdsCode = true → ∀ code e, order.discountCode = some code →
    codes.get? code = some e →
    codes'.get? code = some
      { e with
        uses := max 0 (e.uses - 1)
        usedBy := e.usedBy.erase (userKey order.userId)
        orders := e.orders.erase order.id }
  others : ∀ code, order.holdsCode = false ∨ order.discountCode ≠ some code →
    codes'.get? code = codes.get? code

/-- An order was cancelled: it has given back its use of a code, and it can not do so again. -/
structure CancelledOnce (st st' : Store) (oid : String) (order : Order) : Prop where
  status : ∃ order', st'.orders.get? oid = some order' ∧ order'.status = .cancelled ∧
    order'.holdsCode = false
  released : Released st.discountCodes st'.discountCodes order
  once : ∀ later, cancelWaitingLocked rt later st' oid order.userId = (st', false)

/-- A message ended the pending action of a chat: it was not taken for a value, and the order
whose receipt was waited for is cancelled. -/
structure EndedBy (c : Chat) (p : Pending) (chatId : ℤ) (r : Chat × Taken) : Prop where
  ended : r.1.pending = none
  notValue : r.2 ≠ .value
  order : ∀ orderId order, p = .receipt orderId → c.store.orders.get? orderId = some order →
    order.userId = chatId → order.status = .awaitingReceipt →
    CancelledOnce rt c.store r.1.store orderId order

/-! ## What it does -/

section Cancelling

variable {rt env now}

/-- Releasing gives back what an order holds. -/
lemma releaseDiscountLocked_released (codes : Dict String DiscountCode) (order : Order) :
    Released codes (releaseDiscountLocked codes order).1 order := by
  cases hholds : order.holdsCode with
  | false =>
    have hsame : (releaseDiscountLocked codes order).1 = codes := by
      rw [releaseDiscountLocked, if_pos]
      simpa [Order.holdsCode, ← Bool.not_and] using hholds
    rw [hsame]
    exact ⟨fun h => absurd (hholds.symm.trans h) (by decide), fun _ _ => rfl⟩
  | true =>
    have hheld : given order.discountCode = true ∧ order.discountReserved = true := by
      simpa [Order.holdsCode] using hholds
    have hcode : ∃ code, order.discountCode = some code := by
      cases hc : order.discountCode with
      | none => simp [hc, given] at hheld
      | some code => exact ⟨code, rfl⟩
    obtain ⟨code, hcode⟩ := hcode
    have hmodify : (releaseDiscountLocked codes order).1 = codes.modify code fun e =>
        { e with
          uses := max 0 (e.uses - 1)
          usedBy := e.usedBy.erase (userKey order.userId)
          orders := e.orders.erase order.id } := by
      rw [releaseDiscountLocked, if_neg (by simp [hheld]), hcode]
      rfl
    rw [hmodify]
    refine ⟨fun _ code' e hcode' he => ?_, fun code' hother => ?_⟩
    · obtain rfl : code = code' := Option.some.inj (hcode.symm.trans hcode')
      rw [Dict.get?_modify, if_pos rfl, he]
      rfl
    · have hne : code' ≠ code := by
        rintro rfl
        rcases hother with h | h
        · rw [hholds] at h
          cases h
        · exact h hcode
      rw [Dict.get?_modify, if_neg hne]

lemma releaseDiscountLocked_holds (codes : Dict String DiscountCode) (order : Order) :
    (releaseDiscountLocked codes order).2.holdsCode = false := by
  unfold releaseDiscountLocked
  split_ifs with h
  · simpa [Order.holdsCode, ← Bool.not_and] using h
  · simp [Order.holdsCode]

/-- Cancelling an order that waits for its receipt. -/
lemma cancelWaitingLocked_cancelled (rt : Runtime) (now : ℤ) {st : Store} {oid : String} {order : Order}
    (ho : st.orders.get? oid = some order) (hs : order.status = .awaitingReceipt) :
    CancelledOnce rt st (cancelWaitingLocked rt now st oid order.userId).1 oid order := by
  have hafter : (cancelWaitingLocked rt now st oid order.userId).1 =
      { st with
        discountCodes := (releaseDiscountLocked st.discountCodes order).1
        orders := st.orders.set oid
          { (releaseDiscountLocked st.discountCodes order).2 with
            status := .cancelled, cancelledAt := some (iso rt now) } } := by
    simp [cancelWaitingLocked, ho, hs]
  have hget : (cancelWaitingLocked rt now st oid order.userId).1.orders.get? oid = some
      { (releaseDiscountLocked st.discountCodes order).2 with
        status := .cancelled, cancelledAt := some (iso rt now) } := by
    rw [hafter]
    exact Dict.get?_set_self _ _ _
  refine ⟨⟨_, hget, rfl, releaseDiscountLocked_holds st.discountCodes order⟩, ?_, fun later => ?_⟩
  · rw [hafter]
    exact releaseDiscountLocked_released st.discountCodes order
  · rw [cancelWaitingLocked, hget]
    simp

lemma ensureUserLocked_same (rt : Runtime) (now : ℤ) (st : Store) (userId : ℤ) (username firstName : String) :
    (ensureUserLocked rt now st userId username firstName).1.orders = st.orders ∧
      (ensureUserLocked rt now st userId username firstName).1.discountCodes =
        st.discountCodes := by
  cases hu : st.users.get? (userKey userId) <;> simp [ensureUserLocked, hu]

namespace Chat

variable {c : Chat} {p : Pending}

/-- Any message that starts with a slash and is no known command leaves the pending action. -/
lemma handleMessage_slash {msg : Message} {oid : { oid : String // oid ≠ "" }}
    (hslash : (strip msg.text).toList.head? = some '/') (hstart : strip msg.text ≠ "/start")
    (hmenu : strip msg.text ≠ "/menu") (hadmin : strip msg.text ≠ "/admin") :
    c.handleMessage rt env now msg oid =
      ({ c with
        store := (ensureUserLocked rt now c.store msg.chatId msg.username msg.firstName).1 },
        .unknownCommand) := by
  simp only [handleMessage]
  rw [if_neg (by simp [hstart, hmenu]), if_neg (by simp [hadmin]), if_pos hslash]

/-- Any other message is for the pending action. -/
lemma handleMessage_pending {msg : Message} {oid : { oid : String // oid ≠ "" }}
    (hp : c.pending = some p) (hslash : (strip msg.text).toList.head? ≠ some '/')
    (hne : strip msg.text ≠ "") :
    c.handleMessage rt env now msg oid =
      handlePendingText rt env now
        { c with
          store := (ensureUserLocked rt now c.store msg.chatId msg.username msg.firstName).1 }
        msg.chatId oid (strip msg.text) p := by
  have hcommand : ∀ s : String, s.toList.head? = some '/' → strip msg.text ≠ s := by
    rintro s hs rfl
    exact hslash hs
  simp only [handleMessage]
  rw [if_neg (by simp [hcommand "/start" rfl, hcommand "/menu" rfl]),
    if_neg (by simp [hcommand "/admin" rfl]), if_neg hslash, hp]
  simp only
  rw [if_neg hne]

/-- A dialogue ends only by taking a message as its last value. -/
lemma answerDialogue_ended {chatId : ℤ} {text : String} {d : Dialogue}
    (hp : c.pending = some p)
    (h : (c.answerDialogue rt env now chatId text d).1.pending = none) :
    (c.answerDialogue rt env now chatId text d).2 = .value := by
  unfold answerDialogue at h ⊢
  split at h
  · split at h <;> simp [hp] at h
  · simp at h
  · split at h
    · rfl
    · rfl

/-- The words for cancelling, once a message has reached a pending action of another kind. -/
lemma handlePendingText_cancel {chatId : ℤ} {oid : { oid : String // oid ≠ "" }} {text : String}
    (hp : ∀ d, p ≠ .dialogue d) (hword : text = "لغو" ∨ text = "/cancel") :
    c.handlePendingText rt env now chatId oid text p = (c.cancelPending rt now chatId p, .cancel) := by
  unfold handlePendingText
  cases p with
  | dialogue d => exact absurd rfl (hp d)
  | _ => simp only [if_pos hword]

lemma cancelPending_pending (c : Chat) (chatId : ℤ) (p : Pending) :
    (c.cancelPending rt now chatId p).pending = none := by
  cases p <;> rfl

end Chat

/-- **Cancelling.**  A message that is a word for cancelling ends the pending action of its chat
exactly when it is the Persian word and the action is no dialogue of an admin: `/cancel` is
answered as an unknown command, and a dialogue takes every text for its value. -/
theorem cancel_ends_pending (c : Chat) (p : Pending) (msg : Message)
    (oid : { oid : String // oid ≠ "" }) (hp : c.pending = some p)
    (hword : strip msg.text = "/cancel" ∨ strip msg.text = "لغو") :
    EndedBy rt c p msg.chatId (c.handleMessage rt env now msg oid) ↔
      strip msg.text = "لغو" ∧ ∀ d, p ≠ .dialogue d := by
  rcases hword with hword | hword
  · -- the command is unknown, whatever the action is
    have hslash : (strip msg.text).toList.head? = some '/' := by rw [hword]; rfl
    rw [Chat.handleMessage_slash hslash (by rw [hword]; decide) (by rw [hword]; decide)
      (by rw [hword]; decide), hword]
    refine ⟨fun h => ?_, fun h => absurd h.1 (by decide)⟩
    have hnone : c.pending = none := h.ended
    rw [hp] at hnone
    cases hnone
  · have hslash : (strip msg.text).toList.head? ≠ some '/' := by rw [hword]; decide
    rw [Chat.handleMessage_pending hp hslash (by rw [hword]; decide), hword]
    obtain ⟨horders, hcodes⟩ :=
      ensureUserLocked_same rt now c.store msg.chatId msg.username msg.firstName
    constructor
    · rintro h
      refine ⟨rfl, ?_⟩
      rintro d rfl
      exact h.notValue (Chat.answerDialogue_ended hp h.ended)
    · rintro ⟨-, hp'⟩
      rw [Chat.handlePendingText_cancel hp' (.inl rfl)]
      refine ⟨Chat.cancelPending_pending _ _ p, ?_, ?_⟩
      · show Taken.cancel ≠ .value
        decide
      rintro orderId order rfl ho huser hs
      rw [← horders] at ho
      obtain ⟨hstatus, hreleased, honce⟩ := cancelWaitingLocked_cancelled rt now ho hs
      rw [huser] at hstatus hreleased honce
      exact ⟨hstatus, hcodes ▸ hreleased, huser ▸ honce⟩

end Cancelling

/-! ## An order that stays behind -/

/-- A customer has started to pay an order with a code by card. -/
def awaitingStore : Store :=
  let st := setCardLocked (defaultStore exampleEnv) "6037" "Owner"
  let st := createDiscountLocked .ascii 0 st 9 "OFF20" .percent 20 5 none
  let st := ((createOrderLocked .ascii 0 st "O1" 7 .new none none (some 1000)).map Prod.fst).getD st
  let st := (applyDiscountLocked .ascii 0 st "O1" 7 "OFF20").1
  (startCardLocked .ascii 0 exampleEnv st "O1" 7).1

/-- The bot waits for the receipt of the customer. -/
def awaitingChat : Chat := ⟨awaitingStore, some (.receipt ⟨"O1", by decide⟩)⟩

/-- The bot waits for the name of a gift code from an admin. -/
def giftChat : Chat := ⟨awaitingStore, some (.dialogue .giftCode)⟩

/-- A text of a chat. -/
def send (c : Chat) (chatId : ℤ) (text : String) : Chat × Taken :=
  c.handleMessage .ascii exampleEnv 0 ⟨chatId, "u", "U", text⟩ ⟨"O2", by decide⟩

theorem cancel_ends_pending_receipt :
    awaitingChat.pending = some (.receipt ⟨"O1", by decide⟩) ∧
      EndedBy .ascii awaitingChat (.receipt ⟨"O1", by decide⟩) 7 (send awaitingChat 7 " لغو ") := by
  refine ⟨rfl, (cancel_ends_pending awaitingChat _ ⟨7, "u", "U", " لغو "⟩ ⟨"O2", by decide⟩ rfl
    (.inr (by decide +kernel))).mpr ⟨by decide +kernel, fun d h => by cases h⟩⟩

/-- `/cancel` leaves the order waiting with its code in use, and an admin who sends the Persian
word for the name of a gift code is asked for the name again. -/
theorem cancel_not_taken :
    (¬ EndedBy .ascii awaitingChat (.receipt ⟨"O1", by decide⟩) 7 (send awaitingChat 7 "/cancel") ∧
      (send awaitingChat 7 "/cancel").2 = .unknownCommand ∧
      ((send awaitingChat 7 "/cancel").1.store.orders.get? "O1").any (fun order =>
        order.status = .awaitingReceipt ∧ order.discountReserved) = true ∧
      ((send awaitingChat 7 "/cancel").1.store.discountCodes.get? "OFF20").map
        DiscountCode.uses = some 1) ∧
    (send giftChat 9 "لغو").2 = .value ∧
      (send giftChat 9 "لغو").1.pending = some (.dialogue .giftCode) := by
  refine ⟨⟨fun h => ?_, by decide +kernel, by decide +kernel, by decide +kernel⟩,
    by decide +kernel, rfl⟩
  have hkept : (send awaitingChat 7 "/cancel").1.pending = awaitingChat.pending := rfl
  rw [h.ended] at hkept
  cases hkept

end Bot
