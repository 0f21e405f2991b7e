import LumenRelay.Bot.Effects
import LumenRelay.Lib.Machine

/-!
# The store as a machine

Handlers of the bot run concurrently and give way at every `await`.  A step of the machine is
what one handler does between two suspension points: a critical section, taking one of the
locks, or a step of a save.  The provisioning lock is a slot for the one handler that is
inside it; the save lock is a slot for the one handler that is writing the file, with the copy
of the store that it writes.  What provisioning does outside the store is left open: it may
record a group for the customer, any number of times, and it returns or raises.
-/

namespace Bot

open Lib Py

/-- One call of an operation of the store. -/
inductive Action
  | ensureUser (userId : ℤ) (username firstName : String)
  | createGift (chatId : ℤ) (code : String) (amount maxUses : ℤ) (expiresAt : Option String)
  | createDiscount (chatId : ℤ) (code : String) (type : DiscountType) (value maxUses : ℤ)
      (expiresAt : Option String)
  | setCard (cardNumber cardHolder : String)
  | createOrder (oid : String) (userId : ℤ) (kind : Kind) (plan : Option Plan)
      (serviceId : Option String) (amount : Option ℤ)
  | applyDiscount (oid : String) (userId : ℤ) (text : String)
  | cancelOrder (oid : String) (userId : ℤ)
  | cancelWaitingOrder (oid : String) (userId : ℤ)
  | expireStaleOrders
  | startCardPayment (oid : String) (userId : ℤ)
  | submitReceipt (userId : ℤ) (receipt : Receipt) (oid : Option String)
  | rejectOrder (oid : String) (adminId : ℤ)
  | redeemGift (userId : ℤ) (text : String)
  | finishOrder (oid : String) (reviewerId : Option ℤ) (source : Source)

/-- Where a handler outside the provisioning lock is suspended. -/
inductive Pc
  /-- In `_save_store`, with nothing left to do after it. -/
  | saving
  /-- In the `_save_store` of the sweep that starts a card payment. -/
  | savingSweep (oid : String) (userId : ℤ)
  /-- Before the section of `_start_card_payment`. -/
  | startCard (oid : String) (userId : ℤ)
  /-- Waiting for the provisioning lock. -/
  | finishWait (oid : String) (reviewerId : Option ℤ) (source : Source)

/-- Where the handler inside the provisioning lock is suspended. -/
inductive Stage
  | begin (reviewerId : Option ℤ)
  /-- In the save after the charge. -/
  | savingCharge
  | deliver
  | provisioning
  /-- In the save of `_ensure_customer_sub`. -/
  | savingSub
  | approve (serviceId : Option String)
  | rollback (message : String)
  /-- In the last save, with the outcome to report. -/
  | savingOutcome (fulfilled : Bool)

/-- The handler inside the provisioning lock. -/
structure Holder where
  pid : ℕ
  oid : String
  source : Source
  stage : Stage

/-- The bot at a moment. -/
structure State where
  store : Store
  /-- The store that the file holds. -/
  saved : Option Store
  /-- The handler inside `_save_lock` and the copy it writes. -/
  writer : Option (ℕ × Store)
  tasks : Dict ℕ Pc
  holder : Option Holder

/-- What happens outside the store, or is reported to the user. -/
inductive Event
  /-- A gift code was redeemed for an amount. -/
  | redeemed (key : String) (amount : ℤ)
  /-- `_provision_new` or `_provision_renew` was called for an order. -/
  | provisioning (oid : String)
  /-- Provisioning returned a service. -/
  | provisioned (oid : String) (serviceId : String)
  /-- The wallet was credited for a top-up order. -/
  | credited (oid : String)
  /-- `_finish_order` returned the order without an error. -/
  | fulfilled (oid : String)
deriving DecidableEq

/-- The steps. -/
inductive Label
  | invoke (pid : ℕ) (now : ℤ) (action : Action)
  | enter (pid : ℕ)
  | run (pid : ℕ) (now : ℤ)
  | customerSub (pid : ℕ) (subId : String)
  | provisioned (pid : ℕ) (outcome : Except String String)
  | startSave (pid : ℕ)
  | endSave (pid : ℕ) (written : Bool)

variable (rt : Runtime) (env : Env)

/-- A handler that saves and returns if `changed`, and just returns otherwise. -/
def saveIf (changed : Bool) : Option Pc := if changed then some .saving else none

/-- Whether a section succeeded. -/
def succeeded {α : Type} : Except String α → Bool
  | .ok _ => true
  | .error _ => false

/-- The part of an operation before its first suspension: the store, where the handler is
suspended (`none` when it has returned) and the events. -/
def firstSection (now : ℤ) (st : Store) : Action → Option (Store × Option Pc × List Event)
  | .ensureUser userId username firstName =>
    let r := ensureUserLocked rt now st userId username firstName
    some (r.1, saveIf r.2, [])
  | .createGift chatId code amount maxUses expiresAt =>
    some (createGiftLocked rt now st chatId code amount maxUses expiresAt, some .saving, [])
  | .createDiscount chatId code type value maxUses expiresAt =>
    some (createDiscountLocked rt now st chatId code type value maxUses expiresAt, some .saving, [])
  | .setCard cardNumber cardHolder => some (setCardLocked st cardNumber cardHolder, some .saving, [])
  | .createOrder oid userId kind plan serviceId amount =>
    if st.orders.contains oid then none
    else
      match createOrderLocked rt now st oid userId kind plan serviceId amount with
      | none => some (st, none, [])
      | some (st', _) => some (st', some .saving, [])
  | .applyDiscount oid userId text =>
    match normalizeCode rt text with
    | none => some (st, none, [])
    | some code =>
      let r := applyDiscountLocked rt now st oid userId code
      some (r.1, saveIf (succeeded r.2), [])
  | .cancelOrder oid userId =>
    let r := cancelOrderLocked rt now st oid userId
    some (r.1, saveIf r.2, [])
  | .cancelWaitingOrder oid userId =>
    let r := cancelWaitingLocked rt now st oid userId
    some (r.1, saveIf r.2, [])
  | .expireStaleOrders =>
    let r := expireStaleLocked rt now env st
    some (r.1, saveIf r.2, [])
  | .startCardPayment oid userId =>
    let r := expireStaleLocked rt now env st
    some (r.1, some (if r.2 then .savingSweep oid userId else .startCard oid userId), [])
  | .submitReceipt userId receipt oid =>
    let r := submitReceiptLocked rt now st userId receipt oid
    some (r.1, saveIf (succeeded r.2), [])
  | .rejectOrder oid adminId =>
    let r := rejectOrderLocked rt now st oid adminId
    some (r.1, saveIf (succeeded r.2), [])
  | .redeemGift userId text =>
    match normalizeCode rt text with
    | none => some (st, none, [])
    | some code =>
      match redeemGiftLocked rt now st userId code with
      | (st', .ok amount) => some (st', some .saving, [.redeemed (userKey userId) amount])
      | (st', .error _) => some (st', none, [])
  | .finishOrder oid reviewerId source => some (st, some (.finishWait oid reviewerId source), [])

/-- The handler goes on outside the provisioning lock, or is gone. -/
def State.suspend (s : State) (pid : ℕ) : Option Pc → State
  | some pc => { s with tasks := s.tasks.set pid pc }
  | none => { s with tasks := s.tasks.erase pid }

/-- The handler inside the provisioning lock goes on to a stage. -/
def State.goTo (s : State) (h : Holder) (stage : Stage) : State :=
  { s with holder := some { h with stage := stage } }

/-- The next section of the handler inside the provisioning lock. -/
def runHolder (now : ℤ) (s : State) (h : Holder) : Option (State × List Event) :=
  match h.stage with
  | .begin reviewerId =>
    match finishBeginLocked rt now s.store h.oid reviewerId h.source with
    | (st, .started _) => some ({ s with store := st }.goTo h .savingCharge, [])
    | (st, _) => some ({ s with store := st, holder := none }, [])
  | .deliver =>
    match s.store.orders.get? h.oid with
    | none => none
    | some order =>
      match order.kind with
      | .wallet =>
        some ({ s with store := creditWalletLocked s.store order }.goTo h (.approve none),
          [.credited h.oid])
      | .new | .renew => some (s.goTo h .provisioning, [.provisioning h.oid])
      | .other _ => some (s.goTo h (.rollback "unknown order kind"), [])
  | .approve serviceId =>
    some ({ s with store := approveLocked rt now s.store h.oid serviceId }.goTo h
      (.savingOutcome true), [])
  | .rollback message =>
    some ({ s with store := rollbackLocked s.store h.oid h.source message }.goTo h
      (.savingOutcome false), [])
  | _ => none

/-- Whether a handler is in a save. -/
def State.isSaving (s : State) (pid : ℕ) : Bool :=
  match s.tasks.get? pid with
  | some .saving | some (.savingSweep _ _) => true
  | some _ => false
  | none =>
    match s.holder with
    | some h =>
      h.pid == pid &&
        match h.stage with
        | .savingCharge | .savingSub | .savingOutcome _ => true
        | _ => false
    | none => false

/-- What a handler does when its save has returned. -/
def afterSave (s : State) (pid : ℕ) : Option (State × List Event) :=
  match s.tasks.get? pid with
  | some .saving => some (s.suspend pid none, [])
  | some (.savingSweep oid userId) => some (s.suspend pid (some (.startCard oid userId)), [])
  | some _ => none
  | none =>
    match s.holder with
    | none => none
    | some h =>
      match h.stage with
      | .savingCharge => some (s.goTo h .deliver, [])
      | .savingSub => some (s.goTo h .provisioning, [])
      | .savingOutcome fulfilled =>
        some ({ s with holder := none }, if fulfilled then [.fulfilled h.oid] else [])
      | _ => none

/-- A step of the bot. -/
def step (s : State) : Label → Option (State × List Event)
  | .invoke pid now action =>
    if s.tasks.contains pid || s.holder.any fun h => h.pid == pid then none
    else
      match firstSection rt env now s.store action with
      | none => none
      | some (st, pc, events) => some ({ s with store := st }.suspend pid pc, events)
  | .enter pid =>
    match s.tasks.get? pid, s.holder with
    | some (.finishWait oid reviewerId source), none =>
      some ({ s.suspend pid none with holder := some ⟨pid, oid, source, .begin reviewerId⟩ }, [])
    | _, _ => none
  | .run pid now =>
    match s.tasks.get? pid with
    | some (.startCard oid userId) =>
      let r := startCardLocked rt now env s.store oid userId
      some ({ s with store := r.1 }.suspend pid (saveIf (succeeded r.2)), [])
    | some _ => none
    | none =>
      match s.holder with
      | some h => if h.pid = pid then runHolder rt now s h else none
      | none => none
  | .customerSub pid subId =>
    match s.holder with
    | some h =>
      match h.stage, s.store.orders.get? h.oid with
      | .provisioning, some order =>
        if h.pid = pid then
          some ({ s with store := setCustomerSubLocked s.store order.userId subId }.goTo h .savingSub,
            [])
        else none
      | _, _ => none
    | none => none
  | .provisioned pid outcome =>
    match s.holder with
    | some h =>
      match h.stage with
      | .provisioning =>
        if h.pid = pid then
          match outcome with
          | .ok serviceId =>
            some (s.goTo h (.approve (some serviceId)), [.provisioned h.oid serviceId])
          | .error message => some (s.goTo h (.rollback message), [])
        else none
      | _ => none
    | none => none
  | .startSave pid =>
    if s.isSaving pid && s.writer.isNone then some ({ s with writer := some (pid, s.store) }, [])
    else none
  | .endSave pid written =>
    match s.writer with
    | some (writerPid, snapshot) =>
      if writerPid = pid then
        afterSave
          { s with writer := none, saved := if written then some snapshot else s.saved } pid
      else none
    | none => none

/-- The bot as a machine. -/
def machine : Machine State Label Event := ⟨step rt env⟩

/-- A bot that has just loaded its store. -/
def State.fresh (st : Store) (saved : Option Store) : State := ⟨st, saved, none, .empty, none⟩

end Bot
