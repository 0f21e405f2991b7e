import LumenRelay.Py.Runtime

/-!
# The records of the sales bot

The bot keeps one store in memory, `STORE`, and writes copies of it to one file.  The
collections are keyed by the text of a Telegram id, by order ids and by codes.  Instants are
kept as the ISO texts the bot writes.
-/

namespace Bot

open Lib Py

/-- A plan, as an order keeps a copy of it. -/
structure Plan where
  id : String
  name : String
  quotaBytes : ℤ
  quotaLabel : String
  days : ℤ
  price : ℤ
  trial : Bool
  active : Bool
deriving DecidableEq, Repr

/-- The status of an order. -/
inductive Status
  | draft
  | awaitingReceipt
  | pendingAdmin
  | processing
  | approved
  | cancelled
  | expired
  | rejected
deriving DecidableEq, Repr

/-- How an order is paid. -/
inductive Method
  | card
  | wallet
  | free
deriving DecidableEq, Repr

/-- What an order is for; the bot knows three kinds. -/
inductive Kind
  | new
  | renew
  | wallet
  | other (name : String)
deriving DecidableEq, Repr

/-- A photo or a document sent as proof of a card payment. -/
structure Receipt where
  type : String
  fileId : String
  fileUniqueId : String
  mimeType : Option String
deriving DecidableEq, Repr

/-- An order. -/
structure Order where
  id : String
  userId : ℤ
  kind : Kind
  planId : Option String
  plan : Option Plan
  serviceId : Option String
  baseAmount : ℤ
  discountAmount : ℤ
  discountCode : Option String
  discountReserved : Bool
  amount : ℤ
  paymentMethod : Option Method
  status : Status
  createdAt : String
  cancelledAt : Option String
  paymentStartedAt : Option String
  receipt : Option Receipt
  receiptAt : Option String
  reviewerId : Option ℤ
  processingAt : Option String
  lastError : Option String
  approvedAt : Option String
  rejectedAt : Option String
deriving DecidableEq, Repr

/-- A customer. -/
structure User where
  id : ℤ
  username : String
  firstName : String
  balance : ℤ
  createdAt : String
  lastSeenAt : String
  subId : Option String
  giftCodes : List String
  trialUsedAt : Option String
deriving DecidableEq, Repr

/-- A gift code. -/
structure GiftCode where
  code : String
  amount : ℤ
  maxUses : ℤ
  usedBy : List String
  active : Bool
  createdAt : String
  createdBy : ℤ
  expiresAt : Option String
deriving DecidableEq, Repr

/-- The two types of discount. -/
inductive DiscountType
  | percent
  | fixed
deriving DecidableEq, Repr

/-- A discount code. -/
structure DiscountCode where
  code : String
  type : DiscountType
  value : ℤ
  maxUses : ℤ
  uses : ℤ
  usedBy : List String
  orders : List String
  active : Bool
  createdAt : String
  createdBy : ℤ
  expiresAt : Option String
deriving DecidableEq, Repr

/-- An entry of the redemption audit. -/
structure Redemption where
  code : String
  userId : ℤ
  amount : ℤ
  at_ : String
deriving DecidableEq, Repr

/-- The settings an admin edits. -/
structure Settings where
  storeName : String
  cardNumber : String
  cardHolder : String
  support : String
  currency : String
deriving DecidableEq, Repr

/-- The environment of the bot: its variables and its constants that read them. -/
structure Env where
  storeName : String
  cardNumber : String
  cardHolder : String
  support : String
  /-- `ADMIN_IDS`. -/
  adminIds : List ℤ
  /-- `RECEIPT_TIMEOUT_HOURS`. -/
  receiptTimeoutHours : ℤ
  /-- `STORE_IP_LIMIT`. -/
  ipLimit : ℤ

/-- The store. -/
structure Store where
  users : Dict String User
  orders : Dict String Order
  giftCodes : Dict String GiftCode
  discountCodes : Dict String DiscountCode
  redemptionAudit : List Redemption
  settings : Settings

/-- The last `n` elements of a list. -/
def lastN {α : Type*} (n : ℕ) (l : List α) : List α := l.drop (l.length - n)

/-- The key of a user: `str(user_id)`. -/
def userKey (userId : ℤ) : String := toString userId

/-- `_default_store`. -/
def defaultStore (env : Env) : Store where
  users := .empty
  orders := .empty
  giftCodes := .empty
  discountCodes := .empty
  redemptionAudit := []
  settings := ⟨env.storeName, env.cardNumber, env.cardHolder, env.support, "تومان"⟩

/-- `_load_store` on the store that the file holds: the audit is bounded, and variables of
the environment that are set override the persisted settings. -/
def loadStore (env : Env) : Option Store → Store
  | none => defaultStore env
  | some loaded =>
    { loaded with
      redemptionAudit := lastN 5000 loaded.redemptionAudit
      settings :=
        { loaded.settings with
          cardNumber := if env.cardNumber ≠ "" then env.cardNumber else loaded.settings.cardNumber
          cardHolder := if env.cardHolder ≠ "" then env.cardHolder else loaded.settings.cardHolder
          support := if env.support ≠ "" then env.support else loaded.settings.support } }

end Bot
