import LumenRelay.Bot.Ledger
import LumenRelay.Bot.Reservations

/-!
# The dialogues that create codes

An admin creates a gift code or a discount code in a dialogue of several messages.  The code is
looked up when it is chosen and stored when the last message arrives; in between, other admins
and customers act.  The store with the dialogues of all admins is a machine over the one of
`LumenRelay.Bot.Machine`, and the only one in it that stores codes.
-/

namespace Bot

open Lib Py

/-! ## The dialogues -/

/-- A number that was checked against its bounds. -/
abbrev Bounded (minimum maximum : ℤ) := { value : ℤ // minimum ≤ value ∧ value ≤ maximum }

/-- `_parse_int`. -/
def parseIntText (rt : Runtime) (text : String) (minimum maximum : ℤ) :
    Option (Bounded minimum maximum) :=
  let cleaned := strip (keepChars (fun c => c ≠ ',' ∧ c ≠ '٬')
    (String.ofList (text.toList.map faDigit)))
  match parseInt rt cleaned with
  | none => none
  | some value => if h : minimum ≤ value ∧ value ≤ maximum then some ⟨value, h⟩ else none

/-- The largest value of a discount. -/
def DiscountType.maximum : DiscountType → ℤ
  | .percent => 100
  | .fixed => 20000000

/-- What `_pending` keeps of a dialogue that creates a code: its stage and the data so far. -/
inductive Dialogue
  | giftCode
  | giftAmount (code : String)
  | giftUses (code : String) (amount : Bounded 1000 20000000)
  | giftDays (code : String) (amount : Bounded 1000 20000000) (maxUses : Bounded 1 100000)
  | promoCode
  | promoType (code : String)
  | promoValue (code : String) (type : DiscountType)
  | promoUses (code : String) (type : DiscountType) (value : Bounded 1 type.maximum)
  | promoDays (code : String) (type : DiscountType) (value : Bounded 1 type.maximum)
      (maxUses : Bounded 1 100000)

/-- What a message does in a dialogue: nothing, or the next stage, or the code is stored. -/
inductive Answer
  | again
  | next (dialogue : Dialogue)
  | finish (action : Action)

variable (rt : Runtime) (env : Env)

/-- The instant a code runs out; `0` days is never. -/
def expiry (now days : ℤ) : Option String :=
  if days = 0 then none else some (rt.isoformat (now + days * 86400000000))

/-- A message that is not what was asked for is answered by asking again. -/
def ask {α : Type} (reading : Option α) (go : α → Answer) : Answer :=
  match reading with
  | none => .again
  | some a => go a

/-- A new code as a message gives it; one that the store has is asked for again. -/
def askCode (text : String) (taken : String → Bool) (stage : String → Dialogue) : Answer :=
  ask (normalizeCode rt text) fun code => if taken code then .again else .next (stage code)

/-- `_admin_gift_text`. -/
def adminGiftText (now : ℤ) (st : Store) (chatId : ℤ) (text : String) : Dialogue → Answer
  | .giftCode => askCode rt text st.giftCodes.contains .giftAmount
  | .giftAmount code =>
    ask (parseIntText rt text 1000 20000000) fun amount => .next (.giftUses code amount)
  | .giftUses code amount =>
    ask (parseIntText rt text 1 100000) fun maxUses => .next (.giftDays code amount maxUses)
  | .giftDays code amount maxUses =>
    ask (parseIntText rt text 0 3650) fun days =>
      .finish (.createGift chatId code amount.1 maxUses.1 (expiry rt now days.1))
  | _ => .again

/-- `_admin_promo_text`; the type of a discount is chosen with a button. -/
def adminPromoText (now : ℤ) (st : Store) (chatId : ℤ) (text : String) : Dialogue → Answer
  | .promoCode => askCode rt text st.discountCodes.contains .promoType
  | .promoValue code type =>
    ask (parseIntText rt text 1 type.maximum) fun value => .next (.promoUses code type value)
  | .promoUses code type value =>
    ask (parseIntText rt text 1 100000) fun maxUses => .next (.promoDays code type value maxUses)
  | .promoDays code type value maxUses =>
    ask (parseIntText rt text 0 3650) fun days =>
      .finish (.createDiscount chatId code type value.1 maxUses.1 (expiry rt now days.1))
  | _ => .again

/-- The part of `_handle_pending_text` for these dialogues. -/
def handlePendingText (now : ℤ) (st : Store) (chatId : ℤ) (text : String) (d : Dialogue) : Answer :=
  match d with
  | .giftCode | .giftAmount _ | .giftUses _ _ | .giftDays _ _ _ =>
    adminGiftText rt now st chatId text d
  | _ => adminPromoText rt now st chatId text d

/-! ## The shop: the store and the dialogues -/

/-- The store and the dialogues. -/
structure Shop where
  bot : State
  /-- `_pending`, as far as it is about these dialogues. -/
  pending : Dict ℤ Dialogue
  /-- The handlers that save a new code and drop the dialogue of their chat afterwards. -/
  closing : Dict ℕ ℤ

/-- The buttons of these dialogues. -/
inductive Button
  | agift
  | apromo
  | ptype (type : DiscountType)

/-- The steps of the shop. -/
inductive ShopLabel
  /-- A step of the store. -/
  | bot (l : Label)
  /-- The handler of a button. -/
  | callback (chatId : ℤ) (data : Button)
  /-- The dispatch of a text message. -/
  | text (pid : ℕ) (now : ℤ) (chatId : ℤ) (raw : String)
  /-- Any other handler that drops the dialogue of a chat or puts another action in its place. -/
  | leave (chatId : ℤ)

/-- A customer was credited with a gift code. -/
structure Credit where
  code : String
  key : String
  amount : ℤ
deriving DecidableEq, Repr

/-- The credits among the events of a step of the store. -/
def credits : Label → List Event → List Credit
  | .invoke _ _ (.redeemGift _ text), es =>
    es.filterMap fun
      | .redeemed key amount => (normalizeCode rt text).map fun code => ⟨code, key, amount⟩
      | _ => none
  | _, _ => []

/-- Whether a step of the store stores a new code; only the dialogues do. -/
def Label.storesCode : Label → Bool
  | .invoke _ _ action => action.storesCode
  | _ => false

/-- The dialogue of a chat is dropped once the new code is saved. -/
def Shop.close (s : Shop) : Label → Shop
  | .endSave pid _ =>
    match s.closing.get? pid with
    | some chatId => { s with pending := s.pending.erase chatId, closing := s.closing.erase pid }
    | none => s
  | _ => s

/-- What a text message does to the dialogue of its chat. -/
def Shop.answer (s : Shop) (now chatId : ℤ) (raw : String) : Option Answer :=
  let text := strip raw
  if text.toList.head? = some '/' ∨ text = "" then none
  else (s.pending.get? chatId).map (handlePendingText rt now s.bot.store chatId text)

/-- Whether a text is a command that drops the dialogue. -/
def dropsDialogue (chatId : ℤ) (text : String) : Bool :=
  text = "/start" || text = "/menu" || (text = "/admin" && env.adminIds.contains chatId)

/-- A step of the shop. -/
def shopStep (s : Shop) : ShopLabel → Option (Shop × List Credit)
  | .bot l =>
    if l.storesCode then none
    else
      match step rt env s.bot l with
      | none => none
      | some (after, es) => some (Shop.close { s with bot := after } l, credits rt l es)
  | .callback chatId data =>
    if !env.adminIds.contains chatId then some (s, [])
    else
      match data, s.pending.get? chatId with
      | .agift, _ => some ({ s with pending := s.pending.set chatId .giftCode }, [])
      | .apromo, _ => some ({ s with pending := s.pending.set chatId .promoCode }, [])
      | .ptype type, some (.promoType code) =>
        some ({ s with pending := s.pending.set chatId (.promoValue code type) }, [])
      | .ptype _, _ => some (s, [])
  | .text pid now chatId raw =>
    if dropsDialogue env chatId (strip raw) then
      some ({ s with pending := s.pending.erase chatId }, [])
    else
      match s.answer rt now chatId raw with
      | none | some .again => some (s, [])
      | some (.next d) => some ({ s with pending := s.pending.set chatId d }, [])
      | some (.finish action) =>
        match step rt env s.bot (.invoke pid now action) with
        | none => none
        | some (after, _) => some ({ s with bot := after, closing := s.closing.set pid chatId }, [])
  | .leave chatId => some ({ s with pending := s.pending.erase chatId }, [])

/-- The shop as a machine. -/
def shop : Machine Shop ShopLabel Credit := ⟨shopStep rt env⟩

/-- A shop with an empty store. -/
def Shop.fresh : Shop := ⟨.fresh (defaultStore env) none, .empty, .empty⟩

/-! ## Storing over no other code -/

/-- Whether the store has the code that an operation stores. -/
def Store.hasCode (st : Store) : Action → Bool
  | .createGift _ code _ _ _ => st.giftCodes.contains code
  | .createDiscount _ code _ _ _ _ => st.discountCodes.contains code
  | _ => false

/-- When a step is the last message of a dialogue, its code is in the store for the first time. -/
def FreshCode (s : Shop) : ShopLabel → Prop
  | .text _ now chatId raw =>
    ∀ action, s.answer rt now chatId raw = some (.finish action) →
      s.bot.store.hasCode action = false
  | _ => True

instance (s : Shop) (l : ShopLabel) : Decidable (FreshCode rt s l) :=
  match l with
  | .text _ now chatId raw =>
    match h : s.answer rt now chatId raw with
    | some (.finish action) =>
      decidable_of_iff (s.bot.store.hasCode action = false)
        ⟨fun hfresh a ha => by rw [h] at ha; cases ha; exact hfresh, fun hall => hall action h⟩
    | none | some .again | some (.next _) => .isTrue fun a ha => by rw [h] at ha; cases ha
  | .bot _ | .callback _ _ | .leave _ => .isTrue trivial

/-! ## The accounts of the gift codes -/

/-- The users of a gift code. -/
def usedByOf (st : Store) (code : String) : List String :=
  ((st.giftCodes.get? code).map GiftCode.usedBy).getD []

/-- The gift codes of a user. -/
def giftCodesOf (st : Store) (key : String) : List String :=
  ((st.users.get? key).map User.giftCodes).getD []

/-- The users of a gift code are those credited with it, in turn, each once and no more than it
may have; a user has the codes credited to them. -/
structure GiftSound (events : List Credit) (st : Store) : Prop where
  used : ∀ code, usedByOf st code = (events.filter fun c => c.code = code).map Credit.key
  had : ∀ key, giftCodesOf st key = (events.filter fun c => c.key = key).map Credit.code
  once : ∀ code e, st.giftCodes.get? code = some e → e.usedBy.Nodup
  cap : ∀ code e, st.giftCodes.get? code = some e → (e.usedBy.length : ℤ) ≤ e.maxUses

/-- The gift codes are the same, those that users have included. -/
structure SameGifts (st st' : Store) : Prop where
  codes : st'.giftCodes = st.giftCodes
  had : ∀ key, giftCodesOf st' key = giftCodesOf st key

/-- A redemption: a use of the code is taken, and the user has one code more. -/
structure Gives (st st' : Store) (c : Credit) : Prop where
  entry : ∃ e, st.giftCodes.get? c.code = some e ∧ e.amount = c.amount ∧ c.key ∉ e.usedBy ∧
    (e.usedBy.length : ℤ) < e.maxUses ∧
    st'.giftCodes = st.giftCodes.set c.code { e with usedBy := e.usedBy ++ [c.key] }
  had : ∀ key, giftCodesOf st' key = giftCodesOf st key ++ if c.key = key then [c.code] else []
  paid : ∀ key, balanceOf st' key = balanceOf st key + if key = c.key then c.amount else 0

lemma SameGifts.refl (st : Store) : SameGifts st st := ⟨rfl, fun _ => rfl⟩

lemma SameGifts.of_users {st st' : Store} (hg : st'.giftCodes = st.giftCodes)
    (hu : st'.users = st.users) : SameGifts st st' :=
  ⟨hg, fun key => by rw [giftCodesOf, hu, giftCodesOf]⟩

/-- Replacing the record of a user, or adding one without codes. -/
lemma SameGifts.of_set {st st' : Store} {key : String} {user : User}
    (hg : st'.giftCodes = st.giftCodes) (hu : st'.users = st.users.set key user)
    (hsame : user.giftCodes = giftCodesOf st key) : SameGifts st st' := by
  refine ⟨hg, fun k => ?_⟩
  unfold giftCodesOf
  rw [hu, Dict.get?_set]
  split_ifs with hk
  · rw [hk]
    exact hsame
  · rfl

lemma SameGifts.of_modify {st st' : Store} {key : String} {f : User → User}
    (hg : st'.giftCodes = st.giftCodes) (hu : st'.users = st.users.modify key f)
    (hf : ∀ user, (f user).giftCodes = user.giftCodes) : SameGifts st st' := by
  cases hget : st.users.get? key with
  | none => exact .of_users hg (by rw [hu, Dict.modify_of_none hget])
  | some user =>
    refine .of_set hg (by rw [hu, Dict.modify_of_some hget]) ?_
    rw [hf, giftCodesOf, hget]
    rfl

namespace GiftSound

variable {events : List Credit} {st st' : Store}

lemma same (h : GiftSound events st) (hs : SameGifts st st') : GiftSound events st' := by
  refine ⟨fun code => ?_, fun key => (hs.had key).trans (h.had key), ?_, ?_⟩
  · rw [usedByOf, hs.codes]
    exact h.used code
  · rw [hs.codes]
    exact h.once
  · rw [hs.codes]
    exact h.cap

/-- A redemption adds the user to the code, and the code to the user. -/
lemma gives (h : GiftSound events st) {c : Credit} (hg : Gives st st' c) :
    GiftSound (events ++ [c]) st' := by
  obtain ⟨e, he, -, hnew, hroom, hset⟩ := hg.entry
  refine ⟨fun code => ?_, fun key => ?_, fun code e' he' => ?_, fun code e' he' => ?_⟩
  · have hused := h.used code
    rw [List.filter_append, List.map_append, ← hused]
    unfold usedByOf
    rw [hset, Dict.get?_set]
    by_cases hc : code = c.code
    · subst hc
      simp [he]
    · simp [hc, Ne.symm hc]
  · rw [List.filter_append, List.map_append, ← h.had key, hg.had key]
    by_cases hk : c.key = key <;> simp [hk]
  · rw [hset, Dict.get?_set] at he'
    split_ifs at he'
    · obtain rfl := Option.some.inj he'
      rw [List.nodup_append]
      refine ⟨h.once c.code e he, List.nodup_singleton _, fun a ha b hb => ?_⟩
      rintro rfl
      exact hnew (List.mem_singleton.mp hb ▸ ha)
    · exact h.once code e' he'
  · rw [hset, Dict.get?_set] at he'
    split_ifs at he'
    · obtain rfl := Option.some.inj he'
      show ((e.usedBy ++ [c.key]).length : ℤ) ≤ e.maxUses
      simp
      omega
    · exact h.cap code e' he'

/-- A new code, stored over no other, has been credited to nobody. -/
lemma addCode (h : GiftSound events st) {code : String} {e : GiftCode}
    (hnew : st.giftCodes.get? code = none) (hused : e.usedBy = []) (hmax : 0 ≤ e.maxUses)
    (hset : st'.giftCodes = st.giftCodes.set code e) (hu : st'.users = st.users) :
    GiftSound events st' := by
  refine ⟨fun c => ?_, fun key => ?_, fun c e' he' => ?_, fun c e' he' => ?_⟩
  · rw [← h.used c]
    unfold usedByOf
    rw [hset, Dict.get?_set]
    split_ifs with hc
    · simp [hc, hnew, hused]
    · rfl
  · rw [giftCodesOf, hu]
    exact h.had key
  · rw [hset, Dict.get?_set] at he'
    split_ifs at he'
    · obtain rfl := Option.some.inj he'
      simp [hused]
    · exact h.once c e' he'
  · rw [hset, Dict.get?_set] at he'
    split_ifs at he'
    · obtain rfl := Option.some.inj he'
      simpa [hused] using hmax
    · exact h.cap c e' he'

end GiftSound

/-! ### The sections -/

section Sections

variable (now : ℤ) (st : Store)

lemma ensureUserLocked_gifts (userId : ℤ) (username firstName : String) :
    SameGifts st (ensureUserLocked rt now st userId username firstName).1 := by
  unfold ensureUserLocked
  dsimp only
  cases hu : st.users.get? (userKey userId) with
  | none => exact .of_set rfl rfl (by simp [giftCodesOf, hu])
  | some user => exact .of_set rfl rfl (by simp [giftCodesOf, hu])

/-- The sections before the payment of an order, and those that end an order without one. -/
lemma order_sections_gifts (oid : String) (userId : ℤ) (code : String) (receipt : Receipt)
    (given : Option String) :
    SameGifts st (cancelOrderLocked rt now st oid userId).1 ∧
      SameGifts st (applyDiscountLocked rt now st oid userId code).1 ∧
      SameGifts st (cancelWaitingLocked rt now st oid userId).1 ∧
      SameGifts st (startCardLocked rt now env st oid userId).1 ∧
      SameGifts st (submitReceiptLocked rt now st userId receipt given).1 ∧
      SameGifts st (rejectOrderLocked rt now st oid userId).1 := by
  refine ⟨?_, ?_, ?_, ?_, ?_, ?_⟩
  · unfold cancelOrderLocked
    split
    · exact .refl st
    · split_ifs <;> exact .of_users rfl rfl
  · unfold applyDiscountLocked
    split
    · exact .refl st
    · split_ifs
      · exact .refl st
      · split <;> exact .of_users rfl rfl
  · unfold cancelWaitingLocked
    split
    · exact .refl st
    · split_ifs <;> exact .of_users rfl rfl
  · unfold startCardLocked
    split_ifs
    · exact .refl st
    · exact .refl st
    · split
      · exact .refl st
      · split_ifs
        · exact .refl st
        · exact .refl st
        · split <;> exact .of_users rfl rfl
  · unfold submitReceiptLocked
    split
    · exact .refl st
    · split_ifs <;> exact .of_users rfl rfl
  · unfold rejectOrderLocked
    split
    · exact .refl st
    · split_ifs <;> exact .of_users rfl rfl

lemma SameGifts.trans {st₁ st₂ st₃ : Store} (h : SameGifts st₁ st₂) (h' : SameGifts st₂ st₃) :
    SameGifts st₁ st₃ :=
  ⟨h'.codes.trans h.codes, fun key => (h'.had key).trans (h.had key)⟩

lemma expireStaleLocked_gifts : SameGifts st (expireStaleLocked rt now env st).1 := by
  have hfold : ∀ (keys : List String) (st : Store),
      SameGifts st (keys.foldl (expireOne rt now env) st) := by
    intro keys
    induction keys with
    | nil => exact fun st => .refl st
    | cons oid keys ih =>
      intro st
      have hone : SameGifts st (expireOne rt now env st oid) := by
        unfold expireOne
        split
        · exact .refl st
        · split_ifs <;> exact .of_users rfl rfl
      exact hone.trans (ih _)
  exact hfold _ st

lemma finishBeginLocked_gifts (oid : String) (reviewerId : Option ℤ) (source : Source) :
    SameGifts st (finishBeginLocked rt now st oid reviewerId source).1 := by
  unfold finishBeginLocked
  split
  · exact .refl st
  · rename_i order ho
    split_ifs
    · exact .refl st
    · exact .refl st
    · cases hu : st.users.get? (userKey order.userId) with
      | none => exact .refl st
      | some user =>
        dsimp only
        split
        · exact .refl st
        · unfold chargeLocked
          cases source with
          | card => exact .of_users rfl rfl
          | free =>
            dsimp only
            split <;> exact .of_users rfl rfl
          | wallet =>
            dsimp only
            split
            · exact .refl st
            · rename_i codes reserved hr
              obtain ⟨b, rfl⟩ := reserveDiscountLocked_order rt now hr
              split_ifs
              · exact .of_users rfl rfl
              · exact .of_set rfl rfl (by simp [giftCodesOf, hu])

lemma credit_gifts (userId amount : ℤ) : SameGifts st (credit st userId amount) :=
  .of_modify rfl rfl fun _ => rfl

/-- The later sections leave the gift codes alone. -/
lemma Later.gifts {st' : Store} (hl : Later rt env st st') : SameGifts st st' := by
  cases hl with
  | same => exact .refl st
  | startCard now oid userId =>
    exact (order_sections_gifts rt env now st oid userId "" ⟨"", "", "", none⟩ none).2.2.2.1
  | begin now oid reviewerId source => exact finishBeginLocked_gifts rt now st oid reviewerId source
  | credit order => exact credit_gifts st order.userId order.amount
  | customerSub userId subId => exact .of_modify rfl rfl fun _ => rfl
  | approve now oid serviceId =>
    unfold approveLocked
    split
    · exact .refl st
    · rename_i order ho
      by_cases htrial : order.isTrial
      · exact .of_modify rfl (if_pos htrial) fun _ => rfl
      · exact .of_users rfl (if_neg htrial)
  | rollback oid source message =>
    unfold rollbackLocked
    split
    · exact .refl st
    · rename_i order ho
      cases source with
      | card => exact .of_users rfl rfl
      | free => exact .of_users rfl rfl
      | wallet => exact .of_modify rfl rfl fun _ => rfl

/-- A redemption that succeeds. -/
lemma redeemGiftLocked_gives {userId amount : ℤ} {code : String} {st' : Store}
    (h : redeemGiftLocked rt now st userId code = (st', .ok amount)) :
    Gives st st' ⟨code, userKey userId, amount⟩ := by
  have hpaid := redeemGiftLocked_redeems rt now st userId code
  rw [h] at hpaid
  cases hpaid with
  | redeemed hpos ho hb hk =>
    unfold redeemGiftLocked at h
    dsimp only at h
    split at h
    · rename_i user e hu he
      split_ifs at h with hdead hused hfull hamount
      · cases h
      · cases h
      · cases h
      · cases h
      · cases h
        refine ⟨⟨e, he, rfl, hused, by omega, rfl⟩, fun key => ?_, hb⟩
        unfold giftCodesOf
        rw [Dict.get?_set]
        by_cases hkey : key = userKey userId
        · subst hkey
          simp [hu]
        · simp [hkey, Ne.symm hkey]
    · cases h

lemma redeemGiftLocked_refused {userId : ℤ} {code message : String} {st' : Store}
    (h : redeemGiftLocked rt now st userId code = (st', .error message)) : st' = st := by
  have hr := redeemGiftLocked_redeems rt now st userId code
  rw [h] at hr
  cases hr
  rfl

end Sections

/-! ## Steps of the shop -/

section Steps

variable {rt : Runtime} {env : Env} {s s' : Shop}

/-- The first section of an operation leaves the gift codes alone or redeems one; those that
store a code aside. -/
lemma firstSection_gifts {st st' : Store} {now : ℤ} {action : Action} {pc : Option Pc}
    {es : List Event} (pid : ℕ)
    (hf : firstSection rt env now st action = some (st', pc, es))
    (hcode : action.storesCode = false) :
    SameGifts st st' ∧ credits rt (.invoke pid now action) es = [] ∨
      ∃ c, Gives st st' c ∧ credits rt (.invoke pid now action) es = [c] := by
  cases action with
  | ensureUser userId username firstName =>
    cases hf
    exact .inl ⟨ensureUserLocked_gifts rt now st userId username firstName, rfl⟩
  | createGift => cases hcode
  | createDiscount => cases hcode
  | setCard cardNumber cardHolder =>
    cases hf
    exact .inl ⟨.of_users rfl rfl, rfl⟩
  | createOrder oid userId kind plan serviceId amount =>
    simp only [firstSection] at hf
    split_ifs at hf
    split at hf
    · cases hf
      exact .inl ⟨.refl st, rfl⟩
    · rename_i hc
      cases hf
      simp only [createOrderLocked, Option.map_eq_some_iff, Prod.mk.injEq] at hc
      obtain ⟨price, -, rfl, -⟩ := hc
      exact .inl ⟨.of_users rfl rfl, rfl⟩
  | applyDiscount oid userId text =>
    simp only [firstSection] at hf
    split at hf
    · cases hf
      exact .inl ⟨.refl st, rfl⟩
    · rename_i code hn
      cases hf
      exact .inl ⟨(order_sections_gifts rt env now st oid userId code ⟨"", "", "", none⟩ none).2.1, rfl⟩
  | cancelOrder oid userId =>
    cases hf
    exact .inl ⟨(order_sections_gifts rt env now st oid userId "" ⟨"", "", "", none⟩ none).1, rfl⟩
  | cancelWaitingOrder oid userId =>
    cases hf
    exact .inl ⟨(order_sections_gifts rt env now st oid userId "" ⟨"", "", "", none⟩ none).2.2.1, rfl⟩
  | expireStaleOrders =>
    cases hf
    exact .inl ⟨expireStaleLocked_gifts rt env now st, rfl⟩
  | startCardPayment oid userId =>
    cases hf
    exact .inl ⟨expireStaleLocked_gifts rt env now st, rfl⟩
  | submitReceipt userId receipt oid =>
    cases hf
    exact .inl ⟨(order_sections_gifts rt env now st "" userId "" receipt oid).2.2.2.2.1, rfl⟩
  | rejectOrder oid adminId =>
    cases hf
    exact .inl ⟨(order_sections_gifts rt env now st oid adminId "" ⟨"", "", "", none⟩ none).2.2.2.2.2, rfl⟩
  | redeemGift userId text =>
    simp only [firstSection] at hf
    split at hf
    · cases hf
      exact .inl ⟨.refl st, rfl⟩
    · rename_i code hn
      split at hf
      · rename_i st₁ amount hr
        cases hf
        refine .inr ⟨_, redeemGiftLocked_gives rt now st hr, ?_⟩
        simp [credits, hn]
      · rename_i st₁ message hr
        cases hf
        rw [redeemGiftLocked_refused rt now st hr]
        exact .inl ⟨.refl st, rfl⟩
  | finishOrder oid reviewerId source =>
    cases hf
    exact .inl ⟨.refl st, rfl⟩

/-- The invariant of the shop. -/
structure ShopSound (events : List Credit) (s : Shop) : Prop where
  store : StoreSound s.bot.store
  gifts : GiftSound events s.bot.store

@[simp] lemma Shop.close_bot (s : Shop) (l : Label) : (s.close l).bot = s.bot := by
  unfold Shop.close
  split
  · split <;> rfl
  · rfl

lemma ask_finish {α : Type} {reading : Option α} {go : α → Answer} {action : Action}
    (h : ask reading go = .finish action) : ∃ a, go a = .finish action := by
  cases reading with
  | none => cases h
  | some a => exact ⟨a, h⟩

lemma askCode_ne_finish (text : String) (taken : String → Bool) (stage : String → Dialogue)
    (action : Action) : askCode rt text taken stage ≠ .finish action := by
  intro h
  obtain ⟨code, hc⟩ := ask_finish h
  split_ifs at hc

lemma adminGiftText_finish {now chatId : ℤ} {st : Store} {text : String} {d : Dialogue}
    {action : Action} (h : adminGiftText rt now st chatId text d = .finish action) :
    ∃ code amount maxUses expiresAt,
      action = .createGift chatId code amount maxUses expiresAt ∧ 1 ≤ maxUses := by
  cases d with
  | giftCode => exact absurd h (askCode_ne_finish _ _ _ _)
  | giftAmount code | giftUses code amount =>
    rw [adminGiftText] at h
    obtain ⟨_, hnext⟩ := ask_finish h
    cases hnext
  | giftDays code amount maxUses =>
    rw [adminGiftText] at h
    obtain ⟨days, hdays⟩ := ask_finish h
    cases hdays
    exact ⟨code, amount.1, maxUses.1, _, rfl, maxUses.2.1⟩
  | promoCode | promoType | promoValue | promoUses | promoDays => cases h

lemma adminPromoText_finish {now chatId : ℤ} {st : Store} {text : String} {d : Dialogue}
    {action : Action} (h : adminPromoText rt now st chatId text d = .finish action) :
    ∃ code type value maxUses expiresAt,
      action = .createDiscount chatId code type value maxUses expiresAt ∧ 1 ≤ maxUses := by
  cases d with
  | promoCode => exact absurd h (askCode_ne_finish _ _ _ _)
  | promoValue code type | promoUses code type value =>
    rw [adminPromoText] at h
    obtain ⟨_, hnext⟩ := ask_finish h
    cases hnext
  | promoDays code type value maxUses =>
    rw [adminPromoText] at h
    obtain ⟨days, hdays⟩ := ask_finish h
    cases hdays
    exact ⟨code, type, value.1, maxUses.1, _, rfl, maxUses.2.1⟩
  | promoType | giftCode | giftAmount | giftUses | giftDays => cases h

lemma handlePendingText_cases (now : ℤ) (st : Store) (chatId : ℤ) (text : String) (d : Dialogue) :
    handlePendingText rt now st chatId text d = adminGiftText rt now st chatId text d ∨
      handlePendingText rt now st chatId text d = adminPromoText rt now st chatId text d := by
  unfold handlePendingText
  split
  · exact .inl rfl
  · exact .inl rfl
  · exact .inl rfl
  · exact .inl rfl
  · exact .inr rfl

/-- What the last message of a dialogue stores may be used at least once. -/
lemma answer_finish {now chatId : ℤ} {raw : String} {action : Action}
    (h : s.answer rt now chatId raw = some (.finish action)) :
    (∃ code amount maxUses expiresAt,
        action = .createGift chatId code amount maxUses expiresAt ∧ 1 ≤ maxUses) ∨
      ∃ code type value maxUses expiresAt,
        action = .createDiscount chatId code type value maxUses expiresAt ∧ 1 ≤ maxUses := by
  simp only [Shop.answer] at h
  split_ifs at h
  obtain ⟨d, -, hd⟩ := Option.map_eq_some_iff.mp h
  rcases handlePendingText_cases now s.bot.store chatId (strip raw) d with heq | heq
  · exact .inl (adminGiftText_finish (heq ▸ hd))
  · exact .inr (adminPromoText_finish (heq ▸ hd))

/-- The two sections that store a code, over no other. -/
lemma firstSection_stores {st st' : Store} {now chatId : ℤ} {raw : String} {action : Action}
    {pc : Option Pc} {es : List Event} {events : List Credit}
    (hsound : StoreSound st) (hgifts : GiftSound events st)
    (ha : s.answer rt now chatId raw = some (.finish action)) (hfresh : st.hasCode action = false)
    (hf : firstSection rt env now st action = some (st', pc, es)) :
    StoreSound st' ∧ GiftSound events st' ∧
      (∀ code e, st.giftCodes.get? code = some e → st'.giftCodes.get? code = some e) ∧
      ∀ code e, st.discountCodes.get? code = some e → st'.discountCodes.get? code = some e := by
  rcases answer_finish ha with ⟨code, amount, maxUses, expiresAt, rfl, hpos⟩ |
    ⟨code, type, value, maxUses, expiresAt, rfl, hpos⟩
  · cases hf
    have hnew : st.giftCodes.get? code = none := Dict.contains_eq_false_iff.mp hfresh
    refine ⟨hsound.of_eq rfl rfl, hgifts.addCode hnew rfl ?_ rfl rfl, fun c e he => ?_, fun c e he => he⟩
    · show 0 ≤ maxUses
      omega
    · have hne : c ≠ code := by
        rintro rfl
        rw [hnew] at he
        cases he
      show (st.giftCodes.set code _).get? c = some e
      rw [Dict.get?_set_ne hne, he]
  · cases hf
    have hnew : st.discountCodes.get? code = none := Dict.contains_eq_false_iff.mp hfresh
    refine ⟨createDiscountLocked_sound hsound hnew (by omega), hgifts.same (.of_users rfl rfl),
      fun c e he => he, fun c e he => ?_⟩
    have hne : c ≠ code := by
      rintro rfl
      rw [hnew] at he
      cases he
    show (st.discountCodes.set code _).get? c = some e
    rw [Dict.get?_set_ne hne, he]

/-- A step of the shop is a step of the store that stores no code, or the last message of a
dialogue, whose code it stores, or it leaves the store alone. -/
lemma shopStep_cases {l : ShopLabel} {es : List Credit}
    (hs : shopStep rt env s l = some (s', es)) :
    (∃ b events', l = .bot b ∧ b.storesCode = false ∧
        step rt env s.bot b = some (s'.bot, events') ∧ es = credits rt b events') ∨
      (∃ pid now chatId raw action events', l = .text pid now chatId raw ∧
        s.answer rt now chatId raw = some (.finish action) ∧
        step rt env s.bot (.invoke pid now action) = some (s'.bot, events') ∧ es = []) ∨
      (∀ b, l ≠ .bot b) ∧ s'.bot = s.bot ∧ es = [] := by
  cases l with
  | bot b =>
    simp only [shopStep] at hs
    split_ifs at hs with hcode
    split at hs
    · cases hs
    · rename_i after events' hstep
      simp only [Option.some.injEq, Prod.mk.injEq] at hs
      obtain ⟨rfl, rfl⟩ := hs
      refine .inl ⟨b, events', rfl, by simpa using hcode, ?_, rfl⟩
      rw [Shop.close_bot]
      exact hstep
  | callback chatId data =>
    refine .inr (.inr ⟨fun b h => (by cases h), ?_⟩)
    simp only [shopStep] at hs
    split_ifs at hs
    · cases hs
      exact ⟨rfl, rfl⟩
    · split at hs <;> cases hs <;> exact ⟨rfl, rfl⟩
  | text pid now chatId raw =>
    have hno : ∀ b, ShopLabel.text pid now chatId raw ≠ .bot b := fun b h => by cases h
    simp only [shopStep] at hs
    split_ifs at hs
    · cases hs
      exact .inr (.inr ⟨hno, rfl, rfl⟩)
    · split at hs
      · cases hs
        exact .inr (.inr ⟨hno, rfl, rfl⟩)
      · cases hs
        exact .inr (.inr ⟨hno, rfl, rfl⟩)
      · cases hs
        exact .inr (.inr ⟨hno, rfl, rfl⟩)
      · rename_i action ha
        split at hs
        · cases hs
        · rename_i after events' hstep
          cases hs
          exact .inr (.inl ⟨pid, now, chatId, raw, action, events', rfl, ha, hstep, rfl⟩)
  | leave chatId =>
    cases hs
    exact .inr (.inr ⟨fun b h => (by cases h), rfl, rfl⟩)

/-- The last message of a dialogue stores its code over no other. -/
lemma dialogue_stores {events : List Credit} {es : List Event} {b' : State} {pid : ℕ}
    {now chatId : ℤ} {raw : String} {action : Action} (h : ShopSound events s)
    (ha : s.answer rt now chatId raw = some (.finish action))
    (hfresh : s.bot.store.hasCode action = false)
    (hstep : step rt env s.bot (.invoke pid now action) = some (b', es)) :
    StoreSound b'.store ∧ GiftSound events b'.store ∧
      (∀ code e, s.bot.store.giftCodes.get? code = some e → b'.store.giftCodes.get? code = some e) ∧
      ∀ code e, s.bot.store.discountCodes.get? code = some e →
        b'.store.discountCodes.get? code = some e := by
  rcases step_section hstep with ⟨pid', now', action', pc, hl, hf⟩ | ⟨hlater, -⟩
  · obtain ⟨rfl, rfl, rfl⟩ : pid = pid' ∧ now = now' ∧ action = action' := by simpa using hl
    exact firstSection_stores h.store h.gifts ha hfresh hf
  · exact absurd rfl (hlater pid now action)

/-- What a step of the store that stores no code does to the gift codes, and its credits. -/
lemma step_gifts {bot bot' : State} {b : Label} {events' : List Event}
    (hcode : b.storesCode = false) (hstep : step rt env bot b = some (bot', events')) :
    SameGifts bot.store bot'.store ∧ credits rt b events' = [] ∨
      ∃ c, Gives bot.store bot'.store c ∧ credits rt b events' = [c] := by
  rcases step_section hstep with ⟨pid, now, action, pc, rfl, hf⟩ | ⟨hlater, hl⟩
  · exact firstSection_gifts pid hf hcode
  · refine .inl ⟨hl.gifts rt env bot.store, ?_⟩
    unfold credits
    split
    · exact absurd rfl (hlater _ _ _)
    · rfl

/-- A step with a credit is the redemption of it: the balance of the customer grows by what the code
is worth. -/
lemma shopStep_gives {l : ShopLabel} {es : List Credit} {c : Credit}
    (hstep : shopStep rt env s l = some (s', es)) (hc : c ∈ es) :
    Gives s.bot.store s'.bot.store c := by
  obtain ⟨b, events', -, hcode, hbot, rfl⟩ | ⟨_, _, _, _, _, _, -, -, -, rfl⟩ | ⟨-, -, rfl⟩ :=
    shopStep_cases hstep
  · rcases step_gifts hcode hbot with ⟨-, hnone⟩ | ⟨c', hgives, hone⟩
    · rw [hnone] at hc
      cases hc
    · rw [hone] at hc
      rw [List.mem_singleton.mp hc]
      exact hgives
  · cases hc
  · cases hc

/-- The invariant across a step that stores no code over another. -/
theorem ShopSound.step {events es : List Credit} {l : ShopLabel} (h : ShopSound events s)
    (hfresh : FreshCode rt s l) (hs : shopStep rt env s l = some (s', es)) :
    ShopSound (events ++ es) s' := by
  obtain ⟨b, events', rfl, hcode, hbot, rfl⟩ |
    ⟨pid, now, chatId, raw, action, _, rfl, ha, hbot, rfl⟩ | ⟨-, hbot, rfl⟩ := shopStep_cases hs
  · refine ⟨?_, ?_⟩
    · rcases step_section hbot with ⟨pid, now, action, pc, rfl, hf⟩ | ⟨-, hl⟩
      · exact firstSection_sound h.store hf hcode
      · exact hl.sound h.store
    · rcases step_gifts hcode hbot with ⟨hsame, hnone⟩ | ⟨c, hgives, hone⟩
      · rw [hnone, List.append_nil]
        exact h.gifts.same hsame
      · rw [hone]
        exact h.gifts.gives hgives
  · rw [List.append_nil]
    obtain ⟨hstore, hgifts, -⟩ := dialogue_stores h ha (hfresh action ha) hbot
    exact ⟨hstore, hgifts⟩
  · rw [List.append_nil]
    exact ⟨hbot ▸ h.store, hbot ▸ h.gifts⟩

/-- A step of the dialogues that stores no code over another leaves every code there is alone. -/
lemma dialogue_keeps_codes {events es : List Credit} {l : ShopLabel} (h : ShopSound events s)
    (hfresh : FreshCode rt s l) (hs : shopStep rt env s l = some (s', es)) (hl : ∀ b, l ≠ .bot b) :
    (∀ code e, s.bot.store.giftCodes.get? code = some e →
        s'.bot.store.giftCodes.get? code = some e) ∧
      ∀ code e, s.bot.store.discountCodes.get? code = some e →
        s'.bot.store.discountCodes.get? code = some e := by
  obtain ⟨b, _, rfl, -⟩ | ⟨pid, now, chatId, raw, action, _, rfl, ha, hbot, -⟩ | ⟨-, hbot, -⟩ :=
    shopStep_cases hs
  · exact absurd rfl (hl b)
  · exact (dialogue_stores h ha (hfresh action ha) hbot).2.2
  · rw [hbot]
    exact ⟨fun _ _ he => he, fun _ _ he => he⟩

end Steps

/-! ## Runs of the shop -/

variable {rt env}

lemma shopSound_fresh : ShopSound [] (Shop.fresh env) := by
  refine ⟨⟨⟨?_, ?_⟩, ?_⟩, ⟨fun _ => rfl, fun _ => rfl, ?_, ?_⟩⟩
  · intro code e he
    cases he
  · intro oid o ho
    cases ho
  · intro oid o ho
    cases ho
  · intro code e he
    cases he
  · intro code e he
    cases he

lemma shopSound_of_run {visited : List Shop} {events : List Credit} {s : Shop}
    (h : ((shop rt env).restrict (FreshCode rt)).Run (.fresh env) visited events s) :
    ShopSound events s := by
  refine h.invariant_events shopSound_fresh fun events s l s' es hinv hs => ?_
  obtain ⟨hfresh, hstep⟩ := Machine.restrict_step.mp hs
  exact hinv.step hfresh hstep

variable (rt env) in
/-- A credit of a run was paid: at a step of the run the gift code is used by the customer, whose
balance grows by what the code is worth, while all other balances stay. -/
def Credited (visited : List Shop) (c : Credit) : Prop :=
  ∃ before ∈ visited, ∃ after ∈ visited, ∃ l es,
    (shop rt env).step before l = some (after, es) ∧ c ∈ es ∧
      Gives before.bot.store after.bot.store c

/-- **The accounts of the codes.**  In every run from an empty store in which the last message of
a dialogue never comes when its code is already in the store: a discount code counts its users
and the orders that hold it, each user once and no more than it may have; the users of a gift
code are those credited with it, each once and no more than it may have, and every credit was paid;
a cancelled, rejected or expired order holds nothing, and an order costs between nothing and its
base; and no step of a dialogue touches a code that is there. -/
theorem code_accounting {visited : List Shop} {events : List Credit} {s : Shop}
    (h : ((shop rt env).restrict (FreshCode rt)).Run (.fresh env) visited events s) :
    (∀ code e, s.bot.store.discountCodes.get? code = some e →
        e.uses = e.usedBy.length ∧
        e.uses = (s.bot.store.orders.values.filter (Order.reserves code)).length ∧
        e.uses ≤ e.maxUses ∧ e.usedBy.Nodup) ∧
      (∀ code e, s.bot.store.giftCodes.get? code = some e →
        e.usedBy.Nodup ∧ (e.usedBy.length : ℤ) ≤ e.maxUses ∧
        e.usedBy = (events.filter fun c => c.code = code).map Credit.key) ∧
      (∀ c ∈ events, Credited rt env visited c) ∧
      (∀ oid o, s.bot.store.orders.get? oid = some o →
        (o.status = .cancelled ∨ o.status = .rejected ∨ o.status = .expired →
          o.discountReserved = false) ∧ 0 ≤ o.amount ∧ o.amount ≤ o.baseAmount) ∧
      ∀ l s' es, ((shop rt env).restrict (FreshCode rt)).step s l = some (s', es) →
        (∀ b, l ≠ .bot b) →
        (∀ code e, s.bot.store.giftCodes.get? code = some e →
          s'.bot.store.giftCodes.get? code = some e) ∧
        ∀ code e, s.bot.store.discountCodes.get? code = some e →
          s'.bot.store.discountCodes.get? code = some e := by
  have hsound := shopSound_of_run h
  refine ⟨fun code e he => ?_, fun code e he => ?_, fun c hc => ?_, fun oid o ho => ?_,
    fun l s' es hs hl => ?_⟩
  · have hcode := hsound.store.accounts.sound code e he
    have hlen := hcode.held.length_eq
    rw [holders, List.length_map] at hlen
    exact ⟨hcode.uses, by rw [hcode.uses, hlen], hcode.cap, hcode.once⟩
  · have hused := hsound.gifts.used code
    rw [usedByOf, he] at hused
    exact ⟨hsound.gifts.once code e he, hsound.gifts.cap code e he, hused⟩
  · obtain ⟨before, hbefore, after, hafter, l, es, hstep, hc⟩ := h.exists_step hc
    have hshop := (Machine.restrict_step.mp hstep).2
    exact ⟨before, hbefore, after, hafter, l, es, hshop, hc, shopStep_gives hshop hc⟩
  · have ho := hsound.store.orders oid o ho
    refine ⟨fun hs => ?_, ho.amount⟩
    cases hr : o.discountReserved with
    | false => rfl
    | true =>
      have hmay := ho.held hr
      rcases hs with hs | hs | hs <;> rw [hs] at hmay <;> cases hmay
  · obtain ⟨hfresh, hstep⟩ := Machine.restrict_step.mp hs
    exact dialogue_keeps_codes hsound hfresh hstep hl

/-! ## Two admins choose the same code -/

/-- A shop with two admins. -/
def exampleShop : Env := { exampleEnv with adminIds := [8, 9] }

/-- The messages of an admin who creates the discount code `OFF20`, up to the last one. -/
def promoMessages (chatId : ℤ) : List ShopLabel :=
  [.callback chatId .apromo, .text 2 0 chatId "off20", .callback chatId (.ptype .percent),
    .text 2 0 chatId "20", .text 2 0 chatId "5"]

/-- The last message, and the save of the code. -/
def promoDone (chatId : ℤ) : List ShopLabel :=
  .text 2 0 chatId "0" :: (saveSteps 2).map .bot

/-- A customer starts to pay an order with the code by card. -/
def payWithCode : List Label :=
  [.invoke 1 0 (.ensureUser 7 "u" "U")] ++ saveSteps 1 ++
    [.invoke 1 0 (.setCard "6037" "Owner")] ++ saveSteps 1 ++
    [.invoke 1 0 (.createOrder "O1" 7 .new none none (some 1000))] ++ saveSteps 1 ++
    [.invoke 1 0 (.applyDiscount "O1" 7 "OFF20")] ++ saveSteps 1 ++
    [.invoke 1 0 (.startCardPayment "O1" 7), .run 1 0] ++ saveSteps 1

theorem code_accounting_one_order : ∃ visited events s e,
    ((shop .ascii exampleShop).restrict (FreshCode .ascii)).Run (.fresh exampleShop) visited events s ∧
      s.bot.store.discountCodes.get? "OFF20" = some e ∧ e.usedBy = ["7"] ∧
      e.uses = (s.bot.store.orders.values.filter (Order.reserves "OFF20")).length := by
  have hrun : ((((shop .ascii exampleShop).restrict (FreshCode .ascii)).exec
      (promoMessages 8 ++ promoDone 8 ++ payWithCode.map .bot) (.fresh exampleShop)).any fun r =>
      (r.2.2.bot.store.discountCodes.get? "OFF20").any fun e => e.usedBy = ["7"]) = true := by
    decide +kernel
  obtain ⟨r, hr, hp⟩ := (Option.any_eq_true _ _).mp hrun
  obtain ⟨e, he, hused⟩ := (Option.any_eq_true _ _).mp hp
  have hall := Machine.Run.start.exec hr
  exact ⟨_, _, _, e, hall, he, of_decide_eq_true hused, ((code_accounting hall).1 "OFF20" e he).2.1⟩

/-- The second of two admins who chose the same code stores it over the first one's, and the
order that holds a use of it is no longer counted. -/
theorem code_replaced : ∃ visited events s e,
    (shop .ascii exampleShop).Run (.fresh exampleShop) visited events s ∧
      s.bot.store.discountCodes.get? "OFF20" = some e ∧ e.uses = 0 ∧
      (s.bot.store.orders.values.filter (Order.reserves "OFF20")).length = 1 := by
  have hrun : (((shop .ascii exampleShop).exec
      (promoMessages 8 ++ promoMessages 9 ++ promoDone 8 ++ payWithCode.map .bot ++ promoDone 9)
      (.fresh exampleShop)).any fun r =>
      (r.2.2.bot.store.discountCodes.get? "OFF20").any fun e =>
        e.uses = 0 ∧ (r.2.2.bot.store.orders.values.filter (Order.reserves "OFF20")).length = 1) =
      true := by
    decide +kernel
  obtain ⟨r, hr, hp⟩ := (Option.any_eq_true _ _).mp hrun
  obtain ⟨e, he, hfacts⟩ := (Option.any_eq_true _ _).mp hp
  obtain ⟨huses, hone⟩ := of_decide_eq_true hfacts
  exact ⟨_, _, _, e, Machine.Run.start.exec hr, he, huses, hone⟩

end Bot
