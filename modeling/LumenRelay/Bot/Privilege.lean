import LumenRelay.Bot.Delivery
import LumenRelay.Bot.Desk

/-!
# What customers can do at the desk

The dispatcher stops a customer before the words of the admins, and the pending actions of the
admins are only ever given to admins.  So the updates of customers, whatever data and texts they
carry and in whatever order they come, change nothing but what belongs to these customers.
-/

namespace Bot

open Lib Py Routing
open Provision (ShopKept PanelKept teamGroup finishOrder_kept newGroup)

variable {env : Env} {runtimes : Set Runtime} {team : List ℤ} {t : Turn} {d : Desk} {chatId : ℤ}

/-! ## The guard -/

lemma startsWith_self (word : String) : startsWith word word = true := by
  simp [startsWith]

/-- What a word of the dispatcher takes starts with it. -/
def StartsWith {τ : Type} (word : String) (take : String → Option τ) : Prop :=
  ∀ data tap, take data = some tap → startsWith word data = true

lemma startsWith_onWord {τ : Type} (word : String) (tap : τ) : StartsWith word (onWord word tap) := by
  intro data tap' h
  unfold onWord at h
  split at h
  · rename_i heq
    rw [heq]
    exact startsWith_self word
  · cases h

lemma startsWith_onCall {τ : Type} (word : String) (tap : String → τ) :
    StartsWith word (onCall word tap) := by
  intro data tap' h
  unfold onCall at h
  split at h
  · assumption
  · cases h

/-- **The guard covers the words of the admins**: each of them begins as the guard expects. -/
lemma guarded_of_adminWord {data : String} {tap : AdminTap} (h : firstOf adminWords data = some tap) :
    guarded data = true := by
  obtain ⟨take, htake, hdata⟩ := List.exists_of_findSome?_eq_some h
  have hword : ∃ word ∈ guardWords, StartsWith word take := by
    simp only [adminWords, List.mem_cons, List.not_mem_nil, or_false] at htake
    rcases htake with rfl | rfl | rfl | rfl | rfl | rfl | rfl | rfl | rfl | rfl | rfl | rfl | rfl |
      rfl | rfl | rfl
    · exact ⟨"admin", by simp [guardWords], startsWith_onWord _ _⟩
    · exact ⟨"assign", by simp [guardWords], startsWith_onWord _ _⟩
    · exact ⟨"asgn:", by simp [guardWords], startsWith_onCall _ _⟩
    · exact ⟨"asgncancel", by simp [guardWords], startsWith_onWord _ _⟩
    · exact ⟨"asgnok:", by simp [guardWords], startsWith_onCall _ _⟩
    · exact ⟨"ap:", by simp [guardWords], startsWith_onCall _ _⟩
    · exact ⟨"aord:", by simp [guardWords], startsWith_onCall _ _⟩
    · exact ⟨"areceipt:", by simp [guardWords], startsWith_onCall _ _⟩
    · exact ⟨"aok:", by simp [guardWords], startsWith_onCall _ _⟩
    · exact ⟨"ano:", by simp [guardWords], startsWith_onCall _ _⟩
    · exact ⟨"agift", by simp [guardWords], startsWith_onWord _ _⟩
    · exact ⟨"apromo", by simp [guardWords], startsWith_onWord _ _⟩
    · exact ⟨"ptype:", by simp [guardWords], startsWith_onCall _ _⟩
    · exact ⟨"acard", by simp [guardWords], startsWith_onWord _ _⟩
    · exact ⟨"aplans", by simp [guardWords], startsWith_onWord _ _⟩
    · exact ⟨"astats", by simp [guardWords], startsWith_onWord _ _⟩
  obtain ⟨word, hword, hstarts⟩ := hword
  exact List.any_eq_true.mpr ⟨word, hword, hstarts data tap hdata⟩

/-! ## Pending actions -/

/-- Whether a pending action is one that only admins are given. -/
def Pending.forAdmin : Pending → Bool
  | .cardNumber | .cardHolder _ | .proxyAssignment _ | .dialogue _ => true
  | .discount _ | .giftRedeem | .topupAmount | .receipt _ => false

/-- No customer has a pending action of an admin. -/
def Guarded (env : Env) (d : Desk) : Prop :=
  ∀ chatId p, d.pending.get? chatId = some p → p.forAdmin = true → chatId ∈ env.adminIds

/-- The pending actions of others stay, and a chat gets no action of an admin. -/
def Plain (chatId : ℤ) (d d' : Desk) : Prop :=
  ∀ k p, d'.pending.get? k = some p → d.pending.get? k = some p ∨ k = chatId ∧ p.forAdmin = false

/-- Only the pending action of a chat changes. -/
def OwnPending (chatId : ℤ) (d d' : Desk) : Prop :=
  ∀ k, k ≠ chatId → d'.pending.get? k = d.pending.get? k

lemma plain_of_eq {d d' : Desk} (h : d'.pending = d.pending) : Plain chatId d d' :=
  fun k p hp => .inl (by rw [← h]; exact hp)

lemma plain_await {d d' : Desk} {p : Pending} (h : d'.pending = d.pending.set chatId p)
    (hp : p.forAdmin = false) : Plain chatId d d' := by
  intro k q hq
  rw [h, Dict.get?_set] at hq
  split at hq
  · rename_i hk
    obtain rfl := Option.some.inj hq
    exact .inr ⟨hk, hp⟩
  · exact .inl hq

lemma plain_forget {d d' : Desk} (h : d'.pending = d.pending.erase chatId) : Plain chatId d d' := by
  intro k q hq
  rw [h, Dict.get?_erase] at hq
  split at hq
  · cases hq
  · exact .inl hq

lemma Guarded.plain {d d' : Desk} (h : Guarded env d) (hp : Plain chatId d d') : Guarded env d' := by
  intro k p hk hadmin
  rcases hp k p hk with hold | ⟨-, hplain⟩
  · exact h k p hold hadmin
  · rw [hplain] at hadmin
    cases hadmin

lemma Guarded.own {d d' : Desk} (h : Guarded env d) (hc : chatId ∈ env.adminIds)
    (hp : OwnPending chatId d d') : Guarded env d' := by
  intro k p hk hadmin
  by_cases hkc : k = chatId
  · rw [hkc]
    exact hc
  · rw [hp k hkc] at hk
    exact h k p hk hadmin

lemma ownPending_of_eq {d d' : Desk} (h : d'.pending = d.pending) : OwnPending chatId d d' :=
  fun _ _ => by rw [h]

lemma ownPending_await {d d' : Desk} {p : Pending} (h : d'.pending = d.pending.set chatId p) :
    OwnPending chatId d d' := fun k hk => by rw [h, Dict.get?_set_ne hk]

lemma ownPending_forget {d d' : Desk} (h : d'.pending = d.pending.erase chatId) :
    OwnPending chatId d d' := fun k hk => by rw [h, Dict.get?_erase_ne hk]

/-! ## Buttons that only show something -/

/-- The buttons of the customers that change nothing. -/
def Tap.shows : Tap → Bool
  | .plans | .services | .svc _ | .cfg _ | .sub _ | .renew | .ren _ | .wallet | .guide => true
  | _ => false

/-- The buttons of the admins that change nothing. -/
def AdminTap.shows : AdminTap → Bool
  | .admin | .assign | .ap _ | .aord _ | .areceipt _ | .aplans | .astats => true
  | _ => false

lemma handleTap_shows {tap : Tap} (h : tap.shows = true) : (handleTap env t d chatId tap).1 = d := by
  cases tap with
  | plans | wallet | guide => rfl
  | services | svc | sub | renew | ren =>
    unfold handleTap
    dsimp only
    split <;> rfl
  | cfg =>
    unfold handleTap
    dsimp only
    split
    · rfl
    · split <;> rfl
  | _ => cases h

lemma handleAdminTap_shows {tap : AdminTap} (h : tap.shows = true) :
    (handleAdminTap env t d chatId tap).1 = d := by
  cases tap with
  | admin | areceipt | aplans | astats => rfl
  | assign | ap | aord =>
    unfold handleAdminTap
    dsimp only
    split <;> rfl
  | _ => cases h

/-! ## The pending actions after a button -/

lemma takeOrder_pending (t : Turn) (d : Desk) (chatId : ℤ) (kind : Kind) (plan : Plan)
    (serviceId : Option String) : (takeOrder t d chatId kind plan serviceId).1.pending = d.pending := by
  unfold takeOrder
  split <;> rfl

lemma payOrder_pending (env : Env) (t : Turn) (d : Desk) (chatId : ℤ) (oid : String) (source : Source)
    (paid : String) : (payOrder env t d chatId oid source paid).1.pending = d.pending := by
  unfold payOrder
  split
  · rfl
  · split <;> rfl

/-- No button of the customers gives a chat an action of an admin. -/
lemma handleTap_plain (env : Env) (t : Turn) (d : Desk) (chatId : ℤ) (tap : Tap) :
    Plain chatId d (handleTap env t d chatId tap).1 := by
  by_cases hshows : tap.shows = true
  · rw [handleTap_shows hshows]
    exact plain_of_eq rfl
  · cases tap with
    | menu => exact plain_forget rfl
    | cancel oid => exact plain_of_eq rfl
    | cancelpay oid => exact plain_forget rfl
    | topup => exact plain_await rfl rfl
    | gift => exact plain_await rfl rfl
    | payw oid => exact plain_of_eq (payOrder_pending ..)
    | free oid => exact plain_of_eq (payOrder_pending ..)
    | buy planId =>
      unfold handleTap
      dsimp only
      split
      · exact plain_of_eq rfl
      · split
        · exact plain_of_eq rfl
        · exact plain_of_eq (takeOrder_pending ..)
    | rplan choice =>
      unfold handleTap
      dsimp only
      split
      · exact plain_of_eq rfl
      · exact plain_of_eq (takeOrder_pending ..)
    | disc oid =>
      unfold handleTap
      dsimp only
      split
      · exact plain_of_eq rfl
      · exact plain_await rfl rfl
    | payc oid =>
      unfold handleTap payByCard
      dsimp only
      split
      · exact plain_of_eq rfl
      · dsimp only
        split
        · exact plain_await rfl rfl
        · exact plain_of_eq rfl
    | _ => exact absurd rfl hshows

/-- A button of the admins changes the pending action of its own chat only. -/
lemma handleAdminTap_own (env : Env) (t : Turn) (d : Desk) (chatId : ℤ) (tap : AdminTap) :
    OwnPending chatId d (handleAdminTap env t d chatId tap).1 := by
  by_cases hshows : tap.shows = true
  · rw [handleAdminTap_shows hshows]
    exact ownPending_of_eq rfl
  · cases tap with
    | asgncancel => exact ownPending_forget rfl
    | agift => exact ownPending_await rfl
    | apromo => exact ownPending_await rfl
    | acard => exact ownPending_await rfl
    | asgn code =>
      unfold handleAdminTap
      dsimp only
      split
      · exact ownPending_of_eq rfl
      · exact ownPending_await rfl
    | asgnok code =>
      unfold handleAdminTap confirmAssignment
      dsimp only
      split
      · split
        · split
          · exact ownPending_forget rfl
          · exact ownPending_forget rfl
        · exact ownPending_of_eq rfl
      · exact ownPending_of_eq rfl
    | aok oid =>
      unfold handleAdminTap approveOrder
      dsimp only
      split <;> exact ownPending_of_eq rfl
    | ano oid =>
      unfold handleAdminTap rejectOrder
      dsimp only
      split <;> exact ownPending_of_eq rfl
    | ptype type =>
      unfold handleAdminTap chooseType
      dsimp only
      split
      · split
        · exact ownPending_of_eq rfl
        · exact ownPending_await rfl
        · exact ownPending_await rfl
      · exact ownPending_of_eq rfl
    | _ => exact absurd rfl hshows

/-- A message makes an action of an admin only out of another one. -/
lemma handleMessage_forAdmin {rt : Runtime} {now : ℤ} {c : Chat} {msg : Message}
    {oid : { oid : String // oid ≠ "" }} {p : Pending}
    (h : (c.handleMessage rt env now msg oid).1.pending = some p) (hp : p.forAdmin = true) :
    ∃ q, c.pending = some q ∧ q.forAdmin = true := by
  have hpending : ∀ {c : Chat} {text : String} {q : Pending}, c.pending = some q →
      (c.handlePendingText rt env now msg.chatId oid text q).1.pending = some p →
      q.forAdmin = true := by
    intro c text q hq h
    by_contra hno
    have hsame : c.pending = some p → False := by
      intro heq
      rw [hq] at heq
      rw [Option.some.inj heq] at hno
      exact hno hp
    unfold Chat.handlePendingText at h
    cases q with
    | dialogue | cardNumber | cardHolder | proxyAssignment => exact hno rfl
    | discount orderId =>
      dsimp only at h
      split at h
      · cases h
      · unfold Chat.readValue at h
        dsimp only at h
        split at h
        · exact hsame h
        · split at h
          · exact hsame h
          · cases h
    | giftRedeem =>
      dsimp only at h
      split at h
      · cases h
      · unfold Chat.readValue at h
        dsimp only at h
        split at h
        · exact hsame h
        · split at h
          · exact hsame h
          · cases h
    | topupAmount =>
      dsimp only at h
      split at h
      · cases h
      · unfold Chat.readValue Chat.topup at h
        dsimp only at h
        split at h
        · exact hsame h
        · split at h
          · exact hsame h
          · split at h
            · cases h
            · -- the receipt that is waited for is no action of an admin
              rw [← Option.some.inj h] at hp
              cases hp
    | receipt orderId =>
      dsimp only at h
      split at h
      · cases h
      · exact hsame h
  unfold Chat.handleMessage at h
  dsimp only at h
  split at h
  · cases h
  · split at h
    · cases h
    · split at h
      · exact ⟨p, h, hp⟩
      · cases hq : c.pending with
        | none =>
          rw [hq] at h
          cases h
        | some q =>
          rw [hq] at h
          refine ⟨q, rfl, ?_⟩
          dsimp only at h
          split at h
          · rw [Option.some.inj h]
            exact hp
          · exact hpending rfl h

lemma putChat_pending (d : Desk) (chatId : ℤ) (c : Chat) (k : ℤ) :
    (d.putChat chatId c).pending.get? k = if k = chatId then c.pending else d.pending.get? k := by
  unfold Desk.putChat
  cases c.pending with
  | none => exact Dict.get?_erase ..
  | some p => exact Dict.get?_set ..

lemma handleText_guarded (h : Guarded env d) (t : Turn) (msg : Message) :
    Guarded env (handleText env t d msg).1 := by
  intro k p hk hadmin
  unfold handleText at hk
  dsimp only at hk
  rw [putChat_pending] at hk
  split at hk
  · rename_i hkc
    obtain ⟨q, hq, hqadmin⟩ := handleMessage_forAdmin hk hadmin
    rw [hkc]
    exact h msg.chatId q hq hqadmin
  · exact h k p hk hadmin

lemma handleReceipt_plain (env : Env) (t : Turn) (d : Desk) (chatId : ℤ) (receipt : Receipt) :
    Plain chatId d (handleReceipt env t d chatId receipt).1 := by
  unfold handleReceipt
  split
  · exact plain_of_eq rfl
  · split
    · exact plain_forget rfl
    · exact plain_forget rfl

lemma dispatch_guarded (h : Guarded env d) (t : Turn) (chatId : ℤ) (data : String) :
    Guarded env (dispatch env t d chatId data).1 := by
  unfold dispatch
  split
  · exact h.plain (handleTap_plain env t d chatId _)
  · split
    · exact h
    · rename_i hguard
      split
      · rename_i tap htap
        -- a word of the admins was taken, so the guard has let an admin pass
        have hadmin : chatId ∈ env.adminIds := by
          simpa [guarded_of_adminWord htap] using hguard
        exact h.own hadmin (handleAdminTap_own env t d chatId tap)
      · exact h

/-- Whatever update is handled, the actions of the admins stay with the admins. -/
lemma handleUpdate_guarded (h : Guarded env d) (t : Turn) (u : Update) :
    Guarded env (handleUpdate env t d u).1 := by
  have hmeet : ∀ chatId username firstName, Guarded env (meet t d chatId username firstName) :=
    fun _ _ _ => h
  cases u with
  | text msg => exact handleText_guarded h t msg
  | attachment chatId username firstName a =>
    unfold handleUpdate handleAttachment
    dsimp only
    split
    · exact (hmeet _ _ _).plain (handleReceipt_plain env t _ chatId _)
    · exact handleText_guarded h t _
  | callback cb =>
    unfold handleUpdate handleCallback
    dsimp only
    split_ifs
    · exact h
    · exact h
    · exact h
    · exact dispatch_guarded (hmeet _ _ _) t cb.chatId cb.data

lemma deskStep_guarded (h : Guarded env d) {l : DeskLabel} {d' : Desk} {es : List Reply}
    (hstep : deskStep env d l = some (d', es)) : Guarded env d' := by
  obtain ⟨t, u, -, -, rfl, -⟩ | ⟨server, op, -, rfl, -⟩ := deskStep_cases hstep
  · exact handleUpdate_guarded h t u
  · exact h

lemma guarded_opened (env : Env) (shop : Provision.Shop) : Guarded env (.opened shop) := by
  intro k p hk
  cases hk

/-- In every state that is reached, no customer has a pending action of an admin. -/
lemma guarded_of_run {shop : Provision.Shop} {visited : List Desk} {events : List Reply}
    (h : (desk env).Run (.opened shop) visited events d) : Guarded env d :=
  h.invariant (guarded_opened env shop) fun _ _ _ _ hd hs => deskStep_guarded hd hs

/-! ## What a button of a customer changes -/

/-- What an update changes in the store alone. -/
lemma shopKept_put {st : Store} (h : ∀ grants, Kept team grants (ordersBound team) d.store st) :
    ShopKept runtimes team d.shop (d.put st).shop := .of_store (h _)

lemma takeOrder_kept (hc : chatId ∈ team) (hfresh : d.store.orders.get? t.oid = none) (kind : Kind)
    (plan : Plan) (serviceId : Option String) :
    ShopKept runtimes team d.shop (takeOrder t d chatId kind plan serviceId).1.shop := by
  unfold takeOrder
  split
  · exact .refl _
  · rename_i st order horder
    exact shopKept_put fun _ => createOrderLocked_kept hc hfresh horder

lemma payOrder_kept (hrt : t.rt ∈ runtimes) (hc : chatId ∈ team)
    (hfresh : d.panel.subs.contains (State.generateUuid t.rt t.subDraw) = false) (oid : String)
    {source : Source} (hsource : source ≠ .card) (paid : String) :
    ShopKept runtimes team d.shop (payOrder env t d chatId oid source paid).1.shop := by
  unfold payOrder
  split
  · exact .refl _
  · rename_i order horder
    obtain ⟨ho, huser⟩ := Option.filter_eq_some_iff.mp horder
    have hown : ∀ o, d.store.orders.get? oid = some o → o.userId ∈ team := by
      intro o ho'
      obtain rfl := Option.some.inj (ho.symm.trans ho')
      rw [of_decide_eq_true huser]
      exact hc
    have hkept : ShopKept runtimes team d.shop
        (Provision.finishOrder (t.attempt env none source) oid d.shop).2 :=
      finishOrder_kept hrt hsource hfresh hown
    split <;> rename_i hrun <;> rw [hrun] at hkept <;> exact hkept

lemma payByCard_kept (hc : chatId ∈ team) (oid : String) :
    ShopKept runtimes team d.shop (payByCard env t d chatId oid).1.shop := by
  have hkept : ∀ grants, Kept team grants (ordersBound team) d.store
      (startCardLocked t.rt t.now env (expireStaleLocked t.rt t.now env d.store).1 oid chatId).1 :=
    fun _ => (expireStaleLocked_kept env d.store).trans (startCardLocked_kept hc env oid)
  unfold payByCard
  split
  · rename_i hrun
    rw [hrun] at hkept
    exact shopKept_put hkept
  · rename_i hrun
    rw [hrun] at hkept
    dsimp only
    split
    · exact shopKept_put hkept
    · exact shopKept_put hkept

/-- **A button of the customers**, whatever its data. -/
lemma handleTap_kept (hrt : t.rt ∈ runtimes) (hc : chatId ∈ team) (hfresh : t.fresh d = true)
    (tap : Tap) :
    ShopKept runtimes team d.shop (handleTap env t d chatId tap).1.shop := by
  simp only [Turn.fresh, Bool.and_eq_true, Bool.not_eq_true'] at hfresh
  obtain ⟨hoid, hgroup⟩ := hfresh
  have hoid := Dict.contains_eq_false_iff.mp hoid
  by_cases hshows : tap.shows = true
  · rw [handleTap_shows hshows]
    exact .refl _
  · cases tap with
    | menu => exact .refl _
    | topup => exact .refl _
    | gift => exact .refl _
    | payw oid => exact payOrder_kept hrt hc hgroup oid (by simp) _
    | free oid => exact payOrder_kept hrt hc hgroup oid (by simp) _
    | payc oid => exact payByCard_kept hc oid
    | cancel oid => exact shopKept_put fun _ => cancelOrderLocked_kept hc oid
    | cancelpay oid => exact shopKept_put fun _ => cancelWaitingLocked_kept hc oid
    | buy planId =>
      unfold handleTap
      dsimp only
      split
      · exact .refl _
      · split
        · exact .refl _
        · exact takeOrder_kept hc hoid _ _ _
    | rplan choice =>
      unfold handleTap
      dsimp only
      split
      · exact .refl _
      · exact takeOrder_kept hc hoid _ _ _
    | disc oid =>
      unfold handleTap
      dsimp only
      split <;> exact .refl _
    | _ => exact absurd rfl hshows

/-! ## What a message of a customer changes -/

/-- The value that a pending action of a customer waits for. -/
lemma readValue_kept {rt : Runtime} {now : ℤ} {c : Chat} {p : Pending} {text : String}
    {oid : { oid : String // oid ≠ "" }} {grants : String → Prop} (hc : chatId ∈ team)
    (hp : p.forAdmin = false) (hfresh : c.store.orders.get? oid = none) :
    Kept team grants (ordersBound team) c.store
      (c.readValue rt env now chatId oid text p).1.store := by
  unfold Chat.readValue
  cases p with
  | dialogue | cardNumber | cardHolder | proxyAssignment => cases hp
  | receipt orderId => exact .refl _
  | discount orderId =>
    dsimp only
    split
    · exact .refl _
    · rename_i code _
      have hkept : Kept team grants (ordersBound team) c.store
          (applyDiscountLocked rt now c.store orderId chatId code).1 :=
        applyDiscountLocked_kept hc orderId code
      split
      · exact .refl _
      · rename_i hrun
        rw [hrun] at hkept
        exact hkept
  | giftRedeem =>
    dsimp only
    split
    · exact .refl _
    · rename_i code _
      split
      · exact .refl _
      · rename_i st amount hrun
        have hkept : Kept team grants (ordersBound team) c.store
            (redeemGiftLocked rt now c.store chatId code).1 := redeemGiftLocked_kept hc code
        rw [hrun] at hkept
        exact hkept
  | topupAmount =>
    dsimp only
    unfold Chat.topup
    split
    · exact .refl _
    · split
      · exact .refl _
      · rename_i st order horder
        have hkept : Kept team grants (ordersBound team) c.store
            (startCardLocked rt now env (expireStaleLocked rt now env st).1 oid chatId).1 :=
          (createOrderLocked_kept hc hfresh horder).trans
            ((expireStaleLocked_kept env st).trans (startCardLocked_kept hc env oid))
        split
        · rename_i hrun
          rw [hrun] at hkept
          exact hkept
        · rename_i hrun
          rw [hrun] at hkept
          exact hkept

/-- A text message of a customer. -/
lemma handleMessage_kept {rt : Runtime} {now : ℤ} {c : Chat} {msg : Message}
    {oid : { oid : String // oid ≠ "" }} {grants : String → Prop} (hc : msg.chatId ∈ team)
    (hplain : ∀ p, c.pending = some p → p.forAdmin = false)
    (hfresh : c.store.orders.get? oid = none) :
    Kept team grants (ordersBound team) c.store (c.handleMessage rt env now msg oid).1.store := by
  have hmeet : Kept team grants (ordersBound team) c.store
      (ensureUserLocked rt now c.store msg.chatId msg.username msg.firstName).1 :=
    ensureUserLocked_kept hc _ _
  have hfresh' : (ensureUserLocked rt now c.store msg.chatId msg.username msg.firstName).1.orders.get?
      oid = none := by
    rw [(ensureUserLocked_same rt now c.store msg.chatId msg.username msg.firstName).1]
    exact hfresh
  unfold Chat.handleMessage
  dsimp only
  split
  · exact hmeet
  · split
    · exact hmeet
    · split
      · exact hmeet
      · split
        · rename_i p hp
          have hp' := hplain p hp
          split
          · exact hmeet
          · refine hmeet.trans ?_
            unfold Chat.handlePendingText
            split
            · cases hp'
            · split
              · unfold Chat.cancelPending
                split
                · exact cancelWaitingLocked_kept hc _
                · exact .refl _
              · exact readValue_kept (c := ⟨_, c.pending⟩) hc hp' hfresh'
        · exact hmeet

lemma putChat_shop (d : Desk) (chatId : ℤ) (c : Chat) : (d.putChat chatId c).shop = (d.put c.store).shop := by
  unfold Desk.putChat
  cases c.pending <;> rfl

lemma handleText_kept {msg : Message} (hguarded : Guarded env d) (hc : msg.chatId ∈ team)
    (hno : msg.chatId ∉ env.adminIds) (hfresh : d.store.orders.get? t.oid = none) :
    ShopKept runtimes team d.shop (handleText env t d msg).1.shop := by
  unfold handleText
  dsimp only
  rw [putChat_shop]
  refine shopKept_put fun grants => handleMessage_kept (c := d.chat msg.chatId) hc ?_ hfresh
  intro p hp
  by_contra hadmin
  exact hno (hguarded msg.chatId p hp (by simpa using hadmin))

/-! ## What an update of a customer changes -/

lemma meet_kept (hc : chatId ∈ team) (username firstName : String) :
    ShopKept runtimes team d.shop (meet t d chatId username firstName).shop :=
  shopKept_put fun _ => ensureUserLocked_kept hc username firstName

/-- Meeting a customer takes no id that may be drawn. -/
lemma fresh_meet (hfresh : t.fresh d = true) (username firstName : String) :
    t.fresh (meet t d chatId username firstName) = true := by
  have horders : (meet t d chatId username firstName).store.orders = d.store.orders :=
    (ensureUserLocked_same t.rt t.now d.store chatId username firstName).1
  unfold Turn.fresh
  rw [horders]
  exact hfresh

lemma handleReceipt_kept (hc : chatId ∈ team) (receipt : Receipt) :
    ShopKept runtimes team d.shop (handleReceipt env t d chatId receipt).1.shop := by
  have hkept : ∀ grants, Kept team grants (ordersBound team) d.store
      (submitReceiptLocked t.rt t.now d.store chatId receipt (awaited d chatId)).1 :=
    fun _ => submitReceiptLocked_kept hc receipt _
  unfold handleReceipt
  split
  · rename_i hrun
    rw [hrun] at hkept
    exact shopKept_put hkept
  · rename_i hrun
    rw [hrun] at hkept
    split
    · exact shopKept_put hkept
    · exact shopKept_put hkept

lemma dispatch_kept (hrt : t.rt ∈ runtimes) (hc : chatId ∈ team) (hno : chatId ∉ env.adminIds)
    (hfresh : t.fresh d = true) (data : String) :
    ShopKept runtimes team d.shop (dispatch env t d chatId data).1.shop := by
  unfold dispatch
  split
  · exact handleTap_kept hrt hc hfresh _
  · split
    · exact .refl _
    · rename_i hguard
      split
      · rename_i tap htap
        exact absurd (by simpa [guarded_of_adminWord htap] using hguard) hno
      · exact .refl _

/-- **An update of a customer** changes nothing that does not belong to the customers who act. -/
lemma handleUpdate_kept {u : Update} (hrt : t.rt ∈ runtimes) (hguarded : Guarded env d)
    (hc : u.chatId ∈ team) (hno : u.chatId ∉ env.adminIds) (hfresh : t.fresh d = true) :
    ShopKept runtimes team d.shop (handleUpdate env t d u).1.shop := by
  have hoid : d.store.orders.get? t.oid = none := by
    simp only [Turn.fresh, Bool.and_eq_true, Bool.not_eq_true'] at hfresh
    exact Dict.contains_eq_false_iff.mp hfresh.1
  cases u with
  | text msg => exact handleText_kept hguarded hc hno hoid
  | attachment chatId username firstName a =>
    unfold handleUpdate handleAttachment
    dsimp only
    split
    · exact (meet_kept hc username firstName).trans (handleReceipt_kept hc _)
    · exact handleText_kept hguarded hc hno hoid
  | callback cb =>
    unfold handleUpdate handleCallback
    dsimp only
    split_ifs
    · exact .refl _
    · exact .refl _
    · exact .refl _
    · exact (meet_kept hc _ _).trans (dispatch_kept hrt hc hno (fresh_meet hfresh _ _) cb.data)

/-! ## Whole runs -/

section Runs

variable {shop : Provision.Shop} {d' : Desk} {visited visited' : List Desk} {events events' : List Reply}

/-- A step of customers. -/
lemma deskStep_customers (hteam : ∀ c ∈ team, c ∉ env.adminIds) (hguarded : Guarded env d)
    {l : DeskLabel} {es : List Reply} (hstep : deskStep env d l = some (d', es))
    (hl : ofTeamOnly team l) (hrt : runsOn runtimes l) : ShopKept runtimes team d.shop d'.shop := by
  obtain ⟨t, u, rfl, hfresh, rfl, -⟩ | ⟨server, op, rfl, rfl, -⟩ := deskStep_cases hstep
  · exact handleUpdate_kept hrt hguarded hl (hteam _ hl) hfresh
  · exact hl.elim

/-- A step of customers, or of the panel. -/
lemma deskStep_store (hteam : ∀ c ∈ team, c ∉ env.adminIds) (hguarded : Guarded env d)
    {l : DeskLabel} {es : List Reply} (hstep : deskStep env d l = some (d', es))
    (hl : ofTeam team l) : Kept team (fun _ => True) (ordersBound team) d.store d'.store := by
  obtain ⟨t, u, rfl, hfresh, rfl, -⟩ | ⟨server, op, rfl, rfl, -⟩ := deskStep_cases hstep
  · exact (handleUpdate_kept (Set.mem_univ t.rt) hguarded hl (hteam _ hl) hfresh).store.mono
      fun _ _ => trivial
  · exact .refl _

/-- **Privilege separation, the store.**  After any run of the bot let customers send any updates in
any order, with operations of the panel in between.  The settings are the same, codes keep their
terms and get no other users, other customers keep their records, and orders of others stay or
expire; no order that is paid by card, or is closed, becomes approved. -/
theorem customers_confined (hteam : ∀ c ∈ team, c ∉ env.adminIds)
    (hbefore : (desk env).Run (.opened shop) visited events d)
    (hrun : ((desk env).restrict fun _ l => ofTeam team l).Run d visited' events' d') :
    Kept team (fun _ => True) (ordersBound team) d.store d'.store := by
  refine (hrun.within (I := Guarded env)
    (R := fun d d' => Kept team (fun _ => True) (ordersBound team) d.store d'.store)
    (fun d => .refl _) (fun h h' => h.trans h') (guarded_of_run hbefore) ?_).2
  intro d l d' es hguarded hstep
  obtain ⟨hl, hstep⟩ := Machine.restrict_step.mp hstep
  exact ⟨deskStep_guarded hguarded hstep, deskStep_store hteam hguarded hstep hl⟩

lemma exampleOid_ne_empty : "O2" ≠ "" := by decide

/-- What an update of the example is handled with. -/
def exampleTurn : Turn where
  server := .bare .sample
  now := 0
  endedAt := 0
  subDraw := 1
  token := ⟨"token", token_ne_empty, token_urlSafe⟩
  linkDraw := 2
  oid := ⟨"O2", exampleOid_ne_empty⟩
  host := "localhost"

/-- A button as its customer presses it in the private chat. -/
def press (chatId : ℤ) (data : String) : Update := .callback ⟨chatId, chatId, "u", "U", true, data⟩

/-- A customer sends the data of an approval for the order that waits for payment. -/
theorem forged_approval :
    Kept [7] (fun _ => True) (ordersBound [7]) (Desk.opened Provision.openShop).store
      (handleUpdate exampleEnv exampleTurn (.opened Provision.openShop) (press 7 "aok:O1")).1.store :=
  customers_confined (by decide) .start
    (run_update (List.mem_singleton_self 7) (by decide +kernel))

/-- **Privilege separation, the panel.**  As long as only customers act, no link that was there gets
another exit or another owner, the services and the groups of others stay as they are, and a link
that is new belongs to nobody or to one of these customers.  Whose service a link is, is read by the
runtimes that the updates are handled by. -/
theorem customers_confined_panel [DecidablePred (· ∈ runtimes)]
    (hteam : ∀ c ∈ team, c ∉ env.adminIds)
    (hbefore : (desk env).Run (.opened shop) visited events d)
    (hrun : ((desk env).restrict fun _ l => ofTeamOnly team l ∧ runsOn runtimes l).Run d
      visited' events' d') :
    PanelKept runtimes team (teamGroup team d.store) d.panel d'.panel := by
  have hkept : ShopKept runtimes team d.shop d'.shop := by
    refine (hrun.within (I := Guarded env) (R := fun d d' => ShopKept runtimes team d.shop d'.shop)
      (fun d => .refl _) (fun h h' => h.trans h') (guarded_of_run hbefore) ?_).2
    intro d l d' es hguarded hstep
    obtain ⟨⟨hl, hrt⟩, hstep⟩ := Machine.restrict_step.mp hstep
    exact ⟨deskStep_guarded hguarded hstep, deskStep_customers hteam hguarded hstep hl hrt⟩
  exact hkept.panel

/-- The customer pays the order from the wallet, and one runtime is at work. -/
theorem payment_confined :
    PanelKept {.sample} [7] (teamGroup [7] (Desk.opened Provision.openShop).store)
      Provision.openShop.world.panel
      (handleUpdate exampleEnv exampleTurn (.opened Provision.openShop) (press 7 "payw:O1")).1.panel := by
  have : DecidablePred fun rt => rt ∈ ({.sample} : Set Runtime) := Classical.decPred _
  exact customers_confined_panel (d := .opened Provision.openShop) (by decide) .start
    (run_update ⟨List.mem_singleton_self 7, Set.mem_singleton _⟩ (by decide +kernel))

end Runs

end Bot
