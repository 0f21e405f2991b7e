import LumenRelay.Bot.Provision
import LumenRelay.Session.Links
import Mathlib.Algebra.Order.Monoid.WithTop
import Mathlib.Data.Int.ConditionallyCompleteOrder

/-!
# What a renewal leaves of a link

The quota that is left of a link and the instant at which it ends are compared before and after
a renewal.  A limit of zero and a missing date are the unlimited ones, and the largest here.
-/

namespace Provision

open Lib Py Routing State Bot

/-! ## What is left of a link -/

/-- `int(link.get(key, 0) or 0)`. -/
def counter (rt : Runtime) (link : Obj) (key : String) : Except PyErr ℤ :=
  ((link.getD key (.int 0)).or (.int 0)).toInt rt

/-- The same counter; a value that is not a number counts for nothing. -/
def counterOr (rt : Runtime) (link : Obj) (key : String) : ℤ :=
  ((counter rt link key).toOption).getD 0

/-- The bytes that are left of a link; a limit that is not positive is none, as for
`is_link_allowed`. -/
def remainingQuota (rt : Runtime) (link : Obj) : WithTop ℤ :=
  if 0 < counterOr rt link "limit_bytes" then
    ((max 0 (counterOr rt link "limit_bytes" - counterOr rt link "used_bytes") : ℤ) : WithTop ℤ)
  else ⊤

/-- The instant at which a link ends; a date that cannot be read is none, as for
`is_link_expired`. -/
def expiry (rt : Runtime) (link : Obj) : WithTop ℤ :=
  match link.get "expires_at" with
  | .str date => if date = "" then ⊤ else ((rt.fromisoformat date).elim ⊤ fun t => (t : WithTop ℤ))
  | _ => ⊤

/-- A link is expired when its end is in the past. -/
lemma isLinkExpired_iff (server : Server) (link : Obj) :
    Session.isLinkExpired server link = true ↔ expiry server.site.rt link < (server.now : ℤ) := by
  unfold Session.isLinkExpired expiry
  cases link.get "expires_at" with
  | str date =>
    dsimp only
    cases server.site.rt.fromisoformat date with
    | none => simp
    | some t =>
      by_cases hempty : date = ""
      · simp [hempty]
      · simp [hempty]
  | _ => simp

/-- Nothing is taken away by a renewal at an instant. -/
structure NothingTaken (rt : Runtime) (now : ℤ) (plan : Plan) (link link' : Obj) : Prop where
  quota : remainingQuota rt link + (plan.quotaBytes : ℤ) ≤ remainingQuota rt link'
  expiry : max (now : WithTop ℤ) (expiry rt link) + ((plan.days * day : ℤ) : WithTop ℤ) ≤
    expiry rt link'

/-- The link is limited, or the plan does not limit it either. -/
def LimitKept (rt : Runtime) (plan : Plan) (link : Obj) : Prop :=
  0 < counterOr rt link "limit_bytes" ∨
    max 0 (counterOr rt link "limit_bytes" - counterOr rt link "used_bytes") + plan.quotaBytes ≤ 0

/-- What is written for an instant is read back. -/
structure IsoDates (rt : Runtime) : Prop where
  ne_empty : ∀ t, 0 ≤ t → t ≤ lastInstant → rt.isoformat t ≠ ""
  read_back : ∀ t, 0 ≤ t → t ≤ lastInstant → rt.fromisoformat (rt.isoformat t) = some t

/-! ## The fields of a renewal -/

/-- A field that is assigned once has its value. -/
lemma find_update {fields : List (String × Json)} (hnd : (fields.map Prod.fst).Nodup)
    {key : String} {v : Json} (h : (key, v) ∈ fields) (link : Obj) :
    (link.update fields).find key = some v := by
  induction fields generalizing link with
  | nil => simp at h
  | cons e fields ih =>
    obtain ⟨hfirst, hnd⟩ := List.nodup_cons.mp hnd
    rcases List.mem_cons.mp h with rfl | h
    · change ((link.set key v).update fields).find key = some v
      rw [find_update_ne hfirst, find_set_self]
    · exact ih hnd h (link.set e.1 e.2)

variable {a : Attempt} {order : Order} {link : Obj} {fields : List (String × Json)}

/-- What a renewal has computed. -/
lemma renewal_fields (h : renewal a order link = .ok fields) :
    ∃ plan expiresAt, order.plan = some plan ∧
      daysAfter a.server.site.rt (max a.server.now (serviceEnd a.server.site.rt a.server.now link))
        plan.days = .ok expiresAt ∧
      (link.update fields).get "limit_bytes" = .int
        (max 0 (counterOr a.server.site.rt link "limit_bytes" -
          counterOr a.server.site.rt link "used_bytes") + plan.quotaBytes) ∧
      (link.update fields).get "used_bytes" = .int 0 ∧
      (link.update fields).get "expires_at" = .str expiresAt := by
  unfold renewal at h
  obtain ⟨oldLimit, hlimit, h⟩ := bind_eq_ok h
  obtain ⟨oldUsed, hused, h⟩ := bind_eq_ok h
  cases hplan : order.plan with
  | none =>
    rw [hplan] at h
    cases h
  | some plan =>
    rw [hplan] at h
    obtain ⟨expiresAt, hexpires, h⟩ := bind_eq_ok h
    obtain rfl := Except.ok.inj h
    have hlimit' : counterOr a.server.site.rt link "limit_bytes" = oldLimit := by
      rw [counterOr, counter, hlimit]
      rfl
    have hused' : counterOr a.server.site.rt link "used_bytes" = oldUsed := by
      rw [counterOr, counter, hused]
      rfl
    rw [hlimit', hused']
    refine ⟨plan, expiresAt, rfl, hexpires, ?_, ?_, ?_⟩
    all_goals
      refine get_of_find (find_update (by simp) ?_ link)
      simp

/-! ## Quota and time -/

/-- A counter that is a number. -/
lemma counterOr_of_get {rt : Runtime} {key : String} {n : ℤ} (h : link.get key = .int n) :
    counterOr rt link key = n := by
  have hfield : link.getD key (.int 0) = .int n := Session.getD_of_get h (by simp) _
  unfold counterOr counter
  rw [hfield]
  by_cases hn : n = 0
  · subst hn
    rfl
  · rw [Json.or, if_pos (by simpa [Json.truthy] using hn)]
    rfl

/-- The quota grows by that of the plan, unless an unlimited link gets a limit. -/
lemma quota_le_iff {rt : Runtime} {plan : Plan} {link' : Obj}
    (hlimit : link'.get "limit_bytes" = .int (max 0 (counterOr rt link "limit_bytes" -
      counterOr rt link "used_bytes") + plan.quotaBytes))
    (hused : link'.get "used_bytes" = .int 0) :
    remainingQuota rt link + (plan.quotaBytes : ℤ) ≤ remainingQuota rt link' ↔
      LimitKept rt plan link := by
  have hafter : remainingQuota rt link' =
      if 0 < max 0 (counterOr rt link "limit_bytes" - counterOr rt link "used_bytes") +
        plan.quotaBytes then
        ((max 0 (counterOr rt link "limit_bytes" - counterOr rt link "used_bytes") +
          plan.quotaBytes : ℤ) : WithTop ℤ) else ⊤ := by
    unfold remainingQuota
    rw [counterOr_of_get hlimit, counterOr_of_get hused]
    split_ifs with hpos
    · rw [sub_zero, max_eq_right hpos.le]
    · rfl
  rw [hafter]
  unfold remainingQuota LimitKept
  by_cases hlimited : 0 < counterOr rt link "limit_bytes"
  · rw [if_pos hlimited]
    refine iff_of_true ?_ (.inl hlimited)
    split_ifs
    · rw [← WithTop.coe_add]
    · exact le_top
  · rw [if_neg hlimited, WithTop.top_add, top_le_iff]
    split_ifs with hpos
    · refine iff_of_false (WithTop.coe_ne_top) ?_
      rintro (hpos' | hle)
      · exact hlimited hpos'
      · omega
    · exact iff_of_true rfl (.inr (not_lt.mp hpos))

lemma serviceEnd_of_expiry {rt : Runtime} {now t : ℤ} (h : expiry rt link = t) :
    serviceEnd rt now link = t := by
  unfold expiry at h
  unfold serviceEnd
  cases hdate : link.get "expires_at" with
  | str date =>
    rw [hdate] at h
    dsimp only at h ⊢
    split_ifs at h ⊢ with hempty
    · exact absurd h.symm WithTop.coe_ne_top
    · cases hread : rt.fromisoformat date with
      | none =>
        rw [hread] at h
        exact absurd h.symm WithTop.coe_ne_top
      | some t' =>
        rw [hread] at h
        exact WithTop.coe_eq_coe.mp h
  | _ =>
    rw [hdate] at h
    exact absurd h.symm WithTop.coe_ne_top

/-- The date that was written is the end of the link. -/
lemma expiry_written {rt : Runtime} (hdates : IsoDates rt) {base days : ℤ} {date : String}
    {link' : Obj} (hdate : daysAfter rt base days = .ok date)
    (hget : link'.get "expires_at" = .str date) :
    expiry rt link' = ((base + days * day : ℤ) : WithTop ℤ) := by
  unfold daysAfter at hdate
  split_ifs at hdate with hrange
  obtain rfl := Except.ok.inj hdate
  unfold expiry
  rw [hget]
  dsimp only
  rw [if_neg (hdates.ne_empty _ hrange.1 hrange.2), hdates.read_back _ hrange.1 hrange.2]
  rfl

/-- The days are added to the later of the present and the end of the link, unless the link did
not end. -/
lemma expiry_le_iff {rt : Runtime} (hdates : IsoDates rt) {now days : ℤ} {date : String}
    {link' : Obj} (hdate : daysAfter rt (max now (serviceEnd rt now link)) days = .ok date)
    (hget : link'.get "expires_at" = .str date) :
    max (now : WithTop ℤ) (expiry rt link) + ((days * day : ℤ) : WithTop ℤ) ≤ expiry rt link' ↔
      expiry rt link ≠ ⊤ := by
  rw [expiry_written hdates hdate hget]
  cases hend : expiry rt link with
  | top =>
    rw [max_eq_right le_top, WithTop.top_add, top_le_iff]
    exact iff_of_false WithTop.coe_ne_top (fun h => h rfl)
  | coe t =>
    rw [serviceEnd_of_expiry hend, ← WithTop.coe_max, ← WithTop.coe_add]
    exact iff_of_true le_rfl WithTop.coe_ne_top

/-- A renewal takes nothing away exactly when the link was limited in both quota and time; a link
without a limit keeps its quota also under a plan that does not limit it. -/
theorem renewal_takes_nothing_iff {a : Attempt} {order : Order} {s s' : Shop} {uid : String}
    (hdates : IsoDates a.server.site.rt) (h : provisionRenew a order s = (.ok uid, s')) :
    ∃ link link' plan, s.world.panel.links.get? uid = some link ∧
      s'.world.panel.links.get? uid = some link' ∧ order.plan = some plan ∧
      (NothingTaken a.server.site.rt a.server.now plan link link' ↔
        LimitKept a.server.site.rt plan link ∧ expiry a.server.site.rt link ≠ ⊤) := by
  rcases provisionRenew_cases a order s with ⟨e, herror⟩ |
    ⟨uid', link, fields, s₁, hok, -, hlink, hfields, hlinks⟩
  · rw [herror] at h
    cases h
  · rw [hok] at h
    obtain ⟨huid, rfl⟩ := Prod.mk.inj h
    obtain rfl := Except.ok.inj huid
    obtain ⟨plan, date, hplan, hdate, hlimit, hused, hexpires⟩ := renewal_fields hfields
    refine ⟨link, link.update fields, plan, hlink, ?_, hplan, ?_⟩
    · rw [hlinks, Dict.get?_set_self]
    · constructor
      · intro hnothing
        exact ⟨(quota_le_iff hlimit hused).mp hnothing.quota,
          (expiry_le_iff hdates hdate hexpires).mp hnothing.expiry⟩
      · rintro ⟨hquota, hend⟩
        exact ⟨(quota_le_iff hlimit hused).mpr hquota,
          (expiry_le_iff hdates hdate hexpires).mpr hend⟩

/-! ## A renewed month -/

/-- A date of the two months that are renewed below is written as a date, any other one by its
microseconds. -/
def dateText (t : ℤ) : String :=
  if t = 0 then "0001-01-01T00:00:00"
  else if t = 30 * day then "0001-01-31T00:00:00"
  else String.ofList (Nat.toDigits 10 t.toNat)

/-- The instant of a text. -/
def dateOf (s : String) : Option ℤ :=
  if s = "0001-01-01T00:00:00" then some 0
  else if s = "0001-01-31T00:00:00" then some (30 * day)
  else some (Nat.ofDigitChars 10 s.toList 0)

/-- A text with a dash is not made of digits. -/
lemma digits_ne {n : ℕ} {s : String} (h : '-' ∈ s.toList) :
    String.ofList (Nat.toDigits 10 n) ≠ s := by
  rintro rfl
  rw [String.toList_ofList] at h
  have hdash := Nat.isDigit_of_mem_toDigits (by omega) (by omega) h
  exact absurd hdash (by decide)

lemma dateOf_dateText (t : ℤ) (h : 0 ≤ t) : dateOf (dateText t) = some t := by
  unfold dateText
  by_cases hzero : t = 0
  · subst hzero
    rfl
  · rw [if_neg hzero]
    by_cases hmonth : t = 30 * day
    · subst hmonth
      rw [if_pos rfl, dateOf, if_neg (by decide), if_pos rfl]
    · rw [if_neg hmonth, dateOf, if_neg (digits_ne (by decide)), if_neg (digits_ne (by decide)),
        String.toList_ofList, Nat.ofDigitChars_ten_toDigits]
      exact congrArg some (Int.toNat_of_nonneg h)

/-- The library with dates. -/
def dateRuntime : Runtime :=
  { Runtime.ascii with
    isoformat := dateText
    fromisoformat := dateOf
    jsonLoads_dumps := by
      intro _ _ _ h
      cases h
    jsonLoads_cut := by
      intro _ _ _ _ h
      cases h }

lemma dateRuntime_isoDates : IsoDates dateRuntime where
  ne_empty t ht _ h := by
    have hread : dateOf (dateText t) = some t := dateOf_dateText t ht
    have hempty : dateText t = "" := h
    rw [hempty] at hread
    -- an empty text would be the digits of zero, which is written as a date
    obtain rfl : (0 : ℤ) = t := Option.some.inj hread
    exact absurd hempty (by decide)
  read_back t ht _ := dateOf_dateText t ht

/-- A plan of thirty days. -/
def monthPlan : Plan := ⟨"m1", "Month", 50, "50 B", 30, 50000, false, true⟩

/-- The order that renews a service. -/
def renewalOrder : Order where
  id := "O1"
  userId := 7
  kind := .renew
  planId := some "m1"
  plan := some monthPlan
  serviceId := some "service"
  baseAmount := 50000
  discountAmount := 0
  discountCode := none
  discountReserved := false
  amount := 50000
  paymentMethod := some .wallet
  status := .processing
  createdAt := "0001-01-01T00:00:00"
  cancelledAt := none
  paymentStartedAt := none
  receipt := none
  receiptAt := none
  reviewerId := none
  processingAt := none
  lastError := none
  approvedAt := none
  rejectedAt := none

/-- The attempt to provision it. -/
def renewalAttempt : Attempt where
  reviewerId := none
  source := .wallet
  env := ⟨"", "", "", "", [9], 24, 2⟩
  server := .bare dateRuntime
  beganAt := 0
  endedAt := 0
  subDraw := 1
  token := ⟨"token", token_ne_empty, token_urlSafe⟩
  linkDraw := 2

/-- The shop with one link. -/
def shopWith (link : Obj) : Shop where
  store := defaultStore ⟨"", "", "", "", [9], 24, 2⟩
  world := ⟨⟨Dict.empty.set "service" link, .empty, .empty, .empty, .null⟩, []⟩

/-- A link that ends now and has sixty bytes left. -/
def limitedLink : Obj :=
  [("owner_telegram_id", .int 7), ("limit_bytes", .int 100), ("used_bytes", .int 40),
    ("expires_at", .str "0001-01-01T00:00:00")]

/-- A link without limits. -/
def unlimitedLink : Obj :=
  [("owner_telegram_id", .int 7), ("limit_bytes", .int 0), ("used_bytes", .int 40),
    ("expires_at", .null)]

/-- The link with sixty bytes left is renewed, and nothing is taken from it. -/
theorem month_takes_nothing : ∃ link link' plan,
    (shopWith limitedLink).world.panel.links.get? "service" = some link ∧
      (provisionRenew renewalAttempt renewalOrder
        (shopWith limitedLink)).2.world.panel.links.get? "service" = some link' ∧
      renewalOrder.plan = some plan ∧ NothingTaken dateRuntime 0 plan link link' := by
  have hrenew : provisionRenew renewalAttempt renewalOrder (shopWith limitedLink) =
      (.ok "service", (provisionRenew renewalAttempt renewalOrder (shopWith limitedLink)).2) :=
    Prod.ext rfl rfl
  obtain ⟨link, link', plan, hlink, hlink', hplan, hiff⟩ :=
    renewal_takes_nothing_iff (a := renewalAttempt) dateRuntime_isoDates hrenew
  have hlimited : limitedLink = link := Option.some.inj hlink
  subst hlimited
  have hlimit : LimitKept dateRuntime plan limitedLink := .inl (by decide)
  have hexpiry : expiry dateRuntime limitedLink ≠ ⊤ := by
    change ((0 : ℤ) : WithTop ℤ) ≠ ⊤
    exact WithTop.coe_ne_top
  exact ⟨limitedLink, link', plan, rfl, hlink', hplan, hiff.mpr ⟨hlimit, hexpiry⟩⟩

/-- What a renewal makes of the link without limits. -/
def renewedUnlimited : Obj :=
  unlimitedLink.update [("limit_bytes", .int 50), ("used_bytes", .int 0),
    ("expires_at", .str "0001-01-31T00:00:00"), ("active", .bool true),
    ("protocol", .str "vless-ws"), ("fingerprint", .str defaultFingerprint),
    ("alpn", .str "http/1.1"), ("port", .int defaultPort), ("store_order_id", .str "O1"),
    ("store_plan_id", .str "m1"), ("store_managed", .bool true)]

/-- A link without limits has some after its renewal. -/
theorem unlimited_link_limited : ∃ s',
    provisionRenew renewalAttempt renewalOrder (shopWith unlimitedLink) = (.ok "service", s') ∧
      s'.world.panel.links.get? "service" = some renewedUnlimited ∧
      remainingQuota dateRuntime unlimitedLink = ⊤ ∧
      remainingQuota dateRuntime renewedUnlimited = (50 : ℤ) ∧
      expiry dateRuntime unlimitedLink = ⊤ ∧
      expiry dateRuntime renewedUnlimited = ((30 * day : ℤ) : WithTop ℤ) ∧
      ¬ NothingTaken dateRuntime 0 monthPlan unlimitedLink renewedUnlimited := by
  have hquota : remainingQuota dateRuntime unlimitedLink = ⊤ := rfl
  have hquota' : remainingQuota dateRuntime renewedUnlimited = (50 : ℤ) := rfl
  refine ⟨_, Prod.ext rfl rfl, rfl, hquota, hquota', rfl, rfl, fun h => ?_⟩
  have hle := h.quota
  rw [hquota, hquota', WithTop.top_add, top_le_iff] at hle
  exact WithTop.coe_ne_top hle

end Provision
