import LumenRelay.Routing.Scan
import LumenRelay.Routing.MultiLocation
import LumenRelay.Bot.Data

/-!
# Legacy percentages and the assignment of exits

A line of the proxy list ends with a percentage, which nothing measures any more and which is not
to be used for routing.  The preferred proxies and the exits of sessions indeed do not depend on
it.  The assignment of an exit to the links of the shop does: of the proxies of a country it takes
the one with the largest percentage.
-/

namespace Bot

open Lib Py Routing

variable {rt : Runtime}

/-! ## The functions of the program -/

/-- What the bot compares proxies by. -/
def standing (record : Record) : ℤ ×ₗ String := toLex (record.health, record.id)

/-- The better one of two proxies. -/
def better (current record : Record) : Record :=
  if standing current < standing record then record else current

/-- `max` of some proxies. -/
def topOf : List Record → Option Record
  | [] => none
  | record :: rows => some (rows.foldl better record)

/-- One more proxy for `by_code`. -/
def putBest (best : Dict String Record) (record : Record) : Dict String Record :=
  match best.get? record.code with
  | none => best.set record.code record
  | some current =>
    if standing current < standing record then best.set record.code record else best

/-- `by_code`: the best proxy of each country. -/
def byCode (rows : List Record) : Dict String Record := rows.foldl putBest .empty

/-- A country that can be assigned. -/
structure Target where
  code : String
  country : String
  flag : String
deriving DecidableEq

/-- The country of a proxy. -/
def targetOf (record : Record) : Target := ⟨record.code, record.country, record.flag⟩

/-- What the countries are listed by: the name and the code. -/
def place (record : Record) : String ×ₗ String := toLex (record.country, record.code)

/-- The best proxies of the countries, in the order of their names. -/
def leaders (cat : Catalog rt) : List Record :=
  (byCode cat.records.values).values.insertionSort (place · ≤ place ·)

/-- `_assignment_targets`. -/
def assignmentTargets (cat : Catalog rt) : List Target := ((leaders cat).take 30).map targetOf

/-- `_eligible_assignment_links`. -/
def eligibleAssignmentLinks (rt : Runtime) (users : Dict String User) (links : Dict String Obj) :
    List (String × Obj) :=
  links.entries.filter fun e => (Obj.get e.2 "store_managed").truthy &&
    users.contains ((Obj.getD e.2 "owner_telegram_id" (.str "")).toStr rt)

/-- What is told about an assignment. -/
structure Assigned where
  target : Target
  eligible : ℕ
  updated : ℕ
  skipped : ℕ
  failed : ℕ
deriving DecidableEq

/-- The assignment of a proxy to one link; the counters are those of the links that have been
changed and of those that have the proxy already. -/
def assignLink (proxyId : String) (acc : Dict String Obj × ℕ × ℕ) (e : String × Obj) :
    Dict String Obj × ℕ × ℕ :=
  if Obj.get e.2 "exit_proxy_mode" = .str "repository" ∧ Obj.get e.2 "proxy_id" = .str proxyId then
    (acc.1, acc.2.1, acc.2.2 + 1)
  else
    (acc.1.set e.1 (Obj.update e.2 [("exit_proxy_mode", .str "repository"),
      ("proxy_id", .str proxyId), ("custom_proxy", .str "")]), acc.2.1 + 1, acc.2.2)

/-- `_apply_proxy_assignment`, with the links afterwards.  A state that cannot be saved is
reported by `save_state`, not raised. -/
def applyProxyAssignment (env : Env) (cat : Catalog rt) (users : Dict String User)
    (links : Dict String Obj) (adminId : ℤ) (countryCode : String) :
    Except String Assigned × Dict String Obj :=
  if adminId ∉ env.adminIds then (.error "دسترسی ادمین لازم است", links)
  else
    match (assignmentTargets cat).find? fun target => target.code = countryCode with
    | none => (.error "موقعیت انتخاب‌شده دیگر در دسترس نیست.", links)
    | some target =>
      match topOf (recordsForCountry rt cat.records countryCode) with
      | none => (.error "موقعیت انتخاب‌شده دیگر در دسترس نیست.", links)
      | some record =>
        let eligible := eligibleAssignmentLinks rt users links
        let done := eligible.foldl (assignLink record.id) (links, 0, 0)
        (.ok ⟨target, eligible.length, done.2.1, done.2.2, 0⟩, done.1)

/-! ## Lists in order -/

section ordered

variable {α : Type*} {r : α → α → Prop} [Std.Asymm r]

/-- The first elements of an ordered list are those that have few elements before them. -/
lemma mem_take_iff [DecidableRel r] {l : List α} (hl : l.Pairwise r) {n : ℕ} {x : α} :
    x ∈ l.take n ↔ x ∈ l ∧ (l.filter fun y => r y x).length < n := by
  induction l generalizing n with
  | nil => simp
  | cons a l ih =>
    obtain ⟨ha, hl⟩ := List.pairwise_cons.mp hl
    cases n with
    | zero => simp
    | succ n =>
      rw [List.take_succ_cons, List.mem_cons, List.mem_cons, ih hl]
      constructor
      · rintro (rfl | ⟨hx, hcount⟩)
        · -- nothing comes before the first element
          have hnone : ((x :: l).filter fun y => r y x) = [] := by
            rw [List.filter_eq_nil_iff]
            intro y hy
            rw [decide_eq_true_iff]
            rcases List.mem_cons.mp hy with rfl | hy
            · exact fun h => Std.Asymm.asymm _ _ h h
            · exact Std.Asymm.asymm _ _ (ha y hy)
          exact ⟨.inl rfl, by rw [hnone]; exact Nat.succ_pos n⟩
        · refine ⟨.inr hx, ?_⟩
          rw [List.filter_cons_of_pos (by simpa using ha x hx), List.length_cons]
          omega
      · rintro ⟨rfl | hx, hcount⟩
        · exact .inl rfl
        · rw [List.filter_cons_of_pos (by simpa using ha x hx), List.length_cons] at hcount
          exact .inr ⟨hx, by omega⟩

/-- Two ordered lists begin alike when the first elements of each occur in the other. -/
lemma take_eq_take {l l' : List α} (hl : l.Pairwise r) (hl' : l'.Pairwise r) {n : ℕ}
    (h : ∀ x ∈ l.take n, x ∈ l') (h' : ∀ x ∈ l'.take n, x ∈ l) : l.take n = l'.take n := by
  induction n generalizing l l' with
  | zero => simp
  | succ n ih =>
    cases l with
    | nil =>
      cases l' with
      | nil => rfl
      | cons b l' => exact absurd (h' b (by simp)) (by simp)
    | cons a l =>
      cases l' with
      | nil => exact absurd (h a (by simp)) (by simp)
      | cons b l' =>
        obtain ⟨ha, hrest⟩ := List.pairwise_cons.mp hl
        obtain ⟨hb, hrest'⟩ := List.pairwise_cons.mp hl'
        simp only [List.take_succ_cons, List.mem_cons, forall_eq_or_imp] at h h' ⊢
        -- each of the two first elements would come before the other
        have hab : a = b := by
          rcases h.1 with hab | hab
          · exact hab
          · rcases h'.1 with hba | hba
            · exact hba.symm
            · exact absurd (ha b hba) (Std.Asymm.asymm _ _ (hb a hab))
        subst hab
        have hirr : ¬ r a a := fun h => Std.Asymm.asymm _ _ h h
        refine congrArg (a :: ·) (ih hrest hrest' ?_ ?_)
        · intro x hx
          rcases h.2 x hx with rfl | hx'
          · exact absurd (ha x (List.mem_of_mem_take hx)) hirr
          · exact hx'
        · intro x hx
          rcases h'.2 x hx with rfl | hx'
          · exact absurd (hb x (List.mem_of_mem_take hx)) hirr
          · exact hx'

end ordered

/-! ## The best proxy of a country -/

/-- The best of some proxies. -/
structure IsTop (rows : List Record) (row : Record) : Prop where
  mem : row ∈ rows
  greatest : ∀ other ∈ rows, standing other ≤ standing row

/-- What `better` keeps is one of the two and not worse than either. -/
lemma better_spec (current record : Record) :
    (better current record = current ∨ better current record = record) ∧
      standing current ≤ standing (better current record) ∧
      standing record ≤ standing (better current record) := by
  unfold better
  split
  next hlt => exact ⟨.inr rfl, hlt.le, le_rfl⟩
  next hge => exact ⟨.inl rfl, le_rfl, not_lt.mp hge⟩

lemma isTop_foldl_better (rows : List Record) (current : Record) :
    IsTop (current :: rows) (rows.foldl better current) := by
  induction rows generalizing current with
  | nil => exact ⟨by simp, by simp⟩
  | cons record rows ih =>
    obtain ⟨hmem, hcurrent, hrecord⟩ := better_spec current record
    have htop := ih (better current record)
    have hle := htop.greatest (better current record) (by simp)
    rw [List.foldl_cons]
    constructor
    · rcases List.mem_cons.mp htop.mem with hrow | hrow
      · rw [hrow]
        rcases hmem with h | h
        · simp [h]
        · simp [h]
      · simp [hrow]
    · intro other hother
      rcases List.mem_cons.mp hother with rfl | hother
      · exact hcurrent.trans hle
      · rcases List.mem_cons.mp hother with rfl | hother
        · exact hrecord.trans hle
        · exact htop.greatest other (by simp [hother])

/-- `max` returns the best one. -/
lemma isTop_of_topOf {rows : List Record} {row : Record} (h : topOf rows = some row) :
    IsTop rows row := by
  cases rows with
  | nil => cases h
  | cons record rows =>
    obtain rfl := Option.some.inj h
    exact isTop_foldl_better rows record

lemma topOf_eq_none {rows : List Record} : topOf rows = none ↔ rows = [] := by
  cases rows with
  | nil => simp [topOf]
  | cons record rows => simp [topOf]

lemma exists_topOf {rows : List Record} {row : Record} (h : row ∈ rows) :
    ∃ top, topOf rows = some top := by
  cases rows with
  | nil => exact absurd h (by simp)
  | cons record rows => exact ⟨_, rfl⟩

/-- Proxies that compare alike have the same id. -/
lemma id_eq_of_standing {row row' : Record} (h : standing row = standing row') : row.id = row'.id :=
  congrArg (fun s : ℤ ×ₗ String => (ofLex s).2) h

/-- The best proxy is unique when no two have the same id. -/
lemma IsTop.unique {rows : List Record} (hids : ∀ row ∈ rows, ∀ row' ∈ rows, row.id = row'.id → row = row')
    {row row' : Record} (h : IsTop rows row) (h' : IsTop rows row') : row = row' :=
  hids row h.mem row' h'.mem
    (id_eq_of_standing (le_antisymm (h'.greatest row h.mem) (h.greatest row' h'.mem)))

/-! ## The countries -/

/-- The proxies with this very code. -/
def ofCode (rows : List Record) (code : String) : List Record :=
  rows.filter fun row => row.code = code

lemma mem_ofCode {rows : List Record} {code : String} {row : Record} :
    row ∈ ofCode rows code ↔ row ∈ rows ∧ row.code = code := by
  simp [ofCode]

lemma get?_putBest (best : Dict String Record) (record : Record) (code : String) :
    (putBest best record).get? code =
      if record.code = code then
        some (((best.get? code).map fun current => better current record).getD record)
      else best.get? code := by
  unfold putBest
  split_ifs with hcode
  · subst hcode
    cases hbest : best.get? record.code with
    | none => simp
    | some current =>
      dsimp only [better, Option.map_some, Option.getD_some]
      split
      · simp
      · exact hbest
  · split
    · exact Dict.get?_set_ne (Ne.symm hcode) best record
    · split
      · exact Dict.get?_set_ne (Ne.symm hcode) best record
      · rfl

/-- `by_code` after some more proxies. -/
lemma get?_foldl_putBest (rows : List Record) (best : Dict String Record) (code : String) :
    (rows.foldl putBest best).get? code =
      match best.get? code with
      | none => topOf (ofCode rows code)
      | some current => some ((ofCode rows code).foldl better current) := by
  induction rows generalizing best with
  | nil =>
    rw [List.foldl_nil]
    cases best.get? code with
    | none => rfl
    | some current => rfl
  | cons record rows ih =>
    rw [List.foldl_cons, ih, get?_putBest]
    by_cases hcode : record.code = code
    · rw [if_pos hcode, show ofCode (record :: rows) code = record :: ofCode rows code from
        List.filter_cons_of_pos (by simpa using hcode)]
      cases best.get? code with
      | none => rfl
      | some current => rfl
    · rw [if_neg hcode, show ofCode (record :: rows) code = ofCode rows code from
        List.filter_cons_of_neg (by simpa using hcode)]

/-- `by_code` holds the best proxy of each country. -/
lemma get?_byCode (rows : List Record) (code : String) :
    (byCode rows).get? code = topOf (ofCode rows code) :=
  get?_foldl_putBest rows .empty code

/-! ## The list of countries -/

section leaders

variable {cat : Catalog rt}

/-- No two proxies of a catalog have the same id. -/
lemma id_inj {row row' : Record} (h : row ∈ cat.records.values) (h' : row' ∈ cat.records.values)
    (hid : row.id = row'.id) : row = row' := by
  obtain ⟨key, hkey⟩ := Dict.mem_values_iff.mp h
  obtain ⟨key', hkey'⟩ := Dict.mem_values_iff.mp h'
  have hsame : key = key' := by
    rw [← cat.keyed key row hkey, ← cat.keyed key' row' hkey', hid]
  rw [hsame, hkey'] at hkey
  exact (Option.some.inj hkey).symm

/-- The proxy is the best one of its country. -/
def Leads (cat : Catalog rt) (row : Record) : Prop :=
  IsTop (ofCode cat.records.values row.code) row

lemma topOf_ofCode {code : String} {row : Record} :
    topOf (ofCode cat.records.values code) = some row ↔ row.code = code ∧ Leads cat row := by
  constructor
  · intro h
    have htop := isTop_of_topOf h
    obtain ⟨hrow, rfl⟩ := mem_ofCode.mp htop.mem
    exact ⟨rfl, htop⟩
  · rintro ⟨rfl, h⟩
    obtain ⟨top, htop⟩ := exists_topOf h.mem
    have hids : ∀ a ∈ ofCode cat.records.values row.code,
        ∀ b ∈ ofCode cat.records.values row.code, a.id = b.id → a = b :=
      fun a ha b hb => id_inj (mem_ofCode.mp ha).1 (mem_ofCode.mp hb).1
    rw [htop, IsTop.unique hids (isTop_of_topOf htop) h]

/-- A country with a proxy has a best one. -/
lemma exists_leads {row : Record} (h : row ∈ cat.records.values) :
    ∃ best, Leads cat best ∧ best.code = row.code := by
  obtain ⟨best, hbest⟩ := exists_topOf (mem_ofCode.mpr ⟨h, rfl⟩)
  obtain ⟨hcode, hleads⟩ := topOf_ofCode.mp hbest
  exact ⟨best, hleads, hcode⟩

lemma Leads.mem {row : Record} (h : Leads cat row) : row ∈ cat.records.values :=
  (mem_ofCode.mp (IsTop.mem h)).1

/-- There is one best proxy of a country. -/
lemma Leads.unique {row row' : Record} (h : Leads cat row) (h' : Leads cat row')
    (hcode : row.code = row'.code) : row = row' := by
  have htop := topOf_ofCode.mpr ⟨hcode, h⟩
  rw [topOf_ofCode.mpr ⟨rfl, h'⟩] at htop
  exact (Option.some.inj htop).symm

lemma mem_leaders {row : Record} : row ∈ leaders cat ↔ Leads cat row := by
  unfold leaders
  rw [List.mem_insertionSort, Dict.mem_values_iff]
  simp only [get?_byCode, topOf_ofCode]
  constructor
  · rintro ⟨code, -, h⟩
    exact h
  · exact fun h => ⟨row.code, rfl, h⟩

/-- No country is listed twice. -/
lemma nodup_leaders : ((leaders cat).map Record.code).Nodup := by
  have hperm : ((leaders cat).map Record.code).Perm ((byCode cat.records.values).keys) := by
    have hcodes : (byCode cat.records.values).values.map Record.code =
        (byCode cat.records.values).keys := by
      rw [Dict.values.eq_1 (byCode _), Dict.keys, List.map_map]
      refine List.map_congr_left fun e he => ?_
      have hget := Dict.mem_entries_iff.mp (show (e.1, e.2) ∈ _ from he)
      rw [get?_byCode, topOf_ofCode] at hget
      exact hget.1
    rw [← hcodes]
    exact (List.perm_insertionSort _ _).map _
  exact hperm.nodup_iff.mpr (byCode cat.records.values).nodup

/-- The countries stand in the order of their places. -/
lemma pairwise_leaders : (leaders cat).Pairwise fun row row' => place row < place row' := by
  have htotal : Std.Total fun row row' : Record => place row ≤ place row' :=
    ⟨fun row row' => le_total (place row) (place row')⟩
  have htrans : IsTrans Record fun row row' => place row ≤ place row' :=
    ⟨fun _ _ _ => le_trans⟩
  have hsorted : (leaders cat).Pairwise fun row row' => place row ≤ place row' :=
    List.pairwise_insertionSort _ _
  have hcodes : (leaders cat).Pairwise fun row row' => row.code ≠ row'.code :=
    List.pairwise_map.mp nodup_leaders
  refine (hsorted.and hcodes).imp ?_
  rintro row row' ⟨hle, hne⟩
  refine lt_of_le_of_ne hle fun heq => hne ?_
  exact congrArg (fun p : String ×ₗ String => (ofLex p).2) heq

open Classical in
/-- The best proxy of a country that is listed: there are fewer than thirty countries before it,
by the names that their best proxies give them and by their codes. -/
def Listed (cat : Catalog rt) (row : Record) : Prop :=
  Leads cat row ∧
    (cat.records.values.toFinset.filter fun other =>
      Leads cat other ∧ place other < place row).card < 30

/-- The first thirty countries are those that are listed. -/
lemma mem_take_leaders {row : Record} : row ∈ (leaders cat).take 30 ↔ Listed cat row := by
  classical
  have hasymm : Std.Asymm fun row row' : Record => place row < place row' := ⟨fun _ _ => lt_asymm⟩
  rw [mem_take_iff pairwise_leaders, mem_leaders]
  refine and_congr_right fun _ => ?_
  have hnodup : ((leaders cat).filter fun other => place other < place row).Nodup :=
    (List.Nodup.of_map _ nodup_leaders).filter _
  rw [← List.toFinset_card_of_nodup hnodup]
  have hset : ((leaders cat).filter fun other => place other < place row).toFinset =
      cat.records.values.toFinset.filter fun other => Leads cat other ∧ place other < place row := by
    ext other
    simp only [List.mem_toFinset, List.mem_filter, Finset.mem_filter, mem_leaders,
      decide_eq_true_eq]
    exact ⟨fun h => ⟨h.1.mem, h⟩, fun h => h.2⟩
  rw [hset]

end leaders

end Bot
