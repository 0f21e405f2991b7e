import LumenRelay.Bot.Assignment
import LumenRelay.Bot.Ledger

/-!
# Decisions that do not depend on the legacy percentages

Two runs of the program are compared, on catalogs that differ in the percentages only.  The
preferred proxies and the exits of sessions are the same in both.  The countries that the bot
offers, and the proxy that it assigns to the links of the shop, are the same exactly when the
percentages leave each listed country the same best proxy.
-/

namespace Bot

open Lib Py Routing

variable {rt : Runtime}

/-! ## Catalogs up to the percentages -/

/-- A proxy without its percentage. -/
def withoutHealth (record : Record) : Record := { record with health := 0 }

/-- The same records in the same order, apart from the percentages. -/
def SameButHealth (cat cat' : Catalog rt) : Prop :=
  cat.records.mapVal (fun _ record => withoutHealth record) =
    cat'.records.mapVal fun _ record => withoutHealth record

instance (cat cat' : Catalog rt) : Decidable (SameButHealth cat cat') :=
  inferInstanceAs (Decidable (Dict.mapVal _ _ = Dict.mapVal _ _))

namespace SameButHealth

variable {cat cat' : Catalog rt}

lemma symm (h : SameButHealth cat cat') : SameButHealth cat' cat := Eq.symm h

lemma values (h : SameButHealth cat cat') :
    cat.records.values.map withoutHealth = cat'.records.values.map withoutHealth := by
  have hvalues := congrArg Dict.values h
  simpa [Dict.values, Dict.mapVal, Assoc.mapVal, Function.comp_def] using hvalues

/-- The proxies of a country differ in their percentages only. -/
lemma filter (h : SameButHealth cat cat') (p : Record → Bool)
    (hp : ∀ record, p (withoutHealth record) = p record) :
    (cat.records.values.filter p).map withoutHealth =
      (cat'.records.values.filter p).map withoutHealth := by
  have hcomp : (p ∘ withoutHealth) = p := funext hp
  have hfilter := congrArg (List.filter p) h.values
  rwa [List.filter_map, List.filter_map, hcomp] at hfilter

lemma recordsForCountry (h : SameButHealth cat cat') (code : String) :
    (recordsForCountry rt cat.records code).map withoutHealth =
      (Routing.recordsForCountry rt cat'.records code).map withoutHealth :=
  h.filter _ fun _ => rfl

/-- A field other than the percentage is the same for the proxies of a country. -/
lemma map_eq {α : Type*} {rows rows' : List Record}
    (h : rows.map withoutHealth = rows'.map withoutHealth) (f : Record → α)
    (hf : ∀ record, f (withoutHealth record) = f record) : rows.map f = rows'.map f := by
  have hmap := congrArg (List.map f) h
  rw [List.map_map, List.map_map] at hmap
  rwa [show (f ∘ withoutHealth) = f from funext hf] at hmap

/-- A proxy is found in both catalogs or in none. -/
lemma getRecord (h : SameButHealth cat cat') (proxyId : String) :
    (cat.getRecord proxyId).map withoutHealth = (cat'.getRecord proxyId).map withoutHealth := by
  have hget := congrArg (fun d => Dict.get? d proxyId) h
  simpa [Catalog.getRecord] using hget

end SameButHealth

/-! ## What does not depend on the percentages -/

section unaffected

variable {cat cat' : Catalog rt}

lemma idsOf_congr (h : SameButHealth cat cat') (code : String) : idsOf cat code = idsOf cat' code := by
  unfold idsOf
  rw [SameButHealth.map_eq (h.recordsForCountry code) Record.id fun _ => rfl]

lemma selectPreferredForCountry_congr (h : SameButHealth cat cat') (tests : Dict String Obj)
    (preferred : Dict String String) (code : String) (expected : Finset String) :
    selectPreferredForCountry cat tests preferred code expected =
      selectPreferredForCountry cat' tests preferred code expected := by
  unfold selectPreferredForCountry
  rw [idsOf_congr h, SameButHealth.map_eq (h.recordsForCountry code) Record.id fun _ => rfl]

/-- A proxy that is found in one catalog is found in the other with the same id, address and
country. -/
lemma getRecord_cases (h : SameButHealth cat cat') (proxyId : String) :
    (cat.getRecord proxyId = none ∧ cat'.getRecord proxyId = none) ∨
      ∃ row row', cat.getRecord proxyId = some row ∧ cat'.getRecord proxyId = some row' ∧
        row'.id = row.id ∧ row'.endpoint = row.endpoint ∧ row'.code = row.code := by
  have hget := h.getRecord proxyId
  cases hrow : cat.getRecord proxyId with
  | none =>
    rw [hrow, Option.map_none] at hget
    exact .inl ⟨rfl, Option.map_eq_none_iff.mp hget.symm⟩
  | some row =>
    rw [hrow, Option.map_some] at hget
    obtain ⟨row', hrow', heq⟩ := Option.map_eq_some_iff.mp hget.symm
    exact .inr ⟨row, row', rfl, hrow', (congrArg Record.id heq : _),
      (congrArg Record.endpoint heq : _), (congrArg Record.code heq : _)⟩

end unaffected

section exits

variable {site : Site} {cat cat' : Catalog site.rt} (now time : ℤ)

lemma currentPreferredProxyByCountry_congr (h : SameButHealth cat cat') (panel : Panel) :
    currentPreferredProxyByCountry ⟨site, cat, now, time⟩ panel =
      currentPreferredProxyByCountry ⟨site, cat', now, time⟩ panel := by
  unfold currentPreferredProxyByCountry
  congr 1
  funext valid e
  rcases getRecord_cases h e.2 with ⟨hnone, hnone'⟩ | ⟨row, row', hrow, hrow', -, -, hcode⟩
  · rw [hnone, hnone']
  · rw [hrow, hrow']
    dsimp only
    rw [hcode]

lemma locationProxyId_congr (h : SameButHealth cat cat') (panel : Panel) (ml location : Obj) :
    locationProxyId ⟨site, cat, now, time⟩ panel ml location =
      locationProxyId ⟨site, cat', now, time⟩ panel ml location := by
  unfold locationProxyId
  rw [currentPreferredProxyByCountry_congr now time h]

lemma resolveLocation_congr (h : SameButHealth cat cat') (panel : Panel) (ml : Obj)
    (locId : String) :
    resolveLocation ⟨site, cat, now, time⟩ panel ml locId =
      resolveLocation ⟨site, cat', now, time⟩ panel ml locId := by
  unfold resolveLocation
  congr 1
  funext location
  rw [locationProxyId_congr now time h]
  congr 1
  funext proxyId
  rcases getRecord_cases h proxyId with ⟨hnone, hnone'⟩ | ⟨row, row', hrow, hrow', hid, hend, hcode⟩
  · rw [hnone, hnone']
  · rw [hrow, hrow']
    dsimp only
    rw [hid, hend, hcode]

lemma resolveOwnExit_congr (h : SameButHealth cat cat') (link : Obj) :
    resolveOwnExit ⟨site, cat, now, time⟩ link = resolveOwnExit ⟨site, cat', now, time⟩ link := by
  unfold resolveOwnExit
  dsimp only
  rcases getRecord_cases h ((Obj.get link "proxy_id").text site.rt) with
    ⟨hnone, hnone'⟩ | ⟨row, row', hrow, hrow', hid, hend, -⟩
  · rw [hnone, hnone']
  · rw [hrow, hrow']
    dsimp only
    rw [hid, hend]

/-- The exit of a session does not depend on the percentages. -/
lemma resolveExitSelection_congr (h : SameButHealth cat cat') (panel : Panel) (link : Obj)
    (locId : String) :
    resolveExitSelection ⟨site, cat, now, time⟩ panel link locId =
      resolveExitSelection ⟨site, cat', now, time⟩ panel link locId := by
  unfold resolveExitSelection
  simp only [resolveLocation_congr now time h, resolveOwnExit_congr now time h]

end exits

/-! ## The assignment -/

/-- The link goes out through the proxy of the repository. -/
def OnProxy (proxyId : String) (link : Obj) : Prop :=
  Obj.get link "exit_proxy_mode" = .str "repository" ∧ Obj.get link "proxy_id" = .str proxyId

lemma onProxy_update (link : Obj) (proxyId : String) :
    OnProxy proxyId (Obj.update link [("exit_proxy_mode", .str "repository"),
      ("proxy_id", .str proxyId), ("custom_proxy", .str "")]) := by
  simp only [OnProxy, Obj.update, List.foldl_cons, List.foldl_nil]
  constructor
  · rw [Obj.get_set_ne (by decide), Obj.get_set_ne (by decide), Obj.get_set_self]
  · rw [Obj.get_set_ne (by decide), Obj.get_set_self]

/-- One link more does not take the proxy from a link that has it. -/
lemma assignLink_keeps (proxyId uid : String) (acc : Dict String Obj × ℕ × ℕ) (e : String × Obj)
    (h : ∃ link, acc.1.get? uid = some link ∧ OnProxy proxyId link) :
    ∃ link, (assignLink proxyId acc e).1.get? uid = some link ∧ OnProxy proxyId link := by
  unfold assignLink
  split
  · exact h
  · by_cases huid : e.1 = uid
    · subst huid
      exact ⟨_, Dict.get?_set_self _ _ _, onProxy_update e.2 proxyId⟩
    · rw [Dict.get?_set_ne (Ne.symm huid)]
      exact h

/-- A link that is looked at has the proxy afterwards. -/
lemma assignLink_gives (proxyId : String) (acc : Dict String Obj × ℕ × ℕ) (e : String × Obj)
    (h : acc.1.get? e.1 = some e.2) :
    ∃ link, (assignLink proxyId acc e).1.get? e.1 = some link ∧ OnProxy proxyId link := by
  unfold assignLink
  split
  next hon => exact ⟨e.2, h, hon⟩
  next => exact ⟨_, Dict.get?_set_self _ _ _, onProxy_update e.2 proxyId⟩

lemma foldl_assignLink_keeps (proxyId uid : String) (eligible : List (String × Obj))
    (acc : Dict String Obj × ℕ × ℕ)
    (h : ∃ link, acc.1.get? uid = some link ∧ OnProxy proxyId link) :
    ∃ link, (eligible.foldl (assignLink proxyId) acc).1.get? uid = some link ∧
      OnProxy proxyId link := by
  induction eligible generalizing acc with
  | nil => exact h
  | cons e eligible ih => exact ih _ (assignLink_keeps proxyId uid acc e h)

/-- After an assignment each eligible link has the proxy. -/
lemma foldl_assignLink (proxyId : String) {eligible : List (String × Obj)}
    {acc : Dict String Obj × ℕ × ℕ} {e : String × Obj} (he : e ∈ eligible)
    (h : acc.1.get? e.1 = some e.2 ∨ ∃ link, acc.1.get? e.1 = some link ∧ OnProxy proxyId link) :
    ∃ link, (eligible.foldl (assignLink proxyId) acc).1.get? e.1 = some link ∧
      OnProxy proxyId link := by
  induction eligible generalizing acc with
  | nil => exact absurd he (by simp)
  | cons e₀ eligible ih =>
    rw [List.foldl_cons]
    rcases h with h | h
    · rcases List.mem_cons.mp he with rfl | he
      · exact foldl_assignLink_keeps proxyId e.1 eligible _ (assignLink_gives proxyId acc e h)
      · -- the link is still as it was, unless the first one has the same key
        refine ih he ?_
        unfold assignLink
        split
        · exact .inl h
        · by_cases hkey : e₀.1 = e.1
          · rw [hkey]
            exact .inr ⟨_, Dict.get?_set_self _ _ _, onProxy_update e₀.2 proxyId⟩
          · rw [Dict.get?_set_ne (Ne.symm hkey)]
            exact .inl h
    · exact foldl_assignLink_keeps proxyId e.1 eligible _ (assignLink_keeps proxyId e.1 acc e₀ h)

/-- Two proxies that are assigned with the same outcome are the same when a link is eligible. -/
lemma proxyId_inj_of_assign {users : Dict String User} {links : Dict String Obj}
    {proxyId proxyId' : String} {e : String × Obj} (he : e ∈ eligibleAssignmentLinks rt users links)
    (h : ((eligibleAssignmentLinks rt users links).foldl (assignLink proxyId) (links, 0, 0)).1 =
      ((eligibleAssignmentLinks rt users links).foldl (assignLink proxyId') (links, 0, 0)).1) :
    proxyId = proxyId' := by
  have hentry : links.get? e.1 = some e.2 := Dict.mem_entries_iff.mp (List.mem_of_mem_filter he)
  obtain ⟨link, hlink, hid⟩ := @foldl_assignLink proxyId _ (links, 0, 0) e he (.inl hentry)
  obtain ⟨link', hlink', hid'⟩ := @foldl_assignLink proxyId' _ (links, 0, 0) e he (.inl hentry)
  rw [h, hlink'] at hlink
  obtain rfl := Option.some.inj hlink
  exact Json.str.inj (hid.2.symm.trans hid'.2)

/-! ## Both runs -/

section both

variable {cat cat' : Catalog rt}

/-- A country that has a best proxy in one catalog has one in the other. -/
lemma exists_leads_of_leads (h : SameButHealth cat cat') {row : Record} (hrow : Leads cat row) :
    ∃ row', Leads cat' row' ∧ row'.code = row.code := by
  have hcodes := SameButHealth.map_eq h.values Record.code fun _ => rfl
  have hmem : row.code ∈ cat'.records.values.map Record.code := by
    rw [← hcodes]
    exact List.mem_map_of_mem hrow.mem
  obtain ⟨other, hother, hcode⟩ := List.mem_map.mp hmem
  obtain ⟨row', hrow', hcode'⟩ := exists_leads hother
  exact ⟨row', hrow', hcode'.trans hcode⟩

/-- For each country that one of the two runs lists, its best proxies have the same name and flag,
and where an assignment can have an effect the proxies that it would take are the same. -/
def SameLeaders (cat cat' : Catalog rt) (effective : Prop) : Prop :=
  ∀ row row', Leads cat row → Leads cat' row' → row.code = row'.code →
    Listed cat row ∨ Listed cat' row' →
      row.country = row'.country ∧ row.flag = row'.flag ∧
        (effective → ∀ best best',
          IsTop (recordsForCountry rt cat.records row.code) best →
          IsTop (recordsForCountry rt cat'.records row.code) best' → best.id = best'.id)

lemma SameLeaders.symm {effective : Prop} (h : SameLeaders cat cat' effective) :
    SameLeaders cat' cat effective := by
  intro row row' hrow hrow' hcode hlisted
  obtain ⟨hcountry, hflag, hbest⟩ := h row' row hrow' hrow hcode.symm hlisted.symm
  refine ⟨hcountry.symm, hflag.symm, fun heff best best' htop htop' => ?_⟩
  rw [hcode] at htop htop'
  exact (hbest heff best' best htop' htop).symm

/-- The countries in the order of their places. -/
lemma pairwise_targets (cat : Catalog rt) :
    ((leaders cat).map targetOf).Pairwise fun t t' =>
      (toLex (t.country, t.code) : String ×ₗ String) < toLex (t'.country, t'.code) :=
  List.pairwise_map.mpr pairwise_leaders

lemma assignmentTargets_eq_take (cat : Catalog rt) :
    assignmentTargets cat = ((leaders cat).map targetOf).take 30 := by
  rw [assignmentTargets, List.map_take]

/-- A country that is offered is that of a best proxy that is listed. -/
lemma mem_assignmentTargets {target : Target} :
    target ∈ assignmentTargets cat ↔ ∃ row, Listed cat row ∧ targetOf row = target := by
  simp only [assignmentTargets, List.mem_map, mem_take_leaders]

/-- What one run offers is in the list of the other. -/
lemma SameLeaders.mem_map {effective : Prop} (h : SameLeaders cat cat' effective)
    (hsame : SameButHealth cat cat') {target : Target} (htarget : target ∈ assignmentTargets cat) :
    target ∈ (leaders cat').map targetOf := by
  obtain ⟨row, hlisted, rfl⟩ := mem_assignmentTargets.mp htarget
  obtain ⟨row', hrow', hcode⟩ := exists_leads_of_leads hsame hlisted.1
  obtain ⟨hcountry, hflag, -⟩ := h row row' hlisted.1 hrow' hcode.symm (.inl hlisted)
  refine List.mem_map.mpr ⟨row', mem_leaders.mpr hrow', ?_⟩
  unfold targetOf
  rw [hcode, ← hcountry, ← hflag]

lemma SameLeaders.targets_eq {effective : Prop} (h : SameLeaders cat cat' effective)
    (hsame : SameButHealth cat cat') : assignmentTargets cat = assignmentTargets cat' := by
  have hasymm : Std.Asymm fun t t' : Target =>
      (toLex (t.country, t.code) : String ×ₗ String) < toLex (t'.country, t'.code) :=
    ⟨fun _ _ => lt_asymm⟩
  rw [assignmentTargets_eq_take, assignmentTargets_eq_take]
  refine take_eq_take (pairwise_targets cat) (pairwise_targets cat') ?_ ?_
  · rw [← assignmentTargets_eq_take]
    exact fun _ => h.mem_map hsame
  · rw [← assignmentTargets_eq_take]
    exact fun _ => h.symm.mem_map hsame.symm

/-- When the same countries are offered, the best proxies of a listed country have the same name
and flag. -/
lemma targetOf_eq_of_listed (htargets : assignmentTargets cat = assignmentTargets cat')
    {row row' : Record} (hrow' : Leads cat' row') (hcode : row.code = row'.code)
    (hlisted : Listed cat row) : targetOf row = targetOf row' := by
  have hmem : targetOf row ∈ assignmentTargets cat' := by
    rw [← htargets]
    exact mem_assignmentTargets.mpr ⟨row, hlisted, rfl⟩
  obtain ⟨other, hother, heq⟩ := mem_assignmentTargets.mp hmem
  have hothercode : other.code = row'.code := (congrArg Target.code heq).trans hcode
  rw [← heq, hother.1.unique hrow' hothercode]

lemma topOf_recordsForCountry {code : String} {row : Record} :
    topOf (recordsForCountry rt cat.records code) = some row ↔
      IsTop (recordsForCountry rt cat.records code) row := by
  refine ⟨isTop_of_topOf, fun h => ?_⟩
  obtain ⟨top, htop⟩ := exists_topOf h.mem
  have hids : ∀ a ∈ recordsForCountry rt cat.records code,
      ∀ b ∈ recordsForCountry rt cat.records code, a.id = b.id → a = b :=
    fun a ha b hb => id_inj (List.mem_of_mem_filter ha) (List.mem_of_mem_filter hb)
  rw [htop, IsTop.unique hids (isTop_of_topOf htop) h]

/-- A country that is offered is found by its code. -/
lemma find?_assignmentTargets {row : Record} (h : targetOf row ∈ assignmentTargets cat) :
    ∃ target, ((assignmentTargets cat).find? fun target => target.code = row.code) = some target := by
  cases hfind : (assignmentTargets cat).find? fun target => target.code = row.code with
  | none => exact absurd (List.find?_eq_none.mp hfind _ h) (by simp [targetOf])
  | some target => exact ⟨target, rfl⟩

end both

/-! ## All decisions -/

/-- The decisions about routing and assignment are the same with both catalogs. -/
structure SameDecisions (site : Site) (env : Env) (cat cat' : Catalog site.rt) (panel : Panel)
    (users : Dict String User) : Prop where
  select : ∀ code expected,
    selectPreferredForCountry cat panel.tests panel.preferred code expected =
      selectPreferredForCountry cat' panel.tests panel.preferred code expected
  current : ∀ now time, currentPreferredProxyByCountry ⟨site, cat, now, time⟩ panel =
    currentPreferredProxyByCountry ⟨site, cat', now, time⟩ panel
  resolve : ∀ now time link locId, resolveExitSelection ⟨site, cat, now, time⟩ panel link locId =
    resolveExitSelection ⟨site, cat', now, time⟩ panel link locId
  targets : assignmentTargets cat = assignmentTargets cat'
  assign : ∀ adminId code, applyProxyAssignment env cat users panel.links adminId code =
    applyProxyAssignment env cat' users panel.links adminId code

section decisions

variable {site : Site} {env : Env} {cat cat' : Catalog site.rt} {panel : Panel}
  {users : Dict String User}

/-- An assignment can have an effect: there is an admin who may ask for it and a link that is
eligible. -/
def Effective (site : Site) (env : Env) (panel : Panel) (users : Dict String User) : Prop :=
  env.adminIds ≠ [] ∧ eligibleAssignmentLinks site.rt users panel.links ≠ []

/-- An assignment takes the same proxy in both runs, or there is no link to give it to. -/
lemma SameLeaders.assign_eq (h : SameLeaders cat cat' (Effective site env panel users))
    (hsame : SameButHealth cat cat') (adminId : ℤ) (code : String) :
    applyProxyAssignment env cat users panel.links adminId code =
      applyProxyAssignment env cat' users panel.links adminId code := by
  unfold applyProxyAssignment
  rw [← h.targets_eq hsame]
  by_cases hadmin : adminId ∉ env.adminIds
  · rw [if_pos hadmin, if_pos hadmin]
  rw [if_neg hadmin, if_neg hadmin]
  cases hfind : (assignmentTargets cat).find? fun target => target.code = code with
  | none => rfl
  | some target =>
    have hcode : target.code = code := by simpa using List.find?_some hfind
    obtain ⟨row, hlisted, rfl⟩ := mem_assignmentTargets.mp (List.mem_of_find?_eq_some hfind)
    obtain ⟨row', hrow', hcode'⟩ := exists_leads_of_leads hsame hlisted.1
    obtain ⟨-, -, hbest⟩ := h row row' hlisted.1 hrow' hcode'.symm (.inl hlisted)
    rw [show row.code = code from hcode] at hbest
    have hempty := hsame.recordsForCountry code
    dsimp only
    cases htop : topOf (recordsForCountry site.rt cat.records code) with
    | none =>
      rw [topOf_eq_none.mp htop, List.map_nil] at hempty
      rw [topOf_eq_none.mpr (List.map_eq_nil_iff.mp hempty.symm)]
    | some best =>
      cases htop' : topOf (recordsForCountry site.rt cat'.records code) with
      | none =>
        rw [topOf_eq_none.mp htop', List.map_nil] at hempty
        rw [topOf_eq_none.mpr (List.map_eq_nil_iff.mp hempty)] at htop
        cases htop
      | some best' =>
        dsimp only
        by_cases heligible : eligibleAssignmentLinks site.rt users panel.links = []
        · rw [heligible]
          rfl
        · have heff : Effective site env panel users :=
            ⟨List.ne_nil_of_mem (not_not.mp hadmin), heligible⟩
          rw [hbest heff best best' (isTop_of_topOf htop) (isTop_of_topOf htop')]

/-- When all decisions are the same, so are the best proxies of the listed countries. -/
lemma SameDecisions.sameLeaders (h : SameDecisions site env cat cat' panel users) :
    SameLeaders cat cat' (Effective site env panel users) := by
  intro row row' hrow hrow' hcode hlisted
  have htarget : targetOf row = targetOf row' := by
    rcases hlisted with hlisted | hlisted
    · exact targetOf_eq_of_listed h.targets hrow' hcode hlisted
    · exact (targetOf_eq_of_listed h.targets.symm hrow hcode.symm hlisted).symm
  have hmem : targetOf row ∈ assignmentTargets cat := by
    rcases hlisted with hlisted | hlisted
    · exact mem_assignmentTargets.mpr ⟨row, hlisted, rfl⟩
    · rw [h.targets, htarget]
      exact mem_assignmentTargets.mpr ⟨row', hlisted, rfl⟩
  refine ⟨congrArg Target.country htarget, congrArg Target.flag htarget, ?_⟩
  rintro ⟨hadmins, heligible⟩ best best' htop htop'
  obtain ⟨adminId, hadmin⟩ := List.exists_mem_of_ne_nil _ hadmins
  obtain ⟨e, he⟩ := List.exists_mem_of_ne_nil _ heligible
  obtain ⟨target, hfind⟩ := find?_assignmentTargets hmem
  -- an admin assigns the country in both runs
  have hassign := h.assign adminId row.code
  unfold applyProxyAssignment at hassign
  rw [← h.targets, if_neg (not_not.mpr hadmin), if_neg (not_not.mpr hadmin), hfind,
    topOf_recordsForCountry.mpr htop, topOf_recordsForCountry.mpr htop'] at hassign
  exact proxyId_inj_of_assign he (congrArg Prod.snd hassign)

/-- The percentages have no influence on the choice of preferred proxies and on the exits of
sessions, and none on assignments exactly when they leave the listed countries their best
proxies. -/
theorem decisions_same_iff (hsame : SameButHealth cat cat') :
    SameDecisions site env cat cat' panel users ↔
      SameLeaders cat cat' (Effective site env panel users) :=
  ⟨SameDecisions.sameLeaders, fun h =>
    { select := fun code expected => selectPreferredForCountry_congr hsame _ _ code expected
      current := fun now time => currentPreferredProxyByCountry_congr now time hsame panel
      resolve := fun now time link locId =>
        resolveExitSelection_congr now time hsame panel link locId
      targets := h.targets_eq hsame
      assign := h.assign_eq hsame }⟩

end decisions

/-! ## Two catalogs with other percentages -/

/-- A proxy of a country with a percentage. -/
def ratedRecord (host : String) (health : ℤ) : Record :=
  { exampleRecord host "DE" with health := health }

lemma ratedRecord_sound (health health' : ℤ) :
    ∀ row ∈ [ratedRecord "a" health, ratedRecord "b" health'], row.id ≠ "" ∧
      row.id = proxyIdentity scanRuntime row.endpoint ∧
        validateUrl scanRuntime (.str row.endpoint) = .ok row.endpoint := by
  have hexample : ∀ row ∈ [exampleRecord "a" "DE", exampleRecord "b" "DE"], row.id ≠ "" ∧
      row.id = proxyIdentity scanRuntime row.endpoint ∧
        validateUrl scanRuntime (.str row.endpoint) = .ok row.endpoint := by decide +kernel
  intro row hrow
  rcases List.mem_pair.mp hrow with rfl | rfl
  · exact hexample (exampleRecord "a" "DE") (by simp)
  · exact hexample (exampleRecord "b" "DE") (by simp)

/-- Two proxies of one country with these percentages. -/
def ratedCatalog (health health' : ℤ) : Catalog scanRuntime :=
  .ofRecords [ratedRecord "a" health, ratedRecord "b" health'] (ratedRecord_sound health health')

/-- A panel with one link of the shop. -/
def examplePanel : Panel :=
  ⟨.ofList [("u", [("store_managed", .bool true), ("owner_telegram_id", .int 7)])], .empty, .empty,
    .empty, .str ""⟩

/-- One customer. -/
def exampleUsers : Dict String User :=
  .ofList [("7", ⟨7, "", "", 0, "", "", none, [], none⟩)]

/-- Percentages that keep the better proxy. -/
theorem decisions_same_kept :
    SameDecisions (.bare scanRuntime) exampleEnv (ratedCatalog 10 20) (ratedCatalog 15 25)
      examplePanel exampleUsers := by
  refine (decisions_same_iff (show SameButHealth (ratedCatalog 10 20) (ratedCatalog 15 25) from
    by decide +kernel)).mpr ?_
  have hcode : ∀ row ∈ (ratedCatalog 10 20).records.values, row.code = "DE" := by decide +kernel
  have htop : topOf (recordsForCountry scanRuntime (ratedCatalog 10 20).records "DE") =
      some (ratedRecord "b" 20) := by decide +kernel
  have htop' : topOf (recordsForCountry scanRuntime (ratedCatalog 15 25).records "DE") =
      some (ratedRecord "b" 25) := by decide +kernel
  have hlead : topOf (ofCode (ratedCatalog 10 20).records.values "DE") =
      some (ratedRecord "b" 20) := by decide +kernel
  have hlead' : topOf (ofCode (ratedCatalog 15 25).records.values "DE") =
      some (ratedRecord "b" 25) := by decide +kernel
  intro row row' hrow hrow' hsame _
  have hDE : row.code = "DE" := hcode row hrow.mem
  rw [topOf_ofCode.mpr ⟨hDE, hrow⟩] at hlead
  rw [topOf_ofCode.mpr ⟨hsame.symm.trans hDE, hrow'⟩] at hlead'
  obtain rfl := Option.some.inj hlead
  obtain rfl := Option.some.inj hlead'
  refine ⟨rfl, rfl, fun _ best best' hbest hbest' => ?_⟩
  rw [hDE] at hbest hbest'
  obtain rfl := Option.some.inj ((topOf_recordsForCountry.mpr hbest).symm.trans htop)
  obtain rfl := Option.some.inj ((topOf_recordsForCountry.mpr hbest').symm.trans htop')
  rfl

/-- With the percentages the other way round the link of the shop gets the other proxy. -/
theorem decisions_differ :
    SameButHealth (ratedCatalog 10 20) (ratedCatalog 20 10) ∧
      ¬ SameDecisions (.bare scanRuntime) exampleEnv (ratedCatalog 10 20) (ratedCatalog 20 10)
        examplePanel exampleUsers := by
  refine ⟨by decide +kernel, fun h => ?_⟩
  have hassign := congrArg (fun r => (r.2.get? "u").map fun link => Obj.get link "proxy_id")
    (h.assign 9 "DE")
  exact absurd hassign (by decide +kernel)

end Bot
