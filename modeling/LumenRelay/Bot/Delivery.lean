import LumenRelay.Bot.Callbacks
import LumenRelay.Bot.Confined

/-!
# What an order of a customer may change in the panel

An order that is finished makes or renews a service.  Of the links that were there it changes at
most one, which is a service of the customer, and no link gets another exit.  Of the groups it
changes the one of the customer.
-/

namespace Provision

open Lib Py Routing State Bot

variable (runtimes : Set Runtime) (team : List ℤ)

/-! ## The bounds -/

/-- The fields of a link that choose the exit of its sessions. -/
def exitFields : List String := ["exit_proxy_mode", "proxy_id", "custom_proxy"]

/-- A service of one of the customers who act, as one of the runtimes reads the id in it. -/
def teamLink (link : Obj) : Prop := ∃ c ∈ team, ∃ rt ∈ runtimes, ownedBy rt c link = true

/-- A link that belongs to nobody, or to one of the customers who act. -/
def madeForTeam (link : Obj) : Prop :=
  link.find "owner_telegram_id" = none ∨
    ∃ c ∈ team, link.find "owner_telegram_id" = some (.int c)

/-- What may become of a link. -/
structure LinkKept (link link' : Obj) : Prop where
  owner : link'.find "owner_telegram_id" = link.find "owner_telegram_id"
  exits : ∀ key ∈ exitFields, link'.find key = link.find key
  others : ¬ teamLink runtimes team link → link' = link

/-- What may become of the link with an id. -/
inductive LinkChange : Option Obj → Option Obj → Prop
  | none : LinkChange none none
  | made (link : Obj) : madeForTeam team link → LinkChange none (some link)
  | kept (link link' : Obj) :
    LinkKept runtimes team link link' → LinkChange (some link) (some link')

variable {runtimes team}

lemma LinkKept.refl (link : Obj) : LinkKept runtimes team link link :=
  ⟨rfl, fun _ _ => rfl, fun _ => rfl⟩

lemma LinkKept.trans {l₁ l₂ l₃ : Obj} (h : LinkKept runtimes team l₁ l₂)
    (h' : LinkKept runtimes team l₂ l₃) : LinkKept runtimes team l₁ l₃ := by
  refine ⟨h'.owner.trans h.owner, fun key hkey => (h'.exits key hkey).trans (h.exits key hkey),
    fun hother => ?_⟩
  have heq : l₂ = l₁ := h.others hother
  subst heq
  exact h'.others hother

variable (runtimes team)

/-- The bound on the links. -/
def linksBound : Bound String Obj where
  rel _ := LinkChange runtimes team
  refl _ link := by
    cases link with
    | none => exact .none
    | some link => exact .kept link link (.refl link)
  trans h h' := by
    cases h with
    | none => exact h'
    | made link hlink =>
      cases h' with
      | kept _ link' h' =>
        refine .made link' ?_
        unfold madeForTeam
        rw [h'.owner]
        exact hlink
    | kept link link' h =>
      cases h' with
      | kept _ link'' h' => exact .kept link link'' (h.trans h')

/-- What customers may do to the panel, of which some groups are theirs. -/
structure PanelKept (mine : String → Prop) (p p' : Panel) : Prop where
  links : p.links.Within (linksBound runtimes team) p'.links
  groups : ∀ subId, ¬ mine subId → p.subs.contains subId = true →
    p'.subs.get? subId = p.subs.get? subId
  stay : ∀ subId, p.subs.contains subId = true → p'.subs.contains subId = true

/-- The group of one of the customers who act. -/
def teamGroup (st : Store) (subId : String) : Prop :=
  ∃ c ∈ team, (st.users.get? (userKey c)).bind User.subId = some subId

/-- What customers may do to the shop. -/
structure ShopKept (s s' : Shop) : Prop where
  store : Kept team (fun subId => s.world.panel.subs.contains subId = false) (ordersBound team)
    s.store s'.store
  panel : PanelKept runtimes team (teamGroup team s.store) s.world.panel s'.world.panel

variable {runtimes team} {mine : String → Prop} {p p' p'' : Panel} {s s' s'' : Shop}

lemma PanelKept.refl (p : Panel) : PanelKept runtimes team mine p p :=
  ⟨.refl _ _, fun _ _ _ => rfl, fun _ => id⟩

lemma PanelKept.trans (h : PanelKept runtimes team mine p p')
    (h' : PanelKept runtimes team mine p' p'') : PanelKept runtimes team mine p p'' :=
  ⟨h.links.trans h'.links,
    fun subId hno hsub => (h'.groups subId hno (h.stay subId hsub)).trans (h.groups subId hno hsub),
    fun subId hsub => h'.stay subId (h.stay subId hsub)⟩

lemma ShopKept.refl (s : Shop) : ShopKept runtimes team s s := ⟨.refl _, .refl _⟩

/-- A group that was there becomes the group of nobody who acts. -/
lemma teamGroup_of_kept {grants : String → Prop} {orders : Bound String Order} {st st' : Store}
    {subId : String} (h : Kept team grants orders st st') (hno : ¬ grants subId)
    (hgroup : teamGroup team st' subId) : teamGroup team st subId := by
  obtain ⟨c, hc, hsub⟩ := hgroup
  exact ⟨c, hc, ((h.users (userKey c)).group subId hsub).resolve_right hno⟩

lemma ShopKept.trans (h : ShopKept runtimes team s s') (h' : ShopKept runtimes team s' s'') :
    ShopKept runtimes team s s'' := by
  have hstay : ∀ subId, s'.world.panel.subs.contains subId = false →
      s.world.panel.subs.contains subId = false := by
    intro subId hno
    by_contra hsub
    rw [Bool.not_eq_false] at hsub
    rw [h.panel.stay subId hsub] at hno
    cases hno
  refine ⟨h.store.trans (h'.store.mono hstay), h.panel.links.trans h'.panel.links, ?_, ?_⟩
  · intro subId hno hsub
    have hno' : ¬ teamGroup team s'.store subId := fun hgroup =>
      hno (teamGroup_of_kept h.store (by simp [hsub]) hgroup)
    exact (h'.panel.groups subId hno' (h.panel.stay subId hsub)).trans (h.panel.groups subId hno hsub)
  · exact fun subId hsub => h'.panel.stay subId (h.panel.stay subId hsub)

/-- A change of the store alone. -/
lemma ShopKept.of_store {st : Store} (h : Kept team
    (fun subId => s.world.panel.subs.contains subId = false) (ordersBound team) s.store st) :
    ShopKept runtimes team s { s with store := st } :=
  ⟨h, .refl _⟩

/-! ## Making a service -/

variable (runtimes team)

/-- While a service is made: the new link is in its group, and nothing else has changed. -/
structure Making (before : Panel) (uid subId : String) (p : Panel) : Prop where
  kept : PanelKept runtimes team (fun s => s = subId) before p
  made : ∀ link, p.links.get? uid = some link →
    link.find "sub_id" = some (.str subId) ∧ madeForTeam team link

variable {runtimes team} {before : Panel} {uid subId : String} {server : Server}

/-- An edit of the new link. -/
lemma Making.edit (h : Making runtimes team before uid subId p)
    (hnew : before.links.get? uid = none)
    {f : Obj → Obj} (hsub : ∀ link, link.find "sub_id" = some (.str subId) →
      (f link).find "sub_id" = some (.str subId))
    (hmade : ∀ link, madeForTeam team link → madeForTeam team (f link)) :
    Making runtimes team before uid subId { p with links := p.links.modify uid f } := by
  have hget : ∀ link, (p.links.modify uid f).get? uid = some link →
      link.find "sub_id" = some (.str subId) ∧ madeForTeam team link := by
    intro link hlink
    rw [Dict.get?_modify, if_pos rfl] at hlink
    obtain ⟨link₀, hlink₀, rfl⟩ := Option.map_eq_some_iff.mp hlink
    exact ⟨hsub _ (h.made link₀ hlink₀).1, hmade _ (h.made link₀ hlink₀).2⟩
  refine ⟨⟨fun k => ?_, h.kept.groups, h.kept.stay⟩, hget⟩
  by_cases hk : k = uid
  · subst hk
    dsimp only
    rw [hnew]
    cases hlink : (p.links.modify k f).get? k with
    | none => exact .none
    | some link => exact .made link (hget link hlink).2
  · dsimp only
    rw [Dict.get?_modify, if_neg hk]
    exact h.kept.links k

/-- Editing the group of the new link. -/
lemma keeps_onSub_making (f : Obj → Except PyErr Obj) :
    Effect.Keeps (Making runtimes team before uid subId) (onSub (.str subId) f) := by
  unfold onSub
  refine Effect.keeps_ite (Effect.keeps_read.bind fun q => ?_) (Effect.keeps_pure ())
  refine (Effect.keeps_lift _).bind_of (Q := fun found => ∀ s sub, found = some (s, sub) → s = subId)
    ?_ ?_
  · intro p found p' _ hrun s sub hfound
    obtain ⟨hfind, -⟩ := Prod.mk.inj hrun
    rw [findSub] at hfind
    obtain rfl := Except.ok.inj hfind
    obtain ⟨_, -, heq⟩ := Option.map_eq_some_iff.mp hfound
    exact (Prod.mk.inj heq).1.symm
  · rintro (_ | ⟨s, sub⟩) hs
    · exact Effect.keeps_pure ()
    · obtain rfl : s = subId := hs s sub rfl
      refine (Effect.keeps_lift _).bind fun sub' => Effect.keeps_edit fun p hp => ?_
      refine ⟨⟨hp.kept.links, fun t hne ht => ?_, fun t ht => ?_⟩, hp.made⟩
      · dsimp only
        rw [Dict.get?_set_ne hne]
        exact hp.kept.groups t hne ht
      · dsimp only
        by_cases hts : t = s
        · subst hts
          exact Dict.contains_iff.mpr ⟨sub', Dict.get?_set_self ..⟩
        · rw [Dict.contains, Dict.get?_set_ne hts]
          exact hp.kept.stay t ht

/-- The record of a new link names no owner. -/
lemma prepareLink_owner {draw : ℕ} {r : LinkRequest} {link : Obj}
    (h : prepareLink server draw p r = .ok (uid, link)) : link.find "owner_telegram_id" = none := by
  have hrecord : ∀ {r : LinkRequest} {protocol settings fingerprint address sni exit},
      linkRecord server r protocol settings fingerprint address sni exit = .ok link →
      link.find "owner_telegram_id" = none := by
    intro r protocol settings fingerprint address sni exit hlink
    unfold linkRecord at hlink
    obtain ⟨_, -, hlink⟩ := bind_eq_ok hlink
    obtain ⟨_, -, hlink⟩ := bind_eq_ok hlink
    obtain ⟨_, -, hlink⟩ := bind_eq_ok hlink
    obtain ⟨_, -, hlink⟩ := bind_eq_ok hlink
    obtain rfl := Except.ok.inj hlink
    rfl
  obtain ⟨_, _, -, ⟨-, r', -, hnew⟩ | ⟨-, hnew⟩⟩ := prepareLink_cases h
  · obtain ⟨-, _, _, _, _, -, -, -, hlink⟩ := newLink_ok hnew
    exact hrecord hlink
  · obtain ⟨-, _, _, _, _, -, -, -, hlink⟩ := newLink_ok hnew
    exact hrecord hlink

/-- `make_link` changes nothing, or it has put its link into memory. -/
lemma makeLink_making {draw : ℕ} {r : LinkRequest} (hsub : r.subId = .str subId) (p : Panel) :
    (∃ e, makeLink server draw r p = (.error e, p)) ∨
      ∃ uid link, p.links.get? uid = none ∧ prepareLink server draw p r = .ok (uid, link) ∧
        Making runtimes team p uid subId (makeLink server draw r p).2 := by
  cases hprep : prepareLink server draw p r with
  | error e =>
    refine .inl ⟨e, ?_⟩
    unfold makeLink
    rw [Effect.read_bind_run, hprep, Effect.lift_error_bind_run]
  | ok made =>
    obtain ⟨uid, link⟩ := made
    obtain ⟨hfree, hgroup⟩ := prepareLink_ok hprep
    refine .inr ⟨uid, link, hfree, rfl, ?_⟩
    unfold makeLink
    rw [Effect.read_bind_run, hprep, Effect.lift_ok_bind_run]
    dsimp only
    rw [putLink, Effect.edit_bind_run, hsub]
    refine (keeps_onSub_making _).bind (fun _ => Effect.keeps_pure _) _ ?_
    have hmade : madeForTeam team link := .inl (prepareLink_owner hprep)
    refine ⟨⟨Dict.within_set ?_, fun _ _ _ => rfl, fun _ => id⟩, fun link' hlink' => ?_⟩
    · rw [hfree]
      exact .made link hmade
    · rw [Dict.get?_set_self] at hlink'
      obtain rfl := Option.some.inj hlink'
      exact ⟨hgroup.trans (by rw [hsub]), hmade⟩

/-- Moving the new link to its group again. -/
lemma keeps_setLinkSub_making (hnew : before.links.get? uid = none) :
    Effect.Keeps (Making runtimes team before uid subId) (setLinkSub server uid (some subId)) := by
  unfold setLinkSub
  refine Effect.keeps_read.bind_of (Q := Making runtimes team before uid subId) ?_ fun p hp => ?_
  · intro s p s' hs hrun
    obtain ⟨hp, -⟩ := Prod.mk.inj hrun
    rw [← Except.ok.inj hp]
    exact hs
  · split
    · exact Effect.keeps_pure _
    · exact Effect.keeps_pure _
    · rename_i link _ hlink _
      dsimp only
      split
      · exact Effect.keeps_pure _
      · exact Effect.keeps_raise _
      · rw [get_of_find (hp.made link hlink).1]
        refine (keeps_onSub_making _).bind fun _ => (keeps_onSub_making _).bind fun _ =>
          Effect.Keeps.bind (Effect.keeps_edit fun q hq => hq.edit hnew ?_ ?_) fun _ =>
            Effect.keeps_pure _
        · exact fun link _ => find_set_self ..
        · intro link hmade
          have howner : (Obj.update link [("sub_id", subKey (some subId))]).find "owner_telegram_id" =
              link.find "owner_telegram_id" :=
            find_set_ne (show "owner_telegram_id" ≠ "sub_id" by decide) _ _
          unfold madeForTeam
          rw [howner]
          exact hmade

/-- An operation of the panel keeps what its change keeps. -/
lemma keeps_perform {α : Type} {change : Effect Panel PyErr (Finish α)} {I : Panel → Prop}
    (h : Effect.Keeps I change) :
    Effect.Keeps (fun s : Shop => I s.world.panel) (onWorld (perform server change)) := by
  intro s hs
  have hpanel : (perform server change s.world).2.panel = (change s.world.panel).2 := perform_panel ..
  unfold onWorld
  dsimp only
  rw [hpanel]
  exact h _ hs

variable {a : Attempt} {r : LinkRequest} {fields : List (String × Json)} {order : Order} {plan : Plan}

/-- A service is made for a customer who acts. -/
lemma makeService_kept (a : Attempt) (hsub : r.subId = .str subId) (hgroup : "sub_id" ∉ fields.map Prod.fst)
    (howner : ∀ link : Obj, madeForTeam team (link.update fields)) (s : Shop) :
    (makeService a r subId fields s).2.store = s.store ∧
      PanelKept runtimes team (fun t => t = subId) s.world.panel
        (makeService a r subId fields s).2.world.panel := by
  have hworld : ∀ {α : Type} (x : Effect World PyErr α),
      Effect.Keeps (fun s' : Shop => s'.store = s.store) (onWorld x) := fun _ _ hs => hs
  have hlinks : ∀ f, Effect.Keeps (fun s' : Shop => s'.store = s.store) (editLinks f) :=
    fun _ => Effect.keeps_edit fun _ hs => hs
  have hstore : Effect.Keeps (fun s' : Shop => s'.store = s.store) (makeService a r subId fields) :=
    (hworld _).bind fun _ => (hlinks _).bind fun _ => (hworld _).bind fun _ => (hworld _).bind fun _ =>
      Effect.keeps_pure _
  refine ⟨hstore s rfl, ?_⟩
  have hpanel : (perform a.server (makeLink a.server a.linkDraw r) s.world).2.panel =
      (makeLink a.server a.linkDraw r s.world.panel).2 := perform_panel ..
  have hmaking : (∃ e, makeLink a.server a.linkDraw r s.world.panel = (.error e, s.world.panel)) ∨
      ∃ uid link, s.world.panel.links.get? uid = none ∧
        prepareLink a.server a.linkDraw s.world.panel r = .ok (uid, link) ∧
        Making runtimes team s.world.panel uid subId
          (makeLink a.server a.linkDraw r s.world.panel).2 :=
    makeLink_making hsub s.world.panel
  unfold makeService
  rw [Effect.bind_run]
  rcases hmake : perform a.server (makeLink a.server a.linkDraw r) s.world with ⟨e | made, w⟩
  · rw [onWorld_run hmake]
    dsimp only
    rw [hmake] at hpanel
    dsimp only at hpanel
    rw [hpanel]
    rcases hmaking with ⟨e', hrun⟩ | ⟨_, _, -, -, hmaking⟩
    · rw [hrun]
      exact .refl _
    · exact hmaking.kept
  · obtain ⟨uid, link⟩ := made
    rw [onWorld_run hmake]
    dsimp only
    rw [hmake] at hpanel
    dsimp only at hpanel
    have hsaved : prepareLink a.server a.linkDraw s.world.panel r = .ok (uid, link) := by
      rcases perform_ok hmake with ⟨hdone, -⟩ | ⟨_, hsave, -, -⟩
      · exact absurd hdone makeLink_not_done
      · exact (makeLink_save hsave).1
    rcases hmaking with ⟨e', hrun⟩ | ⟨uid', link', hfree, hprep, hmaking⟩
    · rcases perform_ok hmake with ⟨hdone, -⟩ | ⟨_, hsave, -, -⟩
      · cases hrun.symm.trans hdone
      · cases hrun.symm.trans hsave
    · obtain ⟨rfl, rfl⟩ := Prod.mk.inj (Except.ok.inj (hprep.symm.trans hsaved))
      rw [← hpanel] at hmaking
      have hmove : Effect.Keeps
          (fun s' : Shop => Making runtimes team s.world.panel uid' subId s'.world.panel)
          (onWorld (perform a.server (setLinkSub a.server uid' (some subId)))) :=
        keeps_perform (keeps_setLinkSub_making hfree)
      -- the owner, the group again, and a save
      have hrest : Effect.Keeps (fun s' : Shop =>
          Making runtimes team s.world.panel uid' subId s'.world.panel)
          (editLinks (fun links => links.modify uid' fun link => link.update fields) >>= fun _ =>
            onWorld (perform a.server (setLinkSub a.server uid' (some subId))) >>= fun _ =>
              onWorld (saveState a.server false) >>= fun _ => pure uid') := by
        refine Effect.Keeps.bind (Effect.keeps_edit fun s' hs' => ?_) fun _ =>
          hmove.bind fun _ => Effect.Keeps.bind ?_ fun _ => Effect.keeps_pure _
        · refine Making.edit hs' hfree ?_ ?_
          · intro link hlink
            rw [find_update_ne hgroup]
            exact hlink
          · exact fun link _ => howner link
        · intro s' hs'
          have hsave : (saveState a.server false s'.world).2.panel = s'.world.panel := by
            rw [saveState_run]
          unfold onWorld
          dsimp only
          rw [hsave]
          exact hs'
      exact (hrest { s with world := w } hmaking).kept

/-! ## The group of a customer -/

/-- The id of the group that an attempt may make. -/
def newGroup (a : Attempt) : String := generateUuid a.server.site.rt a.subDraw

/-- A group of a customer is made under the id that was drawn, or nothing changes. -/
lemma createSubGroup_drawn (server : Server) (draw : ℕ) (token : Token) (name : String) (p : Panel) :
    (∃ e, createSubGroup server draw token (.str name) (.str "") (.str "") p = (.error e, p)) ∨
      ∃ sub, createSubGroup server draw token (.str name) (.str "") (.str "") p =
        (.ok (.save (generateUuid server.site.rt draw, sub)),
          { p with subs := p.subs.set (generateUuid server.site.rt draw) sub }) := by
  unfold createSubGroup
  cases cutText 60 ((Json.str name).or (.str "گروه جدید")) with
  | error e => exact .inl ⟨e, rfl⟩
  | ok n =>
    cases cutText 200 ((Json.str "").or (.str "")) with
    | error e => exact .inl ⟨e, rfl⟩
    | ok d =>
      cases stripText ((Json.str "").or (.str "")) with
      | error e => exact .inl ⟨e, rfl⟩
      | ok w => exact .inr ⟨_, rfl⟩

/-- A group with a new id changes no group that was there. -/
lemma panelKept_newGroup {g : String} (hfresh : p.subs.contains g = false) (sub : Obj) :
    PanelKept runtimes team mine p { p with subs := p.subs.set g sub } := by
  have hne : ∀ t, p.subs.contains t = true → t ≠ g := by
    rintro t ht rfl
    rw [hfresh] at ht
    cases ht
  refine ⟨.refl _ _, fun t _ ht => Dict.get?_set_ne (hne t ht) _ _, fun t ht => ?_⟩
  dsimp only
  rw [Dict.contains, Dict.get?_set_ne (hne t ht)]
  exact ht

variable (runtimes team mine)

/-- What customers may do to the shop when one group at most is granted. -/
structure Grouped (a : Attempt) (orders : Bound String Order) (s s' : Shop) : Prop where
  store : Kept team (fun subId => subId = newGroup a) orders s.store s'.store
  panel : PanelKept runtimes team mine s.world.panel s'.world.panel

variable {runtimes team mine} {orders : Bound String Order} {userId : ℤ}

lemma ensureCustomerSub_kept (hc : userId ∈ team) (s : Shop)
    (hfresh : s.world.panel.subs.contains (newGroup a) = false) :
    Grouped runtimes team mine a orders s (ensureCustomerSub a userId s).2 ∧
      ∀ subId s', ensureCustomerSub a userId s = (.ok subId, s') →
        teamGroup team s.store subId ∨ subId = newGroup a := by
  unfold ensureCustomerSub
  rw [Effect.read_bind_run]
  cases hfound : customerSub s userId with
  | some subId =>
    refine ⟨⟨.refl _, .refl _⟩, ?_⟩
    intro subId' s' h
    obtain ⟨hid, -⟩ := Prod.mk.inj h
    obtain rfl := Except.ok.inj hid
    exact .inl ⟨userId, hc, (Option.filter_eq_some_iff.mp hfound).1⟩
  | none =>
    dsimp only
    rw [Effect.bind_run]
    have hpanel : (createCustomerSub a userId s.world).2.panel = (createSubGroup a.server a.subDraw
        a.token (.str ("سرویس‌های کاربر " ++ toString userId)) (.str "") (.str "")
        s.world.panel).2 := perform_panel ..
    rcases hcreate : createCustomerSub a userId s.world with ⟨e | ⟨subId, sub⟩, w⟩
    · -- the group stays when its save has raised
      rw [onWorld_run hcreate]
      rw [hcreate] at hpanel
      refine ⟨⟨.refl _, ?_⟩, fun _ _ h => by cases h⟩
      change PanelKept runtimes team mine s.world.panel w.panel
      rw [show w.panel = _ from hpanel]
      rcases createSubGroup_drawn a.server a.subDraw a.token
        ("سرویس‌های کاربر " ++ toString userId) s.world.panel with ⟨e', hrun⟩ | ⟨sub, hrun⟩
      · rw [hrun]
        exact .refl _
      · rw [hrun]
        exact panelKept_newGroup hfresh sub
    · rw [onWorld_run hcreate]
      rw [hcreate] at hpanel
      have hmade : subId = newGroup a ∧ PanelKept runtimes team mine s.world.panel w.panel := by
        rw [show w.panel = _ from hpanel]
        rcases createSubGroup_drawn a.server a.subDraw a.token
          ("سرویس‌های کاربر " ++ toString userId) s.world.panel with ⟨e', hrun⟩ | ⟨sub', hrun⟩
        · rcases perform_ok hcreate with ⟨hdone, -⟩ | ⟨_, hsave, -⟩
          · cases hrun.symm.trans hdone
          · cases hrun.symm.trans hsave
        · refine ⟨?_, by rw [hrun]; exact panelKept_newGroup hfresh sub'⟩
          rcases perform_ok hcreate with ⟨hdone, -⟩ | ⟨_, hsave, -⟩
          · cases hrun.symm.trans hdone
          · obtain ⟨hid, -⟩ := Prod.mk.inj (hrun.symm.trans hsave)
            cases hid
            rfl
      refine ⟨⟨setCustomerSubLocked_kept hc hmade.1, hmade.2⟩, ?_⟩
      intro subId' s' h
      obtain ⟨hid, -⟩ := Prod.mk.inj h
      rw [← Except.ok.inj hid]
      exact .inr hmade.1

/-! ## Delivering an order -/

lemma madeForTeam_owner (hc : order.userId ∈ team) (plan : Plan) (link : Obj) :
    madeForTeam team (link.update (ownerFields order plan)) := by
  refine .inr ⟨order.userId, hc, ?_⟩
  change ((((Obj.set _ "owner_telegram_id" _).set "store_order_id" _).set "store_plan_id" _).set
    "store_managed" _).find _ = _
  rw [find_set_ne (by decide), find_set_ne (by decide), find_set_ne (by decide), find_set_self]

lemma provisionNew_kept (hc : order.userId ∈ team) (s : Shop)
    (hfresh : s.world.panel.subs.contains (newGroup a) = false) :
    Grouped runtimes team (teamGroup team s.store) a orders s (provisionNew a order s).2 := by
  cases hplan : order.plan with
  | none =>
    rw [provisionNew_none hplan]
    exact ⟨.refl _, .refl _⟩
  | some plan =>
    rw [provisionNew_some hplan]
    cases daysAfter a.server.site.rt a.server.now plan.days with
    | error e => exact ⟨.refl _, .refl _⟩
    | ok expiresAt =>
      rw [Effect.lift_ok_bind_run, Effect.bind_run]
      obtain ⟨hgrouped, hgroup⟩ : Grouped runtimes team (teamGroup team s.store) a orders s
          (ensureCustomerSub a order.userId s).2 ∧ ∀ subId s',
            ensureCustomerSub a order.userId s = (.ok subId, s') →
              teamGroup team s.store subId ∨ subId = newGroup a := ensureCustomerSub_kept hc s hfresh
      rcases hensure : ensureCustomerSub a order.userId s with ⟨e | subId, s₁⟩
      · rw [hensure] at hgrouped
        exact hgrouped
      · rw [hensure] at hgrouped
        have hservice := isService_serviceRequest a order plan (labelName s.store order.userId)
          expiresAt subId
        obtain ⟨hstore, hpanel⟩ := makeService_kept a hservice.subId hservice.fields.2
          (madeForTeam_owner hc plan) s₁
        dsimp only at hgrouped ⊢
        generalize makeService a _ _ _ s₁ = made at hstore hpanel ⊢
        refine ⟨by rw [hstore]; exact hgrouped.store, hgrouped.panel.links.trans hpanel.links,
          fun t hno ht => ?_, fun t ht => ?_⟩
        · have hne : t ≠ subId := by
            intro heq
            rw [heq] at ht hno
            rcases hgroup subId s₁ hensure with hteam | hnew
            · exact hno hteam
            · rw [hnew, hfresh] at ht
              exact Bool.false_ne_true ht
          exact (hpanel.groups t hne (hgrouped.panel.stay t ht)).trans (hgrouped.panel.groups t hno ht)
        · exact hpanel.stay t (hgrouped.panel.stay t ht)

/-- A renewal assigns neither the owner nor the exit of a link. -/
lemma renewal_notMem {link : Obj} (h : renewal a order link = .ok fields) {key : String}
    (hkey : key ∈ "owner_telegram_id" :: exitFields) : key ∉ fields.map Prod.fst := by
  unfold renewal at h
  obtain ⟨oldLimit, -, h⟩ := bind_eq_ok h
  obtain ⟨oldUsed, -, h⟩ := bind_eq_ok h
  cases hplan : order.plan with
  | none =>
    rw [hplan] at h
    cases h
  | some plan =>
    rw [hplan] at h
    obtain ⟨expiresAt, -, h⟩ := bind_eq_ok h
    obtain rfl := Except.ok.inj h
    revert key
    simp [exitFields]

lemma provisionRenew_kept (hrt : a.server.site.rt ∈ runtimes) (hc : order.userId ∈ team)
    (s : Shop) : Grouped runtimes team mine a orders s (provisionRenew a order s).2 := by
  unfold provisionRenew
  rw [Effect.read_bind_run]
  cases hservice : renewedLink a.server.site.rt s.world.panel.links order with
  | none => exact ⟨.refl _, .refl _⟩
  | some service =>
    obtain ⟨uid, link⟩ := service
    obtain ⟨hfound, howned⟩ := Option.filter_eq_some_iff.mp hservice
    obtain ⟨uid', -, hmap⟩ := Option.bind_eq_some_iff.mp hfound
    obtain ⟨link', hlink, heq⟩ := Option.map_eq_some_iff.mp hmap
    obtain ⟨rfl, rfl⟩ := Prod.mk.inj heq
    dsimp only
    cases hfields : renewal a order link' with
    | error e => exact ⟨.refl _, .refl _⟩
    | ok fields =>
      rw [Effect.lift_ok_bind_run, editLinks, Effect.edit_bind_run, Effect.bind_run,
        onWorld_run (saveState_run ..), Bool.and_false, if_neg (by simp)]
      refine ⟨.refl _, Dict.within_modify fun link hget => ?_, fun _ _ _ => rfl, fun _ => id⟩
      obtain rfl : link' = link := Option.some.inj (hlink.symm.trans hget)
      refine .kept _ _ ⟨?_, fun key hkey => ?_, fun hno => absurd ?_ hno⟩
      · exact find_update_ne (renewal_notMem hfields (by simp)) _
      · exact find_update_ne (renewal_notMem hfields (List.mem_cons_of_mem _ hkey)) _
      · exact ⟨order.userId, hc, a.server.site.rt, hrt, howned⟩

/-- Delivering an order of a customer who acts. -/
lemma deliver_kept (hrt : a.server.site.rt ∈ runtimes) (hc : order.userId ∈ team) (s : Shop)
    (hfresh : s.world.panel.subs.contains (newGroup a) = false) :
    Grouped runtimes team (teamGroup team s.store) a orders s (deliver a order s).2 := by
  have hreturn : ∀ {x : Effect Shop PyErr String},
      ((do return some (← x) : Effect Shop PyErr (Option String)) s).2 = (x s).2 := by
    intro x
    rw [Effect.bind_run]
    rcases x s with ⟨_ | _, _⟩ <;> rfl
  unfold deliver
  cases order.kind with
  | wallet => exact ⟨credit_kept_team hc order.amount, .refl _⟩
  | new =>
    dsimp only
    rw [hreturn]
    exact provisionNew_kept hc s hfresh
  | renew =>
    dsimp only
    rw [hreturn]
    exact provisionRenew_kept hrt hc s
  | other name => exact ⟨.refl _, .refl _⟩

/-! ## Finishing an order -/

/-- An order that is no draft is not finished without an admin. -/
lemma finishOrder_not_draft {oid : String} {o : Order} (hsource : a.source ≠ .card)
    (ho : s.store.orders.get? oid = some o) (hs : o.status ≠ .draft) : (finishOrder a oid s).2 = s := by
  have hallowed : a.source.allowed = .draft := by
    cases hsrc : a.source with
    | card => exact absurd hsrc hsource
    | _ => rfl
  unfold finishOrder finishBeginLocked
  simp only [ho, hallowed]
  by_cases happroved : o.status = .approved
  · rw [if_pos happroved]
  · rw [if_neg happroved, if_pos hs]

/-- Finishing an order of a customer changes that order only, whoever asks for it. -/
lemma finishOrder_only {oid : String} (hrt : a.server.site.rt ∈ runtimes)
    (hfresh : s.world.panel.subs.contains (newGroup a) = false)
    (hc : ∀ o, s.store.orders.get? oid = some o → o.userId ∈ team) :
    Kept team (fun subId => s.world.panel.subs.contains subId = false) (onlyBound oid) s.store
        (finishOrder a oid s).2.store ∧
      PanelKept runtimes team (teamGroup team s.store) s.world.panel
        (finishOrder a oid s).2.world.panel := by
  have hbegin : ∀ grants, Kept team grants (onlyBound oid) s.store
      (finishBeginLocked a.server.site.rt a.beganAt s.store oid a.reviewerId a.source).1 :=
    fun _ => finishBeginLocked_kept hc
  have hbegins := finishBeginLocked_begins a.server.site.rt a.beganAt s.store oid a.reviewerId a.source
  unfold finishOrder
  dsimp only
  rcases hrun : finishBeginLocked a.server.site.rt a.beganAt s.store oid a.reviewerId a.source with
    ⟨st, message | message | order⟩
  · rw [hrun] at hbegin
    exact ⟨hbegin _, .refl _⟩
  · rw [hrun] at hbegin
    exact ⟨hbegin _, .refl _⟩
  · rw [hrun] at hbegin hbegins
    dsimp only at hbegin ⊢
    have hteam : order.userId ∈ team := by
      cases hbegins with
      | refused hno _ => exact absurd rfl (hno order)
      | started hstarted =>
        rw [hstarted.sale.userId]
        exact hc _ hstarted.before
    have hdeliver : Grouped runtimes team (teamGroup team st) a (onlyBound oid)
        { s with store := st } (deliver a order { s with store := st }).2 :=
      deliver_kept hrt hteam { s with store := st } hfresh
    have hnew : ∀ subId, subId = newGroup a → s.world.panel.subs.contains subId = false := by
      rintro _ rfl
      exact hfresh
    have hpanel : ∀ {p : Panel}, PanelKept runtimes team (teamGroup team st) s.world.panel p →
        PanelKept runtimes team (teamGroup team s.store) s.world.panel p := fun h =>
      ⟨h.links, fun t hno ht => h.groups t (fun hg =>
        hno (teamGroup_of_kept (hbegin fun _ => False) (by simp) hg)) ht, h.stay⟩
    rcases hrun' : deliver a order { s with store := st } with ⟨e | serviceId, s'⟩
    · rw [hrun'] at hdeliver
      have hbefore := (hbegin _).trans (hdeliver.store.mono hnew)
      exact ⟨hbefore.trans (rollbackLocked_kept (hbefore.owner hc)), hpanel hdeliver.panel⟩
    · rw [hrun'] at hdeliver
      have hbefore := (hbegin _).trans (hdeliver.store.mono hnew)
      exact ⟨hbefore.trans (approveLocked_kept (hbefore.owner hc)), hpanel hdeliver.panel⟩

/-- **A customer finishes an order.** -/
lemma finishOrder_kept {oid : String} (hrt : a.server.site.rt ∈ runtimes)
    (hsource : a.source ≠ .card) (hfresh : s.world.panel.subs.contains (newGroup a) = false)
    (hc : ∀ o, s.store.orders.get? oid = some o → o.userId ∈ team) :
    ShopKept runtimes team s (finishOrder a oid s).2 := by
  by_cases hdraft : ∀ o, s.store.orders.get? oid = some o → o.status = .draft
  · obtain ⟨hstore, hpanel⟩ := finishOrder_only hrt hfresh hc
    exact ⟨hstore.of_only fun o ho => ⟨hc o ho, hdraft o ho⟩, hpanel⟩
  · push Not at hdraft
    obtain ⟨o, ho, hs⟩ := hdraft
    rw [finishOrder_not_draft hsource ho hs]
    exact .refl s

end Provision
