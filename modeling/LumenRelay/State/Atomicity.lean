import LumenRelay.Py.Sample
import LumenRelay.State.Changes
import LumenRelay.State.Load

/-!
# Operations whose save fails

An operation edits the links and the groups and then saves them.  When the save fails the
operation raises, but what it edited stays edited.  So a failed operation leaves everything as
it was only if there was nothing to edit.
-/

namespace State

open Lib Py Routing

variable {server : Server} {p p' : Panel}

/-- An operation came to its strict save, which failed, and raised. -/
def SaveFailed (server : Server) (op : Op) (w : World) : Prop :=
  (∃ p', op.change server w.panel = (.ok (.save ()), p')) ∧ (op.run server w).1 = .error notSaved

/-- After an operation the links and the groups are what they were before it. -/
def Unchanged (server : Server) (op : Op) (w : World) : Prop :=
  (op.run server w).2.panel.links = w.panel.links ∧ (op.run server w).2.panel.subs = w.panel.subs

/-! ## Operations that ask for what is there already -/

/-- A link is the last of the group with the key, if there is one, and is listed once. -/
def ListedLast (subs : Dict String Obj) (key : Json) (uid : String) : Prop :=
  ∀ s sub, key = .str s → s ≠ "" → subs.get? s = some sub →
    ∃ ids, sub.find "link_ids" = some (.arr (ids ++ [.str uid])) ∧ .str uid ∉ ids

/-- The group that would be created is there. -/
def SameSub (server : Server) (p : Panel) (draw : ℕ) (token : Token) (name desc password : Json) :
    Prop :=
  ∃ n d w, cutText 60 (name.or (.str "گروه جدید")) = .ok n ∧ cutText 200 (desc.or (.str "")) = .ok d ∧
    stripText (password.or (.str "")) = .ok w ∧
    p.subs.get? (generateUuid server.site.rt draw) = some (subRecord server n d w token)

/-- Everything that an operation asks for is stored already, and nothing is created or deleted. -/
def Op.Void (server : Server) (p : Panel) : Op → Prop
  | .setLinkActive uid active => ∀ link, p.links.get? uid = some link →
      link.find "active" = some (.bool active.truthy)
  | .setLinkSub uid subId => ∀ link, p.links.get? uid = some link →
      link.find "sub_id" = some (subKey subId) ∧ ListedLast p.subs (subKey subId) uid
  | .updateLink uid host body => ∀ link fields transport exit, p.links.get? uid = some link →
      body = .obj fields → checkLinkUpdate server p link fields = .ok (transport, exit) →
      Holds (linkWrites server host fields transport exit) link ∧
        let newSub := Obj.getD fields "sub_id" (.str "UNCHANGED")
        (newSub ≠ .str "UNCHANGED" →
          link.find "sub_id" = some (newSub.or .null) ∧ ListedLast p.subs newSub uid)
  | .createSubGroup draw token name desc password => SameSub server p draw token name desc password
  | .createSub draw token body => ∃ fields, body = .obj fields ∧
      SameSub server p draw token ((Obj.get fields "name").or (.str "گروه جدید"))
        ((Obj.get fields "desc").or (.str "")) ((Obj.get fields "password").or (.str ""))
  | .updateSub tokens subId body => ∀ sub fields ml ids, p.subs.get? subId = some sub →
      body = .obj fields → subConfiguration server p tokens subId fields = .ok ml →
      subMembers server p fields = .ok ids → Holds (subWrites server fields ml ids) sub
  | .assignLinkToSub subId body => ∀ sub fields, p.subs.get? subId = some sub →
      body = .obj fields →
      let uid := (Obj.getD fields "link_id" (.str "")).toStr server.site.rt
      let add := decide ((Obj.getD fields "action" (.str "add")).toStr server.site.rt = "add")
      (sub.has "link_ids" = true ∧ (memberIds sub).contains uid = .ok add) ∧
        ∀ link, p.links.get? uid = some link →
          link.find "sub_id" = some (if add then .str subId else .null)
  | .makeLink .. => False
  | .createLink .. => False
  | .removeLink _ => False
  | .removeSubGroup _ => False
  | .deleteSub _ => False

/-! ## Editing a group and editing it back -/

lemma EditsSub.get?_of_ne {key : Json} {f : Obj → Except PyErr Obj} {subs subs' : Dict String Obj}
    (h : EditsSub key f subs subs') {s : String} (hs : key ≠ .str s) :
    subs'.get? s = subs.get? s := by
  cases h with
  | same _ => rfl
  | edit hkey _ _ _ =>
    refine Dict.get?_set_ne ?_ _ _
    rintro rfl
    exact hs hkey

lemma setDefault_eq_self_iff {sub : Obj} {key : String} {v : Json} :
    sub.setDefault key v = sub ↔ sub.has key = true := by
  unfold Obj.setDefault
  split
  · rename_i hhas
    simp [hhas]
  · rename_i hhas
    constructor
    · intro h
      have hfind := set_eq_self_iff.mp h
      exact absurd (by rw [Obj.has]; exact Option.isSome_of_eq_some hfind) hhas
    · intro h
      exact absurd h hhas

/-- A list of members that is not empty is stored. -/
lemma find_memberIds {sub : Obj} {ids : List Json} {id : Json} (h : memberIds sub = .arr ids)
    (hid : id ∈ ids) : sub.find "link_ids" = some (.arr ids) := by
  unfold memberIds Obj.getD at h
  unfold Obj.find
  cases hfind : List.lookup "link_ids" sub with
  | none =>
    rw [hfind] at h
    obtain rfl : [] = ids := by simpa using h
    simp at hid
  | some v =>
    rw [hfind] at h
    exact congrArg some h

/-- A link that is taken out of a list and put back at its end is where it was if and only if it
was the last, and listed once. -/
lemma erase_append_eq_self_iff {ids : List Json} {id : Json} (h : id ∉ ids.erase id) :
    ids = ids.erase id ++ [id] ↔ ∃ before, ids = before ++ [id] ∧ id ∉ before := by
  constructor
  · intro hids
    exact ⟨_, hids, h⟩
  · rintro ⟨before, rfl, hbefore⟩
    rw [List.erase_append_right _ hbefore]
    simp

/-- Whether a group is the same after a link was taken out of it and put back. -/
lemma relist_record {uid : String} {sub sub₁ sub₂ : Obj} (h₁ : unlistLink uid sub = .ok sub₁)
    (h₂ : listLink uid sub₁ = .ok sub₂) :
    sub₂ = sub ↔ ∃ ids, sub.find "link_ids" = some (.arr (ids ++ [.str uid])) ∧ .str uid ∉ ids := by
  rcases unlistLink_ok h₁ with ⟨ids, hids, rfl⟩ | ⟨hno, hfound, rfl⟩
  · by_cases hmem : .str uid ∈ ids
    · rw [if_pos hmem] at h₂
      have hfind := find_memberIds hids hmem
      simp only [hfind, Option.some.injEq]
      rcases listLink_ok h₂ with ⟨ids', hids', rfl⟩ | ⟨hno, -, -⟩
      · rw [memberIds_set, Json.arr.injEq] at hids'
        subst hids'
        by_cases hdup : .str uid ∈ ids.erase (.str uid)
        · -- it was listed twice, and one of the two is gone
          rw [if_pos hdup, setDefault_eq_self_iff.mpr (by simp [Obj.has, Obj.set]), set_eq_self_iff,
            hfind, Option.some.injEq, Json.arr.injEq]
          constructor
          · intro h
            have hlength := congrArg List.length h
            rw [List.length_erase_of_mem hmem] at hlength
            have hpos := List.length_pos_of_mem hmem
            omega
          · rintro ⟨before, hbefore, hnot⟩
            obtain rfl : ids = before ++ [.str uid] := by simpa using hbefore
            rw [List.erase_append_right _ hnot] at hdup
            simp [hnot] at hdup
        · rw [if_neg hdup, Obj.set, Obj.set, Assoc.set_set]
          change Obj.set sub _ _ = _ ↔ _
          rw [set_eq_self_iff, hfind, Option.some.injEq, Json.arr.injEq,
            erase_append_eq_self_iff hdup]
          simp
      · exact absurd (memberIds_set sub _) (hno _)
    · -- it was not listed, and now it is
      rw [if_neg hmem] at h₂
      have hnot : ∀ before, sub.find "link_ids" ≠ some (.arr (before ++ [.str uid])) := by
        intro before hfind
        obtain rfl : ids = before ++ [.str uid] :=
          Json.arr.inj (hids.symm.trans (memberIds_of_find hfind))
        simp at hmem
      rcases listLink_ok h₂ with ⟨ids', hids', rfl⟩ | ⟨hno, -, -⟩
      · obtain rfl : ids = ids' := Json.arr.inj (hids.symm.trans hids')
        rw [if_neg hmem, set_eq_self_iff]
        simp [hnot]
      · exact absurd hids (hno _)
  · rcases listLink_ok h₂ with ⟨ids, hids, -⟩ | ⟨-, hfound', -⟩
    · exact absurd hids (hno ids)
    · cases hfound.symm.trans hfound'

/-- Whether the groups are the same after a link was taken out of its group and put back. -/
lemma relist_iff {uid : String} {old new : Json} {subs subs₁ subs₂ : Dict String Obj}
    (hkeys : ∀ s, s ≠ "" → (old = .str s ↔ new = .str s))
    (h₁ : EditsSub old (unlistLink uid) subs subs₁) (h₂ : EditsSub new (listLink uid) subs₁ subs₂) :
    subs₂ = subs ↔ ListedLast subs new uid := by
  cases h₁ with
  | same hold =>
    cases h₂ with
    | same hnew =>
      refine ⟨fun _ s sub hs hne hsub => ?_, fun _ => rfl⟩
      rw [hnew s hs hne] at hsub
      cases hsub
    | edit hkey hne hsub _ =>
      rw [hold _ ((hkeys _ hne).mpr hkey) hne] at hsub
      cases hsub
  | @edit s sub sub₁ hold hne hsub hunlist =>
    have hkey := (hkeys s hne).mp hold
    cases h₂ with
    | same hnew =>
      have hnone := hnew s hkey hne
      rw [Dict.get?_set_self] at hnone
      cases hnone
    | @edit t sub' sub₂ hkey' _ hsub' hlist =>
      obtain rfl : s = t := Json.str.inj (hkey.symm.trans hkey')
      rw [Dict.get?_set_self] at hsub'
      obtain rfl := Option.some.inj hsub'
      rw [Dict.set_set, Dict.set_eq_self_iff, hsub, Option.some.injEq, eq_comm,
        relist_record hunlist hlist]
      constructor
      · rintro hlast s' sub' hs' - hget
        obtain rfl : s = s' := Json.str.inj (hkey.symm.trans hs')
        obtain rfl := Option.some.inj (hsub.symm.trans hget)
        exact hlast
      · intro hlast
        exact hlast s sub hkey hne hsub

/-! ## What leaves the panel as it is, operation by operation -/

/-- The links and the groups are the same. -/
def SameRecords (p p' : Panel) : Prop := p'.links = p.links ∧ p'.subs = p.subs

lemma set_ne_self {d : Dict String Obj} {key : String} (h : d.get? key = none) (record : Obj) :
    d.set key record ≠ d := by
  rw [Ne, Dict.set_eq_self_iff, h]
  exact nofun

lemma erase_ne_self {d : Dict String Obj} {key : String} (h : d.get? key ≠ none) :
    d.erase key ≠ d := by
  intro heq
  rw [← heq, Dict.get?_erase_self] at h
  exact h rfl

lemma modify_eq_self_iff {d : Dict String Obj} {uid key : String} {v : Json} :
    d.modify uid (fun record => record.set key v) = d ↔
      ∀ record, d.get? uid = some record → record.find key = some v := by
  cases hrecord : d.get? uid with
  | none => simp [Dict.modify_of_none hrecord]
  | some record =>
    rw [Dict.modify_of_some hrecord, Dict.set_eq_self_iff, hrecord]
    simp [eq_comm (a := record), set_eq_self_iff]

lemma makeLink_not_same {draw : ℕ} {r : LinkRequest} {a : String × Obj}
    (h : makeLink server draw r p = (.ok (.save a), p')) : ¬ SameRecords p p' := by
  obtain ⟨hprep, subs', -, rfl⟩ := makeLink_save h
  rintro ⟨hlinks, -⟩
  exact set_ne_self (prepareLink_ok hprep).1 _ hlinks

lemma removeLink_not_same {uid : String} {a : Option Json}
    (h : removeLink uid p = (.ok (.save a), p')) : ¬ SameRecords p p' := by
  obtain ⟨link, subs', hlink, -, rfl⟩ := removeLink_save h
  rintro ⟨hlinks, -⟩
  exact erase_ne_self (by simp [hlink]) hlinks

lemma freed_not_same {subId : String} (h : p.subs.contains subId = true)
    (hp : p' = { p with subs := p.subs.erase subId, links := freeLinks subId p.links }) :
    ¬ SameRecords p p' := by
  obtain ⟨sub, hsub⟩ := Dict.contains_iff.mp h
  rintro ⟨-, hsubs⟩
  rw [hp] at hsubs
  exact erase_ne_self (by simp [hsub]) hsubs

lemma setLinkActive_same_iff {uid : String} {active : Json} {a : Option Obj}
    (h : setLinkActive uid active p = (.ok (.save a), p')) :
    SameRecords p p' ↔ (Op.setLinkActive uid active).Void server p := by
  obtain ⟨link, hlink, rfl⟩ := setLinkActive_save h
  simp [SameRecords, Op.Void, Dict.set_eq_self_iff, hlink, eq_comm (a := link), set_eq_self_iff]

lemma createSubGroup_same_iff {draw : ℕ} {token : Token} {name desc password : Json}
    {a : String × Obj} (h : createSubGroup server draw token name desc password p = (.ok (.save a), p')) :
    SameRecords p p' ↔ SameSub server p draw token name desc password := by
  obtain ⟨n, d, w, hn, hd, hw, rfl⟩ := createSubGroup_save h
  rw [SameRecords, Dict.set_eq_self_iff]
  constructor
  · rintro ⟨-, hsub⟩
    exact ⟨n, d, w, hn, hd, hw, hsub⟩
  · rintro ⟨n', d', w', hn', hd', hw', hsub⟩
    obtain rfl := Except.ok.inj (hn.symm.trans hn')
    obtain rfl := Except.ok.inj (hd.symm.trans hd')
    obtain rfl := Except.ok.inj (hw.symm.trans hw')
    exact ⟨rfl, hsub⟩

lemma setLinkSub_same_iff {uid : String} {subId : Option String} {a : Bool}
    (h : setLinkSub server uid subId p = (.ok (.save a), p')) :
    SameRecords p p' ↔ (Op.setLinkSub uid subId).Void server p := by
  obtain ⟨link, subs₁, subs₂, hlink, -, h₁, h₂, rfl⟩ := setLinkSub_save h
  have hlinks : p.links.set uid (link.set "sub_id" (subKey subId)) = p.links ↔
      link.find "sub_id" = some (subKey subId) := by
    rw [Dict.set_eq_self_iff, hlink, Option.some.injEq, eq_comm, set_eq_self_iff]
  have hvoid : (Op.setLinkSub uid subId).Void server p ↔
      link.find "sub_id" = some (subKey subId) ∧ ListedLast p.subs (subKey subId) uid := by
    simp [Op.Void, hlink]
  rw [SameRecords, hvoid, hlinks, and_congr_right_iff]
  intro hfind
  have hold : link.get "sub_id" = subKey subId := by
    unfold Obj.find at hfind
    rw [Obj.get, Obj.getD, hfind]
    rfl
  exact relist_iff (fun s _ => by rw [hold]) h₁ h₂

/-- A record that was changed in other fields than one, and then in this one, is the same if and only
if both changes left it as it was. -/
lemma set_other_eq_iff {record record' : Obj} {key : String} {v : Json}
    (hkept : record'.find key = record.find key) :
    record'.set key v = record ↔ record' = record ∧ record.find key = some v := by
  constructor
  · intro heq
    have hfind : record.find key = some v := by rw [← heq, find_set_self]
    rw [set_eq_self_iff.mpr (hkept.trans hfind)] at heq
    exact ⟨heq, hfind⟩
  · rintro ⟨rfl, hfind⟩
    exact set_eq_self_iff.mpr hfind

lemma updateLink_same_iff {uid host : String} {body : Json}
    (h : updateLink server uid host body p = (.ok (.save ()), p')) :
    SameRecords p p' ↔ (Op.updateLink uid host body).Void server p := by
  obtain ⟨link, fields, transport, exit, link', hlink, rfl, hcheck, hwrites, hregroup⟩ :=
    updateLink_save h
  have hsame := writeFields_eq_self_iff (nodup_linkWrites server fields host transport exit) hwrites
  have hkept : link'.find "sub_id" = link.find "sub_id" := by
    have hfind := find_writeFields (sub_id_not_written server fields host transport exit) link
    rwa [hwrites] at hfind
  have hvoid : (Op.updateLink uid host (.obj fields)).Void server p ↔
      Holds (linkWrites server host fields transport exit) link ∧
        (Obj.getD fields "sub_id" (.str "UNCHANGED") ≠ .str "UNCHANGED" →
          link.find "sub_id" = some ((Obj.getD fields "sub_id" (.str "UNCHANGED")).or .null) ∧
            ListedLast p.subs (Obj.getD fields "sub_id" (.str "UNCHANGED")) uid) := by
    constructor
    · intro hvoid
      exact hvoid link fields transport exit hlink rfl hcheck
    · rintro hholds link' fields' transport' exit' hlink' hfields hcheck'
      obtain rfl := Option.some.inj (hlink.symm.trans hlink')
      obtain rfl := Json.obj.inj hfields
      obtain ⟨rfl, rfl⟩ := Prod.mk.inj (Except.ok.inj (hcheck.symm.trans hcheck'))
      exact hholds
  rw [hvoid, ← hsame]
  generalize Obj.getD fields "sub_id" (.str "UNCHANGED") = newSub at hregroup ⊢
  rcases regroupLink_ok (Dict.get?_set_self ..) hregroup with
    ⟨hnew, rfl⟩ | ⟨hnew, subs₁, subs₂, h₁, h₂, rfl⟩
  · simp [SameRecords, hnew, Dict.set_eq_self_iff, hlink, eq_comm (a := link)]
  · simp only [SameRecords, Dict.set_set, Dict.set_eq_self_iff, hlink, Option.some.injEq]
    rw [@eq_comm _ link, set_other_eq_iff hkept, and_assoc, and_congr_right_iff]
    rintro rfl
    rw [forall_prop_of_true hnew, and_congr_right_iff]
    intro hfind
    have hold : link'.get "sub_id" = newSub.or .null := by
      unfold Obj.find at hfind
      rw [Obj.get, Obj.getD, hfind]
      rfl
    refine relist_iff ?_ h₁ h₂
    intro s hs
    rw [hold]
    cases newSub with
    | str t =>
      by_cases ht : t = ""
      · subst ht
        simp [Json.or, Json.truthy, Ne.symm hs]
      · simp [Json.or, Json.truthy, ht]
    | _ =>
      unfold Json.or
      split_ifs <;> simp

/-! ### Groups -/

/-- Links are claimed only from other groups. -/
lemma claimLinks_moved {subId : String} {ids : List String} {links : Dict String Obj}
    {prev : Json} {uid : String} (h : (prev, uid) ∈ (claimLinks subId ids links).2) :
    prev ≠ .str subId := by
  induction ids generalizing links with
  | nil => simp [claimLinks] at h
  | cons id ids ih =>
    rw [claimLinks] at h
    cases hlink : links.get? id with
    | none =>
      rw [hlink] at h
      exact ih h
    | some link =>
      rw [hlink] at h
      dsimp only at h
      split_ifs at h with hprev
      · rcases List.mem_cons.mp h with heq | h
        · obtain ⟨rfl, -⟩ := Prod.mk.inj heq
          exact hprev.2
        · exact ih h
      · exact ih h

/-- Groups that no link was claimed from are left alone. -/
lemma detachAll_get? {moved : List (Json × String)} {s : String}
    (hmoved : ∀ prev uid, (prev, uid) ∈ moved → prev ≠ .str s)
    (h : detachAll moved p = (.ok (), p')) : p'.subs.get? s = p.subs.get? s ∧ p'.links = p.links := by
  induction moved generalizing p with
  | nil =>
    obtain rfl : p = p' := congrArg Prod.snd h
    exact ⟨rfl, rfl⟩
  | cons m moved ih =>
    obtain ⟨prev, uid⟩ := m
    rw [detachAll] at h
    obtain ⟨_, p₁, hsub, h⟩ := Effect.bind_eq_ok h
    obtain ⟨subs', hedit, rfl⟩ := onSub_ok hsub
    obtain ⟨hget, hlinks⟩ := ih (fun prev uid hmem => hmoved prev uid (List.mem_cons_of_mem _ hmem)) h
    exact ⟨hget.trans (hedit.get?_of_ne (hmoved prev uid List.mem_cons_self)), hlinks⟩

/-- The group that is edited itself is not touched when the links are brought into agreement. -/
lemma syncMembers_get? {subId : String} {old : List Json} {new : List String}
    (h : syncMembers subId old new p = (.ok (), p')) : p'.subs.get? subId = p.subs.get? subId := by
  unfold syncMembers at h
  rw [Effect.read_bind_run] at h
  dsimp only at h
  rw [Effect.edit_bind_run] at h
  exact (detachAll_get? (fun prev uid hmem => claimLinks_moved hmem) h).1

/-- Members that are the same bring nothing out of agreement. -/
lemma syncMembers_same (subId : String) (new : List String) (p : Panel) :
    syncMembers subId (new.map .str) new p = (.ok (), p) := by
  have hgone : (new.map Json.str).filter (fun lid => decide (lid ∉ new.map Json.str)) = [] := by
    simp
  have hcame : new.filter (fun lid => decide (Json.str lid ∉ new.map Json.str)) = [] := by
    simp
  unfold syncMembers
  rw [hgone, hcame]
  rfl

lemma updateSub_same_iff {tokens : ℕ → Token} {subId : String} {body : Json}
    (h : updateSub server tokens subId body p = (.ok (.save ()), p')) :
    SameRecords p p' ↔ (Op.updateSub tokens subId body).Void server p := by
  obtain ⟨sub, fields, ml, ids, sub', hsub, rfl, hml, hids, hwrites, hsync⟩ := (updateSub_ok h).2
  have hsame := writeFields_eq_self_iff (nodup_subWrites server fields ml ids) hwrites
  have hvoid : (Op.updateSub tokens subId (.obj fields)).Void server p ↔
      Holds (subWrites server fields ml ids) sub := by
    constructor
    · intro hvoid
      exact hvoid sub fields ml ids hsub rfl hml hids
    · rintro hholds sub' fields' ml' ids' hsub' hfields hml' hids'
      obtain rfl := Option.some.inj (hsub.symm.trans hsub')
      obtain rfl := Json.obj.inj hfields
      obtain rfl := Except.ok.inj (hml.symm.trans hml')
      obtain rfl := Except.ok.inj (hids.symm.trans hids')
      exact hholds
  rw [hvoid, ← hsame]
  rcases hsync with ⟨rfl, rfl⟩ | ⟨new, old, rfl, hold, hsync⟩
  · simp [SameRecords, Dict.set_eq_self_iff, hsub, eq_comm (a := sub)]
  · constructor
    · rintro ⟨-, hsubs⟩
      have hget := syncMembers_get? hsync
      rw [hsubs, Dict.get?_set_self, hsub] at hget
      exact (Option.some.inj hget).symm
    · rintro rfl
      -- the members are stored already, so they are the old ones
      have hfind : sub'.find "link_ids" = some (.arr (new.map .str)) := by
        refine hsame.mp rfl _ (List.mem_of_getLast? rfl) _ ?_
        change (idSet (sub'.getD "link_ids" (.arr [])) >>= fun _ => _) = _
        rw [hold]
        rfl
      rw [show sub'.getD "link_ids" (.arr []) = .arr (new.map .str) from memberIds_of_find hfind] at hold
      obtain rfl : old = new.map .str := by
        unfold idSet at hold
        rw [Json.iterate, ok_bind] at hold
        split at hold
        · exact (Except.ok.inj hold).symm
        · cases hold
      rw [syncMembers_same, Dict.set_eq_self_iff.mpr hsub] at hsync
      obtain rfl := congrArg Prod.snd hsync
      exact ⟨rfl, rfl⟩

lemma has_link_ids {sub : Obj} {ids : List Json} {id : Json} (h : memberIds sub = .arr ids)
    (hid : id ∈ ids) : sub.has "link_ids" = true :=
  Option.isSome_of_eq_some (find_memberIds h hid)

/-- A group is the same after a link was added or taken out if and only if it was there, or was
not. -/
lemma assignMember_same_iff {uid : String} {add : Bool} {sub sub' : Obj}
    (h : assignMember uid add sub = .ok sub') :
    sub' = sub ↔ sub.has "link_ids" = true ∧ (memberIds sub).contains uid = .ok add := by
  cases add with
  | true =>
    rcases listLink_ok h with ⟨ids, hids, rfl⟩ | ⟨-, hfound, rfl⟩
    · by_cases hmem : .str uid ∈ ids
      · have hhas := has_link_ids hids hmem
        simp [hids, Json.contains, hmem, setDefault_eq_self_iff, hhas]
      · have hne : sub.find "link_ids" ≠ some (.arr (ids ++ [.str uid])) := by
          intro hfind
          have hsame := hids.symm.trans (memberIds_of_find hfind)
          simp at hsame
        simp [hids, Json.contains, hmem, set_eq_self_iff, hne]
    · simp [hfound, setDefault_eq_self_iff]
  | false =>
    rcases unlistLink_ok h with ⟨ids, hids, rfl⟩ | ⟨-, hfound, rfl⟩
    · rw [memberIds_of_setDefault] at hids
      by_cases hmem : .str uid ∈ ids
      · have hhas := has_link_ids hids hmem
        have hne : ids ≠ ids.erase (.str uid) := by
          intro heq
          have hlength := congrArg List.length heq
          rw [List.length_erase_of_mem hmem] at hlength
          have hpos := List.length_pos_of_mem hmem
          omega
        rw [setDefault_eq_self_iff.mpr hhas]
        simp [hids, Json.contains, hmem, set_eq_self_iff, find_memberIds hids hmem, hne]
      · simp [hids, Json.contains, hmem, setDefault_eq_self_iff]
    · rw [memberIds_of_setDefault] at hfound
      simp [hfound, setDefault_eq_self_iff]

lemma assignLinkToSub_same_iff {subId : String} {body : Json}
    (h : assignLinkToSub server subId body p = (.ok (.save ()), p')) :
    SameRecords p p' ↔ (Op.assignLinkToSub subId body).Void server p := by
  obtain ⟨sub, fields, sub', uid, add, hsub, rfl, rfl, rfl, hassign, rfl⟩ := assignLinkToSub_save h
  rw [SameRecords, Dict.set_eq_self_iff, hsub, Option.some.injEq, eq_comm (a := sub),
    assignMember_same_iff hassign, modify_eq_self_iff, and_comm]
  simp [Op.Void, hsub]

/-! ## All operations -/

lemma save_of_discard {α : Type} {x : Effect Panel PyErr (Finish α)}
    (h : (do return (← x).discard : Effect Panel PyErr (Finish Unit)) p = (.ok (.save ()), p')) :
    ∃ a, x p = (.ok (.save a), p') := by
  obtain ⟨fin, p₁, hx, h⟩ := Effect.bind_eq_ok h
  obtain ⟨hfin, rfl⟩ := Prod.mk.inj h
  cases fin with
  | done a => cases hfin
  | save a => exact ⟨a, hx⟩

/-- An operation that goes on to its save has left the links and the groups as they were if and
only if all that it asked for was stored already. -/
lemma change_same_iff {op : Op} (h : op.change server p = (.ok (.save ()), p')) :
    SameRecords p p' ↔ op.Void server p := by
  cases op with
  | makeLink draw r =>
    obtain ⟨a, h⟩ := save_of_discard h
    exact iff_of_false (makeLink_not_same h) id
  | createLink draw host body =>
    obtain ⟨a, h⟩ := save_of_discard h
    obtain ⟨r, -, h⟩ := createLink_save h
    exact iff_of_false (makeLink_not_same h) id
  | removeLink uid =>
    obtain ⟨a, h⟩ := save_of_discard h
    exact iff_of_false (removeLink_not_same h) id
  | setLinkActive uid active =>
    obtain ⟨a, h⟩ := save_of_discard h
    exact setLinkActive_same_iff h
  | updateLink uid host body => exact updateLink_same_iff h
  | createSubGroup draw token name desc password =>
    obtain ⟨a, h⟩ := save_of_discard h
    exact createSubGroup_same_iff h
  | createSub draw token body =>
    obtain ⟨a, h⟩ := save_of_discard h
    cases body with
    | obj fields =>
      rw [createSubGroup_same_iff h]
      simp [Op.Void]
    | _ => cases h
  | setLinkSub uid subId =>
    obtain ⟨a, h⟩ := save_of_discard h
    exact setLinkSub_same_iff h
  | removeSubGroup subId =>
    obtain ⟨a, h⟩ := save_of_discard h
    obtain ⟨hsub, hp⟩ := removeSubGroup_save h
    exact iff_of_false (freed_not_same hsub hp) id
  | deleteSub subId =>
    obtain ⟨hsub, hp⟩ := deleteSub_save h
    exact iff_of_false (freed_not_same hsub hp) id
  | updateSub tokens subId body => exact updateSub_same_iff h
  | assignLinkToSub subId body => exact assignLinkToSub_same_iff h

/-- An operation whose save failed leaves the links and the groups as they were if and only if
all that it asked for was stored already. -/
theorem failed_save_atomic (server : Server) (op : Op) (w : World) (h : SaveFailed server op w) :
    Unchanged server op w ↔ op.Void server w.panel := by
  obtain ⟨⟨p', hchange⟩, -⟩ := h
  rw [Unchanged, run_panel, hchange]
  exact change_same_iff hchange

/-- A panel with one link, and a disk that refuses the next write. -/
def refusedWorld : World where
  panel := { freshPanel with
    links := Dict.empty.set "id" [("label", .str "phone"), ("active", .bool true)] }
  writes := [false]

/-- A link that is active already is made active, and the save fails. -/
theorem failed_save_active :
    Unchanged (.bare .sample) (.setLinkActive "id" (.bool true)) refusedWorld :=
  (failed_save_atomic _ _ _ ⟨⟨_, rfl⟩, rfl⟩).mpr fun link hlink => by
    obtain rfl := Option.some.inj hlink
    rfl

/-- The group is there, although the caller is told that it could not be created. -/
theorem failed_save_group :
    SaveFailed (.bare .sample)
        (.createSubGroup 1 (brokenStart.tokens "" 0) (.str "family") .null .null)
        ⟨freshPanel, [false]⟩ ∧
      ¬ Unchanged (.bare .sample)
        (.createSubGroup 1 (brokenStart.tokens "" 0) (.str "family") .null .null)
        ⟨freshPanel, [false]⟩ := by
  refine ⟨⟨⟨_, rfl⟩, rfl⟩, ?_⟩
  rintro ⟨-, hsubs⟩
  have hlength := congrArg (fun subs => subs.entries.length) hsubs
  exact absurd hlength (by decide +kernel)

end State
