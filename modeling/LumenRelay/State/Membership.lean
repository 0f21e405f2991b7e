import LumenRelay.Lib.Mirror
import LumenRelay.State.Changes

/-!
# Membership of links in groups

The panel stores the membership of a link twice: the link names its group, and the group lists
its links.  Here are the two sides as a two-way membership, and what the parts of an operation
do to each side.
-/

namespace State

open Lib Py Routing

/-! ## The two sides -/

/-- The group that a value of `sub_id` names. -/
def groupKey : Json → Option String
  | .str s => if s = "" then none else some s
  | _ => none

/-- The texts of a list. -/
def texts : Json → List String
  | .arr l => l.filterMap fun v => match v with | .str s => some s | _ => none
  | _ => []

/-- The group that a link names. -/
def owner (links : Dict String Obj) (uid : String) : Option String :=
  (links.get? uid).bind fun link => groupKey (link.get "sub_id")

/-- The links that a group lists. -/
def members (subs : Dict String Obj) (s : String) : Option (List String) :=
  (subs.get? s).map fun sub => texts (memberIds sub)

/-- The membership that the panel stores. -/
def groupsOf (p : Panel) : Groups String String := ⟨owner p.links, members p.subs⟩

/-- A value of `sub_id` names a group by a text, or none. -/
def Textual (key : Json) : Prop := key.truthy = true → ∃ s, key = .str s

/-- The links name their groups by texts. -/
def TextualLinks (links : Dict String Obj) : Prop :=
  ∀ uid link, links.get? uid = some link → Textual (link.get "sub_id")

/-- The groups list their links as texts. -/
def TextualSubs (subs : Dict String Obj) : Prop :=
  ∀ s sub, subs.get? s = some sub → memberIds sub = .arr ((texts (memberIds sub)).map .str)

lemma texts_map (ids : List String) : texts (.arr (ids.map .str)) = ids := by
  rw [texts, List.filterMap_map]
  exact List.filterMap_some

lemma groupKey_eq_some_iff {key : Json} {s : String} : groupKey key = some s ↔ key = .str s ∧ s ≠ "" := by
  cases key with
  | str t =>
    by_cases ht : t = ""
    · simp [groupKey, ht, eq_comm]
    · rw [groupKey, if_neg ht]
      constructor
      · intro h
        obtain rfl := Option.some.inj h
        exact ⟨rfl, ht⟩
      · rintro ⟨h, -⟩
        rw [Json.str.inj h]
  | _ => simp [groupKey]

lemma groupKey_of_not_truthy {key : Json} (h : key.truthy = false) : groupKey key = none := by
  rw [Option.eq_none_iff_forall_ne_some]
  rintro s hs
  obtain ⟨rfl, hne⟩ := groupKey_eq_some_iff.mp hs
  exact Bool.noConfusion (h.symm.trans (truthy_str_iff.mpr hne))

lemma groupKey_str {s : String} (hs : s ≠ "") : groupKey (.str s) = some s := if_neg hs

lemma textual_str (s : String) : Textual (.str s) := fun _ => ⟨s, rfl⟩

lemma textual_of_not_truthy {key : Json} (h : key.truthy = false) : Textual key := by
  intro htruthy
  rw [h] at htruthy
  cases htruthy

/-! ## The side of the links -/

lemma owner_set (links : Dict String Obj) (uid : String) (link : Obj) :
    owner (links.set uid link) =
      Function.update (owner links) uid (groupKey (link.get "sub_id")) := by
  funext uid'
  unfold owner
  rw [Dict.get?_set]
  by_cases h : uid' = uid
  · subst h
    simp
  · simp [h]

/-- A link whose group stays the same. -/
lemma owner_set_same {links : Dict String Obj} {uid : String} {link link' : Obj}
    (hlink : links.get? uid = some link) (hsame : link'.get "sub_id" = link.get "sub_id") :
    owner (links.set uid link') = owner links := by
  rw [owner_set, hsame]
  refine Function.update_eq_self_iff.mpr ?_
  rw [owner, hlink]
  rfl

lemma owner_erase (links : Dict String Obj) (uid : String) :
    owner (links.erase uid) = Function.update (owner links) uid none := by
  funext uid'
  unfold owner
  rw [Dict.get?_erase]
  by_cases h : uid' = uid
  · subst h
    simp
  · simp [h]

lemma owner_of_get? {links : Dict String Obj} {uid : String} {link : Obj}
    (hlink : links.get? uid = some link) : owner links uid = groupKey (link.get "sub_id") := by
  rw [owner, hlink]
  rfl

lemma owner_of_none {links : Dict String Obj} {uid : String} (hlink : links.get? uid = none) :
    owner links uid = none := by
  rw [owner, hlink]
  rfl

lemma textualLinks_set {links : Dict String Obj} (h : TextualLinks links) (uid : String) {link : Obj}
    (hlink : Textual (link.get "sub_id")) : TextualLinks (links.set uid link) := by
  intro uid' link' hget
  rw [Dict.get?_set] at hget
  split at hget
  · obtain rfl := Option.some.inj hget
    exact hlink
  · exact h uid' link' hget

lemma textualLinks_erase {links : Dict String Obj} (h : TextualLinks links) (uid : String) :
    TextualLinks (links.erase uid) := by
  intro uid' link' hget
  rw [Dict.get?_erase] at hget
  split at hget
  · cases hget
  · exact h uid' link' hget

/-- A link that named a group names none. -/
def freed (subId : String) (link : Obj) : Obj :=
  if link.get "sub_id" = .str subId then link.set "sub_id" .null else link

lemma textual_freed {subId : String} {link : Obj} (h : Textual (link.get "sub_id")) :
    Textual ((freed subId link).get "sub_id") := by
  unfold freed
  split
  · rw [Obj.get_set_self]
    exact textual_of_not_truthy rfl
  · exact h

lemma groupKey_freed {subId : String} (hs : subId ≠ "") (link : Obj) :
    groupKey ((freed subId link).get "sub_id") =
      if groupKey (link.get "sub_id") = some subId then none else groupKey (link.get "sub_id") := by
  unfold freed
  by_cases h : link.get "sub_id" = .str subId
  · rw [if_pos h, Obj.get_set_self, h, groupKey_str hs, if_pos rfl]
    rfl
  · have hkey : groupKey (link.get "sub_id") ≠ some subId := by
      intro hkey
      exact h (groupKey_eq_some_iff.mp hkey).1
    rw [if_neg h, if_neg hkey]

lemma owner_freeLinks {subId : String} (hs : subId ≠ "") (links : Dict String Obj) (uid : String) :
    owner (freeLinks subId links) uid =
      if owner links uid = some subId then none else owner links uid := by
  unfold owner freeLinks
  rw [Dict.get?_mapVal]
  cases links.get? uid with
  | none => rfl
  | some link => exact groupKey_freed hs link

lemma textualLinks_freeLinks {links : Dict String Obj} (h : TextualLinks links) (subId : String) :
    TextualLinks (freeLinks subId links) := by
  intro uid link hget
  rw [freeLinks, Dict.get?_mapVal, Option.map_eq_some_iff] at hget
  obtain ⟨link₀, hlink₀, rfl⟩ := hget
  exact textual_freed (h uid link₀ hlink₀)

/-! ## The side of the groups -/

/-- The members of the groups after the list of one of them was changed. -/
def changeMembers (s : Option String) (g : List String → List String)
    (m : String → Option (List String)) (t : String) : Option (List String) :=
  (m t).map fun ids => if s = some t then g ids else ids

lemma changeMembers_none (g : List String → List String) (m : String → Option (List String)) :
    changeMembers none g m = m := by
  funext t
  simp [changeMembers]

lemma members_set {subs : Dict String Obj} {s : String} {sub sub' : Obj} {g : List String → List String}
    (hsub : subs.get? s = some sub) (hg : texts (memberIds sub') = g (texts (memberIds sub))) :
    members (subs.set s sub') = changeMembers (some s) g (members subs) := by
  funext t
  unfold changeMembers members
  rw [Dict.get?_set]
  by_cases h : t = s
  · subst h
    simp [hsub, hg]
  · simp only [h, Ne.symm h, if_false, Option.some.injEq, Option.map_map]
    rfl

/-- A group that is created, or whose list is replaced. -/
lemma members_set_new (subs : Dict String Obj) (s : String) (sub : Obj) :
    members (subs.set s sub) = Function.update (members subs) s (some (texts (memberIds sub))) := by
  funext t
  unfold members
  rw [Dict.get?_set]
  by_cases h : t = s
  · subst h
    simp
  · simp [h]

lemma members_erase (subs : Dict String Obj) (s : String) :
    members (subs.erase s) = Function.update (members subs) s none := by
  funext t
  unfold members
  rw [Dict.get?_erase]
  by_cases h : t = s
  · subst h
    simp
  · simp [h]

/-- A group whose list stays the same. -/
lemma members_set_same {subs : Dict String Obj} {s : String} {sub sub' : Obj}
    (hsub : subs.get? s = some sub) (hsame : memberIds sub' = memberIds sub) :
    members (subs.set s sub') = members subs := by
  rw [members_set (g := id) hsub (by rw [hsame]; rfl)]
  funext t
  simp [changeMembers]

lemma textualSubs_set {subs : Dict String Obj} (h : TextualSubs subs) {s : String} {sub : Obj}
    {ids : List String} (hsub : memberIds sub = .arr (ids.map .str)) : TextualSubs (subs.set s sub) := by
  intro t sub' hget
  rw [Dict.get?_set] at hget
  split at hget
  · obtain rfl := Option.some.inj hget
    rw [hsub, texts_map]
  · exact h t sub' hget

lemma textualSubs_erase {subs : Dict String Obj} (h : TextualSubs subs) (s : String) :
    TextualSubs (subs.erase s) := by
  intro t sub hget
  rw [Dict.get?_erase] at hget
  split at hget
  · cases hget
  · exact h t sub hget

lemma members_eq_none_iff {subs : Dict String Obj} {s : String} :
    members subs s = none ↔ subs.get? s = none := by
  simp [members]

/-- A link is taken out of a list of texts. -/
lemma unlistLink_texts (uid : String) {sub : Obj} {ids : List String}
    (h : memberIds sub = .arr (ids.map .str)) :
    ∃ sub', unlistLink uid sub = .ok sub' ∧ memberIds sub' = .arr ((ids.erase uid).map .str) := by
  have herase : (ids.map Json.str).erase (.str uid) = (ids.erase uid).map .str := by
    rw [List.map_erase (fun a b hab => Json.str.inj hab)]
  unfold memberIds at h
  unfold unlistLink
  rw [h]
  change ∃ sub', (if decide (Json.str uid ∈ ids.map Json.str) = true then
    Except.ok (sub.set "link_ids" (.arr ((ids.map Json.str).erase (.str uid)))) else Except.ok sub) =
      .ok sub' ∧ _
  split
  · refine ⟨_, rfl, ?_⟩
    rw [memberIds_set, herase]
  · rename_i hmem
    refine ⟨_, rfl, ?_⟩
    rw [memberIds, h, ← herase, List.erase_of_not_mem (by simpa using hmem)]

/-- A link is added to a list of texts. -/
lemma listLink_texts (uid : String) {sub : Obj} {ids : List String}
    (h : memberIds sub = .arr (ids.map .str)) :
    ∃ sub', listLink uid sub = .ok sub' ∧
      memberIds sub' = .arr ((if uid ∈ ids then ids else ids ++ [uid]).map .str) := by
  unfold listLink
  dsimp only
  rw [memberIds_setDefault, h]
  have hmem : Json.str uid ∈ ids.map Json.str ↔ uid ∈ ids := by simp
  change ∃ sub', (if decide (Json.str uid ∈ ids.map Json.str) = true then
    Except.ok (sub.setDefault "link_ids" (.arr [])) else
      Except.ok (Obj.set (sub.setDefault "link_ids" (.arr [])) "link_ids"
        (.arr (ids.map Json.str ++ [.str uid])))) = .ok sub' ∧ _
  by_cases hlisted : uid ∈ ids
  · rw [if_pos (decide_eq_true (hmem.mpr hlisted)), if_pos hlisted]
    refine ⟨_, rfl, ?_⟩
    rw [memberIds_of_setDefault, h]
  · rw [if_neg (by simpa using hlisted), if_neg hlisted]
    refine ⟨_, rfl, ?_⟩
    rw [memberIds_set]
    simp

/-- What is done to the list of a group. -/
def ListEdit (f : Obj → Except PyErr Obj) (g : List String → List String) : Prop :=
  ∀ sub ids, memberIds sub = .arr (ids.map .str) →
    ∃ sub', f sub = .ok sub' ∧ memberIds sub' = .arr ((g ids).map .str)

lemma listEdit_unlist (uid : String) : ListEdit (unlistLink uid) fun ids => ids.erase uid :=
  fun _ _ h => unlistLink_texts uid h

lemma listEdit_list (uid : String) :
    ListEdit (listLink uid) fun ids => if uid ∈ ids then ids else ids ++ [uid] :=
  fun _ _ h => listLink_texts uid h

lemma findSub_str (subs : Dict String Obj) (s : String) :
    findSub subs (.str s) = .ok ((subs.get? s).map fun sub => (s, sub)) := rfl

/-- Editing the list of the group that a key names, if it names one; it does not raise. -/
lemma onSub_texts {f : Obj → Except PyErr Obj} {g : List String → List String} (hf : ListEdit f g)
    {key : Json} (hkey : Textual key) {p : Panel} (hp : TextualSubs p.subs) :
    ∃ subs, onSub key f p = (.ok (), { p with subs := subs }) ∧ TextualSubs subs ∧
      members subs = changeMembers (groupKey key) g (members p.subs) := by
  unfold onSub
  by_cases htruthy : key.truthy = true
  · obtain ⟨s, rfl⟩ := hkey htruthy
    have hs := truthy_str_iff.mp htruthy
    rw [if_pos htruthy, Effect.read_bind_run, findSub_str, Effect.lift_ok_bind_run, groupKey_str hs]
    cases hsub : p.subs.get? s with
    | none =>
      refine ⟨p.subs, rfl, hp, ?_⟩
      funext t
      unfold changeMembers
      by_cases ht : s = t
      · subst ht
        simp [members, hsub]
      · simp [ht]
    | some sub =>
      obtain ⟨sub', hsub', hids⟩ := hf sub _ (hp s sub hsub)
      rw [Option.map_some]
      dsimp only
      rw [hsub', Effect.lift_ok_bind_run]
      refine ⟨_, rfl, textualSubs_set hp hids, members_set hsub ?_⟩
      rw [hids, texts_map]
  · rw [if_neg htruthy]
    refine ⟨p.subs, rfl, hp, ?_⟩
    rw [groupKey_of_not_truthy (by simpa using htruthy), changeMembers_none]

/-! ## Agreement -/

/-- The two sides agree, are stored as texts, and no group has the empty key. -/
structure Agree (p : Panel) : Prop where
  links : TextualLinks p.links
  subs : TextualSubs p.subs
  keyed : p.subs.get? "" = none
  mirror : Mirror (groupsOf p)

/-- The sides agree when they were changed by an operation on memberships that keeps them in
agreement. -/
lemma Agree.of_groups {p : Panel} (hlinks : TextualLinks p.links) (hsubs : TextualSubs p.subs)
    {g : Groups String String} (hg : groupsOf p = g) (hkeyed : g.members "" = none)
    (hmirror : Mirror g) : Agree p := by
  subst hg
  exact ⟨hlinks, hsubs, members_eq_none_iff.mp hkeyed, hmirror⟩

lemma Agree.ne_empty {p : Panel} (h : Agree p) {s : String} (hs : p.subs.contains s = true) : s ≠ "" := by
  rintro rfl
  obtain ⟨sub, hsub⟩ := Dict.contains_iff.mp hs
  rw [h.keyed] at hsub
  cases hsub

lemma members_of_contains {subs : Dict String Obj} {s : String} (hs : subs.contains s = true) :
    ∃ ids, members subs s = some ids := by
  obtain ⟨sub, hsub⟩ := Dict.contains_iff.mp hs
  exact ⟨_, by rw [members, hsub]; rfl⟩

lemma groups_remove (g : Groups String String) (uid : String) :
    (⟨Function.update g.owner uid none,
      changeMembers (g.owner uid) (fun ids => ids.erase uid) g.members⟩ : Groups String String) =
      g.remove uid := rfl

lemma groups_attach (g : Groups String String) (uid s : String) :
    (⟨Function.update g.owner uid (some s),
      changeMembers (some s) (fun ids => if uid ∈ ids then ids else ids ++ [uid]) g.members⟩ :
        Groups String String) = g.attach uid s := by
  refine Groups.ext rfl ?_
  funext t
  simp [changeMembers, Groups.attach, eq_comm]

lemma groups_attach_listed {g : Groups String String} (h : Mirror g) {uid s : String}
    (howner : g.owner uid = some s) : g.attach uid s = g := by
  refine Groups.ext ?_ ?_
  · exact Function.update_eq_self_iff.mpr howner.symm
  · funext t
    unfold Groups.attach
    dsimp only
    cases ht : g.members t with
    | none => rfl
    | some ids =>
      rw [Option.map_some]
      split
      · rename_i hts
        subst hts
        rw [if_pos ((h.listed_iff uid t ids ht).mpr howner)]
      · rfl

lemma groups_remove_free {g : Groups String String} (h : Mirror g) {uid s : String}
    (howner : g.owner uid = none) :
    (⟨Function.update g.owner uid none, changeMembers (some s) (fun ids => ids.erase uid) g.members⟩ :
      Groups String String) = g := by
  refine Groups.ext ?_ ?_
  · exact Function.update_eq_self_iff.mpr howner.symm
  · funext t
    unfold changeMembers
    dsimp only
    cases ht : g.members t with
    | none => rfl
    | some ids =>
      rw [Option.map_some]
      split
      · rw [List.erase_of_not_mem]
        intro hmem
        rw [Groups.owner_of_mem h ht hmem] at howner
        cases howner
      · rfl

/-- A link leaves its group for the one that a key names, if it names one. -/
lemma agree_regroup {p : Panel} (h : Agree p) {uid : String} {link link' : Obj} (new : Json)
    {subs : Dict String Obj} (hlink : p.links.get? uid = some link)
    (hnew : ∀ s, groupKey new = some s → p.subs.contains s = true)
    (htext : Textual (link'.get "sub_id")) (hkey : groupKey (link'.get "sub_id") = groupKey new)
    (hsubs : TextualSubs subs)
    (hmembers : members subs =
      changeMembers (groupKey new) (fun ids => if uid ∈ ids then ids else ids ++ [uid])
        (changeMembers (groupKey (link.get "sub_id")) (fun ids => ids.erase uid) (members p.subs))) :
    Agree { p with links := p.links.set uid link', subs := subs } := by
  have hlinks := textualLinks_set h.links uid htext
  rw [← owner_of_get? hlink] at hmembers
  have hempty : (groupsOf p).members "" = none := members_eq_none_iff.mpr h.keyed
  have hremove := groups_remove (groupsOf p) uid
  cases hs : groupKey new with
  | none =>
    have hgroups : groupsOf { p with links := p.links.set uid link', subs := subs } =
        (groupsOf p).remove uid := by
      rw [← hremove]
      refine Groups.ext ?_ ?_
      · rw [groupsOf, owner_set, hkey, hs]
        rfl
      · rw [groupsOf, hmembers, hs, changeMembers_none]
        rfl
    refine Agree.of_groups hlinks hsubs hgroups ?_ (Groups.mirror_remove h.mirror uid)
    simp [Groups.remove, hempty]
  | some s =>
    have hgroups : groupsOf { p with links := p.links.set uid link', subs := subs } =
        (groupsOf p).move uid s := by
      rw [Groups.move, ← groups_attach, ← hremove]
      refine Groups.ext ?_ ?_
      · rw [groupsOf, owner_set, hkey, hs, Function.update_idem]
        rfl
      · rw [groupsOf, hmembers, hs]
        rfl
    obtain ⟨ids, hids⟩ := members_of_contains (hnew s hs)
    refine Agree.of_groups hlinks hsubs hgroups ?_ (Groups.mirror_move h.mirror hids uid)
    simp [Groups.move, Groups.attach, Groups.remove, hempty]

end State
