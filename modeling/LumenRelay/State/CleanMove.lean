import LumenRelay.State.Atomicity
import LumenRelay.State.TwoWay

/-!
# A new list of members

An edited group gets the list that was asked for.  The links that are new in it are taken from
their groups, the links that are no longer in it have no group, and nothing else is touched.
-/

namespace State

open Lib Py Routing

variable {server : Server} {p p' : Panel}

/-! ## The list of a request -/

/-- The links of a request that exist, in the order of the request and without repetitions. -/
def requestedIds (rt : Runtime) (links : Dict String Obj) (rawIds : List Json) : List String :=
  ((rawIds.map (Json.text rt)).filter fun lid => lid ≠ "" ∧ links.contains lid = true).eraseDups

/-- The loop of the source removes the repetitions as it goes.  The induction is on the list of
the request, for any list of links that were taken already. -/
lemma knownIds_eq (rt : Runtime) (links : Dict String Obj) (rawIds : List Json) :
    knownIds rt links rawIds = requestedIds rt links rawIds := by
  suffices ∀ clean : List String,
      rawIds.foldl (fun cleanIds lid =>
        let lid := lid.text rt
        if lid ≠ "" ∧ links.contains lid ∧ lid ∉ cleanIds then cleanIds ++ [lid] else cleanIds)
        clean =
      clean ++ ((rawIds.map (Json.text rt)).filter fun lid =>
        (lid ≠ "" ∧ links.contains lid = true) ∧ lid ∉ clean).eraseDups by
    simpa [requestedIds, knownIds] using this []
  induction rawIds with
  | nil => simp
  | cons lid rawIds ih =>
    intro clean
    rw [List.foldl_cons, ih]
    dsimp only
    rw [List.map_cons, List.filter_cons]
    by_cases hknown : lid.text rt ≠ "" ∧ links.contains (lid.text rt) = true
    · by_cases hold : lid.text rt ∈ clean
      · simp [hknown, hold]
      · -- the link is taken, and will not be taken again
        rw [if_pos ⟨hknown.1, hknown.2, hold⟩, if_pos (by simp [hknown, hold]),
          List.eraseDups_cons, List.filter_filter, List.append_assoc]
        refine congrArg (fun ids => clean ++ lid.text rt :: List.eraseDups ids) ?_
        refine List.filter_congr fun l _ => ?_
        by_cases hl : l = lid.text rt <;> simp [hl]
    · have hskip : ¬ (lid.text rt ≠ "" ∧ links.contains (lid.text rt) = true ∧ lid.text rt ∉ clean) :=
        fun h => hknown ⟨h.1, h.2.1⟩
      rw [if_neg hskip, if_neg]
      rw [decide_eq_true_eq]
      exact fun h => hknown h.1

/-! ## Records -/

/-- A link that names no group any more is the same when it is released again. -/
lemma freed_freed (subId : String) (link : Obj) : freed subId (freed subId link) = freed subId link := by
  unfold freed
  by_cases h : link.get "sub_id" = .str subId
  · rw [if_pos h, if_neg]
    rw [Obj.get_set_self]
    exact Json.noConfusion
  · rw [if_neg h, if_neg h]

/-- The record of a link after some links were released. -/
lemma get?_release (subId : String) (gone : List String) (links : Dict String Obj) (l : String) :
    ((gone.map Json.str).foldl (releaseLink subId) links).get? l =
      (links.get? l).map fun link => if l ∈ gone then freed subId link else link := by
  induction gone generalizing links with
  | nil => simp
  | cons uid gone ih =>
    rw [List.map_cons, List.foldl_cons, ih]
    change ((links.modify uid (freed subId)).get? l).map _ = _
    rw [Dict.get?_modify]
    by_cases hl : l = uid
    · subst hl
      rw [if_pos rfl, Option.map_map]
      refine Option.map_congr fun link _ => ?_
      simp only [Function.comp_apply, List.mem_cons, true_or, if_true, freed_freed, ite_self]
    · rw [if_neg hl]
      simp [hl]

/-- The record of a link after some links were claimed. -/
lemma get?_claim (subId : String) (ids : List String) (links : Dict String Obj) (l : String) :
    (claimLinks subId ids links).1.get? l =
      (links.get? l).map fun link => if l ∈ ids then link.set "sub_id" (.str subId) else link := by
  induction ids generalizing links with
  | nil => simp [claimLinks]
  | cons uid ids ih =>
    rw [claimLinks]
    cases hlink : links.get? uid with
    | none =>
      dsimp only
      rw [ih]
      refine Option.map_congr fun link hl => ?_
      have hne : l ≠ uid := by
        rintro rfl
        cases hlink.symm.trans hl
      simp [hne]
    | some link =>
      dsimp only
      rw [ih, Dict.get?_set]
      by_cases hl : l = uid
      · subst hl
        rw [if_pos rfl, hlink, Option.map_some, Option.map_some]
        by_cases hmem : l ∈ ids
        · simp [hmem, Obj.set, Assoc.set_set]
        · simp [hmem]
      · simp [hl]

/-- The record of a link after a group got a new list. -/
lemma get?_moved (subId : String) (old new : List String) (links : Dict String Obj) (l : String) :
    (movedLinks subId old new links).1.get? l = (links.get? l).map fun link =>
      if l ∈ new then if l ∈ old then link else link.set "sub_id" (.str subId)
      else if l ∈ old then freed subId link else link := by
  unfold movedLinks
  rw [get?_claim, get?_release, Option.map_map]
  refine Option.map_congr fun link _ => ?_
  by_cases hnew : l ∈ new <;> by_cases hold : l ∈ old <;> simp [hnew, hold]

/-- Two records of a group that have the same fields but for their lists. -/
def SameButList (sub sub' : Obj) : Prop := ∀ key, key ≠ "link_ids" → sub'.find key = sub.find key

/-- A group whose link was taken out has its other fields. -/
lemma sameButList_unlist {uid : String} {sub sub' : Obj} (h : unlistLink uid sub = .ok sub') :
    SameButList sub sub' := by
  intro key hkey
  rcases unlistLink_ok h with ⟨ids, -, rfl⟩ | ⟨-, -, rfl⟩
  · split
    · exact find_set_ne hkey sub _
    · rfl
  · rfl

/-- The record of a group after links were taken out of other groups. -/
lemma detachAll_record {moved : List (Json × String)} (h : detachAll moved p = (.ok (), p'))
    (t : String) :
    (p.subs.get? t = none → p'.subs.get? t = none) ∧
      ∀ sub, p.subs.get? t = some sub → ∃ sub', p'.subs.get? t = some sub' ∧ SameButList sub sub' ∧
        ((∀ e ∈ moved, e.1 ≠ .str t) → sub' = sub) := by
  induction moved generalizing p with
  | nil =>
    obtain rfl : p = p' := congrArg Prod.snd h
    exact ⟨id, fun sub hsub => ⟨sub, hsub, fun _ _ => rfl, fun _ => rfl⟩⟩
  | cons e moved ih =>
    obtain ⟨prev, uid⟩ := e
    obtain ⟨_, p₁, hfirst, hrest⟩ := Effect.bind_eq_ok h
    obtain ⟨subs₁, hedit, rfl⟩ := onSub_ok hfirst
    obtain ⟨hnone, hsome⟩ := ih hrest
    by_cases ht : prev = .str t
    · subst ht
      cases hedit with
      | same _ =>
        refine ⟨hnone, fun sub hsub => ?_⟩
        obtain ⟨sub', hsub', hfields, -⟩ := hsome sub hsub
        exact ⟨sub', hsub', hfields, fun hno => absurd rfl (hno _ List.mem_cons_self)⟩
      | @edit s sub₀ sub₁ hkey _ hsub₀ hunlist =>
        obtain rfl := Json.str.inj hkey
        refine ⟨fun hno => (by cases hno.symm.trans hsub₀), fun sub hsub => ?_⟩
        obtain rfl := Option.some.inj (hsub₀.symm.trans hsub)
        obtain ⟨sub', hsub', hfields, -⟩ := hsome sub₁ (Dict.get?_set_self ..)
        refine ⟨sub', hsub', fun key hkey => ?_, fun hno => absurd rfl (hno _ List.mem_cons_self)⟩
        exact (hfields key hkey).trans (sameButList_unlist hunlist key hkey)
    · rw [hedit.get?_of_ne ht] at hnone hsome
      refine ⟨hnone, fun sub hsub => ?_⟩
      obtain ⟨sub', hsub', hfields, hsame⟩ := hsome sub hsub
      exact ⟨sub', hsub', hfields, fun hno => hsame fun e he => hno e (List.mem_cons_of_mem _ he)⟩

/-! ## The move -/

/-- The members of a group became those of a new list, and nothing else happened to links and
groups. -/
structure CleanMove (p p' : Panel) (subId : String) (old new : List String) : Prop where
  /-- The group has the new list. -/
  list : ∃ sub', p'.subs.get? subId = some sub' ∧ memberIds sub' = .arr (new.map .str)
  /-- The links in it are in this group. -/
  joined : ∀ uid ∈ new, ∃ link', p'.links.get? uid = some link' ∧ link'.get "sub_id" = .str subId
  /-- They are in the list of no other group. -/
  elsewhere : ∀ t sub', t ≠ subId → p'.subs.get? t = some sub' →
    ∃ ids : List String, memberIds sub' = .arr (ids.map .str) ∧ ∀ uid ∈ new, uid ∉ ids
  /-- The links that were dropped from the list have no group. -/
  dropped : ∀ uid ∈ old, uid ∉ new →
    ∃ link', p'.links.get? uid = some link' ∧ link'.get "sub_id" = .null
  consistent : TwoWay p'
  /-- A link that was moved neither in nor out is the same. -/
  otherLinks : ∀ uid, (uid ∈ old ↔ uid ∈ new) → p'.links.get? uid = p.links.get? uid
  /-- A link that was moved keeps its other fields, and no link appears or goes away. -/
  linkFields : ∀ uid, (p.links.get? uid = none → p'.links.get? uid = none) ∧
    ∀ link, p.links.get? uid = some link → ∃ link', p'.links.get? uid = some link' ∧
      ∀ key, key ≠ "sub_id" → link'.find key = link.find key
  /-- Another group lists the links that were not moved, keeps its other fields, and is the same
  if none was moved out of it; no group appears or goes away. -/
  otherGroups : ∀ t, t ≠ subId → (p.subs.get? t = none → p'.subs.get? t = none) ∧
    ∀ sub, p.subs.get? t = some sub → ∃ sub', p'.subs.get? t = some sub' ∧ SameButList sub sub' ∧
      texts (memberIds sub') = (texts (memberIds sub)).filter (fun uid => uid ∉ new) ∧
      ((∀ uid ∈ texts (memberIds sub), uid ∉ new) → sub' = sub)

lemma members_of_get? {subs : Dict String Obj} {s : String} {sub : Obj} (h : subs.get? s = some sub) :
    members subs s = some (texts (memberIds sub)) := by
  rw [members, h]
  rfl

/-- The part of `update_sub` after the group has its new list. -/
lemma cleanMove_syncMembers (h : Agree p) {subId : String} {sub sub' : Obj} {new : List String}
    (hsub : p.subs.get? subId = some sub) (hids : memberIds sub' = .arr (new.map .str))
    (hnd : new.Nodup) (hknown : ∀ uid ∈ new, p.links.contains uid = true)
    (hrun : syncMembers subId ((texts (memberIds sub)).map .str) new
      { p with subs := p.subs.set subId sub' } = (.ok (), p')) :
    CleanMove p p' subId (texts (memberIds sub)) new := by
  have hagree := agree_syncMembers h hsub hids hnd hknown
  obtain ⟨subs, hsync, hdetach, hmoved, -, hsubs, hgroups⟩ := syncMembers_groups h hsub hids hnd hknown
  have hlisted := members_of_get? hsub
  have hold : ∀ l, l ∈ texts (memberIds sub) ↔ owner p.links l = some subId :=
    fun l => h.mirror.listed_iff l subId _ hlisted
  rw [hrun] at hagree
  rw [hsync] at hrun
  obtain ⟨-, rfl⟩ := Prod.mk.inj hrun
  generalize texts (memberIds sub) = old at *
  have hlink := get?_moved subId old new p.links
  have hmembers : ∀ t, members subs t = ((groupsOf p).regroup subId new).members t :=
    fun t => congrFun (congrArg Groups.members hgroups) t
  -- the record of a group is found from the one before the other groups were edited
  have hrecord := fun t => detachAll_record hdetach t
  have hself : subs.get? subId = some sub' := by
    obtain ⟨-, hsome⟩ := hrecord subId
    obtain ⟨sub₁, hsub₁, -, hsame⟩ := hsome sub' (Dict.get?_set_self ..)
    rw [hsub₁, hsame]
    intro e he heq
    obtain ⟨-, t, ht, hne, -⟩ := hmoved e he
    exact hne (Json.str.inj (ht.symm.trans heq))
  refine ⟨⟨sub', hself, hids⟩, ?_, ?_, ?_, hagree.twoWay, ?_, ?_, ?_⟩
  · intro uid huid
    obtain ⟨link, hget⟩ := Dict.contains_iff.mp (hknown uid huid)
    have hafter := hlink uid
    rw [hget, Option.map_some, if_pos huid] at hafter
    refine ⟨_, hafter, ?_⟩
    split
    · rename_i hin
      -- a member that stays named the group before
      have howner := (hold uid).mp hin
      rw [owner_of_get? hget] at howner
      exact (groupKey_eq_some_iff.mp howner).1
    · exact Obj.get_set_self ..
  · intro t sub₁ ht hget
    have hlist := hmembers t
    rw [members_of_get? hget] at hlist
    refine ⟨_, hsubs t sub₁ hget, fun uid huid hmem => ?_⟩
    simp only [Groups.regroup, if_neg ht] at hlist
    obtain ⟨ids, -, hfilter⟩ := Option.map_eq_some_iff.mp hlist.symm
    rw [← hfilter, List.mem_filter] at hmem
    simp [huid] at hmem
  · intro uid huid hnew
    obtain ⟨⟨link, hget, hsubId⟩, -⟩ := owner_eq_some_iff.mp ((hold uid).mp huid)
    have hafter := hlink uid
    rw [hget, Option.map_some, if_neg hnew, if_pos huid, freed, if_pos hsubId] at hafter
    exact ⟨_, hafter, Obj.get_set_self ..⟩
  · intro uid hiff
    rw [hlink uid]
    by_cases huid : uid ∈ old
    · simp [huid, hiff.mp huid]
    · simp [huid, mt hiff.mpr huid]
  · intro uid
    rw [hlink uid]
    refine ⟨fun hnone => by rw [hnone, Option.map_none], fun link hget => ?_⟩
    rw [hget]
    refine ⟨_, rfl, fun key hkey => ?_⟩
    dsimp only [freed]
    split_ifs
    · rfl
    · exact find_set_ne hkey link _
    · exact find_set_ne hkey link _
    · rfl
    · rfl
  · intro t ht
    obtain ⟨hnone, hsome⟩ := hrecord t
    rw [Dict.get?_set_ne ht] at hnone hsome
    refine ⟨hnone, fun sub₀ hget => ?_⟩
    obtain ⟨sub₁, hsub₁, hfields, hsame⟩ := hsome sub₀ hget
    refine ⟨sub₁, hsub₁, hfields, ?_, fun hstay => hsame fun e he heq => ?_⟩
    · have hlist := hmembers t
      rw [members_of_get? hsub₁] at hlist
      simp only [Groups.regroup, if_neg ht] at hlist
      change _ = (members p.subs t).map _ at hlist
      rw [members_of_get? hget] at hlist
      exact Option.some.inj hlist
    · -- a link that was taken out of the group was listed there
      obtain ⟨hnew, s, hs, -, howner⟩ := hmoved e he
      obtain rfl := Json.str.inj (hs.symm.trans heq)
      have hmem := (h.mirror.listed_iff e.2 s _ (members_of_get? hget)).mpr howner
      exact hstay e.2 hmem hnew

/-- Editing the members of a group is a clean move: the group gets the links of the request that
exist, in order and each once, its new members leave their groups for it, the dropped ones are in
no group, and nothing else changes. -/
theorem clean_move {w w' : World} {tokens : ℕ → Token} {subId : String} {fields : Obj}
    {rawIds : List Json} (htwo : TwoWay w.panel) (hkeyed : w.panel.subs.get? "" = none)
    (hids : fields.find "link_ids" = some (.arr rawIds))
    (hrun : (Op.updateSub tokens subId (.obj fields)).run server w = (.ok (), w')) :
    ∃ sub old, w.panel.subs.get? subId = some sub ∧ memberIds sub = .arr (old.map .str) ∧
      CleanMove w.panel w'.panel subId old
        (requestedIds server.site.rt w.panel.links rawIds) := by
  have h := htwo.agree hkeyed
  have hchange : ∃ fin, updateSub server tokens subId (.obj fields) w.panel = (.ok fin, w'.panel) := by
    rcases perform_ok hrun with ⟨hdone, -⟩ | ⟨p', hsave, -, rfl⟩
    · exact ⟨_, hdone⟩
    · exact ⟨_, hsave⟩
  obtain ⟨fin, hchange⟩ := hchange
  obtain ⟨-, sub, fields', ml, ids, sub', hsub, hfields, -, hmembers, hwrites, hcases⟩ :=
    updateSub_ok hchange
  obtain rfl := Json.obj.inj hfields
  have hlist : ids = some (requestedIds server.site.rt w.panel.links rawIds) := by
    have hget : Obj.get fields "link_ids" = .arr rawIds := get_of_find hids
    have hhas : Obj.has fields "link_ids" = true := Option.isSome_of_eq_some hids
    rw [subMembers, hhas, hget] at hmembers
    exact (Except.ok.inj hmembers).symm.trans (congrArg some (knownIds_eq _ _ _))
  obtain ⟨hnd, hknown⟩ := subMembers_some (hlist ▸ hmembers)
  have htexts := h.subs subId sub hsub
  obtain ⟨sub'', hwrites', hids'⟩ := @writeFields_subWrites server fields ml ids sub _ htexts
  obtain rfl : sub'' = sub' := congrArg Prod.snd (hwrites'.symm.trans hwrites)
  rw [hlist] at hids'
  rcases hcases with ⟨hnone, -⟩ | ⟨new, old, hnew, hold, hsync⟩
  · cases hlist.symm.trans hnone
  · obtain rfl := Option.some.inj (hlist.symm.trans hnew)
    rw [idSet_texts htexts] at hold
    obtain rfl := Except.ok.inj hold
    exact ⟨sub, _, hsub, htexts, cleanMove_syncMembers h hsub hids' hnd hknown hsync⟩

/-- Two groups with a link each. -/
def twoGroups : Panel where
  links := (Dict.empty.set "a" [("sub_id", .str "g1")]).set "c" [("sub_id", .str "g2")]
  subs := (Dict.empty.set "g1" [("link_ids", .arr [.str "a"])]).set "g2"
    [("link_ids", .arr [.str "c"])]
  tests := .empty
  preferred := .empty
  passwordHash := .null

/-- Which links name which groups. -/
lemma twoGroups_named {uid s : String} :
    (∃ link, twoGroups.links.get? uid = some link ∧ link.get "sub_id" = .str s) ↔
      (uid = "c" ∧ s = "g2") ∨ (uid = "a" ∧ s = "g1") := by
  constructor
  · rintro ⟨link, hlink, hgroup⟩
    unfold twoGroups at hlink
    rw [Dict.get?_set, Dict.get?_set] at hlink
    split_ifs at hlink with hc ha
    · obtain rfl := Option.some.inj hlink
      exact .inl ⟨hc, (Json.str.inj hgroup).symm⟩
    · obtain rfl := Option.some.inj hlink
      exact .inr ⟨ha, (Json.str.inj hgroup).symm⟩
    · cases hlink
  · rintro (⟨rfl, rfl⟩ | ⟨rfl, rfl⟩)
    · exact ⟨_, rfl, rfl⟩
    · exact ⟨_, rfl, rfl⟩

lemma twoWay_twoGroups : TwoWay twoGroups where
  listed s sub hsub := by
    unfold twoGroups at hsub
    rw [Dict.get?_set, Dict.get?_set] at hsub
    split_ifs at hsub with h₂ h₁
    · subst h₂
      obtain rfl := Option.some.inj hsub
      exact ⟨["c"], rfl, by simp, fun uid => by simp [twoGroups_named]⟩
    · subst h₁
      obtain rfl := Option.some.inj hsub
      exact ⟨["a"], rfl, by simp, fun uid => by simp [twoGroups_named]⟩
    · cases hsub
  named uid link hlink htruthy := by
    unfold twoGroups at hlink
    rw [Dict.get?_set, Dict.get?_set] at hlink
    split_ifs at hlink
    · obtain rfl := Option.some.inj hlink
      exact ⟨"g2", rfl, by decide⟩
    · obtain rfl := Option.some.inj hlink
      exact ⟨"g1", rfl, by decide⟩
    · cases hlink

/-- The first group is asked to take the link of the second one, named twice, and a link that
does not exist. -/
def takeOver : Op :=
  .updateSub (fun _ => ⟨"t", by decide, by simp⟩) "g1"
    (.obj [("link_ids", .arr [.str "c", .str "b", .str "c"])])

theorem clean_move_taken_over : ∃ w' sub old,
    takeOver.run (.bare .sample) ⟨twoGroups, []⟩ = (.ok (), w') ∧
      twoGroups.subs.get? "g1" = some sub ∧ memberIds sub = .arr (old.map .str) ∧
      CleanMove twoGroups w'.panel "g1" old ["c"] := by
  have hok : (takeOver.run (.bare .sample) ⟨twoGroups, []⟩).1 = .ok () := by decide +kernel
  have hrun : takeOver.run (.bare .sample) ⟨twoGroups, []⟩ =
      (.ok (), (takeOver.run (.bare .sample) ⟨twoGroups, []⟩).2) := Prod.ext hok rfl
  obtain ⟨sub, old, hsub, hold, hmove⟩ := clean_move twoWay_twoGroups rfl rfl hrun
  have hids : requestedIds (Server.bare .sample).site.rt twoGroups.links
      [.str "c", .str "b", .str "c"] = ["c"] := by
    decide +kernel
  rw [hids] at hmove
  exact ⟨_, sub, old, hrun, hsub, hold, hmove⟩

end State
