import LumenRelay.State.Membership
import LumenRelay.State.Load
import LumenRelay.Py.Sample

/-!
# Links and groups agree

The two sides of the membership agree in every state of a run, unless a link is created in a
group that does not exist, a link is assigned to a group while it is in another or taken out of
a group that it is not in, or a group is named by a value that is no text.
-/

namespace State

open Lib Py Routing

variable {server : Server} {p : Panel}

/-! ## Operations on links -/

/-- The group of a new link exists. -/
def knownGroup (p : Panel) : Json → Bool
  | .str s => s = "" || p.subs.contains s
  | key => !key.truthy

lemma textual_of_known {key : Json} (h : knownGroup p key = true) : Textual key := by
  intro htruthy
  cases key with
  | str s => exact ⟨s, rfl⟩
  | _ => simp [knownGroup, htruthy] at h

lemma contains_of_known {key : Json} (h : knownGroup p key = true) {s : String}
    (hs : groupKey key = some s) : p.subs.contains s = true := by
  obtain ⟨rfl, hne⟩ := groupKey_eq_some_iff.mp hs
  simpa [knownGroup, hne] using h

lemma agree_makeLink (h : Agree p) (draw : ℕ) (r : LinkRequest) (hr : knownGroup p r.subId = true) :
    Agree (makeLink server draw r p).2 := by
  unfold makeLink
  rw [Effect.read_bind_run]
  cases hprep : prepareLink server draw p r with
  | error e => exact h
  | ok made =>
    obtain ⟨uid, link⟩ := made
    obtain ⟨hnew, hfind⟩ := prepareLink_ok hprep
    have hsub : link.get "sub_id" = r.subId := get_of_find hfind
    rw [Effect.lift_ok_bind_run]
    dsimp only
    rw [putLink, Effect.edit_bind_run]
    obtain ⟨subs, hrun, htexts, hmembers⟩ := onSub_texts (listEdit_list uid) (textual_of_known hr)
      (p := { p with links := p.links.set uid link }) h.subs
    rw [Effect.bind_run_ok hrun]
    have hlinks : TextualLinks (p.links.set uid link) :=
      textualLinks_set h.links uid (by rw [hsub]; exact textual_of_known hr)
    have hfree : (groupsOf p).owner uid = none := owner_of_none hnew
    have hempty : (groupsOf p).members "" = none := members_eq_none_iff.mpr h.keyed
    cases hs : groupKey r.subId with
    | none =>
      -- a link without a group
      refine Agree.of_groups (g := groupsOf p) hlinks htexts ?_ hempty h.mirror
      refine Groups.ext ?_ ?_
      · change owner (p.links.set uid link) = _
        rw [owner_set, hsub, hs]
        exact Function.update_eq_self_iff.mpr hfree.symm
      · change members subs = _
        rw [hmembers, hs, changeMembers_none]
        rfl
    | some s =>
      obtain ⟨ids, hids⟩ := members_of_contains (contains_of_known hr hs)
      refine Agree.of_groups (g := (groupsOf p).attach uid s) hlinks htexts ?_ ?_
        (Groups.mirror_attach h.mirror hfree hids)
      · rw [← groups_attach]
        refine Groups.ext ?_ ?_
        · change owner (p.links.set uid link) = _
          rw [owner_set, hsub, hs]
          rfl
        · change members subs = _
          rw [hmembers, hs]
          rfl
      · simp [Groups.attach, hempty]

lemma agree_removeLink (h : Agree p) (uid : String) : Agree (removeLink uid p).2 := by
  unfold removeLink
  rw [Effect.read_bind_run]
  cases hlink : p.links.get? uid with
  | none => exact h
  | some link =>
    dsimp only
    rw [Effect.edit_bind_run]
    obtain ⟨subs, hrun, htexts, hmembers⟩ := onSub_texts (listEdit_unlist uid)
      (h.links uid link hlink) (p := { p with links := p.links.erase uid }) h.subs
    rw [Effect.bind_run_ok hrun]
    have hempty : (groupsOf p).members "" = none := members_eq_none_iff.mpr h.keyed
    refine Agree.of_groups (g := (groupsOf p).remove uid) (textualLinks_erase h.links uid) htexts
      ?_ ?_ (Groups.mirror_remove h.mirror uid)
    · rw [← groups_remove]
      refine Groups.ext (owner_erase p.links uid) ?_
      change members subs = _
      rw [hmembers, ← owner_of_get? hlink]
      rfl
    · simp [Groups.remove, hempty]

/-- A link is edited, but not its group. -/
lemma agree_editLink (h : Agree p) {uid : String} {link link' : Obj}
    (hlink : p.links.get? uid = some link) (hsame : link'.get "sub_id" = link.get "sub_id") :
    Agree { p with links := p.links.set uid link' } := by
  have hlinks := textualLinks_set h.links uid
    (show Textual (link'.get "sub_id") by rw [hsame]; exact h.links uid link hlink)
  refine ⟨hlinks, h.subs, h.keyed, ?_⟩
  have hgroups : groupsOf { p with links := p.links.set uid link' } = groupsOf p :=
    Groups.ext (owner_set_same hlink hsame) rfl
  rw [hgroups]
  exact h.mirror

lemma agree_setLinkActive (h : Agree p) (uid : String) (active : Json) :
    Agree (setLinkActive uid active p).2 := by
  unfold setLinkActive
  rw [Effect.read_bind_run]
  cases hlink : p.links.get? uid with
  | none => exact h
  | some link =>
    dsimp only
    rw [Effect.bind_run_ok (updateFields_run hlink _ _)]
    have hedit := agree_editLink h hlink
      (Obj.get_set_ne (by decide : "sub_id" ≠ "active") link (.bool active.truthy))
    split <;> exact hedit

/-! ## Moving a link -/

lemma groupKey_subKey {subId : Option String} (h : ∀ s, subId = some s → s ≠ "") :
    groupKey (subKey subId) = subId := by
  cases subId with
  | none => rfl
  | some s => exact groupKey_str (h s rfl)

lemma textual_subKey (subId : Option String) : Textual (subKey subId) := by
  cases subId with
  | none => exact textual_of_not_truthy rfl
  | some s => exact textual_str s

lemma agree_setLinkSub (h : Agree p) (uid : String) (subId : Option String) :
    Agree (setLinkSub server uid subId p).2 := by
  unfold setLinkSub
  rw [Effect.read_bind_run]
  cases hlink : p.links.get? uid with
  | none => exact h
  | some link =>
    cases htarget : subId.elim (some none) fun s => (p.subs.get? s).map some with
    | none => exact h
    | some target =>
      have hknown : ∀ s, subId = some s → p.subs.contains s = true := by
        rintro s rfl
        cases hs : p.subs.get? s with
        | none => simp [hs] at htarget
        | some sub => simp [Dict.contains, hs]
      dsimp only
      cases hfit : validateRawTcpMultiLocation server.site (some link)
          (target.elim .null fun sub => sub.get "multi_location") with
      | error e => cases e <;> exact h
      | ok =>
        dsimp only
        obtain ⟨subs₁, hrun₁, htexts₁, hmembers₁⟩ := onSub_texts (listEdit_unlist uid)
          (h.links uid link hlink) h.subs
        obtain ⟨subs₂, hrun₂, htexts₂, hmembers₂⟩ := onSub_texts (listEdit_list uid)
          (textual_subKey subId) (p := { p with subs := subs₁ }) htexts₁
        rw [Effect.bind_run_ok hrun₁, Effect.bind_run_ok hrun₂,
          Effect.bind_run_ok (updateFields_run (p := { p with subs := subs₂ }) hlink _ _)]
        have hkey := groupKey_subKey fun s hs => h.ne_empty (hknown s hs)
        refine agree_regroup h (subKey subId) hlink ?_ ?_ ?_ htexts₂
          (hmembers₂.trans (by rw [hmembers₁]))
        · intro s hs
          exact hknown s (by rw [← hkey, hs])
        · rw [Obj.get_set_self]
          exact textual_subKey subId
        · rw [Obj.get_set_self]

/-- The last part of `update_link` agrees if the group it is to move to exists. -/
lemma agree_regroupLink (h : Agree p) {uid : String} {link : Obj} {newSub : Json}
    (hlink : p.links.get? uid = some link) (hknown : knownGroup p newSub = true ∨ newSub = .str "UNCHANGED") :
    Agree (regroupLink uid (link.get "sub_id") newSub p).2 := by
  unfold regroupLink
  split
  · rename_i hnew
    have hknown := hknown.resolve_right hnew
    obtain ⟨subs₁, hrun₁, htexts₁, hmembers₁⟩ := onSub_texts (listEdit_unlist uid)
      (p := { p with links := p.links.set uid (link.set "sub_id" (newSub.or .null)) })
      (h.links uid link hlink) h.subs
    obtain ⟨subs₂, hrun₂, htexts₂, hmembers₂⟩ := onSub_texts (listEdit_list uid)
      (p := { p with links := p.links.set uid (link.set "sub_id" (newSub.or .null)), subs := subs₁ })
      (textual_of_known hknown) htexts₁
    rw [Effect.bind_run_ok (updateFields_run hlink _ _), Effect.bind_run_ok hrun₁, hrun₂]
    have hor : newSub.or .null = newSub ∧ newSub.truthy = true ∨
        newSub.or .null = .null ∧ newSub.truthy = false := by
      unfold Json.or
      cases newSub.truthy <;> simp
    refine agree_regroup h newSub hlink (fun s hs => contains_of_known hknown hs) ?_ ?_
      htexts₂ (hmembers₂.trans (by rw [hmembers₁]))
    · rw [Obj.get_set_self]
      rcases hor with ⟨heq, -⟩ | ⟨heq, -⟩
      · rw [heq]
        exact textual_of_known hknown
      · rw [heq]
        exact textual_of_not_truthy rfl
    · rw [Obj.get_set_self]
      rcases hor with ⟨heq, -⟩ | ⟨heq, hfalse⟩
      · rw [heq]
      · rw [heq, groupKey_of_not_truthy hfalse]
        rfl
  · exact h

/-- A text, or a value whose text names no group. -/
def isText (server : Server) (p : Panel) : Json → Bool
  | .str _ => true
  | key => !key.truthy || !p.subs.contains (key.toStr server.site.rt)

/-- The body of a request names a group by a text, or none. -/
def namesText (server : Server) (p : Panel) : Json → Bool
  | .obj fields => isText server p (Obj.get fields "sub_id")
  | _ => true

lemma checkGroup_of_update {link fields : Obj}
    {checked : Option (String × Obj) × Option (String × String × String)}
    (h : checkLinkUpdate server p link fields = .ok checked) :
    checkGroup server p link fields = .ok () := by
  unfold checkLinkUpdate at h
  obtain ⟨u, hgroup, -⟩ := bind_eq_ok h
  exact hgroup

/-- The group that an accepted update names exists. -/
lemma contains_of_checkGroup {link fields : Obj} (h : checkGroup server p link fields = .ok ())
    (htruthy : (Obj.get fields "sub_id").truthy = true) :
    p.subs.contains ((Obj.get fields "sub_id").toStr server.site.rt) = true := by
  unfold checkGroup at h
  rw [if_pos htruthy] at h
  cases hsub : p.subs.get? ((Obj.get fields "sub_id").toStr server.site.rt) with
  | none =>
    rw [hsub] at h
    cases h
  | some sub => simp [Dict.contains, hsub]

lemma knownGroup_of_contains {key : Json} (htext : isText server p key = true)
    (h : key.truthy = true → p.subs.contains (key.toStr server.site.rt) = true) :
    knownGroup p key = true := by
  cases key with
  | str s =>
    by_cases hs : s = ""
    · simp [knownGroup, hs]
    · simpa [knownGroup, hs] using h (truthy_str_iff.mpr hs)
  | _ =>
    simp only [isText, Bool.or_eq_true, Bool.not_eq_true'] at htext
    rcases htext with hfalse | hmissing
    · simp [knownGroup, hfalse]
    · -- a value that names no group, and is no text, is not truthy
      rw [knownGroup, Bool.not_eq_true', Bool.eq_false_iff]
      · intro htruthy
        rw [h htruthy] at hmissing
        cases hmissing
      · rintro s ⟨⟩

/-- The group that an accepted update moves a link to exists. -/
lemma known_of_checkGroup {link fields : Obj} (htext : namesText server p (.obj fields) = true)
    (h : checkGroup server p link fields = .ok ()) :
    knownGroup p (Obj.getD fields "sub_id" (.str "UNCHANGED")) = true ∨
      Obj.getD fields "sub_id" (.str "UNCHANGED") = .str "UNCHANGED" := by
  cases hfind : List.lookup "sub_id" fields with
  | none =>
    right
    rw [Obj.getD, hfind]
    rfl
  | some v =>
    left
    have hgetD : Obj.getD fields "sub_id" (.str "UNCHANGED") = Obj.get fields "sub_id" := by
      rw [get_of_find hfind, Obj.getD, hfind]
      rfl
    rw [hgetD]
    exact knownGroup_of_contains htext (contains_of_checkGroup h)

lemma agree_updateLink (h : Agree p) (uid host : String) (body : Json) (htext : namesText server p body = true) :
    Agree (updateLink server uid host body p).2 := by
  unfold updateLink
  rw [Effect.read_bind_run]
  cases hlink : p.links.get? uid with
  | none => exact h
  | some link =>
    cases body with
    | obj fields =>
      dsimp only
      cases hcheck : checkLinkUpdate server p link fields with
      | error e => exact h
      | ok checked =>
        obtain ⟨transport, exit⟩ := checked
        have hknown := known_of_checkGroup htext (checkGroup_of_update hcheck)
        rw [Effect.lift_ok_bind_run]
        dsimp only
        rw [Effect.bind_run, editLink_run hlink]
        -- the assignments leave the group alone, also when one of them raises
        have hsame := get_eq_of_find_eq
          (find_writeFields (sub_id_not_written server fields host transport exit) link)
        rcases hwrites : writeFields (linkWrites server host fields transport exit) link with ⟨r, link'⟩
        rw [hwrites] at hsame
        have hedit := agree_editLink h hlink hsame
        cases r with
        | error e => exact hedit
        | ok =>
          dsimp only
          split
          · exact hedit
          · have hregroup := agree_regroupLink hedit (Dict.get?_set_self ..) hknown
            rw [hsame] at hregroup
            rw [Effect.bind_run]
            rcases hrun : regroupLink uid (link.get "sub_id")
              (Obj.getD fields "sub_id" (.str "UNCHANGED"))
              { p with links := p.links.set uid link' } with ⟨r, p'⟩
            rw [hrun] at hregroup
            cases r <;> exact hregroup
    | _ => exact h

/-! ## Operations on groups -/

lemma agree_createSubGroup (h : Agree p) (draw : ℕ) (token : Token) (name desc password : Json)
    (hnew : p.subs.get? (generateUuid server.site.rt draw) = none)
    (hne : generateUuid server.site.rt draw ≠ "") :
    Agree (createSubGroup server draw token name desc password p).2 := by
  unfold createSubGroup
  cases cutText 60 (name.or (.str "گروه جدید")) with
  | error e => exact h
  | ok n =>
    rw [Effect.lift_ok_bind_run]
    cases cutText 200 (desc.or (.str "")) with
    | error e => exact h
    | ok d =>
      rw [Effect.lift_ok_bind_run]
      cases stripText (password.or (.str "")) with
      | error e => exact h
      | ok w =>
        rw [Effect.lift_ok_bind_run, Effect.edit_bind_run]
        have hempty : (groupsOf p).members "" = none := members_eq_none_iff.mpr h.keyed
        refine Agree.of_groups (g := (groupsOf p).found (generateUuid server.site.rt draw)) h.links
          (textualSubs_set h.subs (show _ = Json.arr (([] : List String).map .str) from rfl)) ?_ ?_
          (Groups.mirror_found h.mirror (members_eq_none_iff.mpr hnew))
        · refine Groups.ext rfl ?_
          exact members_set_new _ _ _
        · simp [Groups.found, Ne.symm hne, hempty]

lemma agree_freed (h : Agree p) {subId : String} (hsub : p.subs.contains subId = true) :
    Agree { p with subs := p.subs.erase subId, links := freeLinks subId p.links } := by
  have hempty : (groupsOf p).members "" = none := members_eq_none_iff.mpr h.keyed
  have hne := h.ne_empty hsub
  refine Agree.of_groups (g := (groupsOf p).drop subId) (textualLinks_freeLinks h.links subId)
    (textualSubs_erase h.subs subId) ?_ ?_ (Groups.mirror_drop h.mirror subId)
  · refine Groups.ext ?_ (members_erase p.subs subId)
    funext uid
    exact owner_freeLinks hne p.links uid
  · simp [Groups.drop, Ne.symm hne, hempty]

lemma agree_removeSubGroup (h : Agree p) (subId : String) : Agree (removeSubGroup subId p).2 := by
  unfold removeSubGroup
  rw [Effect.read_bind_run]
  cases hsub : p.subs.get? subId with
  | none => exact h
  | some sub => exact agree_freed h (by simp [Dict.contains, hsub])

lemma agree_deleteSub (h : Agree p) (subId : String) : Agree (deleteSub subId p).2 := by
  unfold deleteSub
  rw [Effect.read_bind_run]
  split
  · exact h
  · rename_i hsub
    exact agree_freed h (by simpa using hsub)

/-- A link is in no group but the given one. -/
def freeFor (p : Panel) (subId uid : String) : Bool :=
  owner p.links uid = none || owner p.links uid = some subId

lemma owner_of_freeFor {subId uid : String} (h : freeFor p subId uid = true) :
    (groupsOf p).owner uid = none ∨ (groupsOf p).owner uid = some subId := by
  change owner p.links uid = none ∨ owner p.links uid = some subId
  simpa [freeFor] using h

/-- A link is assigned to, or taken out of, a group that exists only if it is in no other. -/
def assignsFree (server : Server) (p : Panel) (subId : String) : Json → Bool
  | .obj body =>
    !p.subs.contains subId ||
      freeFor p subId ((Obj.getD body "link_id" (.str "")).toStr server.site.rt)
  | _ => true

lemma owner_modify_null (links : Dict String Obj) (uid : String) :
    owner (links.modify uid fun link => link.set "sub_id" .null) =
      Function.update (owner links) uid none := by
  cases hlink : links.get? uid with
  | none =>
    rw [Dict.modify_of_none hlink]
    exact (Function.update_eq_self_iff.mpr (owner_of_none hlink).symm).symm
  | some link =>
    rw [Dict.modify_of_some hlink, owner_set, Obj.get_set_self]
    rfl

lemma textualLinks_modify {links : Dict String Obj} (h : TextualLinks links) (uid : String) {v : Json}
    (hv : Textual v) : TextualLinks (links.modify uid fun link => link.set "sub_id" v) := by
  cases hlink : links.get? uid with
  | none =>
    rw [Dict.modify_of_none hlink]
    exact h
  | some link =>
    rw [Dict.modify_of_some hlink]
    exact textualLinks_set h uid (by rw [Obj.get_set_self]; exact hv)

lemma agree_added (h : Agree p) {subId uid : String} {sub : Obj} (hsub : p.subs.get? subId = some sub)
    (hlink : p.links.contains uid = true) (hfree : freeFor p subId uid = true) :
    ∃ sub', assignMember uid true sub = .ok sub' ∧ Agree { p with
      subs := p.subs.set subId sub'
      links := p.links.modify uid fun link => link.set "sub_id" (.str subId) } := by
  obtain ⟨link, hlink⟩ := Dict.contains_iff.mp hlink
  obtain ⟨sub', hrun, hids⟩ := listLink_texts uid (h.subs subId sub hsub)
  have hne := h.ne_empty (Dict.contains_iff.mpr ⟨sub, hsub⟩)
  have hempty : (groupsOf p).members "" = none := members_eq_none_iff.mpr h.keyed
  refine ⟨sub', hrun, Agree.of_groups (g := (groupsOf p).attach uid subId)
    (textualLinks_modify h.links uid (textual_str subId)) (textualSubs_set h.subs hids) ?_ ?_ ?_⟩
  · rw [← groups_attach]
    refine Groups.ext ?_ (members_set hsub (by rw [hids, texts_map]))
    change owner (p.links.modify uid _) = _
    rw [Dict.modify_of_some hlink, owner_set, Obj.get_set_self, groupKey_str hne]
    rfl
  · simp [Groups.attach, hempty]
  · rcases owner_of_freeFor hfree with hnone | hsome
    · exact Groups.mirror_attach h.mirror hnone
        (show (groupsOf p).members subId = some (texts (memberIds sub)) by
          change (p.subs.get? subId).map _ = _
          rw [hsub]
          rfl)
    · rw [groups_attach_listed h.mirror hsome]
      exact h.mirror

lemma agree_taken (h : Agree p) {subId uid : String} {sub : Obj} (hsub : p.subs.get? subId = some sub)
    (hfree : freeFor p subId uid = true) :
    ∃ sub', assignMember uid false sub = .ok sub' ∧ Agree { p with
      subs := p.subs.set subId sub'
      links := p.links.modify uid fun link => link.set "sub_id" .null } := by
  obtain ⟨sub', hrun, hids⟩ := unlistLink_texts uid
    ((memberIds_of_setDefault sub).trans (h.subs subId sub hsub))
  have hempty : (groupsOf p).members "" = none := members_eq_none_iff.mpr h.keyed
  have hlinks := textualLinks_modify h.links uid (textual_of_not_truthy (show Json.null.truthy = false from rfl))
  have hgroups : groupsOf { p with
      subs := p.subs.set subId sub'
      links := p.links.modify uid fun link => link.set "sub_id" .null } =
      ⟨Function.update (groupsOf p).owner uid none,
        changeMembers (some subId) (fun ids => ids.erase uid) (groupsOf p).members⟩ :=
    Groups.ext (owner_modify_null p.links uid) (members_set hsub (by rw [hids, texts_map]))
  refine ⟨sub', hrun, ?_⟩
  rcases owner_of_freeFor hfree with hnone | hsome
  · rw [groups_remove_free h.mirror hnone] at hgroups
    exact Agree.of_groups hlinks (textualSubs_set h.subs hids) hgroups hempty h.mirror
  · rw [← hsome, groups_remove] at hgroups
    refine Agree.of_groups hlinks (textualSubs_set h.subs hids) hgroups ?_
      (Groups.mirror_remove h.mirror uid)
    simp [Groups.remove, hempty]

lemma agree_assignLinkToSub (h : Agree p) (subId : String) (body : Json)
    (hfree : assignsFree server p subId body = true) :
    Agree (assignLinkToSub server subId body p).2 := by
  unfold assignLinkToSub
  cases body with
  | obj fields =>
    dsimp only
    rw [Effect.read_bind_run]
    cases hsub : p.subs.get? subId with
    | none => exact h
    | some sub =>
      dsimp only
      have hfree : freeFor p subId ((Obj.getD fields "link_id" (.str "")).toStr server.site.rt) = true := by
        simpa [assignsFree, Dict.contains, hsub] using hfree
      generalize (Obj.getD fields "link_id" (.str "")).toStr server.site.rt = uid at hfree ⊢
      generalize decide ((Obj.getD fields "action" (.str "add")).toStr server.site.rt = "add") = add
      cases hcheck : checkAssigned server p uid add sub with
      | error e => exact h
      | ok =>
        rw [Effect.lift_ok_bind_run]
        cases add with
        | true =>
          have hlink : p.links.contains uid = true := by
            cases hlink : p.links.get? uid with
            | none =>
              rw [checkAssigned, hlink] at hcheck
              cases hcheck
            | some link => simp [Dict.contains, hlink]
          obtain ⟨sub', hrun, hagree⟩ := agree_added h hsub hlink hfree
          rw [hrun]
          exact hagree
        | false =>
          obtain ⟨sub', hrun, hagree⟩ := agree_taken h hsub hfree
          rw [hrun]
          exact hagree
  | _ => exact h

/-! ## Editing the members of a group -/

/-- The cleaned list of a request has links that are known, each once. -/
lemma knownIds_spec (rt : Runtime) (links : Dict String Obj) (rawIds : List Json) :
    (knownIds rt links rawIds).Nodup ∧ ∀ uid ∈ knownIds rt links rawIds, links.contains uid = true := by
  suffices ∀ clean : List String, clean.Nodup → (∀ uid ∈ clean, links.contains uid = true) →
      (rawIds.foldl (fun cleanIds lid =>
        let lid := lid.text rt
        if lid ≠ "" ∧ links.contains lid ∧ lid ∉ cleanIds then cleanIds ++ [lid] else cleanIds)
        clean).Nodup ∧ ∀ uid ∈ rawIds.foldl (fun cleanIds lid =>
          let lid := lid.text rt
          if lid ≠ "" ∧ links.contains lid ∧ lid ∉ cleanIds then cleanIds ++ [lid] else cleanIds)
          clean, links.contains uid = true from this [] List.nodup_nil nofun
  induction rawIds with
  | nil => exact fun clean hnd hknown => ⟨hnd, hknown⟩
  | cons lid rawIds ih =>
    intro clean hnd hknown
    rw [List.foldl_cons]
    dsimp only
    split
    · rename_i hnew
      refine ih _ ?_ ?_
      · rw [List.nodup_append]
        refine ⟨hnd, by simp, ?_⟩
        rintro a ha b hb rfl
        exact hnew.2.2 (List.mem_singleton.mp hb ▸ ha)
      · intro uid huid
        rcases List.mem_append.mp huid with huid | huid
        · exact hknown uid huid
        · rw [List.mem_singleton.mp huid]
          exact hnew.2.1
    · exact ih clean hnd hknown

lemma owner_releaseLink {subId : String} (hs : subId ≠ "") (links : Dict String Obj) (uid l : String) :
    owner (releaseLink subId links (.str uid)) l =
      if l = uid ∧ owner links l = some subId then none else owner links l := by
  change owner (links.modify uid (freed subId)) l = _
  by_cases hl : l = uid
  · subst hl
    unfold owner
    rw [Dict.get?_modify, if_pos rfl]
    cases links.get? l with
    | none => simp
    | some link =>
      simp only [Option.map_some, Option.bind_some, true_and]
      exact groupKey_freed hs link
  · rw [if_neg (fun h => hl h.1), owner, owner, Dict.get?_modify, if_neg hl]

lemma textualLinks_releaseLink {links : Dict String Obj} (h : TextualLinks links) (subId uid : String) :
    TextualLinks (releaseLink subId links (.str uid)) := by
  change TextualLinks (links.modify uid (freed subId))
  cases hlink : links.get? uid with
  | none =>
    rw [Dict.modify_of_none hlink]
    exact h
  | some link =>
    rw [Dict.modify_of_some hlink]
    exact textualLinks_set h uid (textual_freed (h uid link hlink))

/-- The links that left a group name it no more. -/
lemma owner_release {subId : String} (hs : subId ≠ "") (gone : List String) {links : Dict String Obj}
    (h : TextualLinks links) :
    TextualLinks ((gone.map Json.str).foldl (releaseLink subId) links) ∧
      (∀ l, owner ((gone.map Json.str).foldl (releaseLink subId) links) l =
        if l ∈ gone ∧ owner links l = some subId then none else owner links l) ∧
      ∀ l, ((gone.map Json.str).foldl (releaseLink subId) links).contains l = links.contains l := by
  induction gone generalizing links with
  | nil => exact ⟨h, by simp, by simp⟩
  | cons uid gone ih =>
    rw [List.map_cons, List.foldl_cons]
    obtain ⟨htexts, howner, hcontains⟩ := ih (textualLinks_releaseLink h subId uid)
    refine ⟨htexts, fun l => ?_, fun l => ?_⟩
    · rw [howner, owner_releaseLink hs]
      by_cases hl : l = uid
      · subst hl
        by_cases ho : owner links l = some subId <;> simp [ho]
      · simp [hl]
    · rw [hcontains]
      exact Dict.contains_modify links uid l (freed subId)

/-- The links that came to a group name it, and the groups that they named are recorded. -/
lemma owner_claim {subId : String} (hs : subId ≠ "") {ids : List String} (hnd : ids.Nodup)
    {links : Dict String Obj} (h : TextualLinks links) :
    TextualLinks (claimLinks subId ids links).1 ∧
      (∀ l, owner (claimLinks subId ids links).1 l =
        if l ∈ ids ∧ links.contains l = true then some subId else owner links l) ∧
      ∀ prev l, (prev, l) ∈ (claimLinks subId ids links).2 ↔
        l ∈ ids ∧ ∃ t, prev = .str t ∧ t ≠ subId ∧ owner links l = some t := by
  induction ids generalizing links with
  | nil => exact ⟨h, by simp [claimLinks], by simp [claimLinks]⟩
  | cons uid ids ih =>
    rw [List.nodup_cons] at hnd
    rw [claimLinks]
    cases hlink : links.get? uid with
    | none =>
      obtain ⟨htexts, howner, hmoved⟩ := ih hnd.2 h
      refine ⟨htexts, fun l => ?_, fun prev l => ?_⟩
      · rw [howner]
        by_cases hl : l = uid
        · subst hl
          simp [Dict.contains, hlink]
        · simp [hl]
      · rw [hmoved]
        by_cases hl : l = uid
        · subst hl
          simp [owner_of_none hlink]
        · simp [hl]
    | some link =>
      have hset : TextualLinks (links.set uid (link.set "sub_id" (.str subId))) :=
        textualLinks_set h uid (by rw [Obj.get_set_self]; exact textual_str subId)
      have hset_owner : ∀ l, owner (links.set uid (link.set "sub_id" (.str subId))) l =
          if l = uid then some subId else owner links l := by
        intro l
        rw [owner_set, Obj.get_set_self, groupKey_str hs, Function.update_apply]
      obtain ⟨htexts, howner, hmoved⟩ := ih hnd.2 hset
      dsimp only
      refine ⟨htexts, fun l => ?_, fun prev l => ?_⟩
      · rw [howner, hset_owner]
        by_cases hl : l = uid
        · subst hl
          simp [Dict.contains, hlink]
        · simp [hl, Dict.contains, Dict.get?_set_ne hl]
      · -- the group that the first link named
        have hfirst : ((link.get "sub_id").truthy = true ∧ link.get "sub_id" ≠ .str subId ∧
            prev = link.get "sub_id") ↔ ∃ t, prev = .str t ∧ t ≠ subId ∧ owner links uid = some t := by
          rw [owner_of_get? hlink]
          constructor
          · rintro ⟨htruthy, hne, rfl⟩
            obtain ⟨t, ht⟩ := h uid link hlink htruthy
            rw [ht] at htruthy hne ⊢
            exact ⟨t, rfl, fun h => hne (congrArg _ h), groupKey_str (truthy_str_iff.mp htruthy)⟩
          · rintro ⟨t, rfl, hne, hkey⟩
            obtain ⟨hget, ht⟩ := groupKey_eq_some_iff.mp hkey
            rw [hget]
            exact ⟨truthy_str_iff.mpr ht, fun h => hne (Json.str.inj h), rfl⟩
        by_cases hl : l = uid
        · subst hl
          have hrest : (prev, l) ∉ (claimLinks subId ids (links.set l (link.set "sub_id" (.str subId)))).2 := by
            rw [hmoved]
            exact fun hmem => hnd.1 hmem.1
          rw [← hfirst]
          split_ifs with hprev
          · simp [hrest, hprev.1, hprev.2]
          · refine iff_of_false hrest ?_
            rintro ⟨-, htruthy, hne, -⟩
            exact hprev ⟨htruthy, hne⟩
        · have hrest : (prev, l) ∈ (claimLinks subId ids (links.set uid (link.set "sub_id" (.str subId)))).2 ↔
              l ∈ ids ∧ ∃ t, prev = .str t ∧ t ≠ subId ∧ owner links l = some t := by
            rw [hmoved, hset_owner, if_neg hl]
          split_ifs <;> simp [hl, hrest]

/-- The links that were taken from other groups are taken out of their lists. -/
lemma detachAll_texts {moved : List (Json × String)} (hmoved : ∀ e ∈ moved, Textual e.1) {p : Panel}
    (hp : TextualSubs p.subs) :
    ∃ subs, detachAll moved p = (.ok (), { p with subs := subs }) ∧ TextualSubs subs ∧
      members subs = moved.foldl (fun m e => changeMembers (groupKey e.1) (fun ids => ids.erase e.2) m)
        (members p.subs) := by
  induction moved generalizing p with
  | nil => exact ⟨p.subs, rfl, hp, rfl⟩
  | cons e moved ih =>
    obtain ⟨prev, uid⟩ := e
    obtain ⟨subs₁, hrun₁, htexts₁, hmembers₁⟩ := onSub_texts (listEdit_unlist uid)
      (hmoved (prev, uid) List.mem_cons_self) hp
    obtain ⟨subs₂, hrun₂, htexts₂, hmembers₂⟩ := ih (fun e he => hmoved e (List.mem_cons_of_mem _ he))
      (p := { p with subs := subs₁ }) htexts₁
    refine ⟨subs₂, ?_, htexts₂, ?_⟩
    · rw [detachAll, Effect.bind_run_ok hrun₁, hrun₂]
    · rw [hmembers₂, hmembers₁]
      rfl

/-- Taking links out of lists one after the other leaves, in each list, the links that were not
taken out of it. -/
lemma foldl_changeMembers (moved : List (Json × String)) {m : String → Option (List String)}
    {t : String} (hnd : ∀ ids, m t = some ids → ids.Nodup) :
    moved.foldl (fun m e => changeMembers (groupKey e.1) (fun ids => ids.erase e.2) m) m t =
      (m t).map fun ids => ids.filter fun l => ∀ e ∈ moved, groupKey e.1 = some t → e.2 ≠ l := by
  induction moved generalizing m with
  | nil => cases hm : m t <;> simp [hm]
  | cons e moved ih =>
    rw [List.foldl_cons, ih]
    · unfold changeMembers
      cases hm : m t with
      | none => rfl
      | some ids =>
        simp only [Option.map_some, Option.some.injEq]
        by_cases he : groupKey e.1 = some t
        · rw [if_pos he, (hnd ids hm).erase_eq_filter, List.filter_filter]
          refine List.filter_congr fun l _ => ?_
          rw [Bool.eq_iff_iff]
          simp only [Bool.and_eq_true, decide_eq_true_eq, bne_iff_ne, List.forall_mem_cons, he,
            forall_const]
          rw [and_comm, ne_comm]
        · rw [if_neg he]
          refine List.filter_congr fun l _ => ?_
          rw [decide_eq_decide, List.forall_mem_cons]
          simp [he]
    · intro ids hids
      unfold changeMembers at hids
      rw [Option.map_eq_some_iff] at hids
      obtain ⟨ids₀, hids₀, rfl⟩ := hids
      split
      · exact (hnd ids₀ hids₀).erase _
      · exact hnd ids₀ hids₀

/-- The links after a group got a new list: the old members that are not in it were released, and
the others in it claimed. -/
def movedLinks (subId : String) (old new : List String) (links : Dict String Obj) :
    Dict String Obj × List (Json × String) :=
  claimLinks subId (new.filter fun l => l ∉ old)
    (((old.filter fun l => l ∉ new).map Json.str).foldl (releaseLink subId) links)

/-- When a group got a new list, bringing the links and the other groups into agreement with it
moves its new members to it and lets the old ones go. -/
lemma syncMembers_groups (h : Agree p) {subId : String} {sub sub' : Obj} {new : List String}
    (hsub : p.subs.get? subId = some sub) (hids : memberIds sub' = .arr (new.map .str))
    (hnd : new.Nodup) (hknown : ∀ uid ∈ new, p.links.contains uid = true) :
    let moved := movedLinks subId (texts (memberIds sub)) new p.links
    ∃ subs, syncMembers subId ((texts (memberIds sub)).map .str) new
          { p with subs := p.subs.set subId sub' } = (.ok (), { p with links := moved.1, subs := subs }) ∧
      detachAll moved.2 { p with links := moved.1, subs := p.subs.set subId sub' } =
        (.ok (), { p with links := moved.1, subs := subs }) ∧
      (∀ e ∈ moved.2, e.2 ∈ new ∧ ∃ t, e.1 = .str t ∧ t ≠ subId ∧ owner p.links e.2 = some t) ∧
      TextualLinks moved.1 ∧ TextualSubs subs ∧
      groupsOf { p with links := moved.1, subs := subs } = (groupsOf p).regroup subId new := by
  have hs := h.ne_empty (Dict.contains_iff.mpr ⟨sub, hsub⟩)
  have hlisted : (groupsOf p).members subId = some (texts (memberIds sub)) := by
    change (p.subs.get? subId).map _ = _
    rw [hsub]
    rfl
  have hold := fun l => h.mirror.listed_iff l subId (texts (memberIds sub))
  generalize texts (memberIds sub) = old at hlisted hold ⊢
  have hold : ∀ l, l ∈ old ↔ owner p.links l = some subId := fun l => hold l hlisted
  have hgone : (old.map Json.str).filter (fun lid => decide (lid ∉ new.map Json.str)) =
      (old.filter fun l => decide (l ∉ new)).map .str := by
    rw [List.filter_map]
    congr 1
    refine List.filter_congr fun l _ => ?_
    simp only [Function.comp_apply, List.mem_map, Json.str.injEq, exists_eq_right]
  have hcame : new.filter (fun lid => decide (Json.str lid ∉ old.map Json.str)) =
      new.filter fun l => decide (l ∉ old) := by
    refine List.filter_congr fun l _ => ?_
    simp
  obtain ⟨htexts₁, howner₁, hcontains₁⟩ :=
    owner_release hs (old.filter fun l => decide (l ∉ new)) h.links
  obtain ⟨htexts₂, howner₂, hmoved⟩ :=
    owner_claim hs (hnd.filter fun l => decide (l ∉ old)) htexts₁
  obtain ⟨subs, hrun, htexts, hmembers⟩ := detachAll_texts
    (fun e he => by
      obtain ⟨-, t, ht, -⟩ := (hmoved e.1 e.2).mp he
      rw [ht]
      exact textual_str t)
    (p := { p with
      links := (claimLinks subId (new.filter fun l => decide (l ∉ old))
        (((old.filter fun l => decide (l ∉ new)).map Json.str).foldl (releaseLink subId) p.links)).1
      subs := p.subs.set subId sub' }) (textualSubs_set h.subs hids)
  dsimp only at hmembers
  rw [members_set_new, hids, texts_map] at hmembers
  refine ⟨subs, ?_, hrun, ?_, htexts₂, htexts, ?_⟩
  · unfold syncMembers
    rw [Effect.read_bind_run, hgone, hcame]
    dsimp only
    rw [Effect.edit_bind_run]
    exact hrun
  · intro e he
    obtain ⟨hcame, t, ht, hne, howner⟩ := (hmoved e.1 e.2).mp he
    refine ⟨List.mem_of_mem_filter hcame, t, ht, hne, ?_⟩
    rw [howner₁] at howner
    split_ifs at howner
    exact howner
  · refine Groups.ext ?_ ?_
    · funext l
      change owner (movedLinks subId old new p.links).1 l = _
      unfold movedLinks
      rw [howner₂, howner₁, hcontains₁]
      change _ = if l ∈ new then some subId else
        if owner p.links l = some subId then none else owner p.links l
      by_cases hl : l ∈ new
      · by_cases ho : owner p.links l = some subId
        · simp [hl, ho]
        · simp [hl, ho, hold, hknown l hl]
      · by_cases ho : owner p.links l = some subId
        · simp [hl, ho, hold]
        · simp [hl, ho]
    · funext t
      change members subs t = _
      rw [hmembers, foldl_changeMembers]
      · change _ = if t = subId then some new else (members p.subs t).map _
        by_cases ht : t = subId
        · -- no link is taken out of the list of the group itself
          subst ht
          rw [Function.update_self, if_pos rfl, Option.map_some, Option.some.injEq,
            List.filter_eq_self]
          intro l _
          rw [decide_eq_true_eq]
          intro e he hkey
          obtain ⟨-, s, hs', hne, -⟩ := (hmoved e.1 e.2).mp he
          rw [hs'] at hkey
          exact absurd (Json.str.inj (groupKey_eq_some_iff.mp hkey).1) hne
        · rw [Function.update_of_ne ht, if_neg ht]
          refine Option.map_congr fun ids hmem => ?_
          refine List.filter_congr fun l hl => ?_
          have ho : owner p.links l = some t := Groups.owner_of_mem h.mirror hmem hl
          rw [decide_eq_decide]
          constructor
          · intro hfree hnew
            -- it is a new member, so it was taken out of this list
            refine hfree (.str t, l) ((hmoved _ _).mpr ⟨?_, t, rfl, ht, ?_⟩) ?_ rfl
            · simp [hnew, hold, ho, ht]
            · rw [howner₁, ho]
              simp [ht]
            · refine groupKey_str ?_
              rintro rfl
              cases (members_eq_none_iff.mpr h.keyed).symm.trans hmem
          · rintro hnew e he - rfl
            obtain ⟨hcame, -⟩ := (hmoved e.1 e.2).mp he
            exact hnew (List.mem_of_mem_filter hcame)
      · intro ids hmem
        by_cases ht : t = subId
        · rw [ht, Function.update_self] at hmem
          exact Option.some.inj hmem ▸ hnd
        · rw [Function.update_of_ne ht] at hmem
          exact h.mirror.nodup t ids hmem

/-- So the two sides agree again. -/
lemma agree_syncMembers (h : Agree p) {subId : String} {sub sub' : Obj} {new : List String}
    (hsub : p.subs.get? subId = some sub) (hids : memberIds sub' = .arr (new.map .str))
    (hnd : new.Nodup) (hknown : ∀ uid ∈ new, p.links.contains uid = true) :
    Agree (syncMembers subId ((texts (memberIds sub)).map .str) new
      { p with subs := p.subs.set subId sub' }).2 := by
  have hs := h.ne_empty (Dict.contains_iff.mpr ⟨sub, hsub⟩)
  have hempty : (groupsOf p).members "" = none := members_eq_none_iff.mpr h.keyed
  have hlisted : (groupsOf p).members subId = some (texts (memberIds sub)) := by
    change (p.subs.get? subId).map _ = _
    rw [hsub]
    rfl
  obtain ⟨subs, hrun, -, -, hlinks, hsubs, hgroups⟩ := syncMembers_groups h hsub hids hnd hknown
  rw [hrun]
  refine Agree.of_groups hlinks hsubs hgroups ?_ (Groups.mirror_regroup h.mirror hlisted hnd)
  simp [Groups.regroup, Ne.symm hs, hempty]

lemma idSet_texts {sub : Obj} {ids : List String} (h : memberIds sub = .arr (ids.map .str)) :
    idSet (sub.getD "link_ids" (.arr [])) = .ok (ids.map .str) := by
  have hall : (ids.map Json.str).all Json.hashable = true := by
    rw [List.all_eq_true]
    intro v hv
    obtain ⟨s, -, rfl⟩ := List.mem_map.mp hv
    rfl
  change idSet (memberIds sub) = _
  rw [h, idSet, Json.iterate, ok_bind, if_pos hall]
  rfl

lemma requestWrite_total {body : Obj} {field key : String} {f : Json → Except PyErr Json}
    (hf : ∀ v, ∃ r, f v = .ok r) (record : Obj) :
    ∃ v, (requestWrite body field key f).value record = .ok v := by
  obtain ⟨r, hr⟩ := hf (body.get field)
  unfold requestWrite
  dsimp only
  split
  · exact ⟨some r, by rw [hr]; rfl⟩
  · exact ⟨none, rfl⟩

/-- The assignments of `update_sub` do not raise, and set the members that the request has. -/
lemma writeFields_subWrites (fields : Obj) (ml : Option Obj) (ids : Option (List String)) {sub : Obj}
    {old : List String} (h : memberIds sub = .arr (old.map .str)) :
    ∃ sub', writeFields (subWrites server fields ml ids) sub = (.ok (), sub') ∧
      memberIds sub' = .arr ((ids.getD old).map .str) := by
  have hfront : ∀ w ∈ subFieldWrites server fields ml, ∀ record, ∃ v, w.value record = .ok v := by
    intro w hw record
    simp only [subFieldWrites, List.mem_cons, List.not_mem_nil, or_false] at hw
    rcases hw with rfl | rfl | rfl | rfl
    · exact requestWrite_total (fun _ => ⟨_, rfl⟩) record
    · exact requestWrite_total (fun _ => ⟨_, rfl⟩) record
    · exact requestWrite_total (fun _ => ⟨_, rfl⟩) record
    · exact ⟨_, rfl⟩
  have hkeys : "link_ids" ∉ (subFieldWrites server fields ml).map FieldWrite.key := by
    change "link_ids" ∉ (["name", "desc", "password_hash", "multi_location"] : List String)
    decide
  rcases hrun : writeFields (subFieldWrites server fields ml) sub with ⟨r, sub₁⟩
  have hok := writeFields_total hfront sub
  have hkept := find_writeFields hkeys sub
  rw [hrun] at hok hkept
  obtain rfl : r = .ok () := hok
  have hids₁ : memberIds sub₁ = .arr (old.map .str) := by
    rw [← h]
    unfold Obj.find at hkept
    rw [memberIds, memberIds, Obj.getD, Obj.getD, hkept]
  rw [subWrites, writeFields_append, Effect.bind_run_ok hrun, writeFields_cons_run, membersWrite]
  cases ids with
  | none => exact ⟨sub₁, rfl, hids₁⟩
  | some new =>
    dsimp only
    rw [idSet_texts hids₁, ok_bind]
    exact ⟨_, rfl, memberIds_set _ _⟩

lemma subMembers_some {fields : Obj} {new : List String}
    (h : subMembers server p fields = .ok (some new)) :
    new.Nodup ∧ ∀ uid ∈ new, p.links.contains uid = true := by
  unfold subMembers at h
  split at h
  · cases h
  · split at h
    · obtain rfl := Option.some.inj (Except.ok.inj h)
      exact knownIds_spec _ _ _
    · cases h

lemma agree_updateSub (h : Agree p) (tokens : ℕ → Token) (subId : String) (body : Json) :
    Agree (updateSub server tokens subId body p).2 := by
  unfold updateSub
  cases body with
  | obj fields =>
    dsimp only
    rw [Effect.read_bind_run]
    cases subConfiguration server p tokens subId fields with
    | error e => exact h
    | ok ml =>
      rw [Effect.lift_ok_bind_run]
      cases hids : subMembers server p fields with
      | error e => exact h
      | ok ids =>
        rw [Effect.lift_ok_bind_run]
        cases checkMembers server p subId ml ids with
        | error e => exact h
        | ok =>
          rw [Effect.lift_ok_bind_run]
          cases hsub : p.subs.get? subId with
          | none => exact h
          | some sub =>
            have htexts := h.subs subId sub hsub
            obtain ⟨sub', hwrites, hmembers⟩ := writeFields_subWrites fields ml ids htexts
            dsimp only
            rw [Effect.bind_run, editSub_run hsub, hwrites]
            cases ids with
            | none =>
              refine ⟨h.links, textualSubs_set h.subs hmembers, ?_, ?_⟩
              · change (p.subs.set subId sub').get? "" = none
                rw [Dict.get?_set_ne (Ne.symm (h.ne_empty (Dict.contains_iff.mpr ⟨sub, hsub⟩)))]
                exact h.keyed
              · have hgroups : groupsOf { p with subs := p.subs.set subId sub' } = groupsOf p :=
                  Groups.ext rfl (members_set_same hsub (by rw [hmembers, Option.getD_none, htexts, texts_map]))
                exact hgroups ▸ h.mirror
            | some new =>
              obtain ⟨hnd, hknown⟩ := subMembers_some hids
              rw [Option.getD_some] at hmembers
              have hsync := agree_syncMembers h hsub hmembers hnd hknown
              dsimp only
              rw [idSet_texts htexts, Effect.lift_ok_bind_run, Effect.bind_run]
              rcases hrun : syncMembers subId ((texts (memberIds sub)).map .str) new
                { p with subs := p.subs.set subId sub' } with ⟨r, p'⟩
              rw [hrun] at hsync
              cases r <;> exact hsync
  | _ => exact h

/-! ## Runs -/

/-- The drawn id of a new group is in no use. -/
def freshId (server : Server) (p : Panel) (draw : ℕ) : Bool :=
  generateUuid server.site.rt draw ≠ "" && (p.subs.get? (generateUuid server.site.rt draw)).isNone

/-- What keeps the two sides of the membership in agreement: a link is created in a group that
exists or in none, it is assigned to a group, or taken out of it, only if it is in no other, and
the groups that links are moved to are named by texts.  Ids of new groups are new. -/
def Op.regular (server : Server) (p : Panel) : Op → Bool
  | .makeLink _ r => knownGroup p r.subId
  | .createLink _ _ (.obj body) => knownGroup p (Obj.get body "sub_id")
  | .createSubGroup draw .. => freshId server p draw
  | .createSub draw .. => freshId server p draw
  | .updateLink _ _ body => namesText server p body
  | .assignLinkToSub subId body => assignsFree server p subId body
  | _ => true

lemma freshId_spec {draw : ℕ} (h : freshId server p draw = true) :
    p.subs.get? (generateUuid server.site.rt draw) = none ∧ generateUuid server.site.rt draw ≠ "" := by
  simp only [freshId, Bool.and_eq_true, Option.isNone_iff_eq_none, decide_eq_true_eq] at h
  exact ⟨h.2, h.1⟩

/-- A new link is asked for in the group that the request names. -/
lemma linkRequest_subId {host : String} {fields : Obj} {r : LinkRequest}
    (h : linkRequest server host (.obj fields) = .ok r) :
    r.subId = (Obj.get fields "sub_id").or .null := by
  unfold linkRequest at h
  obtain ⟨_, -, h⟩ := bind_eq_ok h
  obtain ⟨_, -, h⟩ := bind_eq_ok h
  obtain ⟨_, -, h⟩ := bind_eq_ok h
  obtain ⟨_, -, h⟩ := bind_eq_ok h
  obtain ⟨_, -, h⟩ := bind_eq_ok h
  obtain ⟨_, -, h⟩ := bind_eq_ok h
  obtain ⟨_, -, h⟩ := bind_eq_ok h
  obtain rfl := Except.ok.inj h
  rfl

lemma knownGroup_or {key : Json} (h : knownGroup p key = true) : knownGroup p (key.or .null) = true := by
  unfold Json.or
  split
  · exact h
  · rfl

lemma agree_createLink (h : Agree p) (draw : ℕ) (host : String) (body : Json)
    (hbody : ∀ fields, body = .obj fields → knownGroup p (Obj.get fields "sub_id") = true) :
    Agree (createLink server draw host body p).2 := by
  unfold createLink
  cases hr : linkRequest server host body with
  | error e => exact h
  | ok r =>
    rw [Effect.lift_ok_bind_run]
    have hknown : knownGroup p r.subId = true := by
      cases body with
      | obj fields =>
        rw [linkRequest_subId hr]
        exact knownGroup_or (hbody fields rfl)
      | _ => cases hr
    have hmake : Agree (makeLink server draw r p).2 := agree_makeLink h draw r hknown
    unfold Effect.handle
    rcases hrun : makeLink server draw r p with ⟨e | fin, p'⟩
    · rw [hrun] at hmake
      cases e <;> exact hmake
    · rw [hrun] at hmake
      exact hmake

/-- One operation keeps the two sides in agreement. -/
lemma agree_run (op : Op) (w : World) (h : Agree w.panel) (hop : op.regular server w.panel = true) :
    Agree (op.run server w).2.panel := by
  rw [run_panel]
  cases op with
  | makeLink draw r =>
    rw [Op.change, discard_panel]
    exact agree_makeLink h draw r hop
  | createLink draw host body =>
    rw [Op.change, discard_panel]
    refine agree_createLink h draw host body ?_
    rintro fields rfl
    exact hop
  | removeLink uid =>
    rw [Op.change, discard_panel]
    exact agree_removeLink h uid
  | setLinkActive uid active =>
    rw [Op.change, discard_panel]
    exact agree_setLinkActive h uid active
  | updateLink uid host body => exact agree_updateLink h uid host body hop
  | createSubGroup draw token name desc password =>
    rw [Op.change, discard_panel]
    obtain ⟨hnew, hne⟩ := freshId_spec hop
    exact agree_createSubGroup h draw token name desc password hnew hne
  | createSub draw token body =>
    rw [Op.change, discard_panel]
    have hfresh : freshId server w.panel draw = true := hop
    obtain ⟨hnew, hne⟩ := freshId_spec hfresh
    cases body with
    | obj fields => exact agree_createSubGroup h draw token _ _ _ hnew hne
    | _ => exact h
  | setLinkSub uid subId =>
    rw [Op.change, discard_panel]
    exact agree_setLinkSub h uid subId
  | removeSubGroup subId =>
    rw [Op.change, discard_panel]
    exact agree_removeSubGroup h subId
  | deleteSub subId => exact agree_deleteSub h subId
  | updateSub tokens subId body => exact agree_updateSub h tokens subId body
  | assignLinkToSub subId body => exact agree_assignLinkToSub h subId body hop

/-! ## What holds in every state -/

/-- A link is listed by a group if and only if it exists and names that group, each list has it
once, and a link names no group that does not exist. -/
structure TwoWay (p : Panel) : Prop where
  listed : ∀ s sub, p.subs.get? s = some sub →
    ∃ ids : List String, memberIds sub = .arr (ids.map .str) ∧ ids.Nodup ∧
      ∀ uid, uid ∈ ids ↔ ∃ link, p.links.get? uid = some link ∧ link.get "sub_id" = .str s
  named : ∀ uid link, p.links.get? uid = some link → (link.get "sub_id").truthy = true →
    ∃ s, link.get "sub_id" = .str s ∧ p.subs.contains s = true

lemma owner_eq_some_iff {links : Dict String Obj} {uid s : String} :
    owner links uid = some s ↔
      (∃ link, links.get? uid = some link ∧ link.get "sub_id" = .str s) ∧ s ≠ "" := by
  simp only [owner, Option.bind_eq_some_iff, groupKey_eq_some_iff]
  constructor
  · rintro ⟨link, hlink, hsub, hs⟩
    exact ⟨⟨link, hlink, hsub⟩, hs⟩
  · rintro ⟨⟨link, hlink, hsub⟩, hs⟩
    exact ⟨link, hlink, hsub, hs⟩

lemma Agree.twoWay (h : Agree p) : TwoWay p where
  listed s sub hsub := by
    have hs := h.ne_empty (Dict.contains_iff.mpr ⟨sub, hsub⟩)
    have hmembers : (groupsOf p).members s = some (texts (memberIds sub)) := by
      change (p.subs.get? s).map _ = _
      rw [hsub]
      rfl
    refine ⟨_, h.subs s sub hsub, h.mirror.nodup s _ hmembers, fun uid => ?_⟩
    rw [h.mirror.listed_iff uid s _ hmembers]
    change owner p.links uid = some s ↔ _
    simp [owner_eq_some_iff, hs]
  named uid link hlink htruthy := by
    obtain ⟨s, hs⟩ := h.links uid link hlink htruthy
    rw [hs] at htruthy
    obtain ⟨ids, hids⟩ := h.mirror.exists_group uid s
      (owner_eq_some_iff.mpr ⟨⟨link, hlink, hs⟩, truthy_str_iff.mp htruthy⟩)
    refine ⟨s, hs, ?_⟩
    rw [Dict.contains, ← Option.ne_none_iff_isSome]
    intro hnone
    cases hids.symm.trans (members_eq_none_iff.mpr hnone)

lemma TwoWay.agree (h : TwoWay p) (hkeyed : p.subs.get? "" = none) : Agree p where
  links uid link hlink htruthy := by
    obtain ⟨s, hs, -⟩ := h.named uid link hlink htruthy
    exact ⟨s, hs⟩
  subs s sub hsub := by
    obtain ⟨ids, hids, -⟩ := h.listed s sub hsub
    rw [hids, texts_map]
  keyed := hkeyed
  mirror := by
    -- the list of a group, and its key, which is not empty
    have hlist : ∀ s ids, (groupsOf p).members s = some ids → s ≠ "" ∧ ids.Nodup ∧
        ∀ uid, uid ∈ ids ↔ ∃ link, p.links.get? uid = some link ∧ link.get "sub_id" = .str s := by
      intro s ids hids
      obtain ⟨sub, hsub, rfl⟩ := Option.map_eq_some_iff.mp hids
      obtain ⟨ids, htexts, hnd, hmem⟩ := h.listed s sub hsub
      rw [htexts, texts_map]
      refine ⟨?_, hnd, hmem⟩
      rintro rfl
      cases hkeyed.symm.trans hsub
    constructor
    · intro uid s ids hids
      obtain ⟨hs, -, hmem⟩ := hlist s ids hids
      rw [hmem]
      change _ ↔ owner p.links uid = some s
      simp [owner_eq_some_iff, hs]
    · intro s ids hids
      exact (hlist s ids hids).2.1
    · intro uid s howner
      obtain ⟨⟨link, hlink, hsub⟩, hs⟩ := owner_eq_some_iff.mp howner
      obtain ⟨t, ht, hknown⟩ := h.named uid link hlink (by rw [hsub]; exact truthy_str_iff.mpr hs)
      rw [hsub] at ht
      obtain rfl := Json.str.inj ht
      exact members_of_contains hknown

/-- Links and groups agree in every state of a run whose operations name groups that exist, and
take no link from a group by assigning it to another. -/
theorem two_way_consistent {w₀ w : World} {visited : List World}
    {results : List (Except PyErr Unit)} (hstart : TwoWay w₀.panel)
    (hkeyed : w₀.panel.subs.get? "" = none)
    (hrun : (operations.restrict fun w l => l.2.regular l.1 w.panel = true).Run
      w₀ visited results w) : TwoWay w.panel := by
  have hagree : Agree w.panel := by
    refine hrun.invariant (I := fun w => Agree w.panel) (hstart.agree hkeyed) ?_
    intro w l w' results hw hstep
    obtain ⟨hregular, hstep⟩ := Machine.restrict_step.mp hstep
    obtain ⟨rfl, -⟩ := Prod.mk.inj (Option.some.inj hstep)
    exact agree_run l.2 w hw hregular
  exact hagree.twoWay

/-- The id of a draw. -/
def drawn (draw : ℕ) : String := generateUuid .sample draw

/-- A new group. -/
def newGroup (draw : ℕ) : Op :=
  .createSubGroup draw ⟨"token", token_ne_empty, token_urlSafe⟩ (.str "family") (.str "") (.str "")

/-- A new link in a group. -/
def newMember (draw : ℕ) (subId : String) : Op := .makeLink draw { subId := .str subId }

lemma twoWay_freshPanel : TwoWay freshPanel := ⟨nofun, nofun⟩

/-- A link is created in a group and then taken out of it. -/
theorem two_way_taken_out : ∃ w visited,
    (operations.restrict fun w l => l.2.regular l.1 w.panel = true).Run ⟨freshPanel, []⟩ visited
      [.ok (), .ok (), .ok ()] w ∧ TwoWay w.panel := by
  have hends : ∃ visited results w,
      (operations.restrict fun w l => l.2.regular l.1 w.panel = true).Run ⟨freshPanel, []⟩ visited
        results w ∧ results = [.ok (), .ok (), .ok ()] :=
    Machine.exists_run
      [(.bare .sample, newGroup 1), (.bare .sample, newMember 2 (drawn 1)),
        (.bare .sample, .setLinkSub (drawn 2) none)] (by decide +kernel)
  obtain ⟨_, _, _, hrun, rfl⟩ := hends
  exact ⟨_, _, hrun, two_way_consistent twoWay_freshPanel rfl hrun⟩

/-- A link of one group is assigned to another, and both list it. -/
theorem two_way_listed_twice : ∃ w visited, TwoWay freshPanel ∧
    operations.Run ⟨freshPanel, []⟩ visited [.ok (), .ok (), .ok (), .ok ()] w ∧
      ¬ TwoWay w.panel := by
  have hends : ∃ visited results w, operations.Run ⟨freshPanel, []⟩ visited results w ∧
      (results = [.ok (), .ok (), .ok (), .ok ()] ∧
        (w.panel.subs.get? (drawn 1)).map memberIds = some (.arr [.str (drawn 3)]) ∧
        (w.panel.links.get? (drawn 3)).map (fun link => Obj.get link "sub_id") =
          some (.str (drawn 2)) ∧ drawn 1 ≠ drawn 2) :=
    Machine.exists_run
      [(.bare .sample, newGroup 1), (.bare .sample, newGroup 2),
        (.bare .sample, newMember 3 (drawn 1)),
        (.bare .sample, .assignLinkToSub (drawn 2) (.obj [("link_id", .str (drawn 3))]))]
      (by decide +kernel)
  obtain ⟨_, _, _, hrun, rfl, hlisted, hnamed, hne⟩ := hends
  refine ⟨_, _, twoWay_freshPanel, hrun, fun htwo => ?_⟩
  obtain ⟨sub, hsub, hids⟩ := Option.map_eq_some_iff.mp hlisted
  obtain ⟨link, hlink, hgroup⟩ := Option.map_eq_some_iff.mp hnamed
  -- the first group lists the link, so the link names it
  obtain ⟨ids, htexts, -, hmem⟩ := htwo.listed _ sub hsub
  rw [hids] at htexts
  have hin : drawn 3 ∈ ids := by
    have hsame : [Json.str (drawn 3)] = ids.map .str := Json.arr.inj htexts
    have hcontained : Json.str (drawn 3) ∈ ids.map Json.str := hsame ▸ List.mem_singleton_self _
    simpa using hcontained
  obtain ⟨link', hlink', hgroup'⟩ := (hmem _).mp hin
  rw [hlink, Option.some.injEq] at hlink'
  rw [← hlink', hgroup] at hgroup'
  exact hne (Json.str.inj hgroup').symm

end State
