import LumenRelay.State.Atomicity

/-!
# Updates that are refused

The fields of an update are assigned one after the other, each as soon as it was checked.  An
update that is refused at one field has assigned the fields before it, and so leaves everything
as it was only if these had their values already.
-/

namespace State

open Lib Py Routing

variable {server : Server} {p p' : Panel}

/-! ## Assignments that raise -/

/-- An assignment whose value cannot be found. -/
def Refused (w : FieldWrite) (record : Obj) : Prop := ∃ e, w.value record = .error e

/-- An assignment that is refused whatever the record is by then, or never. -/
def Steady (w : FieldWrite) : Prop :=
  ∀ record record' e, w.value record = .error e → w.value record' = .error e

lemma steady_requestWrite (body : Obj) (field key : String) (f : Json → Except PyErr Json) :
    Steady (requestWrite body field key f) := fun _ _ _ h => h

lemma steady_fixedWrite (key : String) (v : Option Json) : Steady (fixedWrite key v) :=
  fun _ _ _ h => h

lemma Steady.refused_iff {w : FieldWrite} (h : Steady w) (record record' : Obj) :
    Refused w record ↔ Refused w record' :=
  ⟨fun ⟨e, he⟩ => ⟨e, h record record' e he⟩, fun ⟨e, he⟩ => ⟨e, h record' record e he⟩⟩

/-- Nothing is refused among some assignments. -/
def AllPass (writes : List FieldWrite) (record : Obj) : Prop := ∀ w ∈ writes, ¬ Refused w record

/-- The assignments before the first one that is refused have their values already. -/
def RefusedFirst (writes : List FieldWrite) (record : Obj) : Prop :=
  ∀ done w rest, writes = done ++ w :: rest → Refused w record → AllPass done record →
    Holds done record

/-- Assignments of which none is refused do not raise. -/
lemma writeFields_pass {writes : List FieldWrite} (hsteady : ∀ w ∈ writes, Steady w) {record₀ : Obj}
    (h : AllPass writes record₀) (record : Obj) : (writeFields writes record).1 = .ok () := by
  refine writeFields_total (fun w hw record => ?_) record
  cases hv : w.value record with
  | ok v => exact ⟨v, rfl⟩
  | error e => exact absurd ⟨e, hsteady w hw record record₀ e hv⟩ (h w hw)

/-- Assignments that raise were made up to the first one that is refused. -/
lemma writeFields_error {writes : List FieldWrite} (hsteady : ∀ w ∈ writes, Steady w)
    {record₀ record record' : Obj} {e : PyErr} (h : writeFields writes record = (.error e, record')) :
    ∃ done w rest, writes = done ++ w :: rest ∧ Refused w record₀ ∧ AllPass done record₀ ∧
      writeFields done record = (.ok (), record') := by
  induction writes generalizing record with
  | nil => cases congrArg Prod.fst h
  | cons w writes ih =>
    obtain ⟨hw, hwrites⟩ := List.forall_mem_cons.mp hsteady
    rw [writeFields_cons_run] at h
    cases hv : w.value record with
    | error e' =>
      rw [hv] at h
      obtain ⟨-, rfl⟩ := Prod.mk.inj h
      exact ⟨[], w, writes, rfl, ⟨e', hw record record₀ e' hv⟩, nofun, rfl⟩
    | ok v =>
      rw [hv] at h
      have hpass : ¬ Refused w record₀ := by
        rintro ⟨e', he'⟩
        cases hv.symm.trans (hw record₀ record e' he')
      have hrun : ∃ record₁, writeFields writes record₁ = (.error e, record') ∧
          ∀ rest, writeFields (w :: rest) record = writeFields rest record₁ := by
        cases v with
        | none => exact ⟨record, h, fun rest => by rw [writeFields_cons_run, hv]⟩
        | some v => exact ⟨record.set w.key v, h, fun rest => by rw [writeFields_cons_run, hv]⟩
      obtain ⟨record₁, hrest, hfirst⟩ := hrun
      obtain ⟨done, w', rest, rfl, hrefused, hdone, hok⟩ := ih hwrites hrest
      refine ⟨w :: done, w', rest, rfl, hrefused, ?_, (hfirst done).trans hok⟩
      exact List.forall_mem_cons.mpr ⟨hpass, hdone⟩

/-- Assignments to different fields that raise leave the record as it is if and only if the ones
before the refused one have their values already. -/
lemma writeFields_refused_iff {writes : List FieldWrite} (hnd : (writes.map FieldWrite.key).Nodup)
    (hsteady : ∀ w ∈ writes, Steady w) (record : Obj) :
    (∀ e record', writeFields writes record = (.error e, record') → record' = record) ↔
      RefusedFirst writes record := by
  have hdone : ∀ {done w rest}, writes = done ++ w :: rest → (done.map FieldWrite.key).Nodup := by
    rintro done w rest rfl
    rw [List.map_append] at hnd
    exact (List.nodup_append.mp hnd).1
  constructor
  · rintro h done w rest rfl hrefused hpass
    have hok := writeFields_pass (fun d hd => hsteady d (List.mem_append_left _ hd)) hpass record
    rcases hrun : writeFields done record with ⟨r, record'⟩
    rw [hrun] at hok
    obtain rfl : r = .ok () := hok
    obtain ⟨e, he⟩ := ((hsteady w (by simp)).refused_iff record record').mp hrefused
    have hall : writeFields (done ++ w :: rest) record = (.error e, record') := by
      rw [writeFields_append, Effect.bind_run_ok hrun, writeFields_cons_run, he]
    exact (writeFields_eq_self_iff (hdone rfl) hrun).mp (h e record' hall)
  · intro h e record' hrun
    obtain ⟨done, w, rest, hwrites, hrefused, hpass, hok⟩ :=
      @writeFields_error _ hsteady record record record' e hrun
    exact (writeFields_eq_self_iff (hdone hwrites) hok).mpr (h done w rest hwrites hrefused hpass)

lemma steady_linkWrites (server : Server) (host : String) (body : Obj)
    (transport : Option (String × Obj)) (exit : Option (String × String × String)) :
    ∀ w ∈ linkWrites server host body transport exit, Steady w := by
  intro w hw
  simp only [linkWrites, List.mem_cons, List.not_mem_nil, or_false] at hw
  rcases hw with rfl | rfl | rfl | rfl | rfl | rfl | rfl | rfl | rfl | rfl | rfl | rfl | rfl | rfl |
    rfl | rfl | rfl | rfl | rfl
  -- the remark depends on the label, but it is never refused
  case inr.inr.inr.inl => exact fun _ _ _ h => by cases h
  all_goals first | exact steady_requestWrite _ _ _ _ | exact steady_fixedWrite _ _

/-! ## Lists of groups that cannot be edited -/

/-- A key cannot be looked up, or the list of its group cannot be edited. -/
def Refuses (subs : Dict String Obj) (key : Json) (f : Obj → Except PyErr Obj) : Prop :=
  key.truthy = true ∧ ((∃ e, findSub subs key = .error e) ∨
    ∃ s sub e, findSub subs key = .ok (some (s, sub)) ∧ f sub = .error e)

/-- The edit of a group raises when it is refused, and then has changed nothing. -/
lemma onSub_cases (key : Json) (f : Obj → Except PyErr Obj) (p : Panel) :
    (Refuses p.subs key f ∧ ∃ e, onSub key f p = (.error e, p)) ∨
      (¬ Refuses p.subs key f ∧ ∃ p', onSub key f p = (.ok (), p')) := by
  unfold Refuses onSub
  by_cases htruthy : key.truthy = true
  · rw [if_pos htruthy, Effect.read_bind_run]
    cases hfind : findSub p.subs key with
    | error e => exact .inl ⟨⟨htruthy, .inl ⟨e, rfl⟩⟩, e, rfl⟩
    | ok found =>
      cases found with
      | none =>
        refine .inr ⟨?_, p, rfl⟩
        rintro ⟨-, ⟨e, he⟩ | ⟨s, sub, e, he, -⟩⟩
        · cases he
        · cases he
      | some found =>
        obtain ⟨s, sub⟩ := found
        rw [Effect.lift_ok_bind_run]
        dsimp only
        cases hf : f sub with
        | error e => exact .inl ⟨⟨htruthy, .inr ⟨s, sub, e, rfl, hf⟩⟩, e, rfl⟩
        | ok sub' =>
          refine .inr ⟨?_, _, rfl⟩
          rintro ⟨-, ⟨e, he⟩ | ⟨s', sub₁, e, he, hf'⟩⟩
          · cases he
          · obtain ⟨rfl, rfl⟩ := Prod.mk.inj (Option.some.inj (Except.ok.inj he))
            cases hf.symm.trans hf'
  · rw [if_neg htruthy]
    exact .inr ⟨fun h => htruthy h.1, p, rfl⟩

/-- A link can be added to what is a list. -/
lemma listLink_of_arr {sub : Obj} {ids : List Json} (h : memberIds sub = .arr ids) (uid : String) :
    ∃ sub', listLink uid sub = .ok sub' := by
  unfold listLink
  dsimp only
  rw [memberIds_setDefault, h]
  by_cases hmem : Json.str uid ∈ ids
  · exact ⟨_, by simp [Json.contains, hmem]; rfl⟩
  · exact ⟨_, by simp [Json.contains, Json.append, hmem]; rfl⟩

lemma refuses_str_iff {subs : Dict String Obj} {s : String} {f : Obj → Except PyErr Obj} :
    Refuses subs (.str s) f ↔ s ≠ "" ∧ ∃ sub e, subs.get? s = some sub ∧ f sub = .error e := by
  unfold Refuses
  rw [truthy_str_iff, findSub]
  cases subs.get? s with
  | none => simp
  | some sub => simp

/-- Whether a link can be added to a group is the same after it was taken out of one. -/
lemma refuses_list_iff {uid : String} {old new : Json} {subs subs' : Dict String Obj}
    (h : EditsSub old (unlistLink uid) subs subs') :
    Refuses subs' new (listLink uid) ↔ Refuses subs new (listLink uid) := by
  cases h with
  | same _ => rfl
  | @edit s sub sub' hold hs hsub hunlist =>
    cases new with
    | str t =>
      rw [refuses_str_iff, refuses_str_iff, and_congr_right_iff]
      intro _
      by_cases ht : t = s
      · subst ht
        rw [Dict.get?_set_self, hsub]
        rcases unlistLink_ok hunlist with ⟨ids, hids, rfl⟩ | ⟨-, -, rfl⟩
        · -- the list was a list, and still is one
          have hlist : ∃ ids', memberIds (if Json.str uid ∈ ids then
              sub.set "link_ids" (.arr (ids.erase (.str uid))) else sub) = .arr ids' := by
            split
            · exact ⟨_, memberIds_set _ _⟩
            · exact ⟨_, hids⟩
          obtain ⟨ids', hids'⟩ := hlist
          obtain ⟨sub₁, h₁⟩ := listLink_of_arr hids uid
          obtain ⟨sub₂, h₂⟩ := listLink_of_arr hids' uid
          refine iff_of_false ?_ ?_
          · rintro ⟨_, e, ⟨rfl⟩, he⟩
            cases h₂.symm.trans he
          · rintro ⟨_, e, ⟨rfl⟩, he⟩
            cases h₁.symm.trans he
        · rfl
      · rw [Dict.get?_set_ne ht]
    | _ => rfl

/-- When a link goes back to the group it was in, and cannot be added to it, taking it out has
changed nothing. -/
lemma unlist_same {uid : String} {key : Json} {subs subs' : Dict String Obj}
    (h : EditsSub key (unlistLink uid) subs subs') (hrefuses : Refuses subs key (listLink uid)) :
    subs' = subs := by
  cases h with
  | same _ => rfl
  | @edit s sub sub' hold hs hsub hunlist =>
    subst hold
    obtain ⟨-, sub₁, e, hsub₁, he⟩ := refuses_str_iff.mp hrefuses
    obtain rfl := Option.some.inj (hsub.symm.trans hsub₁)
    rcases unlistLink_ok hunlist with ⟨ids, hids, -⟩ | ⟨-, -, rfl⟩
    · obtain ⟨sub₂, h₂⟩ := listLink_of_arr hids uid
      cases h₂.symm.trans he
    · exact Dict.set_eq_self_iff.mpr hsub

/-! ## The group of an updated link -/

/-- The group of an updated link cannot be changed: the list of the group it was in, or of the one
it should come to, cannot be edited. -/
def RegroupRefused (subs : Dict String Obj) (uid : String) (old new : Json) : Prop :=
  new ≠ .str "UNCHANGED" ∧
    (Refuses subs old (unlistLink uid) ∨ Refuses subs new (listLink uid))

/-- The last part of an update raises when the group cannot be changed; it has assigned the group
of the link by then. -/
lemma regroupLink_cases {uid : String} {link : Obj} (hlink : p.links.get? uid = some link)
    (old new : Json) :
    (∃ p', ¬ RegroupRefused p.subs uid old new ∧ regroupLink uid old new p = (.ok (), p')) ∨
      (RegroupRefused p.subs uid old new ∧ ∃ e subs', (subs' = p.subs ∨
          ¬ Refuses p.subs old (unlistLink uid) ∧ EditsSub old (unlistLink uid) p.subs subs') ∧
        regroupLink uid old new p = (.error e, { p with
          links := p.links.set uid (link.set "sub_id" (new.or .null)), subs := subs' })) := by
  unfold regroupLink
  by_cases hnew : new = .str "UNCHANGED"
  · subst hnew
    exact .inl ⟨p, fun h => h.1 rfl, rfl⟩
  · rw [if_pos hnew, Effect.bind_run_ok (updateFields_run hlink _ _)]
    rcases onSub_cases old (unlistLink uid)
      { p with links := p.links.set uid (link.set "sub_id" (new.or .null)) } with
      ⟨hrefuses, e, he⟩ | ⟨hpass, p₁, h₁⟩
    · refine .inr ⟨⟨hnew, .inl hrefuses⟩, e, p.subs, .inl rfl, ?_⟩
      rw [Effect.bind_run_error he]
    · obtain ⟨subs₁, hedit, rfl⟩ := onSub_ok h₁
      rw [Effect.bind_run_ok h₁]
      rcases onSub_cases new (listLink uid) { p with
        links := p.links.set uid (link.set "sub_id" (new.or .null)), subs := subs₁ } with
        ⟨hrefuses, e, he⟩ | ⟨hpass', p₂, h₂⟩
      · exact .inr ⟨⟨hnew, .inr ((refuses_list_iff hedit).mp hrefuses)⟩, e, subs₁,
          .inr ⟨hpass, hedit⟩, he⟩
      · refine .inl ⟨p₂, ?_, h₂⟩
        rintro ⟨-, hold | hlist⟩
        · exact hpass hold
        · exact hpass' ((refuses_list_iff hedit).mpr hlist)

/-! ## Whole updates -/

/-- An update that ends with an exception before its save has changed no link and no group. -/
def PatchAtomic (server : Server) (uid host : String) (body : Json) (p : Panel) : Prop :=
  ∀ e p', updateLink server uid host body p = (.error e, p') → SameRecords p p'

/-- The label of a link is read for the log, and there is none. -/
def LabelMissing (link fields : Obj) : Prop :=
  (loggedFields.any (Obj.has fields) && !Obj.has fields "label" && !link.has "label") = true

/-- What is assigned before the step at which an update raises is stored already. -/
structure PatchSafe (server : Server) (p : Panel) (uid host : String) (link fields : Obj)
    (transport : Option (String × Obj)) (exit : Option (String × String × String)) : Prop where
  /-- A field is refused. -/
  field : RefusedFirst (linkWrites server host fields transport exit) link
  /-- The log cannot be written. -/
  label : AllPass (linkWrites server host fields transport exit) link → LabelMissing link fields →
    Holds (linkWrites server host fields transport exit) link
  /-- The group cannot be changed. -/
  group : AllPass (linkWrites server host fields transport exit) link → ¬ LabelMissing link fields →
    let newSub := Obj.getD fields "sub_id" (.str "UNCHANGED")
    RegroupRefused p.subs uid (link.get "sub_id") newSub →
      Holds (linkWrites server host fields transport exit) link ∧
        link.find "sub_id" = some (newSub.or .null)

/-- Assignments that do not raise pass. -/
lemma allPass_of_ok {writes : List FieldWrite} (hsteady : ∀ w ∈ writes, Steady w)
    {record₀ record record' : Obj} (h : writeFields writes record = (.ok (), record')) :
    AllPass writes record₀ := by
  intro w hw ⟨e, he⟩
  obtain ⟨done, rest, rfl⟩ := List.append_of_mem hw
  rw [writeFields_append] at h
  obtain ⟨_, record₁, -, hrest⟩ := Effect.bind_eq_ok h
  rw [writeFields_cons_run, hsteady w hw record₀ record₁ e he] at hrest
  cases hrest

/-- A group cannot be changed: nothing is changed if and only if the link is what it should be. -/
lemma regroup_same_iff {uid : String} {link link' : Obj} {new : Json} {subs' : Dict String Obj}
    (hlink : p.links.get? uid = some link) (hkept : link'.find "sub_id" = link.find "sub_id")
    (hrefused : RegroupRefused p.subs uid (link.get "sub_id") new)
    (hsubs : subs' = p.subs ∨ ¬ Refuses p.subs (link.get "sub_id") (unlistLink uid) ∧
      EditsSub (link.get "sub_id") (unlistLink uid) p.subs subs') :
    SameRecords p { p with
        links := (p.links.set uid link').set uid (link'.set "sub_id" (new.or .null)), subs := subs' } ↔
      link' = link ∧ link.find "sub_id" = some (new.or .null) := by
  have hlinks : (p.links.set uid link').set uid (link'.set "sub_id" (new.or .null)) = p.links ↔
      link' = link ∧ link.find "sub_id" = some (new.or .null) := by
    rw [Dict.set_set, Dict.set_eq_self_iff, hlink, Option.some.injEq, eq_comm, set_other_eq_iff hkept]
  rw [SameRecords, hlinks, and_iff_left_iff_imp]
  rintro ⟨-, hfind⟩
  rcases hsubs with rfl | ⟨hpass, hedit⟩
  · rfl
  · -- the link is in the group that it should come to, and cannot be added to it
    have hrefuses := hrefused.2.resolve_left hpass
    have hsame : link.get "sub_id" = new := by
      rw [get_of_find hfind, Json.or, if_pos hrefuses.1]
    rw [hsame] at hedit
    exact unlist_same hedit hrefuses

section Checked

variable {uid host : String} {link link' fields : Obj} {transport : Option (String × Obj)}
  {exit : Option (String × String × String)}

/-- An update that passed its checks assigns the fields of the link. -/
lemma updateLink_checked (hlink : p.links.get? uid = some link)
    (hcheck : checkLinkUpdate server p link fields = .ok (transport, exit)) {r : Except PyErr Unit}
    (hwrites : writeFields (linkWrites server host fields transport exit) link = (r, link')) :
    updateLink server uid host (.obj fields) p =
      ((Effect.lift r >>= fun _ => do
        if loggedFields.any (Obj.has fields) && !Obj.has fields "label" && !link.has "label" then
          Effect.raise .keyError
        regroupLink uid (link.get "sub_id") (Obj.getD fields "sub_id" (.str "UNCHANGED"))
        return .save () : Effect Panel PyErr (Finish Unit))
          { p with links := p.links.set uid link' }) := by
  unfold updateLink
  rw [Effect.read_bind_run, hlink]
  dsimp only
  rw [hcheck, Effect.lift_ok_bind_run]
  dsimp only
  rw [Effect.bind_run, editLink_run hlink, hwrites]
  cases r <;> rfl

/-- The case of a field that is refused. -/
lemma patch_refused_iff (hlink : p.links.get? uid = some link)
    (hcheck : checkLinkUpdate server p link fields = .ok (transport, exit)) {e : PyErr}
    (hwrites : writeFields (linkWrites server host fields transport exit) link = (.error e, link')) :
    PatchAtomic server uid host (.obj fields) p ↔
      PatchSafe server p uid host link fields transport exit := by
  have hsteady := steady_linkWrites server host fields transport exit
  have hfirst := writeFields_refused_iff (nodup_linkWrites server fields host transport exit) hsteady link
  have hrefused : ¬ AllPass (linkWrites server host fields transport exit) link := by
    intro hpass
    cases (congrArg Prod.fst hwrites).symm.trans (writeFields_pass hsteady hpass link)
  have hrun := updateLink_checked hlink hcheck hwrites
  rw [Effect.lift_error_bind_run] at hrun
  constructor
  · intro hatomic
    have hsame := (hatomic e _ hrun).1
    rw [Dict.set_eq_self_iff, hlink, Option.some.injEq] at hsame
    refine ⟨hfirst.mp ?_, fun h => absurd h hrefused, fun h => absurd h hrefused⟩
    intro e' record' h
    rw [← (Prod.mk.inj (hwrites.symm.trans h)).2, ← hsame]
  · intro hsafe e' p' h
    obtain ⟨-, rfl⟩ := Prod.mk.inj (hrun.symm.trans h)
    refine ⟨?_, rfl⟩
    rw [Dict.set_eq_self_iff, hlink, hfirst.mpr hsafe.field e link' hwrites]

/-- The case in which every field was assigned. -/
lemma patch_assigned_iff (hlink : p.links.get? uid = some link)
    (hcheck : checkLinkUpdate server p link fields = .ok (transport, exit))
    (hwrites : writeFields (linkWrites server host fields transport exit) link = (.ok (), link')) :
    PatchAtomic server uid host (.obj fields) p ↔
      PatchSafe server p uid host link fields transport exit := by
  have hsteady := steady_linkWrites server host fields transport exit
  have hpass : AllPass (linkWrites server host fields transport exit) link :=
    allPass_of_ok hsteady hwrites
  have hfield : RefusedFirst (linkWrites server host fields transport exit) link := by
    intro done w rest heq hrefused
    exact absurd hrefused (hpass w (by rw [heq]; simp))
  have hholds := writeFields_eq_self_iff (nodup_linkWrites server fields host transport exit) hwrites
  have hkept : link'.find "sub_id" = link.find "sub_id" := by
    have hfind := find_writeFields (sub_id_not_written server fields host transport exit) link
    rwa [hwrites] at hfind
  have hrun := updateLink_checked hlink hcheck hwrites
  rw [Effect.lift_ok_bind_run] at hrun
  by_cases hlabel : LabelMissing link fields
  · -- the update raises at the log
    have hraises := hlabel
    unfold LabelMissing at hraises
    rw [if_pos hraises, Effect.raise_bind_run] at hrun
    constructor
    · intro hatomic
      have hsame := (hatomic _ _ hrun).1
      rw [Dict.set_eq_self_iff, hlink, Option.some.injEq] at hsame
      exact ⟨hfield, fun _ _ => hholds.mp hsame.symm, fun _ h => absurd hlabel h⟩
    · intro hsafe e p' h
      obtain ⟨-, rfl⟩ := Prod.mk.inj (hrun.symm.trans h)
      refine ⟨?_, rfl⟩
      rw [Dict.set_eq_self_iff, hlink, hholds.mpr (hsafe.label hpass hlabel)]
  · have hlogged := hlabel
    unfold LabelMissing at hlogged
    rw [if_neg hlogged] at hrun
    beta_reduce at hrun
    have hthere : ({ p with links := p.links.set uid link' } : Panel).links.get? uid = some link' :=
      Dict.get?_set_self ..
    rcases regroupLink_cases hthere (link.get "sub_id")
      (Obj.getD fields "sub_id" (.str "UNCHANGED")) with ⟨p₁, hno, h₁⟩ | ⟨hrefused, e, subs', hsubs, h₁⟩
    · -- the update goes on to its save
      rw [Effect.bind_run_ok h₁] at hrun
      refine iff_of_true ?_ ⟨hfield, fun _ h => absurd h hlabel, fun _ _ h => absurd h hno⟩
      intro e p' h
      cases hrun.symm.trans h
    · rw [Effect.bind_run_error h₁] at hrun
      have hsame := regroup_same_iff hlink hkept hrefused hsubs
      constructor
      · intro hatomic
        obtain ⟨hlink', hfind⟩ := hsame.mp (hatomic _ _ hrun)
        exact ⟨hfield, fun _ h => absurd h hlabel, fun _ _ _ => ⟨hholds.mp hlink', hfind⟩⟩
      · intro hsafe e' p' h
        obtain ⟨-, rfl⟩ := Prod.mk.inj (hrun.symm.trans h)
        obtain ⟨hall, hfind⟩ := hsafe.group hpass hlabel hrefused
        exact hsame.mpr ⟨hholds.mpr hall, hfind⟩

end Checked

/-- An update is all or nothing exactly when what it assigns before the step at which it raises is
stored already. -/
theorem patch_atomic_iff (server : Server) (uid host : String) (body : Json) (p : Panel) :
    PatchAtomic server uid host body p ↔
      ∀ link fields transport exit, p.links.get? uid = some link → body = .obj fields →
        checkLinkUpdate server p link fields = .ok (transport, exit) →
          PatchSafe server p uid host link fields transport exit := by
  -- an update that ends at a check has changed nothing
  have hearly : ∀ e, updateLink server uid host body p = (.error e, p) →
      PatchAtomic server uid host body p := by
    intro e hrun e' p' h
    obtain ⟨-, rfl⟩ := Prod.mk.inj (hrun.symm.trans h)
    exact ⟨rfl, rfl⟩
  cases hlink : p.links.get? uid with
  | none =>
    refine iff_of_true (hearly (.http 404 "link not found") ?_) nofun
    unfold updateLink
    rw [Effect.read_bind_run, hlink]
    rfl
  | some link =>
    cases body with
    | obj fields =>
      cases hcheck : checkLinkUpdate server p link fields with
      | error e =>
        refine iff_of_true (hearly e ?_) ?_
        · unfold updateLink
          rw [Effect.read_bind_run, hlink]
          dsimp only
          rw [hcheck, Effect.lift_error_bind_run]
        · rintro _ _ transport exit ⟨rfl⟩ ⟨rfl⟩ hok
          cases hcheck.symm.trans hok
      | ok checked =>
        obtain ⟨transport, exit⟩ := checked
        have hiff : PatchAtomic server uid host (.obj fields) p ↔
            PatchSafe server p uid host link fields transport exit := by
          rcases hwrites : writeFields (linkWrites server host fields transport exit) link with
            ⟨e | _, link'⟩
          · exact patch_refused_iff hlink hcheck hwrites
          · exact patch_assigned_iff hlink hcheck hwrites
        rw [hiff]
        constructor
        · rintro hsafe _ _ _ _ ⟨rfl⟩ ⟨rfl⟩ hok
          obtain ⟨rfl, rfl⟩ := Prod.mk.inj (Except.ok.inj (hcheck.symm.trans hok))
          exact hsafe
        · intro hall
          exact hall link fields transport exit rfl rfl hcheck
    | _ =>
      refine iff_of_true (hearly .attributeError ?_) nofun
      unfold updateLink
      rw [Effect.read_bind_run, hlink]
      rfl

/-- A panel with one link. -/
def oneLink : Panel :=
  { freshPanel with links := Dict.empty.set "u" [("label", .str "old"), ("sub_id", .null)] }

/-- The link is to get a name, and a server name with a blank in it. -/
def renameAndSni : Json := .obj [("label", .str "new"), ("sni", .str "bad name")]

/-- The update is refused, and the link has its new name. -/
theorem renamed_although_refused :
    ¬ PatchAtomic (.bare .ascii) "u" "relay.test" renameAndSni oneLink := by
  intro hatomic
  have hlabel : ((updateLink (.bare .ascii) "u" "relay.test" renameAndSni oneLink).2.links.get?
      "u").map (fun link => link.get "label") = some (.str "new") := by decide +kernel
  rcases hrun : updateLink (.bare .ascii) "u" "relay.test" renameAndSni oneLink with ⟨e | fin, p'⟩
  · rw [hrun, (hatomic e p' hrun).1] at hlabel
    exact absurd hlabel (by decide)
  · have hraises : (updateLink (.bare .ascii) "u" "relay.test" renameAndSni oneLink).1.toOption.isNone =
      true := by decide +kernel
    rw [hrun] at hraises
    cases hraises

end State
