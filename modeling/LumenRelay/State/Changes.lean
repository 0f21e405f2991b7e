import LumenRelay.State.Requests

/-!
# What the operations change

For each operation, what is in memory when it goes on to its save, in terms of what was there
before.
-/

namespace State

open Lib Py Routing

/-! ## Assignments to fields -/

/-- The record has already the value that each assignment asks for. -/
def Holds (writes : List FieldWrite) (record : Obj) : Prop :=
  ∀ w ∈ writes, ∀ v, w.value record = .ok (some v) → record.find w.key = some v

lemma set_eq_self_iff {record : Obj} {key : String} {v : Json} :
    record.set key v = record ↔ record.find key = some v :=
  Assoc.set_eq_self_iff

lemma find_set_self (record : Obj) (key : String) (v : Json) :
    (record.set key v).find key = some v :=
  Assoc.lookup_set_self _ _ _

lemma find_set_ne {key key' : String} (h : key' ≠ key) (record : Obj) (v : Json) :
    (record.set key v).find key' = record.find key' :=
  Assoc.lookup_set_ne h _ _

lemma get_eq_of_find_eq {record record' : Obj} {key : String}
    (h : record'.find key = record.find key) : record'.get key = record.get key := by
  unfold Obj.find at h
  rw [Obj.get, Obj.getD, h]
  rfl

lemma get_of_find {record : Obj} {key : String} {v : Json} (h : record.find key = some v) :
    record.get key = v := by
  unfold Obj.find at h
  rw [Obj.get, Obj.getD, h]
  rfl

/-- The first of some assignments, and the others. -/
lemma writeFields_cons_run (w : FieldWrite) (writes : List FieldWrite) (record : Obj) :
    writeFields (w :: writes) record = match w.value record with
      | .ok none => writeFields writes record
      | .ok (some v) => writeFields writes (record.set w.key v)
      | .error e => (.error e, record) := by
  rw [writeFields, Effect.read_bind_run]
  rcases w.value record with e | v
  · rfl
  · cases v <;> rfl

lemma writeFields_cons {w : FieldWrite} {writes : List FieldWrite} {record record' : Obj}
    (h : writeFields (w :: writes) record = (.ok (), record')) :
    (w.value record = .ok none ∧ writeFields writes record = (.ok (), record')) ∨
      ∃ v, w.value record = .ok (some v) ∧
        writeFields writes (record.set w.key v) = (.ok (), record') := by
  rw [writeFields_cons_run] at h
  rcases hv : w.value record with e | v
  · rw [hv] at h
    cases h
  · rw [hv] at h
    cases v with
    | none => exact .inl ⟨rfl, h⟩
    | some v => exact .inr ⟨v, rfl, h⟩

/-- A field that no assignment is about keeps its value, also when one of them raises. -/
lemma find_writeFields {writes : List FieldWrite} {key : String}
    (hkey : key ∉ writes.map FieldWrite.key) (record : Obj) :
    (writeFields writes record).2.find key = record.find key := by
  induction writes generalizing record with
  | nil => rfl
  | cons w writes ih =>
    simp only [List.map_cons, List.mem_cons, not_or] at hkey
    rw [writeFields_cons_run]
    rcases w.value record with e | v
    · rfl
    · cases v with
      | none => exact ih hkey.2 record
      | some v => exact (ih hkey.2 _).trans (find_set_ne hkey.1 record v)

lemma writeFields_append (writes writes' : List FieldWrite) (record : Obj) :
    writeFields (writes ++ writes') record =
      (writeFields writes >>= fun _ => writeFields writes') record := by
  induction writes generalizing record with
  | nil => rfl
  | cons w writes ih =>
    rw [List.cons_append, writeFields_cons_run, Effect.bind_run, writeFields_cons_run]
    rcases w.value record with e | v
    · rfl
    · cases v with
      | none => exact ih record
      | some v => exact ih (record.set w.key v)

/-- Assignments whose values are always found do not raise. -/
lemma writeFields_total {writes : List FieldWrite}
    (h : ∀ w ∈ writes, ∀ record, ∃ v, w.value record = .ok v) (record : Obj) :
    (writeFields writes record).1 = .ok () := by
  induction writes generalizing record with
  | nil => rfl
  | cons w writes ih =>
    obtain ⟨v, hv⟩ := h w List.mem_cons_self record
    have hrest := ih fun w hw => h w (List.mem_cons_of_mem _ hw)
    rw [writeFields_cons_run, hv]
    cases v with
    | none => exact hrest record
    | some v => exact hrest (record.set w.key v)

/-- Assignments to different fields leave a record as it is if and only if it has the values
already. -/
lemma writeFields_eq_self_iff {writes : List FieldWrite} (hnd : (writes.map FieldWrite.key).Nodup)
    {record record' : Obj} (h : writeFields writes record = (.ok (), record')) :
    record' = record ↔ Holds writes record := by
  induction writes with
  | nil =>
    obtain rfl : record = record' := congrArg Prod.snd h
    simp [Holds]
  | cons w writes ih =>
    rw [List.map_cons, List.nodup_cons] at hnd
    rcases writeFields_cons h with ⟨hnone, hrest⟩ | ⟨v, hv, hrest⟩
    · -- the first assignment has no value
      rw [ih hnd.2 hrest]
      simp [Holds, hnone]
    · -- no later assignment is to the same field, so its value is in the end the new one
      have hkept : record'.find w.key = some v := by
        have hfind := find_writeFields hnd.1 (record.set w.key v)
        rw [hrest] at hfind
        exact hfind.trans (find_set_self record w.key v)
      constructor
      · rintro rfl
        rw [set_eq_self_iff.mpr hkept] at hrest
        have hholds := (ih hnd.2 hrest).mp rfl
        intro w' hw' v' hv'
        rcases List.mem_cons.mp hw' with rfl | hw'
        · obtain rfl : v = v' := by simpa using hv.symm.trans hv'
          exact hkept
        · exact hholds w' hw' v' hv'
      · intro hholds
        have hfirst := hholds w List.mem_cons_self v hv
        rw [set_eq_self_iff.mpr hfirst] at hrest
        exact (ih hnd.2 hrest).mpr fun w' hw' => hholds w' (List.mem_cons_of_mem _ hw')

/-! ## Editing one group or one link -/

/-- No group is meant by a key. -/
def NoSub (subs : Dict String Obj) (key : Json) : Prop :=
  ∀ s, key = .str s → s ≠ "" → subs.get? s = none

/-- The groups after one of them was edited, if the key is the key of one. -/
inductive EditsSub (key : Json) (f : Obj → Except PyErr Obj) (subs : Dict String Obj) :
    Dict String Obj → Prop
  | same : NoSub subs key → EditsSub key f subs subs
  | edit {s : String} {sub sub' : Obj} : key = .str s → s ≠ "" → subs.get? s = some sub →
      f sub = .ok sub' → EditsSub key f subs (subs.set s sub')

lemma truthy_str_iff {s : String} : (Json.str s).truthy = true ↔ s ≠ "" := by
  simp [Json.truthy]

/-- What is left of the panel when a group was to be edited. -/
lemma onSub_ok {key : Json} {f : Obj → Except PyErr Obj} {p p' : Panel}
    (h : onSub key f p = (.ok (), p')) :
    ∃ subs', EditsSub key f p.subs subs' ∧ p' = { p with subs := subs' } := by
  unfold onSub at h
  split at h
  · rename_i htruthy
    rw [Effect.read_bind_run] at h
    cases key with
    | str s =>
      rw [findSub, Effect.lift_ok_bind_run] at h
      cases hs : p.subs.get? s with
      | none =>
        rw [hs] at h
        obtain rfl : p = p' := congrArg Prod.snd h
        refine ⟨p.subs, .same ?_, rfl⟩
        rintro t ⟨rfl⟩ -
        exact hs
      | some sub =>
        rw [hs] at h
        simp only [Option.map_some] at h
        cases hf : f sub with
        | error e =>
          rw [hf, Effect.lift_error_bind_run] at h
          cases h
        | ok sub' =>
          rw [hf, Effect.lift_ok_bind_run] at h
          obtain rfl := congrArg Prod.snd h
          exact ⟨_, .edit rfl (truthy_str_iff.mp htruthy) hs hf, rfl⟩
    | _ =>
      -- a key that is no text is the key of no group
      simp only [findSub] at h
      split at h
      · obtain rfl : p = p' := congrArg Prod.snd h
        exact ⟨p.subs, .same nofun, rfl⟩
      · rw [Effect.lift_error_bind_run] at h
        cases h
  · rename_i htruthy
    obtain rfl : p = p' := congrArg Prod.snd h
    refine ⟨p.subs, .same ?_, rfl⟩
    rintro s rfl hs
    exact absurd (truthy_str_iff.mpr hs) htruthy

lemma editLink_run {p : Panel} {uid : String} {link : Obj} (hlink : p.links.get? uid = some link)
    (x : Effect Obj PyErr Unit) :
    editLink uid x p = ((x link).1, { p with links := p.links.set uid (x link).2 }) := by
  simp [editLink, editRecord, hlink]

lemma editSub_run {p : Panel} {s : String} {sub : Obj} (hsub : p.subs.get? s = some sub)
    (x : Effect Obj PyErr Unit) :
    editSub s x p = ((x sub).1, { p with subs := p.subs.set s (x sub).2 }) := by
  simp [editSub, editRecord, hsub]

lemma updateFields_run {p : Panel} {uid : String} {link : Obj}
    (hlink : p.links.get? uid = some link) (key : String) (v : Json) :
    updateFields uid [(key, v)] p =
      (.ok (), { p with links := p.links.set uid (link.set key v) }) := by
  simp [updateFields, Obj.update, Dict.modify_of_some hlink]

/-! ## Members of a group -/

/-- The value of `link_ids`, a list if it is absent. -/
def memberIds (sub : Obj) : Json := sub.getD "link_ids" (.arr [])

lemma memberIds_set (sub : Obj) (v : Json) : memberIds (sub.set "link_ids" v) = v := by
  simp [memberIds, Obj.getD, Obj.set]

lemma memberIds_of_find {sub : Obj} {v : Json} (h : sub.find "link_ids" = some v) :
    memberIds sub = v := by
  unfold Obj.find at h
  rw [memberIds, Obj.getD, h]
  rfl

lemma memberIds_setDefault (sub : Obj) :
    (sub.setDefault "link_ids" (.arr [])).get "link_ids" = memberIds sub := by
  unfold Obj.setDefault
  split
  · rename_i hhas
    obtain ⟨v, hv⟩ := Option.isSome_iff_exists.mp hhas
    simp [memberIds, Obj.get, Obj.getD, hv]
  · rename_i hhas
    have hnone : List.lookup "link_ids" sub = none :=
      Option.not_isSome_iff_eq_none.mp hhas
    simp [memberIds, Obj.getD, hnone]

lemma memberIds_of_setDefault (sub : Obj) :
    memberIds (sub.setDefault "link_ids" (.arr [])) = memberIds sub := by
  unfold Obj.setDefault
  split
  · rfl
  · rename_i hhas
    rw [memberIds_set, memberIds, Obj.getD, Option.not_isSome_iff_eq_none.mp hhas]
    rfl

/-- A link is taken out of a list of members.  In what is no list nothing is found. -/
lemma unlistLink_ok {uid : String} {sub sub' : Obj} (h : unlistLink uid sub = .ok sub') :
    (∃ ids, memberIds sub = .arr ids ∧
        sub' = if .str uid ∈ ids then sub.set "link_ids" (.arr (ids.erase (.str uid))) else sub) ∨
      ((∀ ids, memberIds sub ≠ .arr ids) ∧ (memberIds sub).contains uid = .ok false ∧ sub' = sub) := by
  unfold unlistLink at h
  change ((memberIds sub).contains uid >>= _) = _ at h
  obtain ⟨found, hfound, h⟩ := bind_eq_ok h
  change (if found = true then (memberIds sub).removeFirst uid >>= _ else _) = _ at h
  cases hids : memberIds sub with
  | arr ids =>
    rw [hids] at hfound h
    obtain rfl := Except.ok.inj hfound
    refine .inl ⟨ids, rfl, ?_⟩
    by_cases hmem : Json.str uid ∈ ids
    · rw [if_pos (decide_eq_true hmem)] at h
      rw [if_pos hmem]
      exact (Except.ok.inj h).symm
    · rw [if_neg (by simpa using hmem)] at h
      rw [if_neg hmem]
      exact (Except.ok.inj h).symm
  | _ =>
    rw [hids] at hfound h
    cases found with
    | false => exact .inr ⟨nofun, hfound, (Except.ok.inj h).symm⟩
    | true => cases h

/-- A link is added to a list of members.  In what is no list it is found. -/
lemma listLink_ok {uid : String} {sub sub' : Obj} (h : listLink uid sub = .ok sub') :
    (∃ ids, memberIds sub = .arr ids ∧ sub' = if .str uid ∈ ids then
        sub.setDefault "link_ids" (.arr []) else sub.set "link_ids" (.arr (ids ++ [.str uid]))) ∨
      ((∀ ids, memberIds sub ≠ .arr ids) ∧ (memberIds sub).contains uid = .ok true ∧
        sub' = sub.setDefault "link_ids" (.arr [])) := by
  unfold listLink at h
  dsimp only at h
  rw [memberIds_setDefault] at h
  obtain ⟨found, hfound, h⟩ := bind_eq_ok h
  cases hids : memberIds sub with
  | arr ids =>
    rw [hids] at hfound h
    obtain rfl := Except.ok.inj hfound
    refine .inl ⟨ids, rfl, ?_⟩
    by_cases hmem : Json.str uid ∈ ids
    · rw [if_pos (decide_eq_true hmem)] at h
      rw [if_pos hmem]
      exact (Except.ok.inj h).symm
    · rw [if_neg (by simpa using hmem)] at h
      obtain rfl := Except.ok.inj h
      rw [if_neg hmem]
      unfold Obj.setDefault
      split
      · rfl
      · exact Assoc.set_set _ _ _ _
  | _ =>
    rw [hids] at hfound h
    cases found with
    | true => exact .inr ⟨nofun, hfound, (Except.ok.inj h).symm⟩
    | false => cases h

/-! ## The fields of an update -/

section Keys

variable (server : Server) (body : Obj)

/-- The fields of a link that `update_link` may assign, but for its group. -/
def linkKeys : List String :=
  ["active", "label", "note", "remark", "used_bytes", "limit_bytes", "expires_at", "fingerprint",
    "alpn", "port", "ip_limit", "speed_limit_bytes", "address", "sni", "protocol",
    "transport_settings", "exit_proxy_mode", "proxy_id", "custom_proxy"]

lemma keys_linkWrites (host : String) (transport : Option (String × Obj))
    (exit : Option (String × String × String)) :
    (linkWrites server host body transport exit).map FieldWrite.key = linkKeys := rfl

lemma nodup_linkWrites (host : String) (transport : Option (String × Obj))
    (exit : Option (String × String × String)) :
    ((linkWrites server host body transport exit).map FieldWrite.key).Nodup := by
  rw [keys_linkWrites]
  decide

lemma sub_id_not_written (host : String) (transport : Option (String × Obj))
    (exit : Option (String × String × String)) :
    "sub_id" ∉ (linkWrites server host body transport exit).map FieldWrite.key := by
  rw [keys_linkWrites]
  decide

/-- The fields of a group that `update_sub` may assign. -/
def subKeys : List String := ["name", "desc", "password_hash", "multi_location", "link_ids"]

lemma keys_subWrites (ml : Option Obj) (ids : Option (List String)) :
    (subWrites server body ml ids).map FieldWrite.key = subKeys := rfl

lemma nodup_subWrites (ml : Option Obj) (ids : Option (List String)) :
    ((subWrites server body ml ids).map FieldWrite.key).Nodup := by
  rw [keys_subWrites]
  decide

end Keys

/-! ## The operations that go on to their save -/

variable {server : Server} {p p' : Panel}

/-- A Raw TCP request keeps the group it names. -/
lemma rawTcpRequest_subId {r r' : LinkRequest} (h : rawTcpRequest server p r = .ok r') :
    r'.subId = r.subId := by
  unfold rawTcpRequest at h
  dsimp only at h
  split at h
  · cases h
  split at h
  · cases h
  split at h
  · obtain ⟨_, -, h⟩ := bind_eq_ok h
    obtain ⟨_, -, h⟩ := bind_eq_ok h
    obtain rfl := Except.ok.inj h
    rfl
  · obtain rfl := Except.ok.inj h
    rfl

/-- A new link names the group that it was asked for. -/
lemma linkRecord_subId {r : LinkRequest} {protocol fingerprint address sni : String} {settings : Obj}
    {exit : String × String × String} {link : Obj}
    (h : linkRecord server r protocol settings fingerprint address sni exit = .ok link) :
    link.find "sub_id" = some r.subId := by
  unfold linkRecord at h
  obtain ⟨_, -, h⟩ := bind_eq_ok h
  obtain ⟨_, -, h⟩ := bind_eq_ok h
  obtain ⟨_, -, h⟩ := bind_eq_ok h
  obtain ⟨_, -, h⟩ := bind_eq_ok h
  obtain rfl := Except.ok.inj h
  rfl

/-- The record of a new link is made from what was checked before. -/
lemma newLink_ok {draw : ℕ} {r : LinkRequest} {protocol uid : String} {settings link : Obj}
    (h : newLink server draw p r protocol settings = .ok (uid, link)) :
    p.links.get? uid = none ∧ ∃ fingerprint address sni exit,
      optionalText server.site.rt (normalizeAddress server.site.rt) r.address = .ok address ∧
      optionalText server.site.rt (normalizeSni server.site.rt) r.sni = .ok sni ∧
      normalizeExitProxy server r.exitProxyMode r.proxyId r.customProxy = .ok exit ∧
      linkRecord server r protocol settings (knownFingerprint fingerprint) address sni exit =
        .ok link := by
  unfold newLink at h
  obtain ⟨_, -, h⟩ := bind_eq_ok h
  obtain ⟨address, haddress, h⟩ := bind_eq_ok h
  obtain ⟨sni, hsni, h⟩ := bind_eq_ok h
  obtain ⟨exit, hexit, h⟩ := bind_eq_ok h
  obtain ⟨_, -, h⟩ := bind_eq_ok h
  dsimp only at h
  split at h
  · cases h
  · rename_i hnew
    obtain ⟨_, hlink, h⟩ := bind_eq_ok h
    obtain ⟨rfl, rfl⟩ := Prod.mk.inj (Except.ok.inj h)
    exact ⟨by simpa [Dict.contains] using hnew, _, address, sni, exit, haddress, hsni, hexit, hlink⟩

/-- A new link is one of a transport that runs; of Raw TCP it has no endpoint of its own. -/
lemma prepareLink_cases {draw : ℕ} {r : LinkRequest} {uid : String} {link : Obj}
    (h : prepareLink server draw p r = .ok (uid, link)) :
    ∃ protocol settings, Transports.validate server.site r.protocol r.transportSettings =
        .ok (protocol, settings) ∧
      ((protocol = "vless-tcp" ∧ ∃ r', rawTcpRequest server p r = .ok r' ∧
          newLink server draw p r' protocol settings = .ok (uid, link)) ∨
        (protocol ≠ "vless-tcp" ∧ newLink server draw p r protocol settings = .ok (uid, link))) := by
  unfold prepareLink at h
  obtain ⟨⟨protocol, settings⟩, hvalid, h⟩ := bind_eq_ok h
  obtain ⟨_, -, h⟩ := bind_eq_ok h
  split at h
  · rename_i hraw
    obtain ⟨r', hr', h⟩ := bind_eq_ok h
    exact ⟨protocol, settings, hvalid, .inl ⟨hraw, r', hr', h⟩⟩
  · rename_i hraw
    exact ⟨protocol, settings, hvalid, .inr ⟨hraw, h⟩⟩

/-- A new link has an id that is not in use, and names the group that it was asked for. -/
lemma prepareLink_ok {draw : ℕ} {r : LinkRequest} {uid : String} {link : Obj}
    (h : prepareLink server draw p r = .ok (uid, link)) :
    p.links.get? uid = none ∧ link.find "sub_id" = some r.subId := by
  obtain ⟨protocol, settings, -, ⟨-, r', hr', hnew⟩ | ⟨-, hnew⟩⟩ := prepareLink_cases h
  · obtain ⟨hfree, _, _, _, _, -, -, -, hlink⟩ := newLink_ok hnew
    exact ⟨hfree, by rw [linkRecord_subId hlink, rawTcpRequest_subId hr']⟩
  · obtain ⟨hfree, _, _, _, _, -, -, -, hlink⟩ := newLink_ok hnew
    exact ⟨hfree, linkRecord_subId hlink⟩

lemma makeLink_save {draw : ℕ} {r : LinkRequest} {a : String × Obj}
    (h : makeLink server draw r p = (.ok (.save a), p')) :
    prepareLink server draw p r = .ok a ∧ ∃ subs', EditsSub r.subId (listLink a.1) p.subs subs' ∧
      p' = { p with links := p.links.set a.1 a.2, subs := subs' } := by
  unfold makeLink at h
  rw [Effect.read_bind_run] at h
  obtain ⟨⟨uid, link⟩, hprep, h⟩ := Effect.lift_bind_eq_ok h
  dsimp only at h
  rw [putLink, Effect.edit_bind_run] at h
  obtain ⟨_, p₁, hsub, h⟩ := Effect.bind_eq_ok h
  obtain ⟨hfin, rfl⟩ := Prod.mk.inj h
  cases hfin
  obtain ⟨subs', hedit, rfl⟩ := onSub_ok hsub
  exact ⟨hprep, subs', hedit, rfl⟩

lemma createLink_save {draw : ℕ} {host : String} {body : Json} {a : String × Obj}
    (h : createLink server draw host body p = (.ok (.save a), p')) :
    ∃ r, linkRequest server host body = .ok r ∧ makeLink server draw r p = (.ok (.save a), p') := by
  unfold createLink at h
  obtain ⟨r, hr, h⟩ := Effect.lift_bind_eq_ok h
  refine ⟨r, hr, ?_⟩
  exact Effect.handle_eq_ok (fun e _ => by cases e <;> exact ⟨_, rfl⟩) h

lemma removeLink_save {uid : String} {a : Option Json}
    (h : removeLink uid p = (.ok (.save a), p')) :
    ∃ link subs', p.links.get? uid = some link ∧
      EditsSub (link.get "sub_id") (unlistLink uid) p.subs subs' ∧
      p' = { p with links := p.links.erase uid, subs := subs' } := by
  unfold removeLink at h
  rw [Effect.read_bind_run] at h
  cases hlink : p.links.get? uid with
  | none =>
    rw [hlink] at h
    cases h
  | some link =>
    rw [hlink] at h
    dsimp only at h
    rw [Effect.edit_bind_run] at h
    obtain ⟨_, p₁, hsub, h⟩ := Effect.bind_eq_ok h
    obtain ⟨-, rfl⟩ := Prod.mk.inj h
    obtain ⟨subs', hedit, rfl⟩ := onSub_ok hsub
    exact ⟨link, subs', rfl, hedit, rfl⟩

lemma setLinkActive_save {uid : String} {active : Json} {a : Option Obj}
    (h : setLinkActive uid active p = (.ok (.save a), p')) :
    ∃ link, p.links.get? uid = some link ∧
      p' = { p with links := p.links.set uid (link.set "active" (.bool active.truthy)) } := by
  unfold setLinkActive at h
  rw [Effect.read_bind_run] at h
  cases hlink : p.links.get? uid with
  | none =>
    rw [hlink] at h
    cases h
  | some link =>
    rw [hlink] at h
    dsimp only at h
    rw [Effect.bind_run_ok (updateFields_run hlink _ _)] at h
    split at h
    · cases h
    · obtain ⟨-, rfl⟩ := Prod.mk.inj h
      exact ⟨link, rfl, rfl⟩

lemma createSubGroup_save {draw : ℕ} {token : Token} {name desc password : Json} {a : String × Obj}
    (h : createSubGroup server draw token name desc password p = (.ok (.save a), p')) :
    ∃ n d w, cutText 60 (name.or (.str "گروه جدید")) = .ok n ∧ cutText 200 (desc.or (.str "")) = .ok d ∧
      stripText (password.or (.str "")) = .ok w ∧
      p' = { p with
        subs := p.subs.set (generateUuid server.site.rt draw) (subRecord server n d w token) } := by
  unfold createSubGroup at h
  obtain ⟨n, hn, h⟩ := Effect.lift_bind_eq_ok h
  obtain ⟨d, hd, h⟩ := Effect.lift_bind_eq_ok h
  obtain ⟨w, hw, h⟩ := Effect.lift_bind_eq_ok h
  obtain ⟨-, rfl⟩ := Prod.mk.inj h
  exact ⟨n, d, w, hn, hd, hw, rfl⟩

lemma setLinkSub_save {uid : String} {subId : Option String} {a : Bool}
    (h : setLinkSub server uid subId p = (.ok (.save a), p')) :
    ∃ link subs₁ subs₂, p.links.get? uid = some link ∧ (∀ s, subId = some s → p.subs.contains s) ∧
      EditsSub (link.get "sub_id") (unlistLink uid) p.subs subs₁ ∧
      EditsSub (subKey subId) (listLink uid) subs₁ subs₂ ∧
      p' = { p with links := p.links.set uid (link.set "sub_id" (subKey subId)), subs := subs₂ } := by
  unfold setLinkSub at h
  rw [Effect.read_bind_run] at h
  cases hlink : p.links.get? uid with
  | none =>
    rw [hlink] at h
    cases h
  | some link =>
    rw [hlink] at h
    cases htarget : subId.elim (some none) fun s => (p.subs.get? s).map some with
    | none =>
      rw [htarget] at h
      cases h
    | some target =>
      rw [htarget] at h
      have hknown : ∀ s, subId = some s → p.subs.contains s := by
        rintro s rfl
        cases hs : p.subs.get? s with
        | none => simp [hs] at htarget
        | some sub => simp [Dict.contains, hs]
      dsimp only at h
      cases hfit : validateRawTcpMultiLocation server.site (some link)
          (target.elim .null fun sub => sub.get "multi_location") with
      | error e =>
        rw [hfit] at h
        cases e <;> cases h
      | ok =>
        rw [hfit] at h
        dsimp only at h
        obtain ⟨_, p₁, h₁, h⟩ := Effect.bind_eq_ok h
        obtain ⟨subs₁, hedit₁, rfl⟩ := onSub_ok h₁
        obtain ⟨_, p₂, h₂, h⟩ := Effect.bind_eq_ok h
        obtain ⟨subs₂, hedit₂, rfl⟩ := onSub_ok h₂
        rw [Effect.bind_run_ok (updateFields_run (p := { p with subs := subs₂ }) hlink _ _)] at h
        obtain ⟨-, rfl⟩ := Prod.mk.inj h
        exact ⟨link, subs₁, subs₂, rfl, hknown, hedit₁, hedit₂, rfl⟩

lemma removeSubGroup_save {subId : String} {a : Option Json}
    (h : removeSubGroup subId p = (.ok (.save a), p')) :
    p.subs.contains subId = true ∧
      p' = { p with subs := p.subs.erase subId, links := freeLinks subId p.links } := by
  unfold removeSubGroup at h
  rw [Effect.read_bind_run] at h
  cases hsub : p.subs.get? subId with
  | none =>
    rw [hsub] at h
    cases h
  | some sub =>
    rw [hsub] at h
    obtain ⟨-, rfl⟩ := Prod.mk.inj h
    exact ⟨by simp [Dict.contains, hsub], rfl⟩

lemma deleteSub_save {subId : String} (h : deleteSub subId p = (.ok (.save ()), p')) :
    p.subs.contains subId = true ∧
      p' = { p with subs := p.subs.erase subId, links := freeLinks subId p.links } := by
  unfold deleteSub at h
  rw [Effect.read_bind_run] at h
  split at h
  · cases h
  · rename_i hsub
    obtain ⟨-, rfl⟩ := Prod.mk.inj h
    exact ⟨by simpa using hsub, rfl⟩

/-- The last part of `update_link`, by what the request says about the group. -/
lemma regroupLink_ok {uid : String} {link : Obj} {oldSub newSub : Json}
    (hlink : p.links.get? uid = some link) (h : regroupLink uid oldSub newSub p = (.ok (), p')) :
    (newSub = .str "UNCHANGED" ∧ p' = p) ∨
      (newSub ≠ .str "UNCHANGED" ∧ ∃ subs₁ subs₂, EditsSub oldSub (unlistLink uid) p.subs subs₁ ∧
        EditsSub newSub (listLink uid) subs₁ subs₂ ∧
        p' = { p with
          links := p.links.set uid (link.set "sub_id" (newSub.or .null)), subs := subs₂ }) := by
  unfold regroupLink at h
  split at h
  · rename_i hnew
    rw [Effect.bind_run_ok (updateFields_run hlink _ _)] at h
    obtain ⟨_, p₁, h₁, h₂⟩ := Effect.bind_eq_ok h
    obtain ⟨subs₁, hedit₁, rfl⟩ := onSub_ok h₁
    obtain ⟨subs₂, hedit₂, rfl⟩ := onSub_ok h₂
    exact .inr ⟨hnew, subs₁, subs₂, hedit₁, hedit₂, rfl⟩
  · rename_i hnew
    exact .inl ⟨not_not.mp hnew, (congrArg Prod.snd h).symm⟩

lemma updateLink_save {uid host : String} {body : Json}
    (h : updateLink server uid host body p = (.ok (.save ()), p')) :
    ∃ link fields transport exit link', p.links.get? uid = some link ∧ body = .obj fields ∧
      checkLinkUpdate server p link fields = .ok (transport, exit) ∧
      writeFields (linkWrites server host fields transport exit) link = (.ok (), link') ∧
      regroupLink uid (link.get "sub_id") (Obj.getD fields "sub_id" (.str "UNCHANGED"))
        { p with links := p.links.set uid link' } = (.ok (), p') := by
  unfold updateLink at h
  rw [Effect.read_bind_run] at h
  cases hlink : p.links.get? uid with
  | none =>
    rw [hlink] at h
    cases h
  | some link =>
    rw [hlink] at h
    cases body with
    | obj fields =>
      dsimp only at h
      obtain ⟨⟨transport, exit⟩, hcheck, h⟩ := Effect.lift_bind_eq_ok h
      dsimp only at h
      obtain ⟨_, p₁, hwrite, h⟩ := Effect.bind_eq_ok h
      rw [editLink_run hlink] at hwrite
      obtain ⟨hok, rfl⟩ := Prod.mk.inj hwrite
      split at h
      · cases h
      · obtain ⟨_, p₂, hregroup, h⟩ := Effect.bind_eq_ok h
        obtain ⟨-, rfl⟩ := Prod.mk.inj h
        exact ⟨link, fields, transport, exit, _, rfl, rfl, hcheck, Prod.ext hok rfl, hregroup⟩
    | _ => cases h

lemma updateSub_ok {tokens : ℕ → Token} {subId : String} {body : Json} {fin : Finish Unit}
    (h : updateSub server tokens subId body p = (.ok fin, p')) :
    fin = .save () ∧ ∃ sub fields ml ids sub', p.subs.get? subId = some sub ∧ body = .obj fields ∧
      subConfiguration server p tokens subId fields = .ok ml ∧
      subMembers server p fields = .ok ids ∧
      writeFields (subWrites server fields ml ids) sub = (.ok (), sub') ∧
      ((ids = none ∧ p' = { p with subs := p.subs.set subId sub' }) ∨
        ∃ new old, ids = some new ∧ idSet (sub.getD "link_ids" (.arr [])) = .ok old ∧
          syncMembers subId old new { p with subs := p.subs.set subId sub' } = (.ok (), p')) := by
  unfold updateSub at h
  cases body with
  | obj fields =>
    dsimp only at h
    rw [Effect.read_bind_run] at h
    obtain ⟨ml, hml, h⟩ := Effect.lift_bind_eq_ok h
    obtain ⟨ids, hids, h⟩ := Effect.lift_bind_eq_ok h
    obtain ⟨_, -, h⟩ := Effect.lift_bind_eq_ok h
    cases hsub : p.subs.get? subId with
    | none =>
      rw [hsub] at h
      cases h
    | some sub =>
      rw [hsub] at h
      dsimp only at h
      obtain ⟨_, p₁, hwrite, h⟩ := Effect.bind_eq_ok h
      rw [editSub_run hsub] at hwrite
      obtain ⟨hok, rfl⟩ := Prod.mk.inj hwrite
      cases ids with
      | none =>
        obtain ⟨hfin, rfl⟩ := Prod.mk.inj h
        exact ⟨(Except.ok.inj hfin).symm, sub, fields, ml, none, _, rfl, rfl, hml, hids,
          Prod.ext hok rfl, .inl ⟨rfl, rfl⟩⟩
      | some new =>
        dsimp only at h
        obtain ⟨old, hold, h⟩ := Effect.lift_bind_eq_ok h
        obtain ⟨_, p₂, hsync, h⟩ := Effect.bind_eq_ok h
        obtain ⟨hfin, rfl⟩ := Prod.mk.inj h
        exact ⟨(Except.ok.inj hfin).symm, sub, fields, ml, some new, _, rfl, rfl, hml, hids,
          Prod.ext hok rfl, .inr ⟨new, old, rfl, hold, hsync⟩⟩
  | _ => cases h

lemma assignLinkToSub_save {subId : String} {body : Json}
    (h : assignLinkToSub server subId body p = (.ok (.save ()), p')) :
    ∃ sub fields sub' uid add, p.subs.get? subId = some sub ∧ body = .obj fields ∧
      uid = (Obj.getD fields "link_id" (.str "")).toStr server.site.rt ∧
      add = decide ((Obj.getD fields "action" (.str "add")).toStr server.site.rt = "add") ∧
      assignMember uid add sub = .ok sub' ∧
      p' = { p with
        subs := p.subs.set subId sub'
        links := p.links.modify uid fun link =>
          link.set "sub_id" (if add then .str subId else .null) } := by
  unfold assignLinkToSub at h
  cases body with
  | obj fields =>
    dsimp only at h
    rw [Effect.read_bind_run] at h
    cases hsub : p.subs.get? subId with
    | none =>
      rw [hsub] at h
      cases h
    | some sub =>
      rw [hsub] at h
      dsimp only at h
      obtain ⟨_, -, h⟩ := Effect.lift_bind_eq_ok h
      obtain ⟨sub', hsub', h⟩ := Effect.lift_bind_eq_ok h
      obtain ⟨-, rfl⟩ := Prod.mk.inj h
      exact ⟨sub, fields, sub', _, _, rfl, rfl, rfl, rfl, hsub', rfl⟩
  | _ => cases h

/-! ## Saves -/

variable {w w' : World}

/-- A strict save of the state raises. -/
def saveRaises (server : Server) (w : World) : Bool :=
  !(storable server w.panel && w.writes.headD true)

lemma saveState_run (server : Server) (strict : Bool) (w : World) :
    saveState server strict w =
      (if saveRaises server w && strict then .error notSaved else .ok (!saveRaises server w),
        { w with writes := w.writes.tail }) := by
  unfold saveState saveRaises
  dsimp only
  rw [Bool.not_not]
  split <;> rfl

/-- An operation that goes on to its save. -/
lemma perform_save {α : Type} {change : Effect Panel PyErr (Finish α)} {a : α} {p' : Panel}
    (h : change w.panel = (.ok (.save a), p')) :
    perform server change w =
      (if saveRaises server ⟨p', w.writes⟩ then .error notSaved else .ok a,
        ⟨p', w.writes.tail⟩) := by
  unfold perform
  rw [h]
  dsimp only
  rw [Effect.bind_run, saveState_run, Bool.and_true]
  split <;> rename_i hsave
  · split at hsave
    · cases hsave
    · rename_i hraises
      obtain ⟨-, rfl⟩ := Prod.mk.inj hsave
      rw [if_neg hraises]
      rfl
  · split at hsave
    · rename_i hraises
      obtain ⟨he, rfl⟩ := Prod.mk.inj hsave
      obtain rfl := Except.error.inj he
      rw [if_pos hraises]
    · cases hsave

lemma perform_saved {α : Type} {change : Effect Panel PyErr (Finish α)} {a : α} {p' : Panel}
    (h : change w.panel = (.ok (.save a), p')) (hsaved : ¬ saveRaises server ⟨p', w.writes⟩ = true) :
    perform server change w = (.ok a, ⟨p', w.writes.tail⟩) := by
  rw [perform_save h, if_neg hsaved]

/-- An operation that returned has ended without a save, or its save did not raise. -/
lemma perform_ok {α : Type} {change : Effect Panel PyErr (Finish α)} {a : α}
    (h : perform server change w = (.ok a, w')) :
    (change w.panel = (.ok (.done a), w'.panel) ∧ w'.writes = w.writes) ∨
      ∃ p', change w.panel = (.ok (.save a), p') ∧ saveRaises server ⟨p', w.writes⟩ = false ∧
        w' = ⟨p', w.writes.tail⟩ := by
  rcases hchange : change w.panel with ⟨e | fin, p'⟩
  · unfold perform at h
    rw [hchange] at h
    cases h
  · cases fin with
    | done b =>
      unfold perform at h
      rw [hchange] at h
      obtain ⟨hb, rfl⟩ := Prod.mk.inj h
      obtain rfl := Except.ok.inj hb
      exact .inl ⟨rfl, rfl⟩
    | save b =>
      rw [perform_save hchange] at h
      obtain ⟨hb, rfl⟩ := Prod.mk.inj h
      split at hb
      · cases hb
      · rename_i hraises
        obtain rfl := Except.ok.inj hb
        exact .inr ⟨p', rfl, by simpa using hraises, rfl⟩

lemma perform_panel {α : Type} (change : Effect Panel PyErr (Finish α)) (w : World) :
    (perform server change w).2.panel = (change w.panel).2 := by
  rcases hchange : change w.panel with ⟨e | fin, p'⟩
  · unfold perform
    rw [hchange]
  · cases fin with
    | done a =>
      unfold perform
      rw [hchange]
    | save a => rw [perform_save hchange]

/-! ## All operations -/

/-- A strict save does not touch the panel, also when it fails. -/
lemma run_panel (op : Op) (w : World) : (op.run server w).2.panel = (op.change server w.panel).2 :=
  perform_panel _ w

lemma discard_panel {α : Type} (x : Effect Panel PyErr (Finish α)) (p : Panel) :
    ((do return (← x).discard : Effect Panel PyErr (Finish Unit)) p).2 = (x p).2 := by
  rw [Effect.bind_run]
  rcases x p with ⟨e | fin, p'⟩ <;> rfl

end State
