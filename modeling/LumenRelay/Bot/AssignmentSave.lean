import LumenRelay.Bot.Percentages
import LumenRelay.Py.Sample
import LumenRelay.State.Files
import LumenRelay.State.Operations

/-!
# An assignment that cannot be saved

The assignment of an exit changes the links of the shop, saves the state and undoes the change in
an exception handler.  But a save that is not strict raises nothing: it returns `False`, which the
assignment does not look at, so a change that is not on the disk is reported as made.
-/

namespace Bot

open Lib Py Routing

/-! ## The functions of the program -/

/-- How a write of the state file ends. -/
structure WriteOutcome where
  /-- Whether the file system takes it. -/
  success : Bool
  /-- What an exception on the way leaves of the files. -/
  left : State.Files

/-- `save_state`, with the files afterwards. -/
def saveStateFile (server : Server) (strict : Bool) (outcome : WriteOutcome) (panel : Panel)
    (files : State.Files) : Except PyErr Bool × State.Files :=
  let failed := if strict then .error State.notSaved else .ok false
  match State.validateState (.obj (State.statePayload server.site.rt server.now panel)) with
  | .error _ => (failed, files)
  | .ok data =>
    match server.site.rt.jsonDumps .indented (.obj data) with
    | none => (failed, outcome.left)
    | some text =>
      if outcome.success then
        (.ok true, FileOp.run
          (State.rotation true files ++ [.write .tmp text, .rename .tmp .data]) files)
      else (failed, outcome.left)

/-- The links that an assignment changes. -/
def changedLinks (proxyId : String) (eligible : List (String × Obj)) : List (String × Obj) :=
  eligible.filter fun e => ¬ (Obj.get e.2 "exit_proxy_mode" = .str "repository" ∧
    Obj.get e.2 "proxy_id" = .str proxyId)

/-- What the exception handler does: the changed links get their old exits back. -/
def rollBack (changed : List (String × Obj)) (links : Dict String Obj) : Dict String Obj :=
  changed.foldl (fun links e => links.modify e.1 fun link =>
    Obj.update link [("exit_proxy_mode", Obj.get e.2 "exit_proxy_mode"),
      ("proxy_id", Obj.get e.2 "proxy_id"), ("custom_proxy", Obj.get e.2 "custom_proxy")]) links

/-- The panel with an assignment made. -/
def assignedPanel (rt : Runtime) (users : Dict String User) (record : Record) (panel : Panel) :
    Panel :=
  { panel with
    links := ((eligibleAssignmentLinks rt users panel.links).foldl (assignLink record.id)
      (panel.links, 0, 0)).1 }

/-- `_apply_proxy_assignment`, with what `await save_state()` does to the files. -/
def assignAndSave (env : Env) (server : Server) (users : Dict String User) (adminId : ℤ)
    (countryCode : String) (save : Panel → State.Files → Except PyErr Bool × State.Files)
    (panel : Panel) (files : State.Files) : Except String Assigned × Panel × State.Files :=
  if adminId ∉ env.adminIds then (.error "دسترسی ادمین لازم است", panel, files)
  else
    match (assignmentTargets server.catalog).find? fun target => target.code = countryCode with
    | none => (.error "موقعیت انتخاب‌شده دیگر در دسترس نیست.", panel, files)
    | some target =>
      match topOf (recordsForCountry server.site.rt server.catalog.records countryCode) with
      | none => (.error "موقعیت انتخاب‌شده دیگر در دسترس نیست.", panel, files)
      | some record =>
        let eligible := eligibleAssignmentLinks server.site.rt users panel.links
        let done := eligible.foldl (assignLink record.id) (panel.links, 0, 0)
        let assigned := { panel with links := done.1 }
        match save assigned files with
        | (.error _, files) =>
          (.error "ذخیره‌سازی انجام نشد؛ تغییری اعمال نشد.",
            { assigned with links := rollBack (changedLinks record.id eligible) assigned.links },
            files)
        | (.ok _, files) => (.ok ⟨target, eligible.length, done.2.1, done.2.2, 0⟩, assigned, files)

variable {env : Env} {server : Server} {users : Dict String User} {adminId : ℤ}
  {countryCode : String} {outcome : WriteOutcome} {panel : Panel} {files : State.Files}

/-! ## One assignment -/

/-- The request is refused before anything is changed. -/
def Refused (env : Env) (server : Server) (adminId : ℤ) (countryCode : String) : Prop :=
  adminId ∉ env.adminIds ∨
    ((assignmentTargets server.catalog).find? fun target => target.code = countryCode) = none ∨
    topOf (recordsForCountry server.site.rt server.catalog.records countryCode) = none

/-- The state with the assignment made can be written. -/
def Writable (server : Server) (users : Dict String User) (countryCode : String)
    (outcome : WriteOutcome) (panel : Panel) : Prop :=
  ∃ record, topOf (recordsForCountry server.site.rt server.catalog.records countryCode) =
      some record ∧
    State.storable server (assignedPanel server.site.rt users record panel) = true ∧
    outcome.success = true

/-- A request that is refused changes nothing. -/
lemma assignAndSave_refused (h : Refused env server adminId countryCode)
    (users : Dict String User) (save : Panel → State.Files → Except PyErr Bool × State.Files)
    (panel : Panel) (files : State.Files) :
    ∃ message, assignAndSave env server users adminId countryCode save panel files =
      (.error message, panel, files) := by
  unfold assignAndSave
  split
  · exact ⟨_, rfl⟩
  · rename_i hadmin
    rcases h with h | h | h
    · exact absurd h hadmin
    · rw [h]
      exact ⟨_, rfl⟩
    · split
      · exact ⟨_, rfl⟩
      · rw [h]
        exact ⟨_, rfl⟩

/-- Any other request makes the assignment, and whatever the save returns is taken for success. -/
lemma assignAndSave_made (h : ¬ Refused env server adminId countryCode)
    {save : Panel → State.Files → Except PyErr Bool × State.Files}
    (hsave : ∀ panel files, ∃ saved files', save panel files = (.ok saved, files'))
    (users : Dict String User) (panel : Panel) (files : State.Files) :
    ∃ record result, topOf (recordsForCountry server.site.rt server.catalog.records countryCode) =
        some record ∧
      assignAndSave env server users adminId countryCode save panel files =
        (.ok result, assignedPanel server.site.rt users record panel,
          (save (assignedPanel server.site.rt users record panel) files).2) := by
  obtain ⟨hadmin, htarget, hrecord⟩ : adminId ∈ env.adminIds ∧
      ((assignmentTargets server.catalog).find? fun target => target.code = countryCode) ≠ none ∧
      topOf (recordsForCountry server.site.rt server.catalog.records countryCode) ≠ none := by
    simpa only [Refused, not_or, not_not] using h
  obtain ⟨target, htarget⟩ := Option.ne_none_iff_exists'.mp htarget
  obtain ⟨record, hrecord⟩ := Option.ne_none_iff_exists'.mp hrecord
  obtain ⟨saved, files', hsaved⟩ := hsave (assignedPanel server.site.rt users record panel) files
  let eligible := eligibleAssignmentLinks server.site.rt users panel.links
  let done := eligible.foldl (assignLink record.id) (panel.links, 0, 0)
  refine ⟨record, ⟨target, eligible.length, done.2.1, done.2.2, 0⟩, hrecord, ?_⟩
  have hassigned : ({ panel with links := done.1 } : Panel) =
      assignedPanel server.site.rt users record panel := rfl
  unfold assignAndSave
  rw [if_neg (by simpa using hadmin), htarget]
  dsimp only
  rw [hrecord]
  dsimp only
  rw [hassigned, hsaved]

/-- With such a save the answer and the links are those of the assignment without it. -/
lemma assignAndSave_eq {save : Panel → State.Files → Except PyErr Bool × State.Files}
    (hsave : ∀ panel files, ∃ saved files', save panel files = (.ok saved, files')) :
    ((assignAndSave env server users adminId countryCode save panel files).1,
        (assignAndSave env server users adminId countryCode save panel files).2.1.links) =
      applyProxyAssignment env server.catalog users panel.links adminId countryCode := by
  unfold assignAndSave applyProxyAssignment
  by_cases hadmin : adminId ∉ env.adminIds
  · rw [if_pos hadmin, if_pos hadmin]
  rw [if_neg hadmin, if_neg hadmin]
  cases (assignmentTargets server.catalog).find? fun target => target.code = countryCode with
  | none => rfl
  | some target =>
    dsimp only
    cases topOf (recordsForCountry server.site.rt server.catalog.records countryCode) with
    | none => rfl
    | some record =>
      obtain ⟨saved, files', hsaved⟩ :=
        hsave (assignedPanel server.site.rt users record panel) files
      have hassigned : ({ panel with
          links := ((eligibleAssignmentLinks server.site.rt users panel.links).foldl
            (assignLink record.id) (panel.links, 0, 0)).1 } : Panel) =
          assignedPanel server.site.rt users record panel := rfl
      dsimp only
      rw [hassigned, hsaved]
      rfl

/-! ## The save -/

/-- A save that is not strict raises nothing. -/
lemma saveStateFile_ok (server : Server) (outcome : WriteOutcome) (panel : Panel)
    (files : State.Files) : ∃ saved files',
    saveStateFile server false outcome panel files = (.ok saved, files') := by
  unfold saveStateFile
  dsimp only
  split
  · exact ⟨_, _, rfl⟩
  · split
    · exact ⟨_, _, rfl⟩
    · split
      · exact ⟨_, _, rfl⟩
      · exact ⟨_, _, rfl⟩

/-- A state that can be written is in the state file after the save. -/
lemma saveStateFile_written (hstorable : State.storable server panel = true)
    (hsuccess : outcome.success = true) (strict : Bool) :
    State.readCopy server.site.rt
        (.ofContent ((saveStateFile server strict outcome panel files).2 .data)) =
      .ok (State.statePayload server.site.rt server.now panel) := by
  unfold State.storable at hstorable
  unfold saveStateFile
  dsimp only
  split at hstorable
  · rename_i data hvalid
    obtain ⟨text, htext⟩ := Option.isSome_iff_exists.mp hstorable
    have hdata := State.validateState_eq hvalid
    obtain rfl := Json.obj.inj hdata
    rw [hvalid]
    dsimp only
    rw [htext]
    dsimp only
    rw [if_pos hsuccess]
    -- the write is a call of `_atomic_write_state` with this payload
    let call : State.WriteCall server.site.rt := ⟨true, _, hvalid, text, htext⟩
    have hfile := (State.complete_spec files call).1
    show State.readCopy server.site.rt (.ofContent ((call.complete files) .data)) = _
    rw [hfile]
    exact State.readCopy_text call
  · cases hstorable

/-! ## What is reported -/

/-- The state file holds a state in which the links go out through the proxy. -/
def HoldsAssignment (rt : Runtime) (files : State.Files) (proxyId : String)
    (eligible : List (String × Obj)) : Prop :=
  ∃ data links, State.readCopy rt (.ofContent (files .data)) = .ok data ∧
    Obj.get data "links" = .obj links ∧
    ∀ e ∈ eligible, ∃ link, Obj.find links e.1 = some (.obj link) ∧ OnProxy proxyId link

/-- What is reported is true: a change that cannot be written is an error and leaves the links as
they were, and a success is in the state file. -/
structure Truthful (server : Server) (users : Dict String User) (countryCode : String)
    (outcome : WriteOutcome) (panel : Panel)
    (done : Except String Assigned × Panel × State.Files) : Prop where
  unwritten : ¬ Writable server users countryCode outcome panel →
    (∃ message, done.1 = .error message) ∧ done.2.1.links = panel.links
  reported : ∀ result, done.1 = .ok result → ∃ record,
    topOf (recordsForCountry server.site.rt server.catalog.records countryCode) = some record ∧
      HoldsAssignment server.site.rt done.2.2 record.id
        (eligibleAssignmentLinks server.site.rt users panel.links)

/-- The file of an assigned panel holds the assignment. -/
lemma holdsAssignment_of_readCopy {record : Record}
    (h : State.readCopy server.site.rt (.ofContent (files .data)) =
      .ok (State.statePayload server.site.rt server.now
        (assignedPanel server.site.rt users record panel))) :
    HoldsAssignment server.site.rt files record.id
      (eligibleAssignmentLinks server.site.rt users panel.links) := by
  refine ⟨_, _, h, rfl, fun e he => ?_⟩
  have hentry : panel.links.get? e.1 = some e.2 :=
    Dict.mem_entries_iff.mp (List.mem_of_mem_filter he)
  obtain ⟨link, hlink, hproxy⟩ :=
    @foldl_assignLink record.id _ (panel.links, 0, 0) e he (.inl hentry)
  refine ⟨link, ?_, hproxy⟩
  have hlookup := Assoc.lookup_mapVal (fun _ link => Json.obj link)
    (assignedPanel server.site.rt users record panel).links.entries e.1
  exact hlookup.trans (congrArg (Option.map Json.obj) hlink)

/-- An assignment is reported truthfully exactly when it is refused or its state can be written. -/
theorem assignment_truthful_iff (env : Env) (server : Server) (users : Dict String User)
    (adminId : ℤ) (countryCode : String) (outcome : WriteOutcome) (panel : Panel)
    (files : State.Files) :
    Truthful server users countryCode outcome panel (assignAndSave env server users adminId
        countryCode (saveStateFile server false outcome) panel files) ↔
      Refused env server adminId countryCode ∨ Writable server users countryCode outcome panel := by
  by_cases hrefused : Refused env server adminId countryCode
  · obtain ⟨message, hdone⟩ := assignAndSave_refused hrefused users
      (saveStateFile server false outcome) panel files
    rw [hdone]
    refine iff_of_true ⟨fun _ => ⟨⟨message, rfl⟩, rfl⟩, fun result h => ?_⟩ (.inl hrefused)
    cases h
  · obtain ⟨record, result, hrecord, hdone⟩ := assignAndSave_made hrefused
      (saveStateFile_ok server outcome) users panel files
    rw [hdone, or_iff_right hrefused]
    constructor
    · intro htruthful
      by_contra hunwritten
      obtain ⟨⟨message, herror⟩, -⟩ := htruthful.unwritten hunwritten
      cases herror
    · intro hwritable
      refine ⟨fun hunwritten => absurd hwritable hunwritten, fun _ _ => ⟨record, hrecord, ?_⟩⟩
      obtain ⟨record', hrecord', hstorable, hsuccess⟩ := hwritable
      obtain rfl := Option.some.inj (hrecord.symm.trans hrecord')
      exact holdsAssignment_of_readCopy (saveStateFile_written hstorable hsuccess false)

/-! ## A full disk -/

/-- The library with JSON texts and with the addresses of the examples. -/
def savingRuntime : Runtime :=
  { Runtime.sample with sha256 := scanRuntime.sha256, urlsplit := scanRuntime.urlsplit }

/-- A server with one proxy. -/
def savingServer : Server where
  site := .bare savingRuntime
  catalog := .ofRecords [exampleRecord "a" "DE"] (by decide +kernel)
  now := 0
  time := 0

/-- A file system that takes nothing. -/
def fullDisk : WriteOutcome := ⟨false, fun _ => none⟩

/-- The disk is full: the link has the new exit, no file has it, and a success is reported. -/
theorem assignment_untruthful :
    State.storable savingServer
        (assignedPanel savingRuntime exampleUsers (exampleRecord "a" "DE") examplePanel) = true ∧
      ¬ Truthful savingServer exampleUsers "DE" fullDisk examplePanel
        (assignAndSave exampleEnv savingServer exampleUsers 9 "DE"
          (saveStateFile savingServer false fullDisk) examplePanel fun _ => none) := by
  refine ⟨by decide +kernel, fun htruthful => ?_⟩
  have hreported : (assignAndSave exampleEnv savingServer exampleUsers 9 "DE"
      (saveStateFile savingServer false fullDisk) examplePanel fun _ => none).1.toOption.isSome =
      true := by decide +kernel
  obtain ⟨⟨message, herror⟩, -⟩ := htruthful.unwritten fun hwritable => by
    obtain ⟨_, _, _, hsuccess⟩ := hwritable
    cases hsuccess
  rw [herror] at hreported
  cases hreported

end Bot
