import LumenRelay.State.Files

/-!
# Loading the state

A start picks a copy of the state, installs it in memory with the fields of older releases
brought up to date, and writes it back unless it was the state file itself.  A start that finds
files and no copy in them must not go on with an empty panel: the next save would replace them.
-/

namespace State

open Lib Py Routing

/-! ## Links -/

/-- The transport of a stored link: what the registry makes of it, or what was stored. -/
def loadTransport (site : Site) (link : Obj) : Obj :=
  let protocol := strip (((link.get "protocol").or (.str defaultProtocol)).toStr site.rt)
  let settings := link.get "transport_settings"
  match Transports.validate site (.str protocol) settings with
  | .ok (id, fields) => (link.set "protocol" (.str id)).set "transport_settings" (.obj fields)
  | .error _ =>
    (link.set "protocol" (.str protocol)).set "transport_settings"
      (match settings with | .obj fields => .obj fields | _ => .obj [])

/-- `"h2" in str(value)`. -/
def offersH2 (rt : Runtime) (value : Json) : Bool := "h2".toList <:+: (value.toStr rt).toList

/-- The ALPN of a stored link. -/
def loadAlpn (rt : Runtime) (link : Obj) : Obj :=
  if link.get "protocol" = .str "vless-tcp" then link.set "alpn" (.str "")
  else if !(link.get "alpn").truthy || offersH2 rt (link.get "alpn") then
    link.set "alpn" (.str "http/1.1")
  else link

/-- The body of the loop over the links. -/
def loadLink (site : Site) (link : Obj) : Obj :=
  let link := loadTransport site link
  let link := (link.setDefault "address" (.str "")).setDefault "sni" (.str "")
  let link := link.setDefault "remark" ((link.get "label").or (.str "Lumen Relay"))
  let link := (((link.pop "proxyip").pop "proxyip_enabled").pop "proxyip_concurrency").pop "outbound"
  let link := ((link.setDefault "exit_proxy_mode" (.str "direct")).setDefault "proxy_id"
    (.str "")).setDefault "custom_proxy" (.str "")
  loadAlpn site.rt link

/-! ## Groups -/

/-- The proxy of a stored location; an old list of one proxy names it. -/
def loadLocationProxy (rt : Runtime) (location : Obj) : Obj :=
  let legacy := location.getD "proxy_ids" (.arr [])
  let location := location.pop "proxy_ids"
  match legacy with
  | .arr [id] =>
    if (location.get "proxy_id").truthy then location
    else location.set "proxy_id" (.str (id.text rt))
  | _ => location.setDefault "proxy_id" (.str "")

/-- The body of the loop over the locations of a group. -/
def loadLocation (rt : Runtime) (token : Token) (location : Obj) : Obj :=
  let location := (location.setDefault "id" (.str token.text)).set "active" (.bool true)
  let location := loadLocationProxy rt location
  let code := (normalizeCountry rt ((location.get "code").or (location.get "country"))).2
  let country := if code ≠ "" then .str (countryName rt code)
    else (location.get "country").or (.str "Unknown")
  ((location.set "code" (.str code)).set "country" country).set "flag" (.str (flagFor rt code))

/-- The locations of a group; what is not an object is left alone. -/
def loadLocations (rt : Runtime) (tokens : ℕ → Token) (locations : List Json) : List Json :=
  locations.mapIdx fun i location =>
    match location with
    | .obj location => .obj (loadLocation rt (tokens i) location)
    | location => location

/-- A location without a proxy. -/
def lacksProxy : Json → Bool
  | .obj location => !(Obj.get location "proxy_id").truthy
  | _ => false

/-- The configuration of a stored group. -/
def loadConfiguration (rt : Runtime) (tokens : ℕ → Token) (ml : Obj) : Obj :=
  let ml := (ml.setDefault "enabled" (.bool false)).setDefault "remark_text" (.str "")
  let locations := loadLocations rt tokens
    (match ml.get "locations" with | .arr locations => locations | _ => [])
  let ml := ml.set "locations" (.arr locations)
  let stored := storedMode rt ml
  let mode := if stored ∈ ["explicit", "country_preferred"] then stored else "explicit"
  let ml := (ml.set "selection_mode" (.str mode)).setDefault "failover" (.bool false)
  if (ml.get "enabled").truthy ∧
      (locations.length ≠ 2 ∨ (mode = "explicit" ∧ locations.any lacksProxy)) then
    ml.set "migration_required" (.bool true)
  else ml

/-- The body of the loop over the groups. -/
def loadSub (rt : Runtime) (tokens : ℕ → Token) (sub : Obj) : Obj :=
  match sub.get "multi_location" with
  | .obj ml => sub.set "multi_location" (.obj (loadConfiguration rt tokens ml))
  | _ => sub.set "multi_location" defaultMultiLocation

/-! ## The whole state -/

/-- A loop over stored records, each of which must be a dictionary. -/
def loadRecords (load : String → Obj → Obj) : Json → Except PyErr (Dict String Obj)
  | .obj fields =>
    (Dict.ofList fields).entries.foldlM (fun loaded e =>
      match e.2 with
      | .obj record => .ok (loaded.set e.1 (load e.1 record))
      | _ => .error .attributeError) .empty
  | _ => .error .typeError

/-- The stored results of proxy tests. -/
def loadTests (rt : Runtime) : Json → Except PyErr (Dict String Obj)
  | .obj fields =>
    (Dict.ofList fields).entries.foldlM (fun tests e => do
      match ← sanitizeProxyTestResult rt (.str e.1) e.2 with
      | some (proxyId, safe) => return tests.set proxyId safe
      | none => return tests) .empty
  | _ => .ok .empty

/-- The stored preferred proxies. -/
def loadPreferred (rt : Runtime) : Json → Dict String String
  | .obj fields =>
    (Dict.ofList fields).entries.foldl (fun preferred e =>
      let code := (normalizeCountry rt (.str e.1)).2
      let proxyId := strip (e.2.text rt)
      if code ≠ "" ∧ proxyId ≠ "" then preferred.set code proxyId else preferred) .empty
  | _ => .empty

/-- The part of `load_state` that installs a copy; `tokens` are the draws for locations without
an id. -/
def install (site : Site) (tokens : String → ℕ → Token) (panel : Panel) (loaded : Obj) :
    Except PyErr Panel := do
  let links ← loadRecords (fun _ => loadLink site) (loaded.getD "links" (.obj []))
  let tests ← loadTests site.rt (loaded.getD "proxy_test_results" (.obj []))
  let subs ← loadRecords (fun key => loadSub site.rt (tokens key)) (loaded.getD "subs" (.obj []))
  return {
    links := links
    subs := subs
    tests := tests
    preferred := loadPreferred site.rt (loaded.getD "preferred_proxy_by_country" (.obj []))
    passwordHash := loaded.getD "password_hash" panel.passwordHash }

/-- What a start finds. -/
structure Start where
  disk : StateFile → Stored
  /-- The snapshot of the environment, or an empty text. -/
  snapshot : String
  tokens : String → ℕ → Token
  /-- `datetime.now()`. -/
  now : ℤ
  /-- Whether the state file can be written. -/
  writable : Bool

/-- The last part of `load_state`: a state that is not from the state file is written to it. -/
def writeBack (site : Site) (start : Start) (origin : Origin) (panel : Panel) :
    Except PyErr Unit :=
  let text := site.rt.jsonDumps .indented (.obj (statePayload site.rt start.now panel))
  if origin = .file .data ∨ (start.writable = true ∧ text.isSome) then .ok ()
  else .error (.osError "the state file cannot be written")

/-- `load_state`, on what is in memory before it. -/
def loadState (site : Site) (start : Start) (panel : Panel) : Except PyErr Panel := do
  match ← loadedCopy site start.disk start.snapshot with
  | none => return panel
  | some (origin, data) =>
    let panel ← install site start.tokens panel data
    writeBack site start origin panel
    return panel

/-! ## Copies that cannot be read -/

/-- A valid copy of the state: in a file, or in the snapshot. -/
def HasCopy (site : Site) (start : Start) (data : Obj) : Prop :=
  (∃ file ∈ candidates, readCopy site.rt (start.disk file) = .ok data) ∨
    snapshotDecode site (strip start.snapshot) = .ok data

/-- If there is a state file, what a start leaves in memory was installed from a valid copy. -/
def NeverDiscards (site : Site) (start : Start) (panel : Panel) : Prop :=
  existing start.disk ≠ [] → ∀ loaded, loadState site start panel = .ok loaded →
    ∃ data, HasCopy site start data ∧ install site start.tokens panel data = .ok loaded

/-- There are state files, none of them can be read, and there is a snapshot that cannot be
decoded either. -/
def HiddenBySnapshot (site : Site) (start : Start) : Prop :=
  existing start.disk ≠ [] ∧
    (∀ file ∈ candidates, ∀ data, readCopy site.rt (start.disk file) ≠ .ok data) ∧
    strip start.snapshot ≠ "" ∧ ∀ data, snapshotDecode site (strip start.snapshot) ≠ .ok data

lemma mem_existing {disk : StateFile → Stored} {file : StateFile} :
    file ∈ existing disk ↔ file ∈ candidates ∧ disk file ≠ .absent := by
  simp [existing]

/-- The first copy is a copy, and if there is none then no file holds one. -/
lemma firstCopy_spec (rt : Runtime) (disk : StateFile → Stored) (files : List StateFile) :
    (∃ file ∈ files, ∃ data, readCopy rt (disk file) = .ok data ∧
        (firstCopy rt disk files).1 = some (file, data)) ∨
      ((∀ file ∈ files, ∀ data, readCopy rt (disk file) ≠ .ok data) ∧
        (firstCopy rt disk files).1 = none) := by
  induction files with
  | nil => exact .inr ⟨nofun, rfl⟩
  | cons file files ih =>
    rw [firstCopy]
    cases hread : readCopy rt (disk file) with
    | ok data => exact .inl ⟨file, List.mem_cons_self, data, hread, rfl⟩
    | error e =>
      rcases ih with ⟨file', hmem, data, hdata, hfirst⟩ | ⟨hnone, hfirst⟩
      · exact .inl ⟨file', List.mem_cons_of_mem _ hmem, data, hdata, hfirst⟩
      · refine .inr ⟨?_, hfirst⟩
        intro file' hmem data hdata
        rcases List.mem_cons.mp hmem with rfl | hmem
        · cases hread.symm.trans hdata
        · exact hnone file' hmem data hdata

/-- A copy in a candidate is a copy in a file that exists. -/
lemma readCopy_existing {rt : Runtime} {disk : StateFile → Stored}
    (h : ∀ file ∈ existing disk, ∀ data, readCopy rt (disk file) ≠ .ok data) :
    ∀ file ∈ candidates, ∀ data, readCopy rt (disk file) ≠ .ok data := by
  intro file hfile data hread
  refine h file (mem_existing.mpr ⟨hfile, ?_⟩) data hread
  intro habsent
  rw [habsent] at hread
  cases hread

/-- What is picked, by cases: a valid copy; nothing, since there is no file; nothing, although
there are files; or an error. -/
lemma loadedCopy_cases (site : Site) (start : Start) :
    (∃ origin data, HasCopy site start data ∧
        loadedCopy site start.disk start.snapshot = .ok (some (origin, data))) ∨
      (existing start.disk = [] ∧ loadedCopy site start.disk start.snapshot = .ok none) ∨
      (HiddenBySnapshot site start ∧ loadedCopy site start.disk start.snapshot = .ok none) ∨
      (strip start.snapshot = "" ∧
        ∃ e, loadedCopy site start.disk start.snapshot = .error e) := by
  unfold loadedCopy
  rcases firstCopy_spec site.rt start.disk (existing start.disk) with
    ⟨file, hmem, data, hread, hfirst⟩ | ⟨hnone, hfirst⟩
  · left
    refine ⟨.file file, data, .inl ⟨file, (mem_existing.mp hmem).1, hread⟩, ?_⟩
    rcases hcopy : firstCopy site.rt start.disk (existing start.disk) with ⟨copy, errors⟩
    rw [hcopy] at hfirst
    obtain rfl : copy = some (file, data) := hfirst
    rfl
  · rcases hcopy : firstCopy site.rt start.disk (existing start.disk) with ⟨copy, errors⟩
    rw [hcopy] at hfirst
    obtain rfl : copy = none := hfirst
    dsimp only
    by_cases hsnapshot : strip start.snapshot = ""
    · -- without a snapshot, files that cannot be read stop the start
      rw [if_neg (not_not.mpr hsnapshot)]
      by_cases hfiles : existing start.disk = []
      · rw [if_neg (not_not.mpr hfiles)]
        exact .inr (.inl ⟨hfiles, rfl⟩)
      · rw [if_pos hfiles]
        exact .inr (.inr (.inr ⟨hsnapshot, _, rfl⟩))
    · -- with a snapshot, nothing looks at the files again
      rw [if_pos hsnapshot]
      cases hdecode : snapshotDecode site (strip start.snapshot) with
      | ok data => exact .inl ⟨.snapshot, data, .inr hdecode, rfl⟩
      | error e =>
        by_cases hfiles : existing start.disk = []
        · exact .inr (.inl ⟨hfiles, rfl⟩)
        · refine .inr (.inr (.inl ⟨⟨hfiles, readCopy_existing hnone, hsnapshot, ?_⟩, rfl⟩))
          intro data hdata
          cases hdecode.symm.trans hdata

/-- What a start installs when it returns. -/
lemma loadState_some {site : Site} {start : Start} {panel loaded : Panel} {origin : Origin}
    {data : Obj} (hcopy : loadedCopy site start.disk start.snapshot = .ok (some (origin, data)))
    (h : loadState site start panel = .ok loaded) :
    install site start.tokens panel data = .ok loaded := by
  rw [loadState, hcopy, ok_bind] at h
  obtain ⟨installed, hinstall, h⟩ := bind_eq_ok h
  obtain ⟨-, -, h⟩ := bind_eq_ok h
  obtain rfl := Except.ok.inj h
  exact hinstall

lemma loadState_none {site : Site} {start : Start} {panel : Panel}
    (hcopy : loadedCopy site start.disk start.snapshot = .ok none) :
    loadState site start panel = .ok panel := by
  rw [loadState, hcopy]
  rfl

/-- Then a start goes on with what was in memory. -/
lemma not_neverDiscards {site : Site} {start : Start} (h : HiddenBySnapshot site start)
    (panel : Panel) : ¬ NeverDiscards site start panel := by
  obtain ⟨hfiles, hnone, hsnapshot, hdecode⟩ := h
  have hno : ∀ data, ¬ HasCopy site start data := by
    rintro data (⟨file, hfile, hread⟩ | hread)
    · exact hnone file hfile data hread
    · exact hdecode data hread
  have hloaded : loadState site start panel = .ok panel := by
    rcases loadedCopy_cases site start with ⟨_, data, hcopy, -⟩ | ⟨hempty, -⟩ | ⟨-, hcopy⟩ |
      ⟨hempty, -⟩
    · exact absurd hcopy (hno data)
    · exact absurd hempty hfiles
    · exact loadState_none hcopy
    · exact absurd hempty hsnapshot
  intro hproperty
  obtain ⟨data, hcopy, -⟩ := hproperty hfiles panel hloaded
  exact hno data hcopy

/-- A start with state files leaves in memory what a valid copy gives, or raises, unless no
file can be read and there is a snapshot that cannot be decoded: then it goes on with what was
in memory. -/
theorem load_never_discards (site : Site) (start : Start) (panel : Panel) :
    NeverDiscards site start panel ↔ ¬ HiddenBySnapshot site start := by
  constructor
  · intro hproperty hhidden
    exact not_neverDiscards hhidden panel hproperty
  · intro hcondition hfiles loaded hloaded
    rcases loadedCopy_cases site start with ⟨origin, data, hcopy, hpicked⟩ | ⟨hempty, -⟩ |
      ⟨hhidden, -⟩ | ⟨-, e, he⟩
    · exact ⟨data, hcopy, loadState_some hpicked hloaded⟩
    · exact absurd hempty hfiles
    · exact absurd hhidden hcondition
    · rw [loadState, he] at hloaded
      cases hloaded

/-- The panel before anything is loaded. -/
def freshPanel : Panel := ⟨.empty, .empty, .empty, .empty, .null⟩

/-- A state file that was cut after its first byte, and a text that is no snapshot. -/
def brokenStart : Start where
  disk := fun file => if file = .data then .holds [123] else .absent
  snapshot := "garbage"
  tokens := fun _ _ => ⟨"token", token_ne_empty, token_urlSafe⟩
  now := 0
  writable := true

/-- The start goes on with an empty panel although there is a state file. -/
theorem state_discarded : ¬ NeverDiscards (.bare .ascii) brokenStart freshPanel := by
  refine not_neverDiscards ⟨by decide, ?_, by decide, ?_⟩ freshPanel
  · intro file hfile data hread
    by_cases hdata : file = .data
    · subst hdata
      have hloads : (Site.bare .ascii).rt.decodeUtf8 [123] >>= (Site.bare .ascii).rt.jsonLoads =
          none := by
        change (decodeBytes [123]).bind (fun _ => none) = none
        cases decodeBytes [123] <;> rfl
      rw [show brokenStart.disk .data = .holds [123] from rfl, readCopy, hloads] at hread
      cases hread
    · have habsent : brokenStart.disk file = .absent := if_neg hdata
      rw [habsent] at hread
      cases hread
  · intro data hdecode
    cases hdecode

end State
