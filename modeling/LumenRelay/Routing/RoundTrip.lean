import LumenRelay.Routing.FailClosed
import LumenRelay.Routing.Uris

/-!
# An entry leads back to its location

The id of a location is written into the URI of its entry and read back by the relay.  Nothing
on the way changes it but `_safe_location_id`, which drops characters; over Raw TCP the id goes
through the map of server names, and comes back when the name is its own normal form.
-/

namespace Routing

open Lib Py

variable {rt : Runtime} {site : Site}

/-! ## The map of server names -/

/-- The locations of a map of server names are in their safe form. -/
def SafeNames (rt : Runtime) (names : Dict String String) : Prop :=
  ∀ name location, names.get? name = some location → safeLocationId rt (.str location) = location

lemma safeNames_addSniEntry {names names' : Dict String String} {entry : String × Json}
    (hsafe : SafeNames rt names) (h : addSniEntry rt names entry = some names') :
    SafeNames rt names' := by
  unfold addSniEntry at h
  split at h
  · cases h
  dsimp only at h
  split_ifs at h
  obtain rfl := Option.some.inj h
  intro name location hget
  rw [Dict.get?_set] at hget
  split_ifs at hget with hname
  · obtain rfl := Option.some.inj hget
    exact safeLocationId_idem _
  · exact hsafe name location hget

/-- What one entry keeps, the whole map keeps. -/
lemma foldlM_addSniEntry {I : Dict String String → Prop}
    (hstep : ∀ names entry names', I names → addSniEntry rt names entry = some names' → I names')
    {entries : List (String × Json)} {names names' : Dict String String} (hI : I names)
    (h : entries.foldlM (addSniEntry rt) names = some names') : I names' := by
  induction entries generalizing names with
  | nil =>
    obtain rfl := Option.some.inj h
    exact hI
  | cons entry entries ih =>
    rw [List.foldlM_cons] at h
    obtain ⟨next, hnext, h⟩ := Option.bind_eq_some_iff.mp h
    exact ih (hstep names entry next hI hnext) h

lemma safeNames_parseSniMap {rawMap defaultName : String} {parsed : Dict String String × String}
    (h : parseSniMap rt rawMap defaultName = some parsed) : SafeNames rt parsed.1 := by
  unfold parseSniMap at h
  split at h
  · obtain ⟨names, hnames, h⟩ := Option.bind_eq_some_iff.mp h
    obtain ⟨defaultSni, -, h⟩ := Option.bind_eq_some_iff.mp h
    split_ifs at h
    obtain rfl := Option.some.inj h
    refine foldlM_addSniEntry (fun _ _ _ => safeNames_addSniEntry) ?_ hnames
    intro name location hget
    simp at hget
  · cases h

/-- A server name is right for a location when it is its own normal form. -/
def StableNames (rt : Runtime) (names : Dict String String) (id : String) : Prop :=
  ∀ name, names.get? name = some id → normalizeSni rt (.str name) = .ok name

lemma locationForSni_eq_some {d : RawTCPDeployment} {names : Dict String String}
    (hnames : d.sniLocations = some names) {name id : String} :
    d.locationForSni rt name = some id ↔
      ∃ normal, normalizeSni rt (.str name) = .ok normal ∧ names.get? normal = some id := by
  unfold RawTCPDeployment.locationForSni
  rw [hnames]
  dsimp only
  cases normalizeSni rt (.str name) with
  | ok normal => simp
  | error e => simp

/-- The only server name of a location. -/
lemma endpointForLocation_spec {d : RawTCPDeployment} {names : Dict String String}
    (hnames : d.sniLocations = some names) {loc : Json} {endpoint : String × ℤ × String}
    (h : d.endpointForLocation rt loc = .ok endpoint) (hne : safeLocationId rt loc ≠ "")
    (name : String) :
    names.get? name = some (safeLocationId rt loc) ↔ name = endpoint.2.2 := by
  unfold RawTCPDeployment.endpointForLocation at h
  dsimp only at h
  rw [hnames] at h
  dsimp only at h
  split_ifs at h
  generalize hfilter : names.entries.filter (fun e => e.2 = safeLocationId rt loc) = found at h
  have hmem : names.get? name = some (safeLocationId rt loc) ↔
      (name, safeLocationId rt loc) ∈ found := by
    rw [← hfilter, List.mem_filter, Dict.mem_entries_iff]
    simp
  rw [hmem]
  match found, h with
  | [(only, location)], h =>
    obtain rfl := Except.ok.inj h
    have hlocation : location = safeLocationId rt loc := by
      have hhead : (only, location) ∈ names.entries.filter fun e => e.2 = safeLocationId rt loc := by
        simp [hfilter]
      simpa using (List.mem_filter.mp hhead).2
    simp [hlocation]

/-- Over Raw TCP an id comes back exactly when it is safe and its server name is stable. -/
lemma locationForSni_endpoint {d : RawTCPDeployment} {names : Dict String String}
    (hnames : d.sniLocations = some names) (hsafe : SafeNames rt names) {id : String}
    {endpoint : String × ℤ × String} (hne : id ≠ "")
    (h : d.endpointForLocation rt (.str id) = .ok endpoint) :
    d.locationForSni rt endpoint.2.2 = some id ↔
      safeLocationId rt (.str id) = id ∧ StableNames rt names id := by
  rw [locationForSni_eq_some hnames]
  constructor
  · rintro ⟨normal, hnormal, hget⟩
    have hid := hsafe normal id hget
    have honly := endpointForLocation_spec hnames h (by rwa [hid])
    rw [hid] at honly
    refine ⟨hid, fun name hname => ?_⟩
    rw [(honly name).mp hname]
    rw [(honly normal).mp hget] at hnormal
    exact hnormal
  · rintro ⟨hid, hstable⟩
    have honly := endpointForLocation_spec hnames h (by rwa [hid])
    rw [hid] at honly
    have hget := (honly endpoint.2.2).mpr rfl
    exact ⟨endpoint.2.2, hstable _ hget, hget⟩

/-! ## What a validated configuration holds -/

lemma locationId_ne_empty (rt : Runtime) (entry : Obj) (token : Token) :
    locationId rt entry token ≠ "" := by
  unfold locationId
  dsimp only
  split
  · assumption
  · exact token.ne_empty

/-- The proxy of a location is in the catalog, in the location's country, and the preferred one
there if the configuration asks for that. -/
def Available (server : Server) (panel : Panel) (mode code proxyId : String) : Prop :=
  (∃ record, server.catalog.getRecord proxyId = some record ∧ record.code = code) ∧
    (mode = "country_preferred" → ∃ preferred,
      currentPreferredProxyByCountry server panel = .ok preferred ∧
        preferred.get? code = some proxyId)

lemma locationProxy_spec {server : Server} {panel : Panel} {mode code proxyId : String}
    {entry : Obj} (h : locationProxy server panel mode code entry = .ok proxyId) :
    Available server panel mode code proxyId := by
  unfold locationProxy at h
  dsimp only at h
  split at h
  · obtain ⟨preferred, hpreferred, h⟩ := bind_eq_ok h
    generalize hfound : (preferred.get? code).getD "" = found at h
    cases hrecord : server.catalog.getRecord found with
    | none =>
      rw [hrecord] at h
      exact absurd h (throw_ne_ok _ _)
    | some record =>
      rw [hrecord] at h
      dsimp only at h
      split at h
      · rename_i hcode
        obtain rfl := Except.ok.inj h
        refine ⟨⟨record, hrecord, hcode⟩, fun _ => ⟨preferred, hpreferred, ?_⟩⟩
        cases hget : preferred.get? code with
        | none =>
          rw [hget] at hfound
          exact absurd hfound.symm (server.catalog.ne_empty found record hrecord)
        | some id =>
          rw [hget] at hfound
          exact congrArg some hfound
      · exact absurd h (throw_ne_ok _ _)
  · rename_i hmode
    generalize strip ((entry.get "proxy_id").text server.site.rt) = named at h
    cases hrecord : server.catalog.getRecord named with
    | none =>
      rw [hrecord] at h
      exact absurd h (throw_ne_ok _ _)
    | some record =>
      rw [hrecord] at h
      dsimp only at h
      split at h
      · rename_i hcode
        obtain rfl := Except.ok.inj h
        exact ⟨⟨record, hrecord, hcode⟩, fun hpreferred => absurd hpreferred hmode⟩
      · exact absurd h (throw_ne_ok _ _)

/-- The first entry of a request is accepted with a new id and its proxy. -/
lemma validateLocations_cons {server : Server} {panel : Panel} {tokens : ℕ → Token} {mode : String}
    {byId : Dict String Obj} {requireTests : Bool} {item : Json} {raw : List Json}
    {done locations : List (String × String × String)}
    (h : validateLocations server panel tokens mode byId requireTests (item :: raw) done =
      .ok locations) :
    ∃ entry proxyId, item = .obj entry ∧
      let code :=
        (normalizeCountry server.site.rt ((Obj.get entry "code").or (Obj.get entry "country"))).2
      let id := locationId server.site.rt entry (tokens done.length)
      locationProxy server panel mode code entry = .ok proxyId ∧ id ∉ done.map Prod.fst ∧
        validateLocations server panel tokens mode byId requireTests raw
          (done ++ [(id, code, proxyId)]) = .ok locations := by
  cases item with
  | obj entry =>
    rw [validateLocations] at h
    dsimp only at h
    split at h
    · cases h
    split at h
    · cases h
    split at h
    · cases h
    rename_i hfresh
    obtain ⟨proxyId, hproxy, h⟩ := bind_eq_ok h
    refine ⟨entry, proxyId, rfl, hproxy, hfresh, ?_⟩
    split at h
    · obtain ⟨_, -, h⟩ := bind_eq_ok h
      exact h
    · exact h
  | _ => cases h

/-- What holds of each location that an entry of the request gives holds of all that are
accepted. -/
lemma validateLocations_each {server : Server} {panel : Panel} {tokens : ℕ → Token} {mode : String}
    {byId : Dict String Obj} {requireTests : Bool} {P : String × String × String → Prop}
    {raw : List Json} {done locations : List (String × String × String)}
    (h : validateLocations server panel tokens mode byId requireTests raw done = .ok locations)
    (hentry : ∀ entry token code proxyId, .obj entry ∈ raw →
      code =
        (normalizeCountry server.site.rt ((Obj.get entry "code").or (Obj.get entry "country"))).2 →
      locationProxy server panel mode code entry = .ok proxyId →
        P (locationId server.site.rt entry token, code, proxyId))
    (hdone : ∀ l ∈ done, P l) : ∀ l ∈ locations, P l := by
  induction raw generalizing done with
  | nil =>
    cases h
    exact hdone
  | cons item raw ih =>
    obtain ⟨entry, proxyId, rfl, hproxy, -, hrest⟩ := validateLocations_cons h
    refine ih hrest ?_ ?_
    · intro entry token code proxyId hmem
      exact hentry entry token code proxyId (List.mem_cons_of_mem _ hmem)
    · intro l hl
      rcases List.mem_append.mp hl with hl | hl
      · exact hdone l hl
      · obtain rfl := List.mem_singleton.mp hl
        exact hentry entry _ _ proxyId List.mem_cons_self rfl hproxy

/-- Each entry gives a location, with an id of its own. -/
lemma validateLocations_ids {server : Server} {panel : Panel} {tokens : ℕ → Token}
    {mode : String} {byId : Dict String Obj} {requireTests : Bool} {raw : List Json}
    {done locations : List (String × String × String)}
    (h : validateLocations server panel tokens mode byId requireTests raw done = .ok locations)
    (hnodup : (done.map Prod.fst).Nodup) :
    (locations.map Prod.fst).Nodup ∧ locations.length = done.length + raw.length := by
  induction raw generalizing done with
  | nil =>
    cases h
    exact ⟨hnodup, rfl⟩
  | cons item raw ih =>
    obtain ⟨entry, proxyId, rfl, -, hfresh, hrest⟩ := validateLocations_cons h
    generalize locationId server.site.rt entry (tokens done.length) = id at hfresh hrest
    have hnodup' : ∀ rest, ((done ++ [(id, rest)]).map Prod.fst).Nodup := by
      intro rest
      rw [List.map_append, List.nodup_append]
      refine ⟨hnodup, by simp, ?_⟩
      intro a ha b hb
      simp only [List.map_cons, List.map_nil, List.mem_singleton] at hb
      subst hb
      rintro rfl
      exact hfresh ha
    obtain ⟨hlocations, hlength⟩ := ih hrest (hnodup' _)
    refine ⟨hlocations, ?_⟩
    simp only [List.length_append, List.length_cons, List.length_nil] at hlength ⊢
    omega

lemma validateLocations_spec {server : Server} {panel : Panel} {tokens : ℕ → Token}
    {mode : String} {byId : Dict String Obj} {requireTests : Bool} {raw : List Json}
    {locations : List (String × String × String)}
    (h : validateLocations server panel tokens mode byId requireTests raw [] = .ok locations) :
    (locations.map Prod.fst).Nodup ∧ (∀ l ∈ locations, l.1 ≠ "") ∧
      (∀ l ∈ locations, Available server panel mode l.2.1 l.2.2) ∧
      locations.length = raw.length := by
  obtain ⟨hnodup, hlength⟩ := validateLocations_ids h List.nodup_nil
  have heach : ∀ l ∈ locations, l.1 ≠ "" ∧ Available server panel mode l.2.1 l.2.2 := by
    refine validateLocations_each h ?_ (fun _ hl => absurd hl List.not_mem_nil)
    intro entry token code proxyId _ _ hproxy
    have hid := locationId_ne_empty server.site.rt entry token
    generalize locationId server.site.rt entry token = id at hid ⊢
    exact ⟨hid, locationProxy_spec hproxy⟩
  rw [List.length_nil, Nat.zero_add] at hlength
  exact ⟨hnodup, fun l hl => (heach l hl).1, fun l hl => (heach l hl).2, hlength⟩

lemma selectionMode_spec {payload : Obj} {previous : Json} {mode : String}
    (h : selectionMode rt payload previous = .ok mode) :
    mode = "explicit" ∨ mode = "country_preferred" := by
  unfold selectionMode at h
  obtain ⟨named, -, h⟩ := bind_eq_ok h
  dsimp only at h
  split at h
  · exact absurd h (throw_ne_ok _ _)
  · rename_i hmode
    obtain rfl := Except.ok.inj h
    simpa only [List.mem_cons, List.not_mem_nil, or_false, not_not] using hmode

/-- What an accepted configuration holds: locations with different ids, each with a proxy that
was there, and two of them if it is enabled. -/
structure Accepted (server : Server) (panel : Panel) (enabled : Bool) (mode : String)
    (locations : List (String × String × String)) : Prop where
  known : mode = "explicit" ∨ mode = "country_preferred"
  nodup : (locations.map Prod.fst).Nodup
  ne_empty : ∀ l ∈ locations, l.1 ≠ ""
  available : ∀ l ∈ locations, Available server panel mode l.2.1 l.2.2
  two : enabled = true → locations.length = 2

lemma validateMultiLocation_spec {server : Server} {panel : Panel} {tokens : ℕ → Token}
    {payload previous : Json} {requireTests : Bool} {ml : Obj}
    (h : validateMultiLocation server panel tokens payload previous requireTests = .ok ml) :
    ∃ enabled remarkText mode locations,
      ml = multiLocationObj server.site.rt enabled remarkText mode locations ∧
        Accepted server panel enabled mode locations := by
  cases payload with
  | obj payload =>
    obtain ⟨mode, hmode, h⟩ := bind_eq_ok h
    obtain ⟨raw, hraw, h⟩ := bind_eq_ok h
    obtain ⟨byId, -, h⟩ := bind_eq_ok h
    obtain ⟨locations, hlocations, h⟩ := bind_eq_ok h
    cases h
    obtain ⟨hnodup, hne, havailable, hlength⟩ :=
      validateLocations_spec hlocations
    refine ⟨_, _, _, _, rfl, selectionMode_spec hmode, hnodup, hne, havailable, ?_⟩
    intro henabled
    have htwo : raw.length = 2 := by
      unfold rawLocations at hraw
      split at hraw
      · split at hraw
        · cases hraw
        · rename_i hlen
          split at hraw
          · cases hraw
          · cases hraw
            by_contra hbad
            exact hlen ⟨henabled, hbad⟩
      · cases hraw
    rw [hlength, htwo]
  | _ => cases h

/-! ## Which location is picked -/

lemma findLocation_map (id : String) (locations : List (String × String × String)) :
    findLocation id (locations.map fun l => .obj (locationObj rt l.1 l.2.1 l.2.2)) =
      .ok ((locations.find? fun l => l.1 = id).map fun l => locationObj rt l.1 l.2.1 l.2.2) := by
  induction locations with
  | nil => rfl
  | cons l locations ih =>
    have hid : Obj.get (locationObj rt l.1 l.2.1 l.2.2) "id" = .str l.1 := rfl
    have hactive : (Obj.getD (locationObj rt l.1 l.2.1 l.2.2) "active" (.bool true)).truthy = true :=
      rfl
    rw [List.map_cons, findLocation, hid, hactive, List.find?_cons]
    by_cases h : l.1 = id
    · simp [h]
    · simp [h, ih]

/-- Of two locations of an enabled configuration, the one is picked whose id arrives. -/
lemma requestedLocation_iff {server : Server} {panel : Panel} {mode : String}
    {locations : List (String × String × String)}
    (haccepted : Accepted server panel true mode locations) {l : String × String × String}
    (hl : l ∈ locations) (remarkText id : String) :
    requestedLocation (multiLocationObj server.site.rt true remarkText mode locations) id =
        .ok (locationObj server.site.rt l.1 l.2.1 l.2.2) ↔ strip id = l.1 := by
  constructor
  · intro h
    obtain ⟨-, hid, -⟩ := requestedLocation_spec h
    have hget : Obj.get (locationObj server.site.rt l.1 l.2.1 l.2.2) "id" = .str l.1 := rfl
    rw [hget] at hid
    exact (Json.str.inj hid).symm
  · intro hid
    have hlocations : Obj.get (multiLocationObj server.site.rt true remarkText mode locations) "locations" =
        .arr (locations.map fun l => .obj (locationObj server.site.rt l.1 l.2.1 l.2.2)) := rfl
    have hfind : locations.find? (fun l' => l'.1 = strip id) = some l := by
      cases hfound : locations.find? (fun l' => l'.1 = strip id) with
      | none => exact absurd hid.symm (by simpa using List.find?_eq_none.mp hfound l hl)
      | some l' =>
        have hkey : l'.1 = l.1 := by
          rw [← hid]
          simpa using List.find?_some hfound
        exact congrArg some
          (List.inj_on_of_nodup_map haccepted.nodup (List.mem_of_find?_eq_some hfound) hl hkey)
    have hnonempty : strip id ≠ "" := by
      rw [hid]
      exact haccepted.ne_empty l hl
    have hmigrated : (Obj.get (multiLocationObj server.site.rt true remarkText mode locations)
        "migration_required").truthy = false := rfl
    have hor : ∀ items : List Json, (Json.arr items).or (.arr []) = .arr items := by
      intro items
      cases items <;> rfl
    have hlen : (Json.arr (locations.map fun l => .obj (locationObj server.site.rt l.1 l.2.1 l.2.2))).len =
        .ok 2 := by
      simp [Json.len, haccepted.two rfl]
    unfold requestedLocation
    dsimp only
    rw [hmigrated, if_neg (by simp), hlocations, hor, hlen, ok_bind, if_neg (by simp),
      if_neg hnonempty, Json.iterate, ok_bind, findLocation_map, hfind]
    rfl

/-! ## A session of an entry -/

/-- What was picked is a proxy of a location. -/
def PickedFor (server : Server) (location : Obj) (selection : Option Selection) : Prop :=
  ∃ record, IsExitOf server.catalog record.endpoint record ∧
    location.get "code" = .str record.code ∧
    ∃ id, location.get "id" = .str id ∧
      selection = some ⟨record.id, record.endpoint, some id⟩

/-- The session that an entry opens is a session of its own location: whatever has become of
the catalog since, only a proxy of that location is picked, and by the catalog at the time one
is. -/
def RoutesBack (server : Server) (panel : Panel) (link ml location : Obj) (uri : String) : Prop :=
  ∃ id, arrivingLocation server.site uri = some id ∧
    requestedLocation ml id = .ok location ∧
    (∃ selection, resolveExitSelection server panel link id = .ok selection) ∧
    ∀ server' panel' sub selection,
      multiLocationForLink panel'.subs link = .ok (sub, some ml) →
      resolveExitSelection server' panel' link id = .ok selection →
      PickedFor server' location selection

/-- The id of a location is in its safe form, and for Raw TCP its server name is in its normal
form. -/
def Intact (site : Site) (link location : Obj) : Prop :=
  ∃ id, location.get "id" = .str id ∧ safeLocationId site.rt (.str id) = id ∧
    (isRawTcp site link → ∀ names, (deployment site).sniLocations = some names →
      StableNames site.rt names id)

lemma resolveExitSelection_group {server : Server} {panel : Panel} {link ml : Obj}
    {sub : Option Obj} (hgroup : multiLocationForLink panel.subs link = .ok (sub, some ml))
    (id : String) : resolveExitSelection server panel link id =
      (resolveLocation server panel ml id).map some := by
  unfold resolveExitSelection
  rw [hgroup, ok_bind]
  dsimp only
  cases resolveLocation server panel ml id <;> rfl

lemma pickedFor_of_resolve {server : Server} {panel : Panel} {link ml location : Obj}
    {sub : Option Obj} {id : String} {selection : Option Selection}
    (hgroup : multiLocationForLink panel.subs link = .ok (sub, some ml))
    (hrequested : requestedLocation ml id = .ok location)
    (h : resolveExitSelection server panel link id = .ok selection) :
    PickedFor server location selection := by
  rw [resolveExitSelection_group hgroup] at h
  cases hpicked : resolveLocation server panel ml id with
  | error e =>
    rw [hpicked] at h
    cases h
  | ok picked =>
  rw [hpicked] at h
  obtain rfl := Except.ok.inj h
  obtain ⟨location', record, hlocation, -, hexit, hcode, rfl⟩ := resolveLocation_cases hpicked
  obtain rfl := Except.ok.inj (hrequested.symm.trans hlocation)
  obtain ⟨-, hid, -⟩ := requestedLocation_spec hrequested
  exact ⟨record, hexit, hcode, strip id, hid, rfl⟩

/-- By the catalog that a configuration was accepted with, its locations have a proxy. -/
lemma resolve_of_requested {server : Server} {panel : Panel} {subs : Dict String Obj}
    {link : Obj} {sub : Option Obj} {remarkText mode : String}
    {locations : List (String × String × String)}
    (haccepted : Accepted server panel true mode locations) {l : String × String × String}
    (hl : l ∈ locations) {id : String}
    (hgroup : multiLocationForLink subs link =
      .ok (sub, some (multiLocationObj server.site.rt true remarkText mode locations)))
    (hrequested : requestedLocation (multiLocationObj server.site.rt true remarkText mode locations)
      id = .ok (locationObj server.site.rt l.1 l.2.1 l.2.2)) :
    ∃ selection, resolveExitSelection server { panel with subs := subs } link id =
      .ok selection := by
  obtain ⟨⟨record, hrecord, hcode⟩, hpreferred⟩ := haccepted.available l hl
  have hproxy : locationProxyId server { panel with subs := subs }
      (multiLocationObj server.site.rt true remarkText mode locations)
      (locationObj server.site.rt l.1 l.2.1 l.2.2) = .ok l.2.2 := by
    have hmode : storedMode server.site.rt
        (multiLocationObj server.site.rt true remarkText mode locations) = mode := by
      rcases haccepted.known with rfl | rfl <;> rfl
    have hcodeOf : Obj.get (locationObj server.site.rt l.1 l.2.1 l.2.2) "code" = .str l.2.1 := rfl
    have hproxyOf : Obj.get (locationObj server.site.rt l.1 l.2.1 l.2.2) "proxy_id" =
      .str l.2.2 := rfl
    unfold locationProxyId
    dsimp only
    rw [hmode, hcodeOf, hproxyOf, Json.text_str]
    split
    · rename_i hcountry
      obtain ⟨preferred, hcurrent, hget⟩ := hpreferred hcountry
      have hne := server.catalog.ne_empty l.2.2 record hrecord
      have hcurrent' : currentPreferredProxyByCountry server { panel with subs := subs } =
        .ok preferred := hcurrent
      rw [hcurrent', ok_bind, lookupKey_str, ok_bind, hget]
      exact if_neg hne
    · rfl
  refine ⟨some ⟨record.id, record.endpoint, some (strip id)⟩, ?_⟩
  have hlocation : resolveLocation server { panel with subs := subs }
      (multiLocationObj server.site.rt true remarkText mode locations) id =
      .ok ⟨record.id, record.endpoint, some (strip id)⟩ := by
    have hcodeOf : Obj.get (locationObj server.site.rt l.1 l.2.1 l.2.2) "code" = .str l.2.1 := rfl
    unfold resolveLocation
    rw [hrequested, ok_bind, hproxy, ok_bind, hrecord]
    dsimp only
    rw [hcodeOf, hcode, if_neg (by simp)]
    rfl
  rw [resolveExitSelection_group hgroup, hlocation]
  rfl

/-- An entry leads back to its location exactly when the location's own id arrives. -/
lemma routesBack_iff {server : Server} {panel : Panel} {subs : Dict String Obj} {link : Obj}
    {sub : Option Obj} {remarkText mode : String} {locations : List (String × String × String)}
    (haccepted : Accepted server panel true mode locations) {l : String × String × String}
    (hl : l ∈ locations) (uri : String)
    (hgroup : multiLocationForLink subs link =
      .ok (sub, some (multiLocationObj server.site.rt true remarkText mode locations))) :
    RoutesBack server { panel with subs := subs } link
        (multiLocationObj server.site.rt true remarkText mode locations)
        (locationObj server.site.rt l.1 l.2.1 l.2.2) uri ↔
      ∃ id, arrivingLocation server.site uri = some id ∧ strip id = l.1 := by
  constructor
  · rintro ⟨id, harrives, hrequested, -⟩
    exact ⟨id, harrives, (requestedLocation_iff haccepted hl _ id).mp hrequested⟩
  · rintro ⟨id, harrives, hid⟩
    have hrequested := (requestedLocation_iff haccepted hl remarkText id).mpr hid
    refine ⟨id, harrives, hrequested, resolve_of_requested haccepted hl hgroup hrequested, ?_⟩
    intro server' panel' sub' selection hgroup' hresolve
    exact pickedFor_of_resolve hgroup' hrequested hresolve

/-! ## All entries of a link -/

lemma activeLocations_map (locations : List (String × String × String)) :
    activeLocations (locations.map fun l => .obj (locationObj rt l.1 l.2.1 l.2.2)) =
      .ok (locations.map fun l => locationObj rt l.1 l.2.1 l.2.2) := by
  induction locations with
  | nil => rfl
  | cons l locations ih =>
    have hactive : Json.attrGet "active" (.obj (locationObj rt l.1 l.2.1 l.2.2)) =
      .ok (.bool true) := rfl
    rw [List.map_cons, activeLocations, hactive, ok_bind, ih, ok_bind]
    rfl

/-- A link in a group with locations has an entry for each of them. -/
lemma vlessEntriesForLink_spec {subs : Dict String Obj} {link : Obj} {sub : Option Obj}
    {uid host remarkText mode : String} {locations : List (String × String × String)}
    {entries : List Entry} (hne : locations ≠ [])
    (hgroup : multiLocationForLink subs link =
      .ok (sub, some (multiLocationObj rt true remarkText mode locations)))
    (h : vlessEntriesForLink site subs link uid host = .ok entries) :
    List.Forall₂ (fun l entry => ∃ remark, generateVlessLink site uid host (.str remark)
      (linkFields link) (.str l.1) = .ok entry.vlessLink) locations entries := by
  have hlocations : Obj.getD (multiLocationObj rt true remarkText mode locations) "locations"
      (.arr []) = .arr (locations.map fun l => .obj (locationObj rt l.1 l.2.1 l.2.2)) := rfl
  unfold vlessEntriesForLink at h
  rw [hgroup, ok_bind] at h
  dsimp only at h
  rw [hlocations, Json.iterate, ok_bind, activeLocations_map, ok_bind, if_pos (by simpa using hne),
    ] at h
  have hentries := forall₂_of_mapM h
  rw [List.forall₂_map_left_iff] at hentries
  refine hentries.imp fun l entry hentry => ?_
  obtain ⟨uri, huri, hentry⟩ := bind_eq_ok hentry
  obtain rfl := Except.ok.inj hentry
  exact ⟨_, huri⟩

/-- The configuration of a link is enabled. -/
lemma enabled_of_multiLocationForLink {subs : Dict String Obj} {link ml : Obj} {sub : Option Obj}
    (h : multiLocationForLink subs link = .ok (sub, some ml)) :
    (ml.get "enabled").truthy = true := by
  unfold multiLocationForLink at h
  split at h
  · cases h
  · cases h
  · rename_i group _
    split at h
    · cases h
    · obtain ⟨-, hml⟩ := Prod.mk.inj (Except.ok.inj h)
      unfold enabledMultiLocation at hml
      split at hml
      · split at hml
        · rename_i henabled
          obtain rfl := Option.some.inj hml
          exact henabled
        · cases hml
      · cases hml

/-- The text of a UUID. -/
def IsUuidText (uid : String) : Prop := ∀ c ∈ uid.toList, c.isAlphanum = true ∨ c = '-'

lemma IsUuidText.markless {uid : String} (h : IsUuidText uid) : Markless uid.toList :=
  markless_of_forall h (by decide) (by decide)

/-- The id of a location arrives exactly when it is intact. -/
lemma arrives_iff_intact {link : Obj} {uid host uri : String} {remark : Json}
    {l : String × String × String} (huid : IsUuidText uid) (hne : l.1 ≠ "")
    (h : generateVlessLink site uid host remark (linkFields link) (.str l.1) = .ok uri) :
    (∃ id, arrivingLocation site uri = some id ∧ strip id = l.1) ↔
      Intact site link (locationObj site.rt l.1 l.2.1 l.2.2) := by
  have hget : Obj.get (locationObj site.rt l.1 l.2.1 l.2.2) "id" = .str l.1 := rfl
  by_cases hraw : isRawTcp site link
  · obtain ⟨publicHost, publicPort, name, hendpoint, hready, harrives⟩ :=
      arrivingLocation_rawTcp huid.markless hraw h
    obtain ⟨names, hnames, hparsed⟩ := (deployment_sound site hready).names
    have hsafe : SafeNames site.rt names := safeNames_parseSniMap hparsed
    have hback := locationForSni_endpoint hnames hsafe hne hendpoint
    rw [harrives]
    constructor
    · rintro ⟨id, hid, hstrip⟩
      -- what arrives is in its safe form, so there is nothing to strip
      obtain ⟨normal, -, hmapped⟩ := (locationForSni_eq_some hnames).mp hid
      have hstable : strip id = id := by
        rw [← hsafe normal id hmapped]
        exact strip_safeLocationId _
      have hsame : id = l.1 := hstable.symm.trans hstrip
      rw [← hsame] at hback
      obtain ⟨hsafeId, hnormal⟩ := hback.mp hid
      refine ⟨id, hget.trans (congrArg Json.str hsame.symm), hsafeId, fun _ names' hnames' => ?_⟩
      obtain rfl := Option.some.inj (hnames.symm.trans hnames')
      exact hnormal
    · rintro ⟨id, hid, hsafeId, hnormal⟩
      obtain rfl := Json.str.inj (hget.symm.trans hid)
      refine ⟨l.1, hback.mpr ⟨hsafeId, hnormal hraw names hnames⟩, ?_⟩
      rw [← hsafeId]
      exact strip_safeLocationId _
  · rw [arrivingLocation_webSocket huid.markless hraw h]
    constructor
    · rintro ⟨id, hid, hstrip⟩
      obtain rfl := Option.some.inj hid
      rw [strip_safeLocationId] at hstrip
      exact ⟨l.1, hget, hstrip, fun hraw' => absurd hraw' hraw⟩
    · rintro ⟨id, hid, hsafeId, -⟩
      obtain rfl := Json.str.inj (hget.symm.trans hid)
      refine ⟨_, rfl, ?_⟩
      rw [strip_safeLocationId]
      exact hsafeId

/-- Every entry of a link in a group with locations leads back to its own location exactly when
the id of the location is intact; when all are, no two entries lead to one location. -/
theorem entries_route_back (server : Server) (panel : Panel) (tokens : ℕ → Token)
    (payload previous : Json) (requireTests : Bool) (ml : Obj) (subs : Dict String Obj)
    (link : Obj) (sub : Option Obj) (uid host : String) (entries : List Entry)
    (hvalid : validateMultiLocation server panel tokens payload previous requireTests = .ok ml)
    (hgroup : multiLocationForLink subs link = .ok (sub, some ml))
    (huid : IsUuidText uid)
    (hentries : vlessEntriesForLink server.site subs link uid host = .ok entries) :
    ∃ locations : List Obj, ml.get "locations" = .arr (locations.map .obj) ∧
      entries.length = locations.length ∧
      (∀ e ∈ locations.zip entries,
        RoutesBack server { panel with subs := subs } link ml e.1 e.2.vlessLink ↔
          Intact server.site link e.1) ∧
      ((∀ location ∈ locations, Intact server.site link location) →
        (entries.map fun entry => arrivingLocation server.site entry.vlessLink).Nodup) := by
  obtain ⟨enabled, remarkText, mode, locations, rfl, haccepted⟩ :=
    validateMultiLocation_spec hvalid
  obtain rfl : enabled = true := enabled_of_multiLocationForLink hgroup
  have hne : locations ≠ [] := by
    rintro rfl
    exact absurd (haccepted.two rfl) (by decide)
  have hpairs := vlessEntriesForLink_spec hne hgroup hentries
  refine ⟨locations.map fun l => locationObj server.site.rt l.1 l.2.1 l.2.2, ?_, ?_, ?_, ?_⟩
  · rw [List.map_map]
    rfl
  · rw [List.length_map, hpairs.length_eq]
  · intro e he
    rw [List.zip_map_left, List.mem_map] at he
    obtain ⟨⟨l, entry⟩, hmem, rfl⟩ := he
    have hl : l ∈ locations := (List.of_mem_zip hmem).1
    obtain ⟨remark, hgenerate⟩ := List.forall₂_zip hpairs hmem
    have harrives := arrives_iff_intact huid (haccepted.ne_empty l hl) hgenerate
    exact (routesBack_iff haccepted hl entry.vlessLink hgroup).trans harrives
  · intro hintact
    have hnames : locations.map (fun l => some l.1) =
        entries.map fun entry => (arrivingLocation server.site entry.vlessLink).map strip := by
      rw [← List.forall₂_eq_eq_eq, List.forall₂_map_left_iff, List.forall₂_map_right_iff,
        List.forall₂_iff_zip]
      refine ⟨hpairs.length_eq, fun {l entry} hmem => ?_⟩
      have hl : l ∈ locations := (List.of_mem_zip hmem).1
      obtain ⟨remark, hgenerate⟩ := List.forall₂_zip hpairs hmem
      have harrives := arrives_iff_intact huid (haccepted.ne_empty l hl) hgenerate
      obtain ⟨id, hid, hstrip⟩ := harrives.mpr (hintact _ (List.mem_map_of_mem hl))
      rw [hid, Option.map_some, hstrip]
    refine List.Nodup.of_map (Option.map strip) ?_
    rw [List.map_map, Function.comp_def, ← hnames]
    refine List.Nodup.of_map (fun id => id.getD "") ?_
    rw [List.map_map]
    exact haccepted.nodup

/-! ## Two countries with their preferred proxies -/

/-- The result of a test that went well. -/
def exampleResult : Obj :=
  [("overall_status", .str "healthy"),
    ("checks", .arr (requiredTargets.map fun target =>
      .obj [("target", .str target), ("ok", .bool true)]))]

/-- A panel that prefers the two proxies in their countries. -/
def examplePreferring : Panel :=
  { examplePanel with
    tests := ((Dict.empty).set exampleGerman.id exampleResult).set exampleAlbanian.id exampleResult
    preferred := ((Dict.empty).set "DE" exampleGerman.id).set "AL" exampleAlbanian.id }

/-- A draw for a location without an id. -/
def exampleToken : Token := ⟨"loc", by decide, by simp⟩

/-- The request for two countries, with an id for the German location. -/
def examplePayload (german : String) : Json :=
  .obj [("enabled", .bool true), ("selection_mode", .str "country_preferred"),
    ("locations", .arr [.obj [("id", .str german), ("code", .str "DE")],
      .obj [("id", .str "loc-al"), ("code", .str "AL")]])]

/-- The configuration that the request makes. -/
def exampleConfiguration (german : String) : Obj :=
  multiLocationObj exampleRuntime true "" "country_preferred"
    [(german, "DE", exampleGerman.id), ("loc-al", "AL", exampleAlbanian.id)]

/-- A group with the configuration. -/
def exampleGroups (german : String) : Dict String Obj :=
  (Dict.empty).set "g" [("multi_location", .obj (exampleConfiguration german))]

lemma exampleUuidText : IsUuidText "u" := by
  intro c hc
  obtain rfl : c = 'u' := by simpa using hc
  exact .inl (by decide)

/-- The entries of a link in the group. -/
lemma exampleEntries {german : String} (h : german ∈ ["loc-de", "de.1"]) :
    ∃ entries, vlessEntriesForLink exampleSite (exampleGroups german) [("sub_id", .str "g")] "u"
      "panel.example" = .ok entries := by
  have hsome : ∀ german ∈ ["loc-de", "de.1"], (vlessEntriesForLink exampleSite
      (exampleGroups german) [("sub_id", .str "g")] "u" "panel.example").toOption.isSome = true := by
    decide +kernel
  have hfound := hsome german h
  cases hentries : vlessEntriesForLink exampleSite (exampleGroups german) [("sub_id", .str "g")]
      "u" "panel.example" with
  | error e => simp [hentries, Except.toOption] at hfound
  | ok entries => exact ⟨entries, rfl⟩

/-- With plain ids, both entries lead to their own locations. -/
theorem entries_route_back_german : ∃ entries,
    vlessEntriesForLink exampleSite (exampleGroups "loc-de") [("sub_id", .str "g")] "u"
        "panel.example" = .ok entries ∧
      entries.length = 2 ∧
      (entries.map fun entry => arrivingLocation exampleSite entry.vlessLink).Nodup := by
  obtain ⟨entries, hentries⟩ := exampleEntries (List.mem_cons_self : "loc-de" ∈ _)
  obtain ⟨locations, hlocations, hlength, -, hdistinct⟩ :=
    entries_route_back exampleServer examplePreferring (fun _ => exampleToken)
      (examplePayload "loc-de") .null true (exampleConfiguration "loc-de")
      (exampleGroups "loc-de") [("sub_id", .str "g")] _ "u" "panel.example" entries (by rfl)
      (by rfl) exampleUuidText hentries
  have hboth : locations = [locationObj exampleRuntime "loc-de" "DE" exampleGerman.id,
      locationObj exampleRuntime "loc-al" "AL" exampleAlbanian.id] :=
    List.map_injective_iff.mpr (fun _ _ => Json.obj.inj) (Json.arr.inj hlocations).symm
  have hnames : (deployment exampleSite).sniLocations = none := by rfl
  subst hboth
  refine ⟨entries, hentries, hlength, hdistinct ?_⟩
  simp only [List.mem_cons, List.not_mem_nil, or_false, forall_eq_or_imp, forall_eq]
  refine ⟨⟨"loc-de", rfl, by decide, fun _ names hsome => ?_⟩,
    ⟨"loc-al", rfl, by decide, fun _ names hsome => ?_⟩⟩
  · exact absurd (hnames.symm.trans hsome) (by simp)
  · exact absurd (hnames.symm.trans hsome) (by simp)

/-- An id with a dot is accepted, and loses the dot on its way: the entry of the German location
asks for a location that does not exist. -/
theorem entry_misses_location :
    validateMultiLocation exampleServer examplePreferring (fun _ => exampleToken)
        (examplePayload "de.1") .null true = .ok (exampleConfiguration "de.1") ∧
      ∃ entry rest, vlessEntriesForLink exampleSite (exampleGroups "de.1") [("sub_id", .str "g")]
          "u" "panel.example" = .ok (entry :: rest) ∧
        arrivingLocation exampleSite entry.vlessLink = some "de1" ∧
        ¬ RoutesBack exampleServer { examplePreferring with subs := exampleGroups "de.1" }
          [("sub_id", .str "g")] (exampleConfiguration "de.1")
          (locationObj exampleRuntime "de.1" "DE" exampleGerman.id) entry.vlessLink := by
  refine ⟨by rfl, ?_⟩
  obtain ⟨entries, hentries⟩ := exampleEntries (List.mem_cons_of_mem _ List.mem_cons_self :
    "de.1" ∈ _)
  have hgroup : multiLocationForLink (exampleGroups "de.1") [("sub_id", .str "g")] =
    .ok (some [("multi_location", .obj (exampleConfiguration "de.1"))],
      some (exampleConfiguration "de.1")) := by rfl
  have hraw : ¬ isRawTcp exampleSite [("sub_id", .str "g")] := by
    rintro ⟨adapter, hadapter, hrawTcp⟩
    have hget : Transports.get exampleSite (.str defaultProtocol) =
      .ok ⟨"vless-ws", "VLESS / WebSocket Turbo", true, "", false⟩ := by rfl
    obtain rfl := Except.ok.inj (hget.symm.trans hadapter)
    exact Bool.noConfusion hrawTcp
  cases vlessEntriesForLink_spec (by simp) hgroup hentries with
  | @cons _ entry _ rest hentry _ =>
    obtain ⟨remark, hgenerate⟩ := hentry
    have harrives : arrivingLocation exampleSite entry.vlessLink = some "de1" := by
      rw [arrivingLocation_webSocket exampleUuidText.markless hraw hgenerate]
      decide
    refine ⟨entry, rest, hentries, harrives, ?_⟩
    rintro ⟨id, hid, hrequested, -⟩
    obtain rfl := Option.some.inj (harrives.symm.trans hid)
    obtain ⟨-, hlocation, -⟩ := requestedLocation_spec hrequested
    exact absurd hlocation (by decide)

end Routing
