import LumenRelay.Routing.Catalog
import LumenRelay.Routing.Transports

/-!
# Links, groups and exit locations

The panel keeps its links and its groups as dictionaries of fields.  A group may give its links
two exit locations, each a country with one proxy; otherwise a link has an exit of its own.
`resolveExitSelection` picks the exit of a session, and raises rather than pick another.
-/

namespace Routing

open Lib Py

/-- What the panel keeps in memory. -/
structure Panel where
  /-- `LINKS`. -/
  links : Dict String Obj
  /-- `SUBS`. -/
  subs : Dict String Obj
  /-- `PROXY_TEST_RESULTS`. -/
  tests : Dict String Obj
  /-- `PREFERRED_PROXY_BY_COUNTRY`. -/
  preferred : Dict String String
  /-- `AUTH["password_hash"]`. -/
  passwordHash : Json
deriving DecidableEq

/-- `d.get(key)` for a key that may not even be hashable. -/
def lookupKey {α : Type} (d : Dict String α) (key : Json) : Except PyErr (Option α) :=
  match key with
  | .str s => .ok (d.get? s)
  | _ => if key.hashable then .ok none else .error .typeError

@[simp] lemma lookupKey_str {α : Type} (d : Dict String α) (s : String) :
    lookupKey d (.str s) = .ok (d.get? s) := rfl

/-! ## Preferred proxies -/

/-- `current_preferred_proxy_by_country`: the preferences whose proxy is present, of the
country and healthy. -/
def currentPreferredProxyByCountry (server : Server) (panel : Panel) :
    Except PyErr (Dict String String) :=
  panel.preferred.entries.foldlM (fun valid e =>
    match server.catalog.getRecord e.2 with
    | none => .ok valid
    | some record => do
      if record.code ≠ e.1 then return valid
      if ← currentHealthy (panel.tests.get? e.2) then return valid.set e.1 e.2
      return valid) .empty

/-! ## The configuration of a group -/

/-- `_default_multi_location`. -/
def defaultMultiLocation : Json :=
  .obj [("enabled", .bool false), ("remark_text", .str ""), ("locations", .arr [])]

/-- `_sanitize_remark_text`. -/
def sanitizeRemarkText (rt : Runtime) (value : Json) : String :=
  sliceTo 60 (keepChars rt.isPrintable (strip (value.text rt)))

/-- `location_remark`. -/
def locationRemark (rt : Runtime) (location : Obj) (customText : Json) : String :=
  let country := (location.getD "country" (.str "")).toStr rt
  let flag := (location.getD "flag" (.str "")).toStr rt
  let base := strip (country ++ " " ++ flag)
  let text := sanitizeRemarkText rt customText
  if text ≠ "" then base ++ " | " ++ text else base

/-- A field of the previous configuration, if there is one. -/
def previousField (previous : Json) (key : String) : Except PyErr Json :=
  if previous.truthy then previous.attrGet key else .ok .null

/-- The mode that a request asks for: what it names, else what the group had, else explicit
proxies. -/
def requestedMode (payload : Obj) (previous : Json) : Except PyErr Json :=
  let requested := payload.get "selection_mode"
  if requested.truthy then .ok requested
  else do return (← previousField previous "selection_mode").or (.str "explicit")

/-- The mode of a configuration. -/
def selectionMode (rt : Runtime) (payload : Obj) (previous : Json) : Except PyErr String := do
  let mode := rt.lower (strip ((← requestedMode payload previous).toStr rt))
  if mode ∉ ["explicit", "country_preferred"] then
    throw (.valueError "Multi-Location selection_mode must be explicit or country_preferred")
  return mode

/-- The locations of the previous configuration by their ids; the last of an id counts. -/
def previousById (rt : Runtime) (previous : Json) : Except PyErr (Dict String Obj) := do
  let locations ← previousField previous "locations"
  let items ← (locations.or (.arr [])).iterate
  return (items.filterMap Json.asObj).foldl
    (fun byId location => byId.set ((Obj.get location "id").text rt) location) .empty

/-- The proxy of a location: the country's preferred one, or the one that is named. -/
def locationProxy (server : Server) (panel : Panel) (mode code : String) (entry : Obj) :
    Except PyErr String := do
  let rt := server.site.rt
  if mode = "country_preferred" then
    let preferred ← currentPreferredProxyByCountry server panel
    let proxyId := (preferred.get? code).getD ""
    match server.catalog.getRecord proxyId with
    | some record =>
      if record.code = code then return proxyId
      throw (.valueError (code ++ " has no currently healthy preferred proxy; test all proxies in this country first"))
    | none =>
      throw (.valueError (code ++ " has no currently healthy preferred proxy; test all proxies in this country first"))
  else
    let proxyId := strip ((entry.get "proxy_id").text rt)
    match server.catalog.getRecord proxyId with
    | some record =>
      if record.code = code then return proxyId
      throw (.valueError ("selected proxy does not belong to " ++ code))
    | none => throw (.valueError "selected proxy is no longer in the repository")

/-- The id of a location: what the request names, or a drawn token. -/
def locationId (rt : Runtime) (entry : Obj) (token : Token) : String :=
  let id := sliceTo 24 (strip ((entry.get "id").text rt))
  if id ≠ "" then id else token.text

/-- A location as it is stored. -/
def locationObj (rt : Runtime) (id code proxyId : String) : Obj :=
  [("id", .str id), ("code", .str code), ("country", .str (countryName rt code)),
    ("flag", .str (flagFor rt code)), ("proxy_id", .str proxyId), ("active", .bool true)]

/-- The locations of a configuration; `done` are the ones before, each with its id, its code
and its proxy. -/
def validateLocations (server : Server) (panel : Panel) (tokens : ℕ → Token) (mode : String)
    (byId : Dict String Obj) (requireTests : Bool) :
    List Json → List (String × String × String) → Except PyErr (List (String × String × String))
  | [], done => .ok done
  | .obj entry :: entries, done => do
    let rt := server.site.rt
    let code := (normalizeCountry rt ((Obj.get entry "code").or (Obj.get entry "country"))).2
    if code = "" ∨ isValidCode rt code = false then
      throw (.valueError "location must use a valid ISO alpha-2 country")
    if code ∈ done.map fun l => l.2.1 then
      throw (.valueError "the two Multi-Location countries must be different")
    let id := locationId rt entry (tokens done.length)
    if id ∈ done.map Prod.fst then throw (.valueError "location IDs must be unique")
    let proxyId ← locationProxy server panel mode code entry
    let old := (byId.get? id).getD []
    let changed := Obj.get old "proxy_id" ≠ .str proxyId ∨ Obj.get old "code" ≠ .str code
    if requireTests ∧ changed ∧ mode = "explicit" then
      requireProxyTestReceipt server proxyId (Obj.getD entry "proxy_test_receipt" (.str ""))
    validateLocations server panel tokens mode byId requireTests entries
      (done ++ [(id, code, proxyId)])
  | _ :: _, _ => .error (.valueError "each location must be an object")

/-- The list of locations of a request, with the right length. -/
def rawLocations (payload : Obj) (enabled : Bool) : Except PyErr (List Json) :=
  match (payload.get "locations").or (.arr []) with
  | .arr raw =>
    if enabled ∧ raw.length ≠ 2 then
      .error (.valueError "Multi-Location requires exactly two countries")
    else if !enabled ∧ raw ≠ [] ∧ raw.length ≠ 2 then
      .error (.valueError "Multi-Location stores either zero or exactly two countries")
    else .ok raw
  | _ => .error (.valueError "locations must be a list")

/-- A configuration as it is stored. -/
def multiLocationObj (rt : Runtime) (enabled : Bool) (remarkText mode : String)
    (locations : List (String × String × String)) : Obj :=
  [("enabled", .bool enabled), ("remark_text", .str remarkText),
    ("locations", .arr (locations.map fun l => .obj (locationObj rt l.1 l.2.1 l.2.2))),
    ("selection_mode", .str mode), ("failover", .bool false)]

/-- `validate_multi_location`; `tokens` are the draws for locations without an id. -/
def validateMultiLocation (server : Server) (panel : Panel) (tokens : ℕ → Token)
    (payload previous : Json) (requireTests : Bool) : Except PyErr Obj :=
  let rt := server.site.rt
  match payload with
  | .obj payload => do
    let enabled := (Obj.get payload "enabled").truthy
    let remarkText := sanitizeRemarkText rt (Obj.get payload "remark_text")
    let mode ← selectionMode rt payload previous
    let raw ← rawLocations payload enabled
    let byId ← previousById rt previous
    let locations ← validateLocations server panel tokens mode byId requireTests raw []
    return multiLocationObj rt enabled remarkText mode locations
  | _ => .error (.valueError "multi_location must be an object")

/-! ## The group of a link -/

/-- The configuration of a group, if it is enabled. -/
def enabledMultiLocation (sub : Obj) : Option Obj :=
  match sub.get "multi_location" with
  | .obj ml => if (Obj.get ml "enabled").truthy then some ml else none
  | _ => none

/-- `multi_location_for_link`: the group, and its configuration if that is enabled. -/
def multiLocationForLink (subs : Dict String Obj) (link : Obj) :
    Except PyErr (Option Obj × Option Obj) :=
  match lookupKey subs ((link.get "sub_id").or (.str "")) with
  | .error e => .error e
  | .ok none => .ok (none, none)
  | .ok (some sub) =>
    if List.isEmpty sub then .ok (none, none) else .ok (some sub, enabledMultiLocation sub)

/-- The mode of a stored configuration. -/
def storedMode (rt : Runtime) (ml : Obj) : String :=
  ((ml.get "selection_mode").or (.str "explicit")).toStr rt

/-- The check of one location of a Raw TCP link. -/
def validateRawTcpLocation (site : Site) (link : Obj) (location : Json) : Except PyErr Unit := do
  if (← location.attrGet "active").truthy then
    let _ ← Transports.endpoint site (.str "vless-tcp") (link.get "address") (link.get "port")
      (link.get "sni") (← location.attrGet "id")

/-- `validate_raw_tcp_multi_location`, on a group's configuration. -/
def validateRawTcpMultiLocation (site : Site) (link : Option Obj) (ml : Json) :
    Except PyErr Unit :=
  match link, ml with
  | some link, .obj ml =>
    if link.getD "protocol" (.str defaultProtocol) ≠ .str "vless-tcp" ∨
        (Obj.get ml "enabled").truthy = false then .ok ()
    else if storedMode site.rt ml ≠ "explicit" then
      .error (.valueError "Raw TCP Multi-Location requires explicit SNI-to-proxy mappings")
    else do
      let locations ← ((Obj.get ml "locations").or (.arr [])).iterate
      locations.forM (validateRawTcpLocation site link)
  | _, _ => .ok ()

/-! ## The exit of a session -/

/-- The exit that was picked: the id of the proxy, its address and the location. -/
structure Selection where
  proxyId : String
  endpoint : String
  locationId : Option String
deriving DecidableEq, Repr

/-- The first active location with an id. -/
def findLocation (id : String) : List Json → Except PyErr (Option Obj)
  | [] => .ok none
  | .obj location :: locations =>
    if Obj.get location "id" = .str id ∧ (Obj.getD location "active" (.bool true)).truthy then
      .ok (some location)
    else findLocation id locations
  | _ :: _ => .error .attributeError

/-- The proxy that a location selects. -/
def locationProxyId (server : Server) (panel : Panel) (ml location : Obj) :
    Except PyErr String := do
  let rt := server.site.rt
  if storedMode rt ml = "country_preferred" then
    let preferred ← currentPreferredProxyByCountry server panel
    let proxyId := (← lookupKey preferred (location.get "code")).getD ""
    if proxyId = "" then
      throw (.proxyUnavailable "country has no healthy preferred proxy")
    return proxyId
  else return (location.get "proxy_id").text rt

/-- The location that a session asks for, in a group with a configuration. -/
def requestedLocation (ml : Obj) (locId : String) : Except PyErr Obj := do
  let locations := (ml.get "locations").or (.arr [])
  let reconfigure := PyErr.proxyUnavailable
    "multi-location requires reconfiguration to exactly two explicit proxies"
  if (ml.get "migration_required").truthy then throw reconfigure
  if (← locations.len) ≠ 2 then throw reconfigure
  if strip locId = "" then throw (.proxyUnavailable "an explicit location is required")
  match ← findLocation (strip locId) (← locations.iterate) with
  | none => throw (.proxyUnavailable "requested location is invalid")
  | some location => return location

/-- The exit of a session in a group with a configuration. -/
def resolveLocation (server : Server) (panel : Panel) (ml : Obj) (locId : String) :
    Except PyErr Selection := do
  let location ← requestedLocation ml locId
  let proxyId ← locationProxyId server panel ml location
  match server.catalog.getRecord proxyId with
  | none => throw (.proxyUnavailable "selected location proxy is unavailable")
  | some record =>
    if .str record.code ≠ location.get "code" then
      throw (.proxyUnavailable "selected proxy country metadata changed")
    return ⟨record.id, record.endpoint, some (strip locId)⟩

/-- The exit mode of a link. -/
def exitMode (rt : Runtime) (link : Obj) : String :=
  ((link.get "exit_proxy_mode").or (.str "direct")).toStr rt

/-- The exit of a session of a link with an exit of its own. -/
def resolveOwnExit (server : Server) (link : Obj) : Except PyErr (Option Selection) :=
  let rt := server.site.rt
  let mode := exitMode rt link
  if mode = "repository" then
    match server.catalog.getRecord ((link.get "proxy_id").text rt) with
    | none => .error (.proxyUnavailable "managed proxy is not in the repository cache")
    | some record => .ok (some ⟨record.id, record.endpoint, none⟩)
  else if mode = "custom" then
    match validateUrl rt (link.get "custom_proxy") with
    | .ok endpoint => .ok (some ⟨"custom", endpoint, none⟩)
    | .error _ => .error (.proxyUnavailable "custom proxy URL is invalid")
  else .ok none

/-- `resolve_exit_selection`. -/
def resolveExitSelection (server : Server) (panel : Panel) (link : Obj) (locId : String) :
    Except PyErr (Option Selection) := do
  match ← multiLocationForLink panel.subs link with
  | (_, some ml) => return some (← resolveLocation server panel ml locId)
  | (_, none) => resolveOwnExit server link

end Routing
