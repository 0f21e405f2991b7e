import LumenRelay.Routing.Address

/-!
# The Raw TCP deployment

The environment names the public endpoint of the Raw TCP ingress and maps TLS server names to
location ids, one name for each location and one default name for none.
-/

namespace Routing

open Lib Py

/-- The surroundings of the process: the library, the environment variables, which paths are
files, the secret of the panel and whether the Raw TCP listener runs. -/
structure Site where
  rt : Runtime
  /-- `os.environ.get(name, "")`. -/
  environ : String → String
  /-- `Path(name).is_file()`. -/
  isFile : String → Bool
  /-- `CONFIG["secret"]`. -/
  secret : String
  /-- `RAW_TCP_LISTENER.running`. -/
  listenerRunning : Bool
  /-- `RAW_TCP_LISTENER.error`. -/
  listenerError : String

/-- A process without any settings. -/
def Site.bare (rt : Runtime) : Site where
  rt := rt
  environ _ := ""
  isFile _ := false
  secret := "secret"
  listenerRunning := false
  listenerError := ""

/-- A character that `_safe_location_id` keeps. -/
def safeChar (rt : Runtime) (c : Char) : Bool := rt.isAlnum c || c == '-' || c == '_'

/-- `_safe_location_id`. -/
def safeLocationId (rt : Runtime) (value : Json) : String :=
  sliceTo 24 (keepChars (safeChar rt) (value.text rt))

/-- `RawTCPDeployment`. -/
structure RawTCPDeployment where
  ready : Bool
  reason : String
  listenHost : String
  listenPort : ℤ
  publicHost : String
  publicPort : ℤ
  certFile : String
  keyFile : String
  uriNetwork : String
  sniLocations : Option (Dict String String)
  defaultSni : String

namespace RawTCPDeployment

/-- A deployment that is not ready. -/
def notReady (reason : String) : RawTCPDeployment :=
  ⟨false, reason, "0.0.0.0", 0, "", 0, "", "", "", none, ""⟩

/-- `endpoint_for_location`: the public host and port and the server name. -/
def endpointForLocation (rt : Runtime) (d : RawTCPDeployment) (locationId : Json) :
    Except PyErr (String × ℤ × String) :=
  let refuse := PyErr.valueError
    (if d.reason ≠ "" then d.reason else "Raw TCP ingress is not configured")
  match d.sniLocations with
  | none => .error refuse
  | some names =>
    if !d.ready || names.entries.isEmpty then .error refuse
    else
      let location := safeLocationId rt locationId
      if location = "" then .ok (d.publicHost, d.publicPort, d.defaultSni)
      else
        match names.entries.filter fun e => e.2 = location with
        | [(name, _)] => .ok (d.publicHost, d.publicPort, name)
        | _ => .error (.valueError "Raw TCP has no verified SNI profile for the selected location")

/-- `location_for_sni`. -/
def locationForSni (rt : Runtime) (d : RawTCPDeployment) (serverName : String) : Option String :=
  match d.sniLocations with
  | none => none
  | some names =>
    match normalizeSni rt (.str serverName) with
    | .error _ => none
    | .ok normalized => names.get? normalized

end RawTCPDeployment

/-- `_positive_port`. -/
def positivePort (rt : Runtime) (value : String) : Option ℤ :=
  match parseInt rt (strip value) with
  | some port => if 1 ≤ port ∧ port ≤ 65535 then some port else none
  | none => none

/-- One entry of the map of server names: its name and location are checked and added. -/
def addSniEntry (rt : Runtime) (names : Dict String String) (entry : String × Json) :
    Option (Dict String String) :=
  match normalizeSni rt (.str entry.1) with
  | .error _ => none
  | .ok name =>
    let location := safeLocationId rt entry.2
    if strip (entry.2.text rt) ≠ "" ∧ location = "" then none
    else if location ≠ "" ∧ location ∈ names.values then none
    else if names.contains name then none
    else some (names.set name location)

/-- The map of server names and the default name of `deployment`. -/
def parseSniMap (rt : Runtime) (rawMap defaultName : String) :
    Option (Dict String String × String) :=
  match rt.jsonLoads rawMap with
  | some (.obj (entry :: entries)) => do
    let names ← (entry :: entries).foldlM (addSniEntry rt) Dict.empty
    let defaultSni ← (normalizeSni rt (.str defaultName)).toOption
    if names.get? defaultSni = some "" then some (names, defaultSni) else none
  | _ => none

/-- `deployment`. -/
def deployment (site : Site) : RawTCPDeployment :=
  let rt := site.rt
  let var := site.environ
  let publicHost := strip (var "RAILWAY_TCP_PROXY_DOMAIN")
  let uriNetwork := rt.lower (strip (var "VLESS_TCP_URI_NETWORK"))
  let certName := strip (var "VLESS_TCP_TLS_CERT_FILE")
  let keyName := strip (var "VLESS_TCP_TLS_KEY_FILE")
  let defaultName := strip (var "VLESS_TCP_DEFAULT_SNI")
  let rawMap := strip (var "VLESS_TCP_SNI_MAP")
  let listenHost := strip (var "VLESS_TCP_LISTEN_HOST")
  match positivePort rt (var "RAILWAY_TCP_APPLICATION_PORT"),
      positivePort rt (var "VLESS_TCP_LISTEN_PORT") with
  | some applicationPort, some listenPort =>
    if applicationPort ≠ listenPort then
      .notReady "Raw TCP unavailable: Railway TCP ingress is not configured for the listener port."
    else
      match positivePort rt (var "RAILWAY_TCP_PROXY_PORT") with
      | none => .notReady "Raw TCP unavailable: Railway TCP Proxy public hostname and port are missing."
      | some publicPort =>
        if publicHost = "" then
          .notReady "Raw TCP unavailable: Railway TCP Proxy public hostname and port are missing."
        else if uriNetwork ≠ "tcp" ∧ uriNetwork ≠ "raw" then
          .notReady "Raw TCP unavailable: set VLESS_TCP_URI_NETWORK to the staging-validated tcp or raw spelling."
        else if certName = "" ∨ keyName = "" then
          .notReady "Raw TCP unavailable: application TLS certificate and key paths are required."
        else if !site.isFile certName || !site.isFile keyName then
          .notReady "Raw TCP unavailable: configured application TLS files are not readable."
        else if rawMap = "" ∨ defaultName = "" then
          .notReady "Raw TCP unavailable: an explicit SNI-to-location map and default SNI are required."
        else
          match parseSniMap rt rawMap defaultName with
          | none =>
            .notReady "Raw TCP unavailable: VLESS_TCP_SNI_MAP must be a unique validated hostname-to-location JSON map."
          | some (names, defaultSni) =>
            { ready := true, reason := ""
              listenHost := if listenHost = "" then "0.0.0.0" else listenHost
              listenPort := listenPort, publicHost := publicHost, publicPort := publicPort
              certFile := certName, keyFile := keyName, uriNetwork := uriNetwork
              sniLocations := some names, defaultSni := defaultSni }
  | _, _ =>
    .notReady "Raw TCP unavailable: Railway TCP ingress is not configured for the listener port."

/-- What a deployment that is ready has: one of two spellings of its network, and a map of
server names that was read. -/
structure RawTCPDeployment.Sound (site : Site) (d : RawTCPDeployment) : Prop where
  uriNetwork : d.uriNetwork = "tcp" ∨ d.uriNetwork = "raw"
  names : ∃ names, d.sniLocations = some names ∧
    parseSniMap site.rt (strip (site.environ "VLESS_TCP_SNI_MAP"))
      (strip (site.environ "VLESS_TCP_DEFAULT_SNI")) = some (names, d.defaultSni)

/-- A deployment is ready only with everything it needs. -/
lemma deployment_sound (site : Site) (h : (deployment site).ready = true) :
    (deployment site).Sound site := by
  suffices ∀ d, deployment site = d → d.ready = true → d.Sound site from this _ rfl h
  intro d hd hready
  unfold deployment at hd
  dsimp only at hd
  repeat' split at hd
  all_goals subst hd
  all_goals first
    | exact Bool.noConfusion hready
    | rename_i hnetwork _ _ _ _ names defaultSni hnames _
      have hspelling := not_and_or.mp hnetwork
      simp only [not_not] at hspelling
      exact ⟨hspelling, names, rfl, hnames⟩

/-- `availability`. -/
def rawTcpAvailability (site : Site) : Bool × String :=
  let settings := deployment site
  if !settings.ready then (false, settings.reason)
  else if !site.listenerRunning then
    (false, if site.listenerError ≠ "" then site.listenerError
      else "Raw TCP unavailable: TLS listener is not running.")
  else (true, "")

end Routing
