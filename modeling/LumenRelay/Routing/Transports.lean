import LumenRelay.Routing.RawTcp

/-!
# The transport registry

Five transports are known.  The WebSocket transport always runs, the Raw TCP transport runs
when its deployment is ready, and the others do not run at all.
-/

namespace Routing

open Lib Py

variable (site : Site)

/-- `DEFAULT_PROTOCOL`. -/
def defaultProtocol : String := "vless-ws"

/-- `TransportAdapter`; `rawTcp` marks the subclass `RawTCPAdapter`. -/
structure TransportAdapter where
  id : String
  label : String
  available : Bool
  unavailableReason : String
  rawTcp : Bool

namespace TransportAdapter

variable (adapter : TransportAdapter)

/-- `availability`. -/
def availability : Bool × String :=
  if adapter.rawTcp then rawTcpAvailability site
  else (adapter.available, adapter.unavailableReason)

/-- `validate_settings`; there are no settings to be had. -/
def validateSettings (value : Json) : Except PyErr Obj :=
  let custom := PyErr.valueError
    "Raw TCP transport settings are deployment-managed; custom transport settings are not accepted"
  match value with
  | .null => .ok []
  | .obj [] => .ok []
  | .obj fields =>
    if adapter.rawTcp then .error custom
    else
      let names := (fields.map Prod.fst).mergeSort fun a b => !decide (b < a)
      .error (.valueError (adapter.label ++ " does not support transport settings: " ++
        ", ".intercalate names))
  | _ =>
    if adapter.rawTcp then .error custom
    else .error (.valueError (adapter.label ++ " transport settings must be an object"))

/-- `require_available`. -/
def requireAvailable : Except PyErr Unit :=
  match adapter.availability site with
  | (true, _) => .ok ()
  | (false, detail) =>
    .error (.valueError (adapter.label ++ ": NOT SUPPORTED BY CURRENT RUNTIME. " ++ detail))

/-- `validate_security`. -/
def validateSecurity (value : Json) : Except PyErr String :=
  let security := site.rt.lower (strip ((if value = .null then .str "tls" else value).toStr site.rt))
  if security ≠ "tls" then
    .error (.valueError (adapter.label ++ " requires security=tls in this deployment"))
  else .ok security

/-- The path of the WebSocket transport. -/
def webSocketPath (rt : Runtime) (uuid : String) (locationId : Json) : String :=
  let path := "/ws/" ++ uuid ++ "?ed=4096"
  let location := safeLocationId rt locationId
  if location ≠ "" then path ++ "&loc=" ++ location else path

/-- `vless_parameters`. -/
def vlessParameters (uuid transportHost : String) (locationId : Json) :
    Except PyErr (List (String × String)) := do
  adapter.requireAvailable site
  if adapter.rawTcp then return [("type", (deployment site).uriNetwork)]
  if adapter.id ≠ defaultProtocol then
    throw (.valueError (adapter.label ++
      ": NOT SUPPORTED BY CURRENT RUNTIME. No native serializer is registered."))
  return [("type", "ws"), ("host", transportHost), ("path", webSocketPath site.rt uuid locationId)]

end TransportAdapter

/-- `RawTCPAdapter.endpoint`. -/
def RawTCPAdapter.endpoint (address port sni locationId : Json) : Except PyErr (String × ℤ × String) :=
  if hasText site.rt address || hasText site.rt sni then
    .error (.valueError "Raw TCP address and SNI are managed by the verified TCP deployment")
  else if port ∉ [.null, .str "", .int 443, .float (.fin 443)] then
    .error (.valueError "Raw TCP port is assigned by the Railway TCP Proxy")
  else (deployment site).endpointForLocation site.rt locationId

/-- `TRANSPORTS`. -/
def transports : List TransportAdapter :=
  [⟨"vless-ws", "VLESS / WebSocket Turbo", true, "", false⟩,
    ⟨"vless-tcp", "VLESS / Raw TCP", false,
      "Raw TCP ingress is not configured. Configure the Railway TCP Proxy, application TLS files, explicit SNI map, and URI network.",
      true⟩,
    ⟨"vless-grpc", "gRPC", false,
      "This deployment has no gRPC/HTTP2 VLESS inbound runtime; the installed data plane is FastAPI/Uvicorn WebSocket only.",
      false⟩,
    ⟨"vless-kcp", "KCP", false,
      "This deployment has no UDP/KCP listener or KCP VLESS runtime; the installed data plane is FastAPI/Uvicorn WebSocket only.",
      false⟩,
    ⟨"vless-httpupgrade", "HTTPUpgrade", false,
      "This deployment has no HTTPUpgrade VLESS inbound runtime; the installed data plane is FastAPI/Uvicorn WebSocket only.",
      false⟩]

namespace Transports

/-- `TransportRegistry.get`. -/
def get (transportId : Json) : Except PyErr TransportAdapter :=
  let value := strip (transportId.text site.rt)
  match transports.find? fun adapter => adapter.id = value with
  | some adapter => .ok adapter
  | none =>
    .error (.valueError ("Unknown transport: " ++ if value ≠ "" then value else "(empty)"))

/-- `TransportRegistry.validate`: the id of the transport and its settings. -/
def validate (transportId settings : Json) : Except PyErr (String × Obj) := do
  let adapter ← get site transportId
  adapter.requireAvailable site
  return (adapter.id, ← adapter.validateSettings settings)

/-- `TransportRegistry.is_available`. -/
def isAvailable (transportId : Json) : Bool :=
  match get site transportId with
  | .ok adapter => (adapter.availability site).1
  | .error _ => false

/-- `TransportRegistry.validate_security`. -/
def validateSecurity (transportId value : Json) : Except PyErr String := do
  let adapter ← get site transportId
  adapter.requireAvailable site
  adapter.validateSecurity site value

/-- `TransportRegistry.vless_parameters`. -/
def vlessParameters (transportId : Json) (uuid transportHost : String)
    (locationId settings : Json) : Except PyErr (List (String × String)) := do
  let adapter ← get site transportId
  adapter.requireAvailable site
  let _ ← adapter.validateSettings settings
  adapter.vlessParameters site uuid transportHost locationId

/-- `TransportRegistry.endpoint`: the endpoint of a transport whose deployment owns it. -/
def endpoint (transportId address port sni locationId : Json) :
    Except PyErr (Option (String × ℤ × String)) := do
  let adapter ← get site transportId
  if !adapter.rawTcp then return none
  adapter.requireAvailable site
  return some (← RawTCPAdapter.endpoint site address port sni locationId)

end Transports

end Routing
