import LumenRelay.Routing.MultiLocation
import LumenRelay.Lib.Percent

/-!
# The entries of a subscription

A link is handed out as a URI, one for each location of its group.  A location travels to the
relay in the path of the WebSocket request, or as the server name of the Raw TCP handshake.
The second half of this file is what the client and the relay read back.
-/

namespace Routing

open Lib Py

variable (site : Site)

/-! ## Generation -/

/-- `FINGERPRINTS`. -/
def fingerprints : List String :=
  ["chrome", "firefox", "safari", "ios", "android", "edge", "360", "qq", "random", "randomized"]

/-- `DEFAULT_FINGERPRINT`. -/
def defaultFingerprint : String := "chrome"

/-- `DEFAULT_PORT`. -/
def defaultPort : ℤ := 443

/-- `DEFAULT_ALPN_BY_PROTOCOL`. -/
def defaultAlpn (protocol : String) : String := if protocol = "vless-tcp" then "" else "http/1.1"

/-- The characters that `quote` leaves alone. -/
def quoteSafe (c : Char) : Bool := c.isAlphanum || c ∈ "_.-~/".toList

/-- `value.strip()` of a value that is expected to be a text. -/
def stripText : Json → Except PyErr String
  | .str s => .ok (strip s)
  | _ => .error .attributeError

/-- `MIN_PORT <= port <= MAX_PORT`. -/
def portInRange : Json → Except PyErr Bool
  | .bool b => .ok b
  | .int n => .ok (1 ≤ n ∧ n ≤ 65535)
  | .float (.fin q) => .ok (1 ≤ q ∧ q ≤ 65535)
  | .float _ => .ok false
  | _ => .error .typeError

/-- The fields of a link that its URI is made from. -/
structure LinkFields where
  protocol : Json
  fingerprint : Json
  alpn : Json
  port : Json
  address : Json
  sni : Json
  transportSettings : Json

/-- `base_kwargs`. -/
def linkFields (link : Obj) : LinkFields where
  protocol := link.getD "protocol" (.str defaultProtocol)
  fingerprint := link.get "fingerprint"
  alpn := link.get "alpn"
  port := link.get "port"
  address := link.get "address"
  sni := link.get "sni"
  transportSettings := link.get "transport_settings"

/-- Where a URI leads: the address to dial, the port as it is written, the TLS name, the `Host`
header and the ALPN. -/
structure UriTarget where
  dialAddress : String
  port : String
  tlsName : String
  transportHost : String
  alpn : String

/-- The target of a URI: a deployment's own endpoint, or the addresses of the link. -/
def uriTarget (host : String) (fields : LinkFields) (loc : Json) (port alpn : String) :
    Except PyErr UriTarget := do
  match ← Transports.endpoint site fields.protocol fields.address fields.port fields.sni loc with
  | some (dialAddress, port, tlsName) => return ⟨dialAddress, toString port, tlsName, "", ""⟩
  | none =>
    let (dialAddress, tlsName) ← linkHosts site.rt fields.address fields.sni (.str host)
    let transportHost := match normalizeAddress site.rt (.str host) with
      | .ok normalized => normalized
      | .error _ => strip host
    return ⟨dialAddress, port, tlsName, transportHost, alpn⟩

/-- The query of a URI. -/
def uriQuery (params : List (String × String)) : List Char :=
  Percent.joinFields (params.map fun p => (p.1.toList, Percent.quote quoteSafe p.2.toList))

/-- The parameters of a URI. -/
def uriParams (transport : List (String × String)) (target : UriTarget) (fingerprint : String) :
    List (String × String) :=
  [("encryption", "none"), ("security", "tls")] ++ transport ++
    [("sni", target.tlsName), ("fp", fingerprint)] ++
    if target.alpn ≠ "" then [("alpn", target.alpn)] else []

/-- A URI from its parts. -/
def uriText (uuid authority port : String) (query remark : List Char) : String :=
  let before := "vless://" ++ uuid ++ "@" ++ authority ++ ":" ++ port
  String.ofList (before.toList ++ '?' :: query ++ '#' :: Percent.quote quoteSafe remark)

/-- `generate_vless_link`, on the fields of a link. -/
def generateVlessLink (uuid host : String) (remark : Json) (fields : LinkFields) (loc : Json) :
    Except PyErr String := do
  let (protocol, settings) ← Transports.validate site fields.protocol fields.transportSettings
  let fingerprint ← stripText (fields.fingerprint.or (.str defaultFingerprint))
  let fingerprint := if fingerprint ∈ fingerprints then fingerprint else defaultFingerprint
  let alpn ← stripText (fields.alpn.or (.str ""))
  let alpn := if alpn ≠ "" then alpn else defaultAlpn protocol
  let port := fields.port.or (.int defaultPort)
  let port := if ← portInRange port then port else .int defaultPort
  let fields := { fields with protocol := .str protocol, transportSettings := .obj settings }
  let target ← uriTarget site host fields loc (port.toStr site.rt) alpn
  let transport ← Transports.vlessParameters site fields.protocol uuid target.transportHost loc
    fields.transportSettings
  let query := uriQuery (uriParams transport target fingerprint)
  let authority ← authorityHost site.rt (.str target.dialAddress)
  match remark with
  | .str remark => return uriText uuid authority target.port query remark.toList
  | _ => throw .typeError

/-- An entry of a subscription. -/
structure Entry where
  vlessLink : String
  remark : Json
  location : Option Obj
  sharedQuota : Bool

/-- The locations of a configuration that are active. -/
def activeLocations : List Json → Except PyErr (List Obj)
  | [] => .ok []
  | location :: locations => do
    let active ← location.attrGet "active"
    let rest ← activeLocations locations
    match location with
    | .obj o => return if active.truthy then o :: rest else rest
    | _ => return rest

/-- The entry of a location. -/
def locationEntry (link : Obj) (uid host : String) (text : Json) (loc : Obj) :
    Except PyErr Entry := do
  let remark := locationRemark site.rt loc text
  let vlessLink ← generateVlessLink site uid host (.str remark) (linkFields link) (loc.get "id")
  return { vlessLink := vlessLink, remark := .str remark, sharedQuota := true
           location := some [("id", loc.get "id"), ("country", loc.get "country"),
             ("code", loc.get "code"), ("flag", loc.get "flag")] }

/-- The only entry of a link without locations. -/
def plainEntry (link : Obj) (uid host : String) : Except PyErr Entry := do
  let remark := (link.get "remark").or ((link.get "label").or (.str "Lumen Relay"))
  let vlessLink ← generateVlessLink site uid host remark (linkFields link) .null
  return { vlessLink := vlessLink, remark := remark, location := none, sharedQuota := false }

/-- `vless_entries_for_link`. -/
def vlessEntriesForLink (subs : Dict String Obj) (link : Obj) (uid host : String) :
    Except PyErr (List Entry) := do
  match ← multiLocationForLink subs link with
  | (_, some ml) =>
    let locations ← activeLocations (← (ml.getD "locations" (.arr [])).iterate)
    if locations ≠ [] then
      locations.mapM (locationEntry site link uid host ((ml.get "remark_text").or (.str "")))
    else return [← plainEntry site link uid host]
  | (_, none) => return [← plainEntry site link uid host]

/-! ## What is read back -/

/-- The query of a URI or of a path. -/
def queryOf (s : List Char) : List Char := ((s.takeWhile (· ≠ '#')).dropWhile (· ≠ '?')).tail

/-- A query, as a standard parser reads it. -/
def parseQuery (rt : Runtime) (query : List Char) : List (String × String) :=
  Percent.parseQuery rt.replaceUtf8 query

/-- A WebSocket request, as `_loc_param` sees it. -/
structure WebSocket where
  /-- `ws.query_params`, which test doubles do not have. -/
  queryParams : Option (List (String × String))
  /-- The raw query string. -/
  queryString : String

/-- `_loc_param`; of several values of a name the last counts. -/
def locParam (ws : WebSocket) : String :=
  match ws.queryParams with
  | some params => ((params.filter fun p => p.1 = "loc").getLast?.map Prod.snd).getD ""
  | none =>
    match (splitChar '&' ws.queryString).find? fun part => "loc=".toList <+: part.toList with
    | some part => sliceTo 24 (String.ofList (part.toList.drop 4))
    | none => ""

/-- The request that a client makes for a path. -/
def webSocketOf (rt : Runtime) (path : String) : WebSocket where
  queryParams := some (parseQuery rt (queryOf path.toList))
  queryString := String.ofList (queryOf path.toList)

/-- The location id that reaches the relay when a client uses a URI: by the path of its
WebSocket request, or by the server name of its TLS handshake. -/
def arrivingLocation (uri : String) : Option String :=
  let params := parseQuery site.rt (queryOf uri.toList)
  if params.lookup "type" = some "ws" then
    some (locParam (webSocketOf site.rt ((params.lookup "path").getD "")))
  else (deployment site).locationForSni site.rt ((params.lookup "sni").getD "")

end Routing
