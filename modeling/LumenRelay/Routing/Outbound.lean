import LumenRelay.Routing.MultiLocation
import LumenRelay.Lib.Effect
import LumenRelay.Lib.Percent

/-!
# The outbound connector

A session is connected to its destination directly or through one proxy, by a SOCKS5 or an
HTTP CONNECT handshake.  What the network does is a script of replies, one for each `await`:
bytes, a failure (a timeout included) or a cancellation of the task.  The log keeps what the
connector did: the connections it opened and what it wrote on them.
-/

namespace Routing

open Lib Py

/-! ## The network -/

/-- What the connector does to the network. -/
inductive NetEvent
  /-- A connection is opened to a host and a port. -/
  | dial (host : Option String) (port : Option ℤ)
  | startTls (serverHostname : Option String)
  | send (bytes : List UInt8)
  | close

/-- What the network answers to an `await`. -/
inductive Reply
  | ok (bytes : List UInt8)
  | failed (e : PyErr)
  | cancelled

/-- How an attempt fails: with an exception, or because the task is cancelled. -/
inductive NetErr
  | failed (e : PyErr)
  | cancelled

/-- The replies to come and what was done so far. -/
structure Wire where
  script : List Reply
  log : List NetEvent

/-- A computation that uses the network. -/
abbrev Net (α : Type) : Type := Effect Wire NetErr α

namespace Net

/-- Do something that the network does not answer. -/
def emit (e : NetEvent) : Net Unit := Effect.edit fun s => { s with log := s.log ++ [e] }

/-- Wait for the network. -/
def receive : Net (List UInt8) := fun s =>
  match s.script with
  | [] => (.error (.failed (.osError "timed out")), s)
  | .ok bytes :: script => (.ok bytes, { s with script := script })
  | .failed e :: script => (.error (.failed e), { s with script := script })
  | .cancelled :: script => (.error .cancelled, { s with script := script })

/-- Raise an exception. -/
def fail {α : Type} (e : PyErr) : Net α := Effect.raise (.failed e)

/-- Raise an exception if a condition holds. -/
def failIf (c : Prop) [Decidable c] (e : PyErr) : Net Unit := if c then fail e else pure ()

/-- A value that may be an exception. -/
def ofExcept {α : Type} : Except PyErr α → Net α
  | .ok a => pure a
  | .error e => fail e

/-- `_dial`. -/
def dial (host : Option String) (port : Option ℤ) : Net Unit := do
  emit (.dial host port)
  let _ ← receive

/-- `writer.write` and `writer.drain`. -/
def write (bytes : List UInt8) : Net Unit := do
  emit (.send bytes)
  let _ ← receive

/-- `reader.readexactly`. -/
def readExactly (n : ℕ) : Net (List UInt8) := do
  let bytes ← receive
  failIf (bytes.length ≠ n) (.osError "incomplete read")
  return bytes

/-- Write the first packet of the client, if there is one. -/
def writeFirst (firstPacket : List UInt8) : Net Unit :=
  if firstPacket ≠ [] then write firstPacket else pure ()

/-- Close the connection when the handshake on it does not succeed. -/
def closing {α : Type} (x : Net α) : Net α := x.handle fun e => do
  emit .close
  Effect.raise e

end Net

open Net

/-! ## Proxy addresses -/

/-- What `parse_proxy_url` gives. -/
structure ProxyParams where
  scheme : String
  hostname : Option String
  port : Option ℤ
  username : String
  password : String

/-- `urllib.parse.unquote`. -/
def unquote (rt : Runtime) (text : String) : String := Percent.unquote rt.replaceUtf8 text.toList

/-- `parse_proxy_url`. -/
def parseProxyUrl (rt : Runtime) (value : String) : Except PyErr ProxyParams := do
  let url ← validateUrl rt (.str value)
  match rt.urlsplit url with
  | none => throw (.valueError "invalid URL")
  | some parsed =>
    match parsed.port with
    | none => throw (.valueError "invalid port")
    | some port =>
      return { scheme := parsed.scheme, hostname := parsed.hostname, port := port.map Int.ofNat,
               username := unquote rt (parsed.username.getD ""),
               password := unquote rt (parsed.password.getD "") }

/-- The bytes of a text. -/
def utf8Bytes (s : String) : List UInt8 := Percent.utf8 s.toList

/-- `s.strip("[]")`. -/
def stripBrackets (s : String) : String :=
  let bracket := fun c : Char => c = '[' ∨ c = ']'
  String.ofList ((s.toList.dropWhile bracket).reverse.dropWhile bracket).reverse

/-- A literal without its zone. -/
def dropZone (s : String) : String := String.ofList (s.toList.takeWhile (· ≠ '%'))

/-- `_is_ip`. -/
def isIp (rt : Runtime) (value : String) : Bool :=
  (rt.ipAddress (dropZone (stripBrackets value))).isSome

/-! ## SOCKS5 -/

/-- `int(port).to_bytes(2, "big")`. -/
def portBytes (port : ℤ) : Except PyErr (List UInt8) :=
  if 0 ≤ port ∧ port < 65536 then
    .ok [UInt8.ofNat (port.toNat / 256), UInt8.ofNat (port.toNat % 256)]
  else .error .overflowError

/-- `_socks_target`. -/
def socksTarget (rt : Runtime) (host : String) (port : ℤ) : Except PyErr (List UInt8) := do
  let bare := stripBrackets host
  match rt.ipAddress (dropZone bare) with
  | some (version, _) =>
    return (if version = 4 then 1 else 4) :: rt.ipPacked (dropZone bare) ++ (← portBytes port)
  | none =>
    match rt.idna bare with
    | none => throw (.valueError "invalid hostname")
    | some ascii =>
      let encoded := utf8Bytes ascii
      if 255 < encoded.length then throw (.valueError "SOCKS5 target hostname too long")
      return 3 :: UInt8.ofNat encoded.length :: encoded ++ (← portBytes port)

/-- `_read_socks_reply`. -/
def readSocksReply : Net Unit := do
  match ← readExactly 4 with
  | [version, code, _, kind] =>
    failIf (version ≠ 5 ∨ code ≠ 0) (.osError ("SOCKS5 CONNECT failed: " ++ toString code.toNat))
    if kind = 1 then
      let _ ← readExactly 6
    else if kind = 4 then
      let _ ← readExactly 18
    else if kind = 3 then
      let length ← readExactly 1
      let _ ← readExactly ((length.headD 0).toNat + 2)
    else fail (.osError "SOCKS5 invalid reply address type")
  | _ => fail (.osError "incomplete read")

/-- The authentication of a SOCKS5 handshake, as the greeting's reply asks for it. -/
def socksAuthenticate (params : ProxyParams) (hasAuth : Bool) (method : UInt8) : Net Unit := do
  if method = 2 then
    failIf (hasAuth = false) (.osError "SOCKS5 authentication required")
    let user := utf8Bytes params.username
    let secret := utf8Bytes params.password
    failIf (255 < user.length ∨ 255 < secret.length) (.valueError "SOCKS5 credentials too long")
    write (1 :: UInt8.ofNat user.length :: user ++ UInt8.ofNat secret.length :: secret)
    failIf ((← readExactly 2) ≠ [1, 0]) (.osError "SOCKS5 authentication failed")
  else failIf (method ≠ 0) (.osError "SOCKS5 authentication method rejected")

/-- `_socks_once`. -/
def socksOnce (rt : Runtime) (target : String) (port : ℤ) (firstPacket : List UInt8)
    (params : ProxyParams) : Net Unit := do
  dial params.hostname params.port
  closing do
    let hasAuth := params.username ≠ "" || params.password ≠ ""
    write (if hasAuth then [5, 2, 0, 2] else [5, 1, 0])
    match ← readExactly 2 with
    | [version, method] =>
      failIf (version ≠ 5) (.osError "SOCKS5 invalid greeting")
      socksAuthenticate params hasAuth method
      write (5 :: 1 :: 0 :: (← ofExcept (socksTarget rt target port)))
      readSocksReply
      writeFirst firstPacket
    | _ => fail (.osError "incomplete read")

/-! ## HTTP CONNECT -/

/-- `_connect_authority`. -/
def connectAuthority (host : String) (port : ℤ) : String :=
  let bare := stripBrackets host
  (if ':' ∈ bare.toList then "[" ++ bare ++ "]" else bare) ++ ":" ++ toString port

/-- `_connect_request`. -/
def connectRequest (rt : Runtime) (host : String) (port : ℤ) (params : ProxyParams) :
    List UInt8 :=
  let authority := connectAuthority host port
  let lines := ["CONNECT " ++ authority ++ " HTTP/1.1", "Host: " ++ authority,
    "User-Agent: Mozilla/5.0", "Proxy-Connection: keep-alive", "Connection: keep-alive"]
  let token := rt.b64encode (utf8Bytes (params.username ++ ":" ++ params.password))
  let lines := if params.username ≠ "" ∨ params.password ≠ "" then
    lines ++ ["Proxy-Authorization: Basic " ++ token] else lines
  utf8Bytes ("\r\n".intercalate lines ++ "\r\n\r\n")

/-- The bytes that separate the words of a status line. -/
def isBlank (b : UInt8) : Bool := b = 32 || (9 ≤ b && b ≤ 13)

/-- The first line of a header. -/
def firstLine : List UInt8 → List UInt8
  | 13 :: 10 :: _ => []
  | b :: l => b :: firstLine l
  | [] => []

/-- The status code of a header, -1 if there is none. -/
def statusCode (header : List UInt8) : ℤ :=
  match ((firstLine header).splitOnP isBlank).filter (· ≠ []) with
  | _ :: word :: _ =>
    if word.all fun b => 48 ≤ b && b ≤ 57 then
      (word.foldl (fun n b => 10 * n + (b.toNat - 48)) 0 : ℕ)
    else -1
  | _ => -1

/-- Start TLS to the proxy itself. -/
def startTls (rt : Runtime) (params : ProxyParams) : Net Unit := do
  let host := params.hostname.getD ""
  emit (.startTls (if isIp rt host then none else some host))
  let _ ← receive

/-- `_http_once`. -/
def httpOnce (rt : Runtime) (target : String) (port : ℤ) (firstPacket : List UInt8)
    (params : ProxyParams) (tlsToProxy : Bool) : Net Unit := do
  dial params.hostname params.port
  closing do
    (if tlsToProxy then startTls rt params else pure ())
    write (connectRequest rt target port params)
    let header ← receive
    failIf (32 * 1024 < header.length) (.osError "proxy CONNECT header too long")
    let code := statusCode header
    failIf (code < 200 ∨ 300 ≤ code) (.osError ("proxy CONNECT failed: HTTP " ++ toString code))
    writeFirst firstPacket

/-- The attempts of `_http_connect`; `last` is the last error. -/
def httpAttempts (rt : Runtime) (target : String) (port : ℤ) (firstPacket : List UInt8)
    (params : ProxyParams) : List Bool → PyErr → Net Unit
  | [], last => fail last
  | tlsToProxy :: transports, _ =>
    (httpOnce rt target port firstPacket params tlsToProxy).handle fun e =>
      match e with
      | .cancelled => Effect.raise .cancelled
      | .failed e => httpAttempts rt target port firstPacket params transports e

/-- `_http_connect`. -/
def httpConnect (rt : Runtime) (target : String) (port : ℤ) (firstPacket : List UInt8)
    (params : ProxyParams) : Net Unit :=
  let transports :=
    if params.scheme = "https" then
      if isIp rt (params.hostname.getD "") then [false, true] else [true, false]
    else [false]
  httpAttempts rt target port firstPacket params transports
    (.osError "HTTP proxy connection failed")

/-! ## The connector -/

/-- `link_uses_proxy`. -/
def linkUsesProxy (rt : Runtime) (link : Option Obj) : Bool :=
  match link with
  | none => false
  | some link =>
    (exitMode rt link = "repository" && (link.get "proxy_id").truthy) ||
      (exitMode rt link = "custom" && (link.get "custom_proxy").truthy)

/-- `_endpoint_from_link`. -/
def endpointFromLink (server : Server) (link : Option Obj) : Except PyErr (Option String) :=
  match link with
  | none => .ok none
  | some link => (resolveOwnExit server link).map fun selection => selection.map Selection.endpoint

/-- `_open_via`. -/
def openVia (rt : Runtime) (endpoint address : String) (port : ℤ) (packet : List UInt8) :
    Net Unit := do
  let params ← ofExcept (parseProxyUrl rt endpoint)
  if params.scheme = "socks5" then socksOnce rt address port packet params
  else httpConnect rt address port packet params

/-- `open_outbound`: whether the session goes through a proxy. -/
def openOutbound (server : Server) (address : String) (port : ℤ) (firstPacket : List UInt8)
    (link : Option Obj) (endpoints : Option (List String)) (proxyId : String) : Net Bool := do
  let rt := server.site.rt
  let endpoints ← match endpoints with
    | some endpoints => pure endpoints
    | none => do pure (← ofExcept (endpointFromLink server link)).toList
  match (endpoints.filter (· ≠ "")).dedup with
  | [] =>
    failIf (linkUsesProxy rt link = true) (.proxyUnavailable "configured proxy did not resolve")
    dial (some address) (some port)
    pure false
  | [endpoint] =>
    (do openVia rt endpoint address port firstPacket; pure true).handle fun e =>
      match e with
      | .cancelled => Effect.raise .cancelled
      | .failed _ =>
        let name := sliceTo 32 (if proxyId ≠ "" then proxyId else "unknown")
        fail (.osError ("selected proxy " ++ name ++ " failed closed"))
  | _ => fail (.proxyUnavailable "explicit routing accepts exactly one proxy endpoint")

end Routing
