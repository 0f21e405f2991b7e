import LumenRelay.Lib.Effect
import LumenRelay.State.Snapshot
import LumenRelay.Routing.Entries

/-!
# The operations of the panel

Links and groups are changed in memory first and the state is saved afterwards; an exception
undoes nothing.  Here is the part of each operation before its save: it reads and edits the
panel, may raise on the way, and tells whether the operation ends there or goes on to its save.
-/

namespace State

open Lib Py Routing

/-! ## Saving -/

/-- How the part of an operation before its save ends. -/
inductive Finish (α : Type)
  /-- The operation returns, and nothing is saved. -/
  | done (a : α)
  /-- The state is saved, and then the operation returns. -/
  | save (a : α)

/-- The panel and what will become of the writes of the state file. -/
structure World where
  panel : Panel
  /-- Whether the next writes succeed, one after the other; the later ones do. -/
  writes : List Bool

/-- Whether the state passes its check and has a text. -/
def storable (server : Server) (panel : Panel) : Bool :=
  match validateState (.obj (statePayload server.site.rt server.now panel)) with
  | .ok data => (server.site.rt.jsonDumps .indented (.obj data)).isSome
  | .error _ => false

/-- What a strict save raises. -/
def notSaved : PyErr :=
  .runtimeError "Persistent state could not be saved; operation was stopped"

/-- `save_state`. -/
def saveState (server : Server) (strict : Bool) : Effect World PyErr Bool := fun w =>
  let saved := storable server w.panel && w.writes.headD true
  let rest := { w with writes := w.writes.tail }
  if !saved && strict then (.error notSaved, rest) else (.ok saved, rest)

/-- An operation: its change, and the strict save that the change asks for. -/
def perform (server : Server) {α : Type} (change : Effect Panel PyErr (Finish α)) : Effect World PyErr α := fun w =>
  match change w.panel with
  | (.error e, panel) => (.error e, { w with panel := panel })
  | (.ok (.done a), panel) => (.ok a, { w with panel := panel })
  | (.ok (.save a), panel) =>
    (saveState server true >>= fun _ => pure a : Effect World PyErr α) { w with panel := panel }

/-! ## Members of a group -/

/-- `ids = sub.setdefault("link_ids", [])`, then `ids.append(uid)` unless it is there. -/
def listLink (uid : String) (sub : Obj) : Except PyErr Obj := do
  let sub := sub.setDefault "link_ids" (.arr [])
  if ← (sub.get "link_ids").contains uid then return sub
  else return sub.set "link_ids" (← (sub.get "link_ids").append uid)

/-- `ids = sub.get("link_ids", [])`, then `ids.remove(uid)` if it is there. -/
def unlistLink (uid : String) (sub : Obj) : Except PyErr Obj := do
  let ids := sub.getD "link_ids" (.arr [])
  if ← ids.contains uid then return sub.set "link_ids" (← ids.removeFirst uid) else return sub

/-- `SUBS.get(key)`, with the key. -/
def findSub (subs : Dict String Obj) : Json → Except PyErr (Option (String × Obj))
  | .str s => .ok ((subs.get? s).map fun sub => (s, sub))
  | key => if key.hashable then .ok none else .error .typeError

/-- `if key and key in SUBS:`, with what is then done to the group. -/
def onSub (key : Json) (f : Obj → Except PyErr Obj) : Effect Panel PyErr Unit := do
  if key.truthy then
    match ← Effect.lift (findSub (← Effect.read).subs key) with
    | none => return ()
    | some (s, sub) =>
      let sub ← Effect.lift (f sub)
      Effect.edit fun p => { p with subs := p.subs.set s sub }

/-- `LINKS[uid] = link`. -/
def putLink (uid : String) (link : Obj) : Effect Panel PyErr Unit :=
  Effect.edit fun p => { p with links := p.links.set uid link }

/-- `LINKS[uid].update(fields)`. -/
def updateFields (uid : String) (fields : List (String × Json)) : Effect Panel PyErr Unit :=
  Effect.edit fun p => { p with links := p.links.modify uid fun link => link.update fields }

/-- The links that name a group name none any more. -/
def freeLinks (subId : String) (links : Dict String Obj) : Dict String Obj :=
  links.mapVal fun _ link =>
    if link.get "sub_id" = .str subId then link.set "sub_id" .null else link

/-! ## Links -/

variable (server : Server)

/-- What `make_link` is called with, and its defaults. -/
structure LinkRequest where
  label : Json := .str "لینک جدید"
  limitBytes : ℤ := 0
  expiresAt : Option String := none
  note : Json := .str ""
  remark : Json := .str ""
  subId : Json := .null
  protocol : Json := .str defaultProtocol
  transportSettings : Json := .null
  security : Json := .str "tls"
  fingerprint : Json := .str defaultFingerprint
  alpn : Json := .str ""
  port : ℤ := defaultPort
  ipLimit : ℤ := 0
  speedLimitBytes : ℤ := 0
  address : Json := .str ""
  sni : Json := .str ""
  exitProxyMode : Json := .str "direct"
  proxyId : Json := .str ""
  customProxy : Json := .str ""
  requestedUuid : Json := .str ""

/-- `normalize_requested_uuid`. -/
def normalizeRequestedUuid (rt : Runtime) (value : Json) : Except PyErr String :=
  let raw := strip (value.text rt)
  if raw = "" then .ok ""
  else
    match rt.parseUuid raw with
    | none => .error (.valueError "UUID نامعتبر است؛ قالب استاندارد 36 کاراکتری وارد کنید")
    | some 0 => .error (.valueError "UUID صفر مجاز نیست")
    | some n => .ok (rt.uuidText n)

/-- `generate_uuid`, of the number that was drawn. -/
def generateUuid (rt : Runtime) (draw : ℕ) : String := rt.uuidText draw

/-- The part of `make_link` that is about Raw TCP: its endpoint is not the caller's. -/
def rawTcpRequest (panel : Panel) (r : LinkRequest) : Except PyErr LinkRequest := do
  let rt := server.site.rt
  if hasText rt r.address || hasText rt r.sni || hasText rt r.alpn then
    throw (.valueError "Raw TCP endpoint, SNI, and ALPN are managed by the verified deployment")
  if r.port ≠ defaultPort then
    throw (.valueError "Raw TCP port is assigned by the Railway TCP Proxy")
  let r := { r with address := .str "", sni := .str "", alpn := .str "" }
  if r.subId.truthy then
    let sub ← lookupKey panel.subs r.subId
    validateRawTcpMultiLocation server.site
      (some [("protocol", .str "vless-tcp"), ("address", r.address), ("port", .int r.port),
        ("sni", r.sni)])
      (sub.elim .null fun sub => sub.get "multi_location")
  return r

/-- An address or a name that may be left out. -/
def optionalText (rt : Runtime) (normalize : Json → Except PyErr String) (value : Json) :
    Except PyErr String :=
  if hasText rt value then normalize value else .ok ""

/-- `value.strip()[:n]`. -/
def cutText (n : ℕ) (value : Json) : Except PyErr String := do
  return sliceTo n (← stripText value)

/-- A fingerprint that is known, or the default. -/
def knownFingerprint (fingerprint : String) : String :=
  if fingerprint ∈ fingerprints then fingerprint else defaultFingerprint

/-- A port in the range of ports, or the default. -/
def knownPort (port : ℤ) : ℤ := if 1 ≤ port ∧ port ≤ 65535 then port else defaultPort

/-- The record of a new link. -/
def linkRecord (r : LinkRequest) (protocol : String) (settings : Obj) (fingerprint address sni : String)
    (exit : String × String × String) : Except PyErr Obj := do
  let label ← cutText 60 (r.label.or (.str "لینک جدید"))
  let note ← cutText 200 (r.note.or (.str ""))
  let remark ← cutText 120 (r.remark.or (r.label.or (.str "Lumen Relay")))
  let alpn ← cutText 100 (r.alpn.or (.str ""))
  return [("label", .str (if label ≠ "" then label else "لینک جدید")),
    ("limit_bytes", .int (max 0 r.limitBytes)), ("used_bytes", .int 0),
    ("created_at", .str (server.site.rt.isoformat server.now)), ("active", .bool true),
    ("expires_at", r.expiresAt.elim .null .str), ("note", .str note), ("remark", .str remark),
    ("is_default", .bool false), ("sub_id", r.subId), ("protocol", .str protocol),
    ("transport_settings", .obj settings), ("fingerprint", .str fingerprint), ("alpn", .str alpn),
    ("port", .int (knownPort r.port)), ("ip_limit", .int (max 0 r.ipLimit)),
    ("speed_limit_bytes", .int (max 0 r.speedLimitBytes)), ("address", .str address),
    ("sni", .str sni), ("exit_proxy_mode", .str exit.1), ("proxy_id", .str exit.2.1),
    ("custom_proxy", .str exit.2.2)]

/-- `normalize_requested_uuid(requested_uuid) or generate_uuid()`. -/
def linkId (rt : Runtime) (draw : ℕ) (requested : String) : String :=
  if requested ≠ "" then requested else generateUuid rt draw

/-- The id and the record of a new link whose transport is known. -/
def newLink (draw : ℕ) (panel : Panel) (r : LinkRequest) (protocol : String) (settings : Obj) :
    Except PyErr (String × Obj) := do
  let rt := server.site.rt
  let fingerprint ← stripText (r.fingerprint.or (.str defaultFingerprint))
  let address ← optionalText rt (normalizeAddress rt) r.address
  let sni ← optionalText rt (normalizeSni rt) r.sni
  let exit ← normalizeExitProxy server r.exitProxyMode r.proxyId r.customProxy
  let requested ← normalizeRequestedUuid rt r.requestedUuid
  let uid := linkId rt draw requested
  if panel.links.contains uid then throw (.valueError "این UUID قبلاً استفاده شده است")
  let link ← linkRecord server r protocol settings (knownFingerprint (rt.lower fingerprint))
    address sni exit
  return (uid, link)

/-- The part of `make_link` before it changes anything: the id and the record. -/
def prepareLink (draw : ℕ) (panel : Panel) (r : LinkRequest) : Except PyErr (String × Obj) := do
  let (protocol, settings) ← Transports.validate server.site r.protocol r.transportSettings
  let _ ← Transports.validateSecurity server.site (.str protocol) r.security
  if protocol = "vless-tcp" then
    newLink server draw panel (← rawTcpRequest server panel r) protocol settings
  else newLink server draw panel r protocol settings

/-- `make_link`. -/
def makeLink (draw : ℕ) (r : LinkRequest) : Effect Panel PyErr (Finish (String × Obj)) := do
  let (uid, link) ← Effect.lift (prepareLink server draw (← Effect.read) r)
  putLink uid link
  onSub r.subId (listLink uid)
  return .save (uid, link)

/-- `remove_link`: the label of the link. -/
def removeLink (uid : String) : Effect Panel PyErr (Finish (Option Json)) := do
  match (← Effect.read).links.get? uid with
  | none => return .done none
  | some link =>
    Effect.edit fun p => { p with links := p.links.erase uid }
    onSub (link.get "sub_id") (unlistLink uid)
    return .save (some (link.getD "label" (.str uid)))

/-- `set_link_active`. -/
def setLinkActive (uid : String) (active : Json) : Effect Panel PyErr (Finish (Option Obj)) := do
  match (← Effect.read).links.get? uid with
  | none => return .done none
  | some link =>
    updateFields uid [("active", .bool active.truthy)]
    if !link.has "label" then Effect.raise .keyError
    return .save (some (link.set "active" (.bool active.truthy)))

/-! ## Groups -/

/-- `hash_password`. -/
def hashPassword (site : Site) (password : String) : String := site.rt.sha256 (password ++ site.secret)

/-- `hash_password(password) if password else None`. -/
def passwordHash (site : Site) (password : String) : Json :=
  if password ≠ "" then .str (hashPassword site password) else .null

/-- The record of a new group. -/
def subRecord (name desc password : String) (token : Token) : Obj :=
  [("name", .str name), ("desc", .str desc), ("password_hash", passwordHash server.site password),
    ("uuid_key", .str token.text), ("created_at", .str (server.site.rt.isoformat server.now)),
    ("link_ids", .arr []), ("multi_location", defaultMultiLocation)]

/-- `create_sub_group`. -/
def createSubGroup (draw : ℕ) (token : Token) (name desc password : Json) : Effect Panel PyErr (Finish (String × Obj)) := do
  let name ← Effect.lift (cutText 60 (name.or (.str "گروه جدید")))
  let desc ← Effect.lift (cutText 200 (desc.or (.str "")))
  let password ← Effect.lift (stripText (password.or (.str "")))
  let subId := generateUuid server.site.rt draw
  let sub := subRecord server name desc password token
  Effect.edit fun p => { p with subs := p.subs.set subId sub }
  return .save (subId, sub)

/-- A group as the argument of `set_link_sub`. -/
def subKey (subId : Option String) : Json := subId.elim .null .str

/-- `set_link_sub`. -/
def setLinkSub (uid : String) (subId : Option String) : Effect Panel PyErr (Finish Bool) := do
  let p ← Effect.read
  match p.links.get? uid, subId.elim (some none) fun s => (p.subs.get? s).map some with
  | none, _ => return .done false
  | _, none => return .done false
  | some link, some target =>
    let ml := target.elim .null fun sub => sub.get "multi_location"
    match validateRawTcpMultiLocation server.site (some link) ml with
    | .error (.valueError _) => return .done false
    | .error e => Effect.raise e
    | .ok () =>
      onSub (link.get "sub_id") (unlistLink uid)
      onSub (subKey subId) (listLink uid)
      updateFields uid [("sub_id", subKey subId)]
      return .save true

/-- `remove_sub_group`: the name of the group. -/
def removeSubGroup (subId : String) : Effect Panel PyErr (Finish (Option Json)) := do
  match (← Effect.read).subs.get? subId with
  | none => return .done none
  | some sub =>
    Effect.edit fun p => { p with subs := p.subs.erase subId }
    Effect.edit fun p => { p with links := freeLinks subId p.links }
    return .save (some (sub.getD "name" (.str subId)))

/-- `delete_sub`: the same, but an unknown group is an error. -/
def deleteSub (subId : String) : Effect Panel PyErr (Finish Unit) := do
  if !(← Effect.read).subs.contains subId then Effect.raise (.http 404 "sub not found")
  Effect.edit fun p => { p with subs := p.subs.erase subId }
  Effect.edit fun p => { p with links := freeLinks subId p.links }
  return .save ()

end State
