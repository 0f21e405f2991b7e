import LumenRelay.Lib.Machine
import LumenRelay.State.Operations

/-!
# Requests that edit links and groups

A request is a JSON body.  Its fields are checked against what is in memory, and then assigned
to the record one after the other, so that an assignment that raises leaves the ones before it
in place.  The last section has all operations on links and groups as one type.
-/

namespace State

open Lib Py Routing

/-! ## Numbers and dates -/

/-- `parse_size_to_bytes`. -/
def parseSizeToBytes (rt : Runtime) (value : PyFloat) : Json → Except PyErr ℤ
  | .str unit =>
    let unit := rt.upper unit
    if unit = "GB" then (Json.float (value.scale rt (1024 ^ 3))).toInt rt
    else if unit = "MB" then (Json.float (value.scale rt (1024 ^ 2))).toInt rt
    else if unit = "KB" then (Json.float (value.scale rt 1024)).toInt rt
    else (Json.float value).toInt rt
  | _ => .error .attributeError

/-- `parse_speed_to_bytes`. -/
def parseSpeedToBytes (rt : Runtime) (value : PyFloat) (unit : Json) : Except PyErr ℤ :=
  if value.nonpos then .ok 0
  else
    match unit.or (.str "MBIT") with
    | .str unit =>
      let unit := rt.upper unit
      if unit = "MBIT" then (Json.float ((value.scale rt 1000000).scale rt (1 / 8))).toInt rt
      else if unit = "KB" then (Json.float (value.scale rt 1024)).toInt rt
      else if unit = "MB" then (Json.float ((value.scale rt 1024).scale rt 1024)).toInt rt
      else (Json.float value).toInt rt
    | _ => .error .attributeError

/-- `0 if value <= 0 else parse(value, unit)`, of the fields of a request. -/
def requestAmount (rt : Runtime) (parse : PyFloat → Json → Except PyErr ℤ) (value unit : Json) :
    Except PyErr ℤ := do
  let amount ← (value.or (.int 0)).toFloat rt
  if amount.nonpos then return 0
  parse amount unit

/-- The limit of a request. -/
def requestLimit (rt : Runtime) (body : Obj) : Except PyErr ℤ :=
  requestAmount rt (parseSizeToBytes rt) (body.get "limit_value")
    ((body.get "limit_unit").or (.str "GB"))

/-- The speed limit of a request. -/
def requestSpeed (rt : Runtime) (body : Obj) : Except PyErr ℤ :=
  requestAmount rt (parseSpeedToBytes rt) (body.get "speed_limit_value")
    ((body.get "speed_limit_unit").or (.str "MBIT"))

/-- A day in microseconds. -/
def day : ℤ := 86400000000

/-- The last microsecond of the year 9999. -/
def lastInstant : ℤ := 3652059 * day - 1

/-- The date of expiry that a request asks for; there are no dates after the year 9999. -/
def requestExpiry (server : Server) (body : Obj) : Except PyErr (Option String) := do
  let days ← ((body.get "expires_days").or (.int 0)).toInt server.site.rt
  if days ≤ 0 then return none
  if lastInstant < server.now + days * day then throw .overflowError
  return some (server.site.rt.isoformat (server.now + days * day))

/-- `int(value or default)`, and the default for what is no number. -/
def intOr (rt : Runtime) (default : ℤ) (value : Json) : Except PyErr ℤ :=
  match (value.or (.int default)).toInt rt with
  | .ok n => .ok n
  | .error .typeError => .ok default
  | .error (.valueError _) => .ok default
  | .error e => .error e

/-- `except ValueError as exc: raise HTTPException(status_code=400, detail=str(exc))`. -/
def badRequest {α : Type} : Except PyErr α → Except PyErr α
  | .error (.valueError message) => .error (.http 400 message)
  | r => r

/-! ## Assignments to the fields of a record -/

/-- An assignment to a field of a record.  Its value may depend on the record as it is by then;
there may be none, and finding it may raise. -/
structure FieldWrite where
  key : String
  value : Obj → Except PyErr (Option Json)

/-- Assignments, one after the other. -/
def writeFields : List FieldWrite → Effect Obj PyErr Unit
  | [] => return ()
  | w :: writes => do
    match ← Effect.lift (w.value (← Effect.read)) with
    | none => pure ()
    | some v => Effect.edit fun record => record.set w.key v
    writeFields writes

/-- The assignment of a value that is known beforehand, if there is one. -/
def fixedWrite (key : String) (v : Option Json) : FieldWrite := ⟨key, fun _ => .ok v⟩

/-- The assignment that a field of a request asks for. -/
def requestWrite (body : Obj) (field key : String) (f : Json → Except PyErr Json) : FieldWrite :=
  ⟨key, fun _ => if body.has field then do return some (← f (body.get field)) else return none⟩

/-- Edit a record in place, if it is there. -/
def editRecord (records : Dict String Obj) (key : String) (x : Effect Obj PyErr Unit) :
    Except PyErr Unit × Dict String Obj :=
  match records.get? key with
  | none => (.ok (), records)
  | some record => ((x record).1, records.set key (x record).2)

/-- Edit `LINKS[uid]`. -/
def editLink (uid : String) (x : Effect Obj PyErr Unit) : Effect Panel PyErr Unit := fun p =>
  ((editRecord p.links uid x).1, { p with links := (editRecord p.links uid x).2 })

/-- Edit `SUBS[sub_id]`. -/
def editSub (subId : String) (x : Effect Obj PyErr Unit) : Effect Panel PyErr Unit := fun p =>
  ((editRecord p.subs subId x).1, { p with subs := (editRecord p.subs subId x).2 })

variable (server : Server)

/-! ## Editing a link -/

/-- The group that a request names must exist, and a Raw TCP link must fit its locations. -/
def checkGroup (panel : Panel) (link body : Obj) : Except PyErr Unit :=
  if (body.get "sub_id").truthy then
    match panel.subs.get? ((body.get "sub_id").toStr server.site.rt) with
    | none => .error (.http 404 "sub not found")
    | some sub =>
      badRequest (validateRawTcpMultiLocation server.site (some link) (sub.get "multi_location"))
  else .ok ()

/-- The transport of an edited link: it may be named again, but it cannot be changed. -/
def transportUpdate (link body : Obj) : Except PyErr (Option (String × Obj)) := do
  if !body.has "protocol" && !body.has "transport_settings" then return none
  let current := link.getD "protocol" (.str defaultProtocol)
  let (protocol, settings) ← badRequest (Transports.validate server.site
    (body.getD "protocol" current) (body.getD "transport_settings" (link.get "transport_settings")))
  if .str protocol ≠ current then
    throw (.http 400 "Transport cannot be changed after a config is created")
  return some (protocol, settings)

/-- The exit of an edited link; a proxy that was not its own before needs a receipt. -/
def exitUpdate (link body : Obj) : Except PyErr (Option (String × String × String)) := do
  if !(["exit_proxy_mode", "proxy_id", "custom_proxy"].any body.has) then return none
  let rt := server.site.rt
  let currentMode := link.getD "exit_proxy_mode" (.str "direct")
  let currentProxy := link.getD "proxy_id" (.str "")
  let mode := rt.lower ((body.getD "exit_proxy_mode" currentMode).toStr rt)
  let proxyId := strip ((body.getD "proxy_id" currentProxy).text rt)
  if mode = "repository" ∧ (.str mode ≠ currentMode ∨ .str proxyId ≠ currentProxy) then
    badRequest (requireProxyTestReceipt server proxyId (body.getD "proxy_test_receipt" (.str "")))
  return some (← badRequest (normalizeExitProxy server (.str mode) (.str proxyId)
    (body.getD "custom_proxy" (link.getD "custom_proxy" (.str "")))))

/-- The checks of `update_link`, before it changes anything. -/
def checkLinkUpdate (panel : Panel) (link body : Obj) :
    Except PyErr (Option (String × Obj) × Option (String × String × String)) := do
  let protocol := link.getD "protocol" (.str defaultProtocol)
  checkGroup server panel link body
  if protocol = .str "vless-tcp" ∧ ["address", "sni", "alpn", "port"].any body.has then
    throw (.http 400
      "Raw TCP endpoint, SNI, ALPN, and port are managed by the verified deployment")
  let transport ← transportUpdate server link body
  if body.has "security" then
    let _ ← badRequest (Transports.validateSecurity server.site protocol (body.get "security"))
  let exit ← exitUpdate server link body
  return (transport, exit)

/-- The assignments of `update_link`. -/
def linkWrites (host : String) (body : Obj) (transport : Option (String × Obj))
    (exit : Option (String × String × String)) : List FieldWrite :=
  let rt := server.site.rt
  [requestWrite body "active" "active" fun v => .ok (.bool v.truthy),
    requestWrite body "label" "label" fun v => .ok (.str (sliceTo 60 (v.toStr rt))),
    requestWrite body "note" "note" fun v => .ok (.str (sliceTo 200 (v.toStr rt))),
    -- the label is read as it was just assigned
    ⟨"remark", fun link => .ok (if body.has "remark" then
      some (.str (sliceTo 120 (strip (((body.get "remark").or
        ((link.get "label").or (.str "Lumen Relay"))).toStr rt)))) else none)⟩,
    fixedWrite "used_bytes" (if (body.get "reset_usage").truthy then some (.int 0) else none),
    requestWrite body "limit_value" "limit_bytes" fun _ => do return .int (← requestLimit rt body),
    requestWrite body "expires_days" "expires_at" fun _ => do
      return (← requestExpiry server body).elim .null .str,
    requestWrite body "fingerprint" "fingerprint" fun v =>
      .ok (.str (knownFingerprint (rt.lower (strip ((v.or (.str defaultFingerprint)).toStr rt))))),
    requestWrite body "alpn" "alpn" fun v => .ok (.str (sliceTo 100 (strip (v.text rt)))),
    requestWrite body "port" "port" fun v => do
      return .int (knownPort (← intOr rt defaultPort v)),
    requestWrite body "ip_limit" "ip_limit" fun v => do return .int (max 0 (← intOr rt 0 v)),
    requestWrite body "speed_limit_value" "speed_limit_bytes" fun _ => do
      return .int (← requestSpeed rt body),
    requestWrite body "address" "address" fun v => do
      return .str (← badRequest (normalizeAddress rt (v.or (.str host)))),
    requestWrite body "sni" "sni" fun v => do
      return .str (← badRequest (optionalText rt (normalizeSni rt) v)),
    fixedWrite "protocol" (transport.map fun t => .str t.1),
    fixedWrite "transport_settings" (transport.map fun t => .obj t.2),
    fixedWrite "exit_proxy_mode" (exit.map fun e => .str e.1),
    fixedWrite "proxy_id" (exit.map fun e => .str e.2.1),
    fixedWrite "custom_proxy" (exit.map fun e => .str e.2.2)]

/-- The fields of a request after which the label is read again. -/
def loggedFields : List String :=
  ["label", "note", "remark", "limit_value", "expires_days", "protocol", "transport_settings",
    "fingerprint", "alpn", "port", "ip_limit", "speed_limit_value", "address", "sni",
    "exit_proxy_mode", "proxy_id", "custom_proxy"]

/-- The last part of `update_link`: the group of the link, if the request names one. -/
def regroupLink (uid : String) (oldSub newSub : Json) : Effect Panel PyErr Unit := do
  if newSub ≠ .str "UNCHANGED" then
    updateFields uid [("sub_id", newSub.or .null)]
    onSub oldSub (unlistLink uid)
    onSub newSub (listLink uid)

/-- `update_link`; a body that is no object raises at the first field it is asked for. -/
def updateLink (uid host : String) (body : Json) : Effect Panel PyErr (Finish Unit) := do
  let panel ← Effect.read
  match panel.links.get? uid, body with
  | none, _ => Effect.raise (.http 404 "link not found")
  | some link, .obj body =>
    let (transport, exit) ← Effect.lift (checkLinkUpdate server panel link body)
    editLink uid (writeFields (linkWrites server host body transport exit))
    if loggedFields.any (Obj.has body) && !Obj.has body "label" && !link.has "label" then
      Effect.raise .keyError
    regroupLink uid (link.get "sub_id") (Obj.getD body "sub_id" (.str "UNCHANGED"))
    return .save ()
  | some _, _ => Effect.raise .attributeError

/-! ## Creating a link -/

/-- The address and the server name of a new link. -/
def requestEndpoint (host : String) (body : Obj) : Except PyErr (String × String) :=
  let rt := server.site.rt
  if body.getD "protocol" (.str defaultProtocol) = .str "vless-tcp" then
    if ["address", "sni", "alpn", "port"].any fun name => hasText rt (body.get name) then
      .error (.http 400
        "Raw TCP endpoint, SNI, ALPN, and port are managed by the verified deployment")
    else .ok ("", "")
  else badRequest do
    let address ← normalizeAddress rt ((body.get "address").or (.str host))
    let sni ← optionalText rt (normalizeSni rt) (body.get "sni")
    return (address, sni)

/-- The exit of a new link. -/
def requestExit (body : Obj) : Except PyErr (String × String × String) := badRequest do
  let rt := server.site.rt
  let mode := rt.lower (((body.get "exit_proxy_mode").or (.str "direct")).toStr rt)
  let proxyId := strip ((body.get "proxy_id").text rt)
  if mode = "repository" then
    requireProxyTestReceipt server proxyId (body.getD "proxy_test_receipt" (.str ""))
  normalizeExitProxy server (.str mode) (.str proxyId) (body.getD "custom_proxy" (.str ""))

/-- What `create_link` calls `make_link` with. -/
def linkRequest (host : String) : Json → Except PyErr LinkRequest
  | .obj body => do
    let rt := server.site.rt
    let (address, sni) ← requestEndpoint server host body
    let limitBytes ← requestLimit rt body
    let expiresAt ← requestExpiry server body
    let port ← intOr rt defaultPort (Obj.get body "port")
    let ipLimit ← intOr rt 0 (Obj.get body "ip_limit")
    let speedLimitBytes ← requestSpeed rt body
    let (exitMode, proxyId, customProxy) ← requestExit server body
    return {
      label := (Obj.get body "label").or (.str "لینک جدید")
      limitBytes := limitBytes
      expiresAt := expiresAt
      note := (Obj.get body "note").or (.str "")
      remark := (Obj.get body "remark").or ((Obj.get body "label").or (.str "Lumen Relay"))
      subId := (Obj.get body "sub_id").or .null
      protocol := Obj.getD body "protocol" (.str defaultProtocol)
      transportSettings := Obj.get body "transport_settings"
      security := Obj.getD body "security" (.str "tls")
      fingerprint := (Obj.get body "fingerprint").or (.str defaultFingerprint)
      alpn := (Obj.get body "alpn").or (.str "")
      port := port
      ipLimit := ipLimit
      speedLimitBytes := speedLimitBytes
      address := .str address
      sni := .str sni
      exitProxyMode := .str exitMode
      proxyId := .str proxyId
      customProxy := .str customProxy
      requestedUuid := (Obj.get body "uuid").or (.str "") }
  | _ => .error (.http 400 "invalid body")

/-- `create_link`, up to its answer. -/
def createLink (draw : ℕ) (host : String) (body : Json) :
    Effect Panel PyErr (Finish (String × Obj)) := do
  let r ← Effect.lift (linkRequest server host body)
  (makeLink server draw r).handle fun e =>
    match e with
    | .valueError message => Effect.raise (.http 400 message)
    | e => Effect.raise e

/-! ## Groups -/

/-- `create_sub`, up to its answer. -/
def createSub (draw : ℕ) (token : Token) : Json → Effect Panel PyErr (Finish (String × Obj))
  | .obj body =>
    createSubGroup server draw token ((Obj.get body "name").or (.str "گروه جدید"))
      ((Obj.get body "desc").or (.str "")) ((Obj.get body "password").or (.str ""))
  | _ => Effect.raise (.http 400 "invalid body")

/-- The locations of an edited group. -/
def subConfiguration (panel : Panel) (tokens : ℕ → Token) (subId : String) (body : Obj) :
    Except PyErr (Option Obj) := do
  if !body.has "multi_location" then return none
  let previous := (panel.subs.get? subId).elim .null fun sub => sub.get "multi_location"
  return some (← badRequest (validateMultiLocation server panel tokens (body.get "multi_location")
    previous true))

/-- The links of a request that are known, each once. -/
def knownIds (rt : Runtime) (links : Dict String Obj) (rawIds : List Json) : List String :=
  rawIds.foldl (fun cleanIds lid =>
    let lid := lid.text rt
    if lid ≠ "" ∧ links.contains lid ∧ lid ∉ cleanIds then cleanIds ++ [lid] else cleanIds) []

/-- The members of an edited group. -/
def subMembers (panel : Panel) (body : Obj) : Except PyErr (Option (List String)) :=
  if !body.has "link_ids" then .ok none
  else
    match body.get "link_ids" with
    | .arr rawIds => .ok (some (knownIds server.site.rt panel.links rawIds))
    | _ => .error (.http 400 "link_ids must be a list")

/-- `[LINKS.get(link_id) for link_id in ids]`. -/
def prospectiveLinks (panel : Panel) : List Json → Except PyErr (List (Option Obj))
  | [] => .ok []
  | lid :: ids => do
    let link ← lookupKey panel.links lid
    return link :: (← prospectiveLinks panel ids)

/-- The Raw TCP links of an edited group must fit its locations. -/
def checkMembers (panel : Panel) (subId : String) (ml : Option Obj) (ids : Option (List String)) :
    Except PyErr Unit := do
  if ml.isNone && ids.isNone then return ()
  match panel.subs.get? subId with
  | none => throw (.http 404 "sub not found")
  | some sub =>
    let prospectiveIds ← match ids with
      | some ids => pure (ids.map Json.str)
      | none => (sub.getD "link_ids" (.arr [])).iterate
    let links ← prospectiveLinks panel prospectiveIds
    badRequest (links.forM fun link =>
      validateRawTcpMultiLocation server.site link (ml.elim (sub.get "multi_location") .obj))

/-- `set(ids)`. -/
def idSet (ids : Json) : Except PyErr (List Json) := do
  let ids ← ids.iterate
  if ids.all Json.hashable then return ids
  throw .typeError

/-- The assignments of `update_sub` that are not about members. -/
def subFieldWrites (body : Obj) (ml : Option Obj) : List FieldWrite :=
  let rt := server.site.rt
  [requestWrite body "name" "name" fun v => .ok (.str (sliceTo 60 (v.toStr rt))),
    requestWrite body "desc" "desc" fun v => .ok (.str (sliceTo 200 (v.toStr rt))),
    requestWrite body "password" "password_hash" fun v =>
      .ok (passwordHash server.site (strip (v.toStr rt))),
    fixedWrite "multi_location" (ml.map .obj)]

/-- The assignment of members; the old ones are read before they are replaced. -/
def membersWrite (ids : Option (List String)) : FieldWrite where
  key := "link_ids"
  value := fun sub =>
    match ids with
    | none => .ok none
    | some ids => do
      let _ ← idSet (sub.getD "link_ids" (.arr []))
      return some (.arr (ids.map .str))

/-- The assignments of `update_sub`. -/
def subWrites (body : Obj) (ml : Option Obj) (ids : Option (List String)) : List FieldWrite :=
  subFieldWrites server body ml ++ [membersWrite ids]

/-- The links that left a group name it no more. -/
def releaseLink (subId : String) (links : Dict String Obj) : Json → Dict String Obj
  | .str uid => links.modify uid fun link =>
    if link.get "sub_id" = .str subId then link.set "sub_id" .null else link
  | _ => links

/-- The links that came to a group name it; the groups they named before are recorded. -/
def claimLinks (subId : String) : List String → Dict String Obj → Dict String Obj × List (Json × String)
  | [], links => (links, [])
  | uid :: ids, links =>
    match links.get? uid with
    | none => claimLinks subId ids links
    | some link =>
      let (links, moved) := claimLinks subId ids (links.set uid (link.set "sub_id" (.str subId)))
      let prev := link.get "sub_id"
      (links, if prev.truthy ∧ prev ≠ .str subId then (prev, uid) :: moved else moved)

/-- The groups that links were taken from list them no more. -/
def detachAll : List (Json × String) → Effect Panel PyErr Unit
  | [] => return ()
  | (prev, uid) :: moved => do
    onSub prev (unlistLink uid)
    detachAll moved

/-- The second part of `update_sub`: each link agrees with the new members of the group. -/
def syncMembers (subId : String) (oldIds : List Json) (ids : List String) :
    Effect Panel PyErr Unit := do
  let gone := oldIds.filter fun lid => lid ∉ ids.map Json.str
  let came := ids.filter fun lid => Json.str lid ∉ oldIds
  let panel ← Effect.read
  let (links, moved) := claimLinks subId came (gone.foldl (releaseLink subId) panel.links)
  Effect.edit fun p => { p with links := links }
  detachAll moved

/-- `update_sub`. -/
def updateSub (tokens : ℕ → Token) (subId : String) : Json → Effect Panel PyErr (Finish Unit)
  | .obj body => do
    let panel ← Effect.read
    let ml ← Effect.lift (subConfiguration server panel tokens subId body)
    let ids ← Effect.lift (subMembers server panel body)
    Effect.lift (checkMembers server panel subId ml ids)
    match panel.subs.get? subId with
    | none => Effect.raise (.http 404 "sub not found")
    | some sub =>
      editSub subId (writeFields (subWrites server body ml ids))
      match ids with
      | none => return .save ()
      | some ids =>
        let oldIds ← Effect.lift (idSet (sub.getD "link_ids" (.arr [])))
        syncMembers subId oldIds ids
        return .save ()
  | _ => Effect.raise (.http 400 "invalid body")

/-- What `assign_link_to_sub` does to the group. -/
def assignMember (uid : String) (add : Bool) (sub : Obj) : Except PyErr Obj :=
  if add then listLink uid sub else unlistLink uid (sub.setDefault "link_ids" (.arr []))

/-- A link that comes to a group must be known, and fit its locations. -/
def checkAssigned (panel : Panel) (uid : String) (add : Bool) (sub : Obj) : Except PyErr Unit :=
  if add then
    match panel.links.get? uid with
    | none => .error (.http 404 "link not found")
    | some link =>
      badRequest (validateRawTcpMultiLocation server.site (some link) (sub.get "multi_location"))
  else .ok ()

/-- `assign_link_to_sub`. -/
def assignLinkToSub (subId : String) : Json → Effect Panel PyErr (Finish Unit)
  | .obj body => do
    let rt := server.site.rt
    let uid := (Obj.getD body "link_id" (.str "")).toStr rt
    let add := decide ((Obj.getD body "action" (.str "add")).toStr rt = "add")
    let panel ← Effect.read
    match panel.subs.get? subId with
    | none => Effect.raise (.http 404 "sub not found")
    | some sub =>
      Effect.lift (checkAssigned server panel uid add sub)
      let sub ← Effect.lift (assignMember uid add sub)
      Effect.edit fun p => { p with subs := p.subs.set subId sub }
      updateFields uid [("sub_id", if add then .str subId else .null)]
      return .save ()
  | _ => Effect.raise .attributeError

/-! ## All operations -/

/-- `.done` and `.save` without a result. -/
def Finish.discard {α : Type} : Finish α → Finish Unit
  | .done _ => .done ()
  | .save _ => .save ()

/-- An operation on links and groups with its arguments and its draws. -/
inductive Op
  | makeLink (draw : ℕ) (r : LinkRequest)
  | createLink (draw : ℕ) (host : String) (body : Json)
  | removeLink (uid : String)
  | setLinkActive (uid : String) (active : Json)
  | updateLink (uid host : String) (body : Json)
  | createSubGroup (draw : ℕ) (token : Token) (name desc password : Json)
  | createSub (draw : ℕ) (token : Token) (body : Json)
  | setLinkSub (uid : String) (subId : Option String)
  | removeSubGroup (subId : String)
  | deleteSub (subId : String)
  | updateSub (tokens : ℕ → Token) (subId : String) (body : Json)
  | assignLinkToSub (subId : String) (body : Json)

/-- The part of an operation before its save. -/
def Op.change : Op → Effect Panel PyErr (Finish Unit)
  | .makeLink draw r => do return (← State.makeLink server draw r).discard
  | .createLink draw host body => do return (← State.createLink server draw host body).discard
  | .removeLink uid => do return (← State.removeLink uid).discard
  | .setLinkActive uid active => do return (← State.setLinkActive uid active).discard
  | .updateLink uid host body => State.updateLink server uid host body
  | .createSubGroup draw token name desc password => do
    return (← State.createSubGroup server draw token name desc password).discard
  | .createSub draw token body => do return (← State.createSub server draw token body).discard
  | .setLinkSub uid subId => do return (← State.setLinkSub server uid subId).discard
  | .removeSubGroup subId => do return (← State.removeSubGroup subId).discard
  | .deleteSub subId => State.deleteSub subId
  | .updateSub tokens subId body => State.updateSub server tokens subId body
  | .assignLinkToSub subId body => State.assignLinkToSub server subId body

/-- A whole operation. -/
def Op.run (op : Op) : Effect World PyErr Unit := perform server (op.change server)

/-- Operations one after the other, each with the clock and the configuration of its time; the
events are their results. -/
def operations : Machine World (Server × Op) (Except PyErr Unit) where
  step w l := some ((l.2.run l.1 w).2, [(l.2.run l.1 w).1])

end State
