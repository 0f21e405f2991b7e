import LumenRelay.Routing.Performance
import LumenRelay.Routing.RawTcp

/-!
# The proxy catalog

A proxy is known by a digest of its address.  The catalog is the last list of proxies that was
fetched; a link refers to a proxy by its id, or brings an address of its own.
-/

namespace Routing

open Lib Py

/-! ## Records -/

/-- The checks of `validate_url`. -/
def urlRefusal (rt : Runtime) (parsed : Url) : Option String :=
  if rt.lower parsed.scheme ∉ ["http", "https", "socks5"] then
    some "scheme must be http, https, or socks5"
  else if parsed.hostname.getD "" = "" then some "host is missing"
  else
    match parsed.port with
    | none => some "invalid port"
    | some port =>
      if port.getD 0 = 0 ∨ 65535 < port.getD 0 then some "port must be 1..65535"
      else if (parsed.path ≠ "" ∧ parsed.path ≠ "/") ∨ parsed.query ≠ "" then
        some "path/query is not allowed"
      else none

/-- `validate_url`: the canonical address of a proxy. -/
def validateUrl (rt : Runtime) (value : Json) : Except PyErr String :=
  match rt.urlsplit (strip (String.ofList ((value.text rt).toList.takeWhile (· ≠ '#')))) with
  | none => .error (.valueError "invalid URL")
  | some parsed =>
    match urlRefusal rt parsed with
    | some message => .error (.valueError message)
    | none => .ok (rt.lower parsed.scheme ++ "://" ++ parsed.netloc)

/-- A canonical address is not empty. -/
lemma validateUrl_ne_empty {rt : Runtime} {value : Json} {endpoint : String}
    (h : validateUrl rt value = .ok endpoint) : endpoint ≠ "" := by
  unfold validateUrl at h
  split at h
  · cases h
  · split at h
    · cases h
    · cases h
      intro hempty
      have hlength := congrArg String.length hempty
      simp at hlength

/-- `Record`. -/
structure Record where
  id : String
  endpoint : String
  type : String
  country : String
  code : String
  flag : String
  health : ℤ
deriving DecidableEq, Repr

/-- The id of a proxy: a salted digest of its address. -/
def proxyIdentity (rt : Runtime) (endpoint : String) : String :=
  sliceTo 24 (rt.sha256 ("lumen-managed-v15" ++ endpoint))

/-- `_records`: the proxies by their ids, each with a canonical address. -/
structure Catalog (rt : Runtime) where
  records : Dict String Record
  ne_empty : ∀ key record, records.get? key = some record → key ≠ ""
  keyed : ∀ key record, records.get? key = some record → record.id = key
  identity : ∀ key record, records.get? key = some record →
    record.id = proxyIdentity rt record.endpoint
  canonical : ∀ key record, records.get? key = some record →
    ∃ raw, validateUrl rt (.str raw) = .ok record.endpoint

namespace Catalog

variable {rt : Runtime} (cat : Catalog rt)

/-- `get_record`, and `resolve`, which reads the same cache. -/
def getRecord (proxyId : String) : Option Record := cat.records.get? proxyId

/-- The catalog before the first fetch. -/
def empty (rt : Runtime) : Catalog rt := ⟨.empty, by simp, by simp, by simp, by simp⟩

/-- The catalog of some proxies. -/
def ofRecords (rows : List Record) (h : ∀ row ∈ rows, row.id ≠ "" ∧
    row.id = proxyIdentity rt row.endpoint ∧
    validateUrl rt (.str row.endpoint) = .ok row.endpoint) : Catalog rt :=
  have hmem : ∀ {key record},
      (Dict.ofList (rows.map fun row => (row.id, row))).get? key = some record →
        record.id = key ∧ record ∈ rows := by
    intro key record hget
    obtain ⟨row, hrow, heq⟩ := List.mem_map.mp (Dict.mem_of_get?_ofList hget)
    obtain ⟨rfl, rfl⟩ := Prod.mk.inj heq
    exact ⟨rfl, hrow⟩
  { records := Dict.ofList (rows.map fun row => (row.id, row))
    ne_empty := fun _ record hget => by
      obtain ⟨rfl, hrow⟩ := hmem hget
      exact (h record hrow).1
    keyed := fun _ _ hget => (hmem hget).1
    identity := fun _ record hget => (h record (hmem hget).2).2.1
    canonical := fun _ record hget => ⟨record.endpoint, (h record (hmem hget).2).2.2⟩ }

variable {cat}

lemma endpoint_ne_empty {key : String} {record : Record} (h : cat.getRecord key = some record) :
    record.endpoint ≠ "" := by
  obtain ⟨raw, hraw⟩ := cat.canonical key record h
  exact validateUrl_ne_empty hraw

/-- No two proxies of the catalog have the same address. -/
lemma endpoint_inj {key key' : String} {record record' : Record}
    (h : cat.getRecord key = some record) (h' : cat.getRecord key' = some record')
    (heq : record'.endpoint = record.endpoint) : record' = record := by
  have hid : record'.id = record.id := by
    rw [cat.identity key' record' h', cat.identity key record h, heq]
  have hkey : key' = key := by
    rw [← cat.keyed key' record' h', ← cat.keyed key record h, hid]
  subst hkey
  exact Option.some.inj (h'.symm.trans h)

end Catalog

/-! ## The surroundings of an operation -/

/-- What an operation of the panel finds around it. -/
structure Server where
  site : Site
  catalog : Catalog site.rt
  /-- `datetime.now()`. -/
  now : ℤ
  /-- `int(time.time())`. -/
  time : ℤ

/-- A server without any settings and proxies, at the first instant. -/
def Server.bare (rt : Runtime) : Server := ⟨.bare rt, .empty rt, 0, 0⟩

/-- A draw of `secrets.token_urlsafe`. -/
structure Token where
  text : String
  ne_empty : text ≠ ""
  urlSafe : ∀ c ∈ text.toList, c.isAlphanum ∨ c = '-' ∨ c = '_'

lemma token_ne_empty : "token" ≠ "" := by decide

lemma token_urlSafe : ∀ c ∈ "token".toList, c.isAlphanum ∨ c = '-' ∨ c = '_' := by simp

/-! ## Receipts of tests -/

/-- A base64 text with its padding. -/
def padded (body : String) : String :=
  body ++ String.ofList (List.replicate ((4 - body.length % 4) % 4) '=')

/-- Padding gives the whole base64 text back. -/
lemma padded_unpadded (bytes : List UInt8) :
    padded (String.ofList (Base64.unpadded bytes)) = String.ofList (Base64.encode bytes) := by
  rw [padded, Base64.encode, Base64.padding, String.ofList_append, String.length_ofList]

/-- `_proxy_endpoint_fingerprint`. -/
def proxyEndpointFingerprint (rt : Runtime) (record : Record) : String := rt.sha256 record.endpoint

/-- `verify_proxy_test_receipt`; whatever is wrong with a receipt, it does not verify. -/
def verifyProxyTestReceipt (server : Server) (proxyId : String) (receipt : Json) : Bool :=
  let rt := server.site.rt
  match splitOnce '.' (receipt.text rt) with
  | none => false
  | some (body, signature) =>
    if signature ≠ rt.hmacSha256 server.site.secret body then false
    else
      match (rt.urlsafeB64decode (padded body) >>= rt.decodeUtf8) >>= rt.jsonLoads with
      | some (.obj payload) =>
        match server.catalog.getRecord proxyId with
        | none => false
        | some record =>
          Obj.get payload "proxy_id" = .str record.id &&
            Obj.get payload "endpoint" = .str (proxyEndpointFingerprint rt record) &&
            match ((Obj.get payload "expires").or (.int 0)).toInt rt with
            | .ok expires => server.time ≤ expires
            | .error _ => false
      | _ => false

/-- `require_proxy_test_receipt`. -/
def requireProxyTestReceipt (server : Server) (proxyId : String) (receipt : Json) :
    Except PyErr Unit :=
  if verifyProxyTestReceipt server proxyId receipt then .ok ()
  else
    .error (.valueError
      "Selected proxy must pass the exact Cloudflare and Google connectivity test before it can be saved")

/-! ## The exit of a link -/

/-- `normalize_exit_proxy`: the mode, the id of a managed proxy and the address of a custom
one. -/
def normalizeExitProxy (server : Server) (mode proxyId customProxy : Json) :
    Except PyErr (String × String × String) :=
  let rt := server.site.rt
  let mode := rt.lower ((mode.or (.str "direct")).toStr rt)
  if mode = "repository" then
    let pid := strip (proxyId.text rt)
    if pid = "" ∨ (server.catalog.getRecord pid).isNone then
      .error (.valueError "پروکسی مدیریت‌شده پیدا نشد")
    else .ok (mode, pid, "")
  else if mode = "custom" then
    match validateUrl rt customProxy with
    | .ok endpoint => .ok (mode, "", endpoint)
    | .error (.valueError message) =>
      .error (.valueError ("پروکسی دلخواه نامعتبر است: " ++ message))
    | .error e => .error e
  else if mode ≠ "direct" then .error (.valueError "حالت تنظیم آیپی خروجی نامعتبر است")
  else .ok ("direct", "", "")

end Routing
