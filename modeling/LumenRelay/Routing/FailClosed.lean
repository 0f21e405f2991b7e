import LumenRelay.Routing.Outbound

/-!
# Routing fails closed

An exit that is picked is the address of exactly one proxy, the one the link or the requested
location names, and the connector that is given this one address dials nothing else.  A session
without a proxy is had only by a link that asks for one.
-/

namespace Routing

open Lib Py Net Effect

/-! ## The connector dials one proxy -/

section Events

variable {α : Type} {P : NetEvent → Prop}

/-- Everything done so far satisfies a predicate. -/
def Only (P : NetEvent → Prop) (s : Wire) : Prop := ∀ e ∈ s.log, P e

lemma keeps_emit {e : NetEvent} (h : P e) : Keeps (Only P) (emit e) := by
  refine keeps_edit fun s hs e' he' => ?_
  rcases List.mem_append.mp he' with he' | he'
  · exact hs e' he'
  · rw [List.mem_singleton.mp he']
    exact h

lemma keeps_receive : Keeps (Only P) receive := by
  intro s hs
  unfold receive
  split <;> exact hs

lemma keeps_fail (e : PyErr) : Keeps (Only P) (fail e : Net α) := keeps_raise _

lemma keeps_ofExcept (r : Except PyErr α) : Keeps (Only P) (ofExcept r : Net α) := by
  cases r with
  | ok a => exact keeps_pure a
  | error e => exact keeps_fail e

lemma keeps_dial {host : Option String} {port : Option ℤ} (h : P (.dial host port)) :
    Keeps (Only P) (dial host port) :=
  (keeps_emit h).bind fun _ => keeps_receive.bind fun _ => keeps_pure _

lemma keeps_write {bytes : List UInt8} (h : P (.send bytes)) : Keeps (Only P) (write bytes) :=
  (keeps_emit h).bind fun _ => keeps_receive.bind fun _ => keeps_pure _

lemma keeps_failIf (c : Prop) [Decidable c] (e : PyErr) : Keeps (Only P) (failIf c e) :=
  keeps_ite (keeps_fail e) (keeps_pure _)

lemma keeps_readExactly (n : ℕ) : Keeps (Only P) (readExactly n) :=
  keeps_receive.bind fun _ => (keeps_failIf _ _).bind fun _ => keeps_pure _

lemma keeps_writeFirst {firstPacket : List UInt8} (h : P (.send firstPacket)) :
    Keeps (Only P) (writeFirst firstPacket) := keeps_ite (keeps_write h) (keeps_pure _)

lemma keeps_closing {x : Net α} (h : P .close) (hx : Keeps (Only P) x) :
    Keeps (Only P) (closing x) :=
  hx.handle fun e => (keeps_emit h).bind fun _ => keeps_raise e

lemma keeps_readSocksReply : Keeps (Only P) readSocksReply := by
  refine (keeps_readExactly 4).bind fun head => ?_
  split
  · refine (keeps_failIf _ _).bind fun _ => ?_
    refine keeps_ite ?_ (keeps_ite ?_ (keeps_ite ?_ (keeps_fail _)))
    · exact (keeps_readExactly 6).bind fun _ => keeps_pure _
    · exact (keeps_readExactly 18).bind fun _ => keeps_pure _
    · exact (keeps_readExactly 1).bind fun _ => (keeps_readExactly _).bind fun _ => keeps_pure _
  · exact keeps_fail _

/-- What a client sends to authenticate itself. -/
def socksCredentials (params : ProxyParams) : List UInt8 :=
  let user := utf8Bytes params.username
  let secret := utf8Bytes params.password
  1 :: UInt8.ofNat user.length :: user ++ UInt8.ofNat secret.length :: secret

lemma keeps_socksAuthenticate {params : ProxyParams} (h : P (.send (socksCredentials params)))
    (hasAuth : Bool) (method : UInt8) :
    Keeps (Only P) (socksAuthenticate params hasAuth method) := by
  refine keeps_ite ?_ (keeps_failIf _ _)
  refine (keeps_failIf _ _).bind fun _ => (keeps_failIf _ _).bind fun _ => ?_
  exact (keeps_write h).bind fun _ => (keeps_readExactly 2).bind fun _ => keeps_failIf _ _

end Events

section Connector

variable {params : ProxyParams}

/-- The event opens no connection but one to the proxy. -/
def NetEvent.Via (params : ProxyParams) : NetEvent → Prop
  | .dial host port => host = params.hostname ∧ port = params.port
  | _ => True

/-- Every connection opened so far is one to the proxy. -/
def ViaOnly (params : ProxyParams) (s : Wire) : Prop := ∀ e ∈ s.log, e.Via params

lemma keeps_dial_proxy : Keeps (ViaOnly params) (dial params.hostname params.port) :=
  keeps_dial (P := NetEvent.Via params) ⟨rfl, rfl⟩

variable (rt : Runtime) (target : String) (port : ℤ) (firstPacket : List UInt8)

lemma keeps_socksOnce : Keeps (ViaOnly params) (socksOnce rt target port firstPacket params) := by
  refine keeps_dial_proxy.bind fun _ => keeps_closing (P := NetEvent.Via params) trivial ?_
  refine (keeps_write trivial).bind fun _ => (keeps_readExactly 2).bind fun greeting => ?_
  split
  · refine (keeps_failIf _ _).bind fun _ => (keeps_socksAuthenticate trivial _ _).bind fun _ => ?_
    refine (keeps_ofExcept _).bind fun _ => (keeps_write trivial).bind fun _ => ?_
    exact keeps_readSocksReply.bind fun _ => keeps_writeFirst trivial
  · exact keeps_fail _

lemma keeps_startTls : Keeps (ViaOnly params) (startTls rt params) := by
  have h : ∀ host, (NetEvent.startTls host).Via params := fun _ => trivial
  exact (keeps_emit (P := NetEvent.Via params) (h _)).bind fun _ => keeps_receive.bind fun _ =>
    keeps_pure _

lemma keeps_httpOnce (tlsToProxy : Bool) :
    Keeps (ViaOnly params) (httpOnce rt target port firstPacket params tlsToProxy) := by
  refine keeps_dial_proxy.bind fun _ => keeps_closing (P := NetEvent.Via params) trivial ?_
  refine (keeps_ite (keeps_startTls rt) (keeps_pure _)).bind fun _ => ?_
  refine (keeps_write trivial).bind fun _ => keeps_receive.bind fun _ => ?_
  exact (keeps_failIf _ _).bind fun _ => (keeps_failIf _ _).bind fun _ => keeps_writeFirst trivial

lemma keeps_httpAttempts (transports : List Bool) (last : PyErr) :
    Keeps (ViaOnly params) (httpAttempts rt target port firstPacket params transports last) := by
  induction transports generalizing last with
  | nil => exact keeps_fail (P := NetEvent.Via params) last
  | cons tlsToProxy transports ih =>
    refine (keeps_httpOnce rt target port firstPacket tlsToProxy).handle fun e => ?_
    cases e with
    | failed e => exact ih e
    | cancelled => exact keeps_raise _

/-- A handshake opens no connection but to the proxy of the address. -/
lemma keeps_openVia {endpoint : String} (h : parseProxyUrl rt endpoint = .ok params) :
    Keeps (ViaOnly params) (openVia rt endpoint target port firstPacket) := by
  unfold openVia
  rw [h]
  change Keeps (ViaOnly params) (if params.scheme = "socks5" then
    socksOnce rt target port firstPacket params
    else httpConnect rt target port firstPacket params)
  exact keeps_ite (keeps_socksOnce rt target port firstPacket)
    (keeps_httpAttempts rt target port firstPacket _ _)

end Connector

/-- The attempt through one proxy, as `open_outbound` reports it. -/
def proxyAttempt (rt : Runtime) (endpoint address : String) (port : ℤ) (packet : List UInt8)
    (proxyId : String) : Net Bool :=
  (do openVia rt endpoint address port packet; pure true : Net Bool).handle fun e =>
    match e with
    | .cancelled => Effect.raise .cancelled
    | .failed _ =>
      let name := sliceTo 32 (if proxyId ≠ "" then proxyId else "unknown")
      fail (.osError ("selected proxy " ++ name ++ " failed closed"))

variable {server : Server}

lemma openOutbound_one {endpoint : String} (hne : endpoint ≠ "") (address : String) (port : ℤ)
    (packet : List UInt8) (link : Option Obj) (proxyId : String) :
    openOutbound server address port packet link (some [endpoint]) proxyId =
      proxyAttempt server.site.rt endpoint address port packet proxyId := by
  have hexact : ([endpoint].filter fun e => decide (e ≠ "")).dedup = [endpoint] := by simp [hne]
  funext s
  unfold openOutbound
  dsimp only
  rw [Effect.pure_bind_run, hexact]
  rfl

/-- An attempt that succeeds reports the proxy. -/
lemma proxyAttempt_ok {rt : Runtime} {endpoint address : String} {port : ℤ} {packet : List UInt8}
    {proxyId : String} {s s' : Wire} {proxied : Bool}
    (h : proxyAttempt rt endpoint address port packet proxyId s = (.ok proxied, s')) :
    proxied = true := by
  have hrun := Effect.handle_eq_ok (fun e _ => by cases e <;> exact ⟨_, rfl⟩) h
  obtain ⟨_, s₁, -, hpure⟩ := Effect.bind_eq_ok hrun
  cases hpure
  rfl

lemma keeps_proxyAttempt {rt : Runtime} {endpoint : String} {params : ProxyParams}
    (h : parseProxyUrl rt endpoint = .ok params) (address : String) (port : ℤ)
    (packet : List UInt8) (proxyId : String) :
    Keeps (ViaOnly params) (proxyAttempt rt endpoint address port packet proxyId) := by
  refine ((keeps_openVia rt address port packet h).bind fun _ => keeps_pure _).handle fun e => ?_
  cases e with
  | failed e => exact keeps_fail _
  | cancelled => exact keeps_raise _

/-- An address that cannot be read is not dialled. -/
lemma proxyAttempt_unreadable {rt : Runtime} {endpoint : String} {e : PyErr}
    (h : parseProxyUrl rt endpoint = .error e) (address : String) (port : ℤ)
    (packet : List UInt8) (proxyId : String) (s : Wire) :
    (proxyAttempt rt endpoint address port packet proxyId s).2 = s := by
  unfold proxyAttempt openVia
  rw [h]
  rfl

/-- Given one address, the connector dials its proxy and nothing else, whatever the network
does; and if it succeeds, the session goes through the proxy. -/
lemma openOutbound_one_dials {endpoint : String} (hne : endpoint ≠ "") (address : String)
    (port : ℤ) (packet : List UInt8) (link : Option Obj) (proxyId : String)
    (script : List Reply) :
    let run := openOutbound server address port packet link (some [endpoint]) proxyId ⟨script, []⟩
    (∀ host port', .dial host port' ∈ run.2.log →
        ∃ params, parseProxyUrl server.site.rt endpoint = .ok params ∧
          host = params.hostname ∧ port' = params.port) ∧
      ∀ proxied, run.1 = .ok proxied → proxied = true := by
  rw [openOutbound_one hne]
  refine ⟨fun host port' hdial => ?_, fun proxied hok => ?_⟩
  · cases hparams : parseProxyUrl server.site.rt endpoint with
    | ok params =>
      have hvia : ViaOnly params ⟨script, []⟩ := by simp [ViaOnly]
      exact ⟨params, rfl,
        keeps_proxyAttempt hparams address port packet proxyId _ hvia _ hdial⟩
    | error e => simp [proxyAttempt_unreadable hparams] at hdial
  · exact proxyAttempt_ok (Prod.ext hok rfl)

/-! ## The exit that is picked -/

/-- The address belongs to one proxy of the catalog and to no other. -/
def IsExitOf (catalog : Catalog server.site.rt) (endpoint : String) (record : Record) : Prop :=
  catalog.getRecord record.id = some record ∧ record.endpoint = endpoint ∧
    ∀ key other, catalog.getRecord key = some other → other.endpoint = endpoint → other = record

lemma isExitOf_of_getRecord {catalog : Catalog server.site.rt} {proxyId : String}
    {record : Record} (h : catalog.getRecord proxyId = some record) :
    record.id = proxyId ∧ IsExitOf catalog record.endpoint record := by
  have hid : record.id = proxyId := catalog.keyed proxyId record h
  refine ⟨hid, ?_, rfl, fun key other hother heq => Catalog.endpoint_inj h hother heq⟩
  rw [hid]
  exact h

/-- The proxy that a location selects: the preferred one of its country, or the one it names. -/
def Selects (server : Server) (panel : Panel) (ml location : Obj) (record : Record) : Prop :=
  if storedMode server.site.rt ml = "country_preferred" then
    ∃ preferred, currentPreferredProxyByCountry server panel = .ok preferred ∧
      preferred.get? record.code = some record.id
  else record.id = (location.get "proxy_id").text server.site.rt

/-- The exits that are right for a session of a link that asks for a location. -/
inductive RightExit (server : Server) (panel : Panel) (link : Obj) (locId : String) :
    Option Selection → Prop
  /-- No proxy, for a link without one and outside every group with locations. -/
  | direct (hmode : exitMode server.site.rt link = "direct")
      (hgroup : ∃ sub, multiLocationForLink panel.subs link = .ok (sub, none)) :
      RightExit server panel link locId none
  /-- The managed proxy that the link names. -/
  | repository (record : Record) (hmode : exitMode server.site.rt link = "repository")
      (hgroup : ∃ sub, multiLocationForLink panel.subs link = .ok (sub, none))
      (hid : record.id = (link.get "proxy_id").text server.site.rt)
      (hexit : IsExitOf server.catalog record.endpoint record) :
      RightExit server panel link locId (some ⟨record.id, record.endpoint, none⟩)
  /-- The link's own address. -/
  | custom (endpoint : String) (hmode : exitMode server.site.rt link = "custom")
      (hgroup : ∃ sub, multiLocationForLink panel.subs link = .ok (sub, none))
      (hurl : validateUrl server.site.rt (link.get "custom_proxy") = .ok endpoint) :
      RightExit server panel link locId (some ⟨"custom", endpoint, none⟩)
  /-- The proxy of the requested location, which is one of the location's country. -/
  | location (sub : Option Obj) (ml location : Obj) (record : Record)
      (hgroup : multiLocationForLink panel.subs link = .ok (sub, some ml))
      (hlisted : ∃ items, ((ml.get "locations").or (.arr [])).iterate = .ok items ∧
        .obj location ∈ items)
      (hlocation : location.get "id" = .str (strip locId))
      (hactive : (location.getD "active" (.bool true)).truthy = true)
      (hselects : Selects server panel ml location record)
      (hcode : location.get "code" = .str record.code)
      (hexit : IsExitOf server.catalog record.endpoint record) :
      RightExit server panel link locId
        (some ⟨record.id, record.endpoint, some (strip locId)⟩)

lemma findLocation_spec {id : String} {items : List Json} {location : Obj}
    (h : findLocation id items = .ok (some location)) :
    .obj location ∈ items ∧ location.get "id" = .str id ∧
      (location.getD "active" (.bool true)).truthy = true := by
  induction items with
  | nil => cases h
  | cons item items ih =>
    cases item with
    | obj o =>
      rw [findLocation] at h
      split at h
      · rename_i hfound
        cases h
        exact ⟨List.mem_cons_self, hfound.1, hfound.2⟩
      · obtain ⟨hmem, hfound⟩ := ih h
        exact ⟨List.mem_cons_of_mem _ hmem, hfound⟩
    | _ => cases h

lemma requestedLocation_spec {ml location : Obj} {locId : String}
    (h : requestedLocation ml locId = .ok location) :
    (∃ items, ((ml.get "locations").or (.arr [])).iterate = .ok items ∧ .obj location ∈ items) ∧
      location.get "id" = .str (strip locId) ∧
      (location.getD "active" (.bool true)).truthy = true := by
  unfold requestedLocation at h
  dsimp only at h
  split at h
  · cases h
  obtain ⟨n, -, h⟩ := bind_eq_ok h
  split at h
  · cases h
  split at h
  · cases h
  obtain ⟨items, hitems, h⟩ := bind_eq_ok h
  obtain ⟨found, hfound, h⟩ := bind_eq_ok h
  cases found with
  | none => cases h
  | some location' =>
    cases h
    obtain ⟨hmem, hasked⟩ := findLocation_spec hfound
    exact ⟨⟨items, hitems, hmem⟩, hasked⟩

lemma locationProxyId_spec {panel : Panel} {ml location : Obj} {record : Record}
    (hcode : location.get "code" = .str record.code)
    (h : locationProxyId server panel ml location = .ok record.id) :
    Selects server panel ml location record := by
  unfold locationProxyId at h
  unfold Selects
  dsimp only at h
  split at h
  · rename_i hmode
    rw [if_pos hmode]
    obtain ⟨preferred, hpreferred, h⟩ := bind_eq_ok h
    obtain ⟨found, hfound, h⟩ := bind_eq_ok h
    rw [hcode, lookupKey_str] at hfound
    cases hfound
    refine ⟨preferred, hpreferred, ?_⟩
    split at h
    · cases h
    · rename_i hne
      cases hget : preferred.get? record.code with
      | none => simp [hget] at hne
      | some id =>
        rw [hget] at h
        exact congrArg some (Except.ok.inj h)
  · rename_i hmode
    rw [if_neg hmode]
    exact (Except.ok.inj h).symm

/-- What is picked in a group with locations is the proxy of the requested location. -/
lemma resolveLocation_cases {panel : Panel} {ml : Obj} {locId : String} {selection : Selection}
    (h : resolveLocation server panel ml locId = .ok selection) :
    ∃ location record, requestedLocation ml locId = .ok location ∧
      locationProxyId server panel ml location = .ok record.id ∧
      IsExitOf server.catalog record.endpoint record ∧
      location.get "code" = .str record.code ∧
      selection = ⟨record.id, record.endpoint, some (strip locId)⟩ := by
  unfold resolveLocation at h
  obtain ⟨location, hlocation, h⟩ := bind_eq_ok h
  obtain ⟨proxyId, hproxy, h⟩ := bind_eq_ok h
  cases hrecord : server.catalog.getRecord proxyId with
  | none =>
    rw [hrecord] at h
    cases h
  | some record =>
    rw [hrecord] at h
    dsimp only at h
    split at h
    · cases h
    · rename_i hcode
      cases h
      obtain ⟨rfl, hexit⟩ := isExitOf_of_getRecord hrecord
      exact ⟨location, record, hlocation, hproxy, hexit, (not_not.mp hcode).symm, rfl⟩

/-- In a group with locations, the exit is the one of the requested location. -/
lemma resolveLocation_spec {panel : Panel} {link ml : Obj} {locId : String} {sub : Option Obj}
    {selection : Selection} (hgroup : multiLocationForLink panel.subs link = .ok (sub, some ml))
    (h : resolveLocation server panel ml locId = .ok selection) :
    RightExit server panel link locId (some selection) := by
  obtain ⟨location, record, hlocation, hproxy, hexit, hcode, rfl⟩ := resolveLocation_cases h
  obtain ⟨hlisted, hid, hactive⟩ := requestedLocation_spec hlocation
  exact .location sub ml location record hgroup hlisted hid hactive
    (locationProxyId_spec hcode hproxy) hcode hexit

/-- Outside such a group, the exit is the link's own. -/
lemma resolveOwnExit_spec {panel : Panel} {link : Obj} {sub : Option Obj}
    {selection : Option Selection} (locId : String)
    (hmode : exitMode server.site.rt link ∈ ["direct", "repository", "custom"])
    (hgroup : multiLocationForLink panel.subs link = .ok (sub, none))
    (h : resolveOwnExit server link = .ok selection) :
    RightExit server panel link locId selection := by
  unfold resolveOwnExit at h
  dsimp only at h
  split at h
  · rename_i hrepository
    cases hrecord : server.catalog.getRecord ((link.get "proxy_id").text server.site.rt) with
    | none =>
      rw [hrecord] at h
      cases h
    | some record =>
      rw [hrecord] at h
      cases h
      obtain ⟨hid, hexit⟩ := isExitOf_of_getRecord hrecord
      exact .repository record hrepository ⟨sub, hgroup⟩ hid hexit
  · split at h
    · rename_i hcustom
      cases hurl : validateUrl server.site.rt (link.get "custom_proxy") with
      | ok endpoint =>
        rw [hurl] at h
        cases h
        exact .custom endpoint hcustom ⟨sub, hgroup⟩ hurl
      | error e =>
        rw [hurl] at h
        cases h
    · rename_i hrepository hcustom
      cases h
      refine .direct ?_ ⟨sub, hgroup⟩
      simpa [hrepository, hcustom] using hmode

/-- What is picked is right. -/
lemma resolveExitSelection_spec {panel : Panel} {link : Obj} {locId : String}
    {selection : Option Selection}
    (hmode : exitMode server.site.rt link ∈ ["direct", "repository", "custom"])
    (h : resolveExitSelection server panel link locId = .ok selection) :
    RightExit server panel link locId selection := by
  unfold resolveExitSelection at h
  obtain ⟨⟨sub, ml⟩, hgroup, h⟩ := bind_eq_ok h
  cases ml with
  | none => exact resolveOwnExit_spec locId hmode hgroup h
  | some ml =>
    obtain ⟨selected, hselected, h⟩ := bind_eq_ok h
    cases h
    exact resolveLocation_spec hgroup hselected

/-- The address of a right exit can be dialled. -/
lemma RightExit.endpoint_ne_empty {panel : Panel} {link : Obj} {locId : String}
    {selection : Selection} (h : RightExit server panel link locId (some selection)) :
    selection.endpoint ≠ "" := by
  cases h with
  | repository record _ _ _ hexit => exact Catalog.endpoint_ne_empty hexit.1
  | custom endpoint _ _ hurl => exact validateUrl_ne_empty hurl
  | location _ _ _ record _ _ _ _ _ _ hexit => exact Catalog.endpoint_ne_empty hexit.1

/-- Routing fails closed.  What is picked for a session is right: the address of exactly one
proxy, of the location's country where a location is asked for, and no proxy only for a direct
link outside every group with locations.  The connector that is given the address dials its
proxy and nothing else, whatever the network does. -/
theorem routing_fails_closed (server : Server) (panel : Panel) (link : Obj) (locId : String)
    (hmode : exitMode server.site.rt link ∈ ["direct", "repository", "custom"])
    (selection : Option Selection)
    (h : resolveExitSelection server panel link locId = .ok selection) :
    RightExit server panel link locId selection ∧
      ∀ picked, selection = some picked →
        ∀ (address : String) (port : ℤ) (packet : List UInt8) (link' : Option Obj)
          (script : List Reply),
          let run := openOutbound server address port packet link' (some [picked.endpoint])
            picked.proxyId ⟨script, []⟩
          (∀ host port', .dial host port' ∈ run.2.log →
              ∃ params, parseProxyUrl server.site.rt picked.endpoint = .ok params ∧
                host = params.hostname ∧ port' = params.port) ∧
            ∀ proxied, run.1 = .ok proxied → proxied = true := by
  have hright := resolveExitSelection_spec hmode h
  refine ⟨hright, ?_⟩
  rintro picked rfl address port packet link' script
  exact openOutbound_one_dials hright.endpoint_ne_empty address port packet link' picked.proxyId
    script

/-! ## A group in two countries -/

/-- The library with two addresses that it can read. -/
def exampleRuntime : Runtime :=
  { Runtime.ascii with
    sha256 := fun text => String.ofList text.toList.reverse
    urlsplit := fun url =>
      if url = "http://10.0.0.1:8080" then
        some ⟨"http", "10.0.0.1:8080", "", "", none, none, some "10.0.0.1", some (some 8080)⟩
      else if url = "http://10.0.1.1:8080" then
        some ⟨"http", "10.0.1.1:8080", "", "", none, none, some "10.0.1.1", some (some 8080)⟩
      else none }

/-- A process without a Raw TCP deployment. -/
def exampleSite : Site where
  rt := exampleRuntime
  environ _ := ""
  isFile _ := false
  secret := "secret"
  listenerRunning := false
  listenerError := ""

/-- A proxy in Germany. -/
def exampleGerman : Record :=
  ⟨"0808:1.0.0.01//:ptth51v-", "http://10.0.0.1:8080", "http", "Germany", "DE", "🇩🇪", 5⟩

/-- A proxy in Albania. -/
def exampleAlbanian : Record :=
  ⟨"0808:1.1.0.01//:ptth51v-", "http://10.0.1.1:8080", "http", "Albania", "AL", "🇦🇱", 99⟩

/-- The two proxies by their ids. -/
def exampleRecords : Dict String Record :=
  ((Dict.empty).set exampleGerman.id exampleGerman).set exampleAlbanian.id exampleAlbanian

lemma exampleRecords_cases {key : String} {record : Record}
    (h : exampleRecords.get? key = some record) :
    key = exampleGerman.id ∧ record = exampleGerman ∨
      key = exampleAlbanian.id ∧ record = exampleAlbanian := by
  rw [exampleRecords, Dict.get?_set, Dict.get?_set] at h
  split_ifs at h with halbanian hgerman
  · exact .inr ⟨halbanian, (Option.some.inj h).symm⟩
  · exact .inl ⟨hgerman, (Option.some.inj h).symm⟩
  · simp at h

/-- The surroundings with the two proxies. -/
def exampleServer : Server where
  site := exampleSite
  catalog :=
    { records := exampleRecords
      ne_empty := by
        intro key record h
        rcases exampleRecords_cases h with ⟨rfl, rfl⟩ | ⟨rfl, rfl⟩ <;> decide
      keyed := by
        intro key record h
        rcases exampleRecords_cases h with ⟨rfl, rfl⟩ | ⟨rfl, rfl⟩ <;> rfl
      identity := by
        intro key record h
        rcases exampleRecords_cases h with ⟨rfl, rfl⟩ | ⟨rfl, rfl⟩ <;> decide
      canonical := by
        intro key record h
        refine ⟨record.endpoint, ?_⟩
        rcases exampleRecords_cases h with ⟨rfl, rfl⟩ | ⟨rfl, rfl⟩ <;> rfl }
  now := 0
  time := 0

/-- A group with a location in each country, and a link in the group. -/
def examplePanel : Panel where
  links := .empty
  subs := (Dict.empty).set "g"
    [("link_ids", .arr [.str "u"]),
      ("multi_location", .obj (multiLocationObj exampleRuntime true "" "explicit"
        [("loc-de", "DE", exampleGerman.id), ("loc-al", "AL", exampleAlbanian.id)]))]
  tests := .empty
  preferred := .empty
  passwordHash := .null

/-- The German location leads to the German proxy. -/
theorem routing_fails_closed_german :
    RightExit exampleServer examplePanel [("sub_id", .str "g")] "loc-de"
      (some ⟨exampleGerman.id, "http://10.0.0.1:8080", some "loc-de"⟩) :=
  (routing_fails_closed exampleServer examplePanel [("sub_id", .str "g")] "loc-de" (by decide) _
    (by rfl)).1

end Routing
