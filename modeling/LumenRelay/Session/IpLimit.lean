import LumenRelay.Lib.Machine
import LumenRelay.Session.Links
import Mathlib.Data.Finset.Card

/-!
# The IP limit

A link may limit the number of addresses that use it at once.  A session is registered in the
connection table when the addresses that the table holds for the link leave room for its own.
The count leaves out the empty address, which a forwarding header can make.
-/

namespace Session

open Lib Py Routing

/-! ## Addresses -/

/-- Where the address of a client is read from: the headers and the peer of a WebSocket, or the
peer of a Raw TCP connection. -/
inductive ClientAddress
  | webSocket (forwardedFor realIp host : Option String)
  | rawTcp (peer : Option String)
deriving DecidableEq, Repr

/-- A header that is there and not empty. -/
def header (value : Option String) : Option String := value.filter (· ≠ "")

/-- `_ws_client_ip`, and the address that the Raw TCP listener takes. -/
def clientIp : ClientAddress → String
  | .webSocket forwardedFor realIp host =>
    match header forwardedFor, header realIp with
    | some addresses, _ => strip (String.ofList (addresses.toList.takeWhile (· ≠ ',')))
    | none, some address => strip address
    | none, none => host.getD "نامشخص"
  | .rawTcp peer => peer.getD "unknown"

/-! ## The connection table -/

/-- An entry of `connections`. -/
structure Connection where
  uuid : String
  ip : String
deriving DecidableEq, Repr

/-- `connections`. -/
abbrev Connections : Type := Dict String Connection

/-- The addresses of the live sessions of a link. -/
def liveIps (connections : Connections) (uuid : String) : Finset String :=
  ((connections.values.filter fun c => c.uuid = uuid).map Connection.ip).toFinset

/-- `unique_ips_for_uuid`. -/
def uniqueIpsForUuid (connections : Connections) (uuid : String) : Finset String :=
  ((connections.values.filter fun c => c.uuid = uuid ∧ c.ip ≠ "").map Connection.ip).toFinset

/-- The limit of a link. -/
def ipLimit (rt : Runtime) (link : Obj) : Except PyErr ℤ :=
  ((link.getD "ip_limit" (.int 0)).or (.int 0)).toInt rt

/-- `is_ip_allowed`. -/
def isIpAllowed (rt : Runtime) (connections : Connections) (link : Option Obj) (uuid ip : String) :
    Except PyErr Bool :=
  match link with
  | none => .ok false
  | some link => do
    let limit ← ipLimit rt link
    if limit ≤ 0 then return true
    let ips := uniqueIpsForUuid connections uuid
    if ip ∈ ips then return true
    return decide ((ips.card : ℤ) < limit)

/-! ## Sessions -/

/-- The start of a session, with what it finds: the link of its UUID, and the id that is drawn
for its entry. -/
structure Arrival where
  server : Server
  subs : Dict String Obj
  uuid : String
  link : Option Obj
  address : ClientAddress
  connId : String

/-- Whether the session is admitted: no step of another session is between the two checks and
the entry in the table. -/
def admitted (connections : Connections) (a : Arrival) : Except PyErr Bool := do
  if !(← isLinkAllowed a.server a.subs a.link) then return false
  isIpAllowed a.server.site.rt connections a.link a.uuid (clientIp a.address)

/-- The first part of `_run_vless_session`, and of the sessions that have another backend. -/
def register (connections : Connections) (a : Arrival) : Connections :=
  match admitted connections a with
  | .ok true => connections.set a.connId ⟨a.uuid, clientIp a.address⟩
  | _ => connections

/-- What happens to the table: a session starts, or the entry of a session is removed. -/
inductive TableEvent
  | arrive (a : Arrival)
  | leave (connId : String)

/-- The connection table as a machine. -/
def table : Machine Connections TableEvent Empty where
  step connections event :=
    match event with
    | .arrive a => some (register connections a, [])
    | .leave connId => some (connections.erase connId, [])

/-- The limit of the link is `n` whenever a session of it starts. -/
def limitIs (uuid : String) (n : ℤ) : TableEvent → Bool
  | .arrive a => a.uuid ≠ uuid || a.link.all fun link => ipLimit a.server.site.rt link = .ok n
  | .leave _ => true

/-- The session has an address, or it is not admitted to the link. -/
def hasAddress (uuid : String) (connections : Connections) : TableEvent → Bool
  | .arrive a =>
    a.uuid ≠ uuid || clientIp a.address ≠ "" || admitted connections a ≠ .ok true
  | .leave _ => true

/-- The table of a relay on which the limit of a link does not change. -/
def limitedTable (uuid : String) (n : ℤ) : Machine Connections TableEvent Empty :=
  table.restrict fun _ event => limitIs uuid n event

/-! ## The invariant -/

variable {uuid : String} {n : ℤ} {connections : Connections}

lemma mem_liveIps {ip : String} : ip ∈ liveIps connections uuid ↔
    ∃ connId, connections.get? connId = some ⟨uuid, ip⟩ := by
  simp only [liveIps, List.mem_toFinset, List.mem_map, List.mem_filter, Dict.mem_values_iff,
    decide_eq_true_eq]
  constructor
  · rintro ⟨c, ⟨⟨connId, hget⟩, rfl⟩, rfl⟩
    exact ⟨connId, hget⟩
  · rintro ⟨connId, hget⟩
    exact ⟨_, ⟨⟨connId, hget⟩, rfl⟩, rfl⟩

lemma uniqueIpsForUuid_eq (connections : Connections) (uuid : String) :
    uniqueIpsForUuid connections uuid = (liveIps connections uuid).erase "" := by
  ext ip
  simp only [uniqueIpsForUuid, liveIps, List.mem_toFinset, List.mem_map, List.mem_filter,
    decide_eq_true_eq, Finset.mem_erase]
  constructor
  · rintro ⟨c, ⟨hmem, huuid, hne⟩, rfl⟩
    exact ⟨hne, c, ⟨hmem, huuid⟩, rfl⟩
  · rintro ⟨hne, c, ⟨hmem, huuid⟩, rfl⟩
    exact ⟨c, ⟨hmem, huuid, hne⟩, rfl⟩

/-- The live sessions of the link all have an address, and there is room for their addresses. -/
structure WithinLimit (uuid : String) (n : ℤ) (connections : Connections) : Prop where
  addressed : "" ∉ liveIps connections uuid
  card_le : ((liveIps connections uuid).card : ℤ) ≤ n

/-- An entry adds at most its own address, and only to its own link. -/
lemma liveIps_set (connections : Connections) (uuid connId : String) (c : Connection) :
    liveIps (connections.set connId c) uuid ⊆
      if c.uuid = uuid then insert c.ip (liveIps connections uuid)
      else liveIps connections uuid := by
  intro ip hip
  obtain ⟨connId', hget⟩ := mem_liveIps.mp hip
  rw [Dict.get?_set] at hget
  split at hget
  · obtain rfl := Option.some.inj hget
    rw [if_pos rfl]
    exact Finset.mem_insert_self _ _
  · have hold : ip ∈ liveIps connections uuid := mem_liveIps.mpr ⟨connId', hget⟩
    split
    · exact Finset.mem_insert_of_mem hold
    · exact hold

lemma liveIps_erase {connId : String} :
    liveIps (connections.erase connId) uuid ⊆ liveIps connections uuid := by
  intro ip hip
  obtain ⟨connId', hget⟩ := mem_liveIps.mp hip
  rw [Dict.get?_erase] at hget
  split at hget
  · cases hget
  · exact mem_liveIps.mpr ⟨connId', hget⟩

/-- What keeps addresses out keeps the table within the limit. -/
lemma WithinLimit.mono {connections' : Connections} (h : WithinLimit uuid n connections)
    (hsub : liveIps connections' uuid ⊆ liveIps connections uuid) :
    WithinLimit uuid n connections' := by
  constructor
  · intro hmem
    exact h.addressed (hsub hmem)
  · have hcard := Finset.card_le_card hsub
    have hold := h.card_le
    omega

/-- An address that is allowed is there already, or there is room for it. -/
lemma isIpAllowed_spec {rt : Runtime} {link : Obj} {ip : String}
    (hn : ipLimit rt link = .ok n) (hpos : 0 < n)
    (h : isIpAllowed rt connections (some link) uuid ip = .ok true) :
    ip ∈ uniqueIpsForUuid connections uuid ∨
      ((uniqueIpsForUuid connections uuid).card : ℤ) < n := by
  rw [isIpAllowed, hn, ok_bind, if_neg (by omega)] at h
  dsimp only at h
  split at h
  · rename_i hmem
    exact .inl hmem
  · exact .inr (of_decide_eq_true (Except.ok.inj h))

/-- An admitted session found its address in the table, or room for it. -/
lemma admitted_spec {a : Arrival} (hpos : 0 < n) (huuid : a.uuid = uuid)
    (hlimit : limitIs uuid n (.arrive a) = true) (h : admitted connections a = .ok true) :
    clientIp a.address ∈ uniqueIpsForUuid connections uuid ∨
      ((uniqueIpsForUuid connections uuid).card : ℤ) < n := by
  obtain ⟨allowed, -, h⟩ := bind_eq_ok h
  cases allowed with
  | false => cases h
  | true =>
    cases hlink : a.link with
    | none =>
      rw [hlink] at h
      cases h
    | some link =>
      have hn : ipLimit a.server.site.rt link = .ok n := by
        simpa [limitIs, huuid, hlink] using hlimit
      rw [hlink] at h
      rw [← huuid]
      exact isIpAllowed_spec hn hpos h

/-- A session that is admitted finds its address in the table, or room for it. -/
lemma WithinLimit.register {a : Arrival} (h : WithinLimit uuid n connections) (hpos : 0 < n)
    (hlimit : limitIs uuid n (.arrive a) = true)
    (haddress : hasAddress uuid connections (.arrive a) = true) :
    WithinLimit uuid n (register connections a) := by
  unfold Session.register
  split
  · rename_i hadmitted
    have hset := liveIps_set connections uuid a.connId ⟨a.uuid, clientIp a.address⟩
    by_cases huuid : a.uuid = uuid
    · rw [if_pos huuid] at hset
      dsimp only at hset
      have hip : clientIp a.address ≠ "" := by simpa [hasAddress, huuid, hadmitted] using haddress
      have hroom := admitted_spec hpos huuid hlimit hadmitted
      rw [uniqueIpsForUuid_eq, Finset.erase_eq_of_notMem h.addressed] at hroom
      constructor
      · intro hmem
        rcases Finset.mem_insert.mp (hset hmem) with hempty | hmem
        · exact hip hempty.symm
        · exact h.addressed hmem
      · have hcard := Finset.card_le_card hset
        have hold := h.card_le
        rcases hroom with hmem | hroom
        · rw [Finset.insert_eq_of_mem hmem] at hcard
          omega
        · have hinsert := Finset.card_insert_le (clientIp a.address) (liveIps connections uuid)
          omega
    · rw [if_neg huuid] at hset
      exact h.mono hset
  · exact h

/-- In every run in which the limit of the link is `n` and no session without an address is
admitted to it, the live sessions of the link have at most `n` addresses. -/
theorem live_ips_within_limit {visited : List Connections} {events : List Empty} (hpos : 0 < n)
    (h : ((limitedTable uuid n).restrict fun connections event =>
      hasAddress uuid connections event).Run .empty visited events connections) :
    ((liveIps connections uuid).card : ℤ) ≤ n := by
  have hstart : WithinLimit uuid n .empty := ⟨by simp [liveIps, Dict.values, Dict.empty], by
    simp [liveIps, Dict.values, Dict.empty]
    omega⟩
  refine WithinLimit.card_le (h.invariant hstart fun connections event connections' es hI hs => ?_)
  obtain ⟨haddress, hs⟩ := Machine.restrict_step.mp hs
  obtain ⟨hlimit, hs⟩ := Machine.restrict_step.mp hs
  cases event with
  | arrive a =>
    obtain ⟨rfl, -⟩ := Prod.mk.inj (Option.some.inj hs)
    exact hI.register hpos hlimit haddress
  | leave connId =>
    obtain ⟨rfl, -⟩ := Prod.mk.inj (Option.some.inj hs)
    exact hI.mono liveIps_erase

/-! Two clients use a link that one address may use. -/

/-- The start of a session with a forwarding header. -/
def exampleArrival (forwardedFor connId : String) : Arrival where
  server := .bare .ascii
  subs := .empty
  uuid := "u"
  link := some [("ip_limit", .int 1)]
  address := .webSocket (some forwardedFor) none none
  connId := connId

/-- The table with the session of the first client. -/
def exampleTable (ip : String) : Connections := Dict.set .empty "c" ⟨"u", ip⟩

/-- The second client is refused. -/
theorem live_ips_within_limit_refused : ∃ visited events connections,
    ((limitedTable "u" 1).restrict fun connections event =>
        hasAddress "u" connections event).Run .empty visited events connections ∧
      connections.contains "c" ∧ ((liveIps connections "u").card : ℤ) ≤ 1 := by
  have hrun : ((limitedTable "u" 1).restrict fun connections event =>
      hasAddress "u" connections event).exec
        [.arrive (exampleArrival "1.2.3.4" "c"), .arrive (exampleArrival "5.6.7.8, 1.2.3.4" "d")]
        .empty = some ([exampleTable "1.2.3.4", exampleTable "1.2.3.4"], [],
          exampleTable "1.2.3.4") := by
    rfl
  have h := Machine.Run.start.exec hrun
  exact ⟨_, _, _, h, by decide, live_ips_within_limit (by decide) h⟩

/-- With a header whose first address is empty, both are admitted. -/
theorem live_ips_beyond_limit : ∃ visited events connections,
    (limitedTable "u" 1).Run .empty visited events connections ∧
      (liveIps connections "u").card = 2 := by
  have hrun : (limitedTable "u" 1).exec
      [.arrive (exampleArrival ",1.2.3.4" "c"), .arrive (exampleArrival "5.6.7.8" "d")]
        .empty = some ([exampleTable "", (exampleTable "").set "d" ⟨"u", "5.6.7.8"⟩], [],
          (exampleTable "").set "d" ⟨"u", "5.6.7.8"⟩) := by
    rfl
  exact ⟨_, _, _, Machine.Run.start.exec hrun, by decide⟩

end Session
