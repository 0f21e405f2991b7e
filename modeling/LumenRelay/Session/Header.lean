import LumenRelay.Routing.Catalog
import Mathlib.Data.List.TakeWhile

/-!
# The request header

A session starts with a header: a version, a UUID, addons, a command and a destination.  It may
come in pieces, cut anywhere, the first of which may be early data in a header of the WebSocket
request.  The relay tries to parse what it has after every piece, and hands on what follows the
header.
-/

namespace Session

open Lib Py Routing

/-! ## Parsing -/

/-- The exceptions of the parser: a `ValueError`, or an index beyond the bytes. -/
inductive HeaderError
  | value (message : String)
  | index
deriving DecidableEq, Repr

/-- `view[pos]`. -/
def byteAt (view : List UInt8) (pos : ℕ) : Except HeaderError UInt8 :=
  match view[pos]? with
  | some b => .ok b
  | none => .error .index

/-- `view[pos : pos + n]`, of bytes that are all there. -/
def slice (view : List UInt8) (pos n : ℕ) : Except HeaderError (List UInt8) :=
  if pos + n ≤ view.length then .ok ((view.drop pos).take n) else .error .index

/-- `int.from_bytes(bytes, "big")`. -/
def fromBytes (bytes : List UInt8) : ℕ := bytes.foldl (fun n b => 256 * n + b.toNat) 0

/-- The last part of `_parse_vless_header`: the address, and the position after it. -/
def parseAddress (rt : Runtime) (view : List UInt8) (addrType : UInt8) (pos : ℕ) :
    Except HeaderError (String × ℕ) :=
  if addrType = 1 then
    if view.length < pos + 4 then .error (.value "incomplete ipv4")
    else do return (rt.inetNtop (← slice view pos 4), pos + 4)
  else if addrType = 2 then
    if view.length < pos + 1 then .error (.value "incomplete domain length")
    else do
      let domainLen := (← byteAt view pos).toNat
      if domainLen = 0 ∨ view.length < pos + 1 + domainLen then
        .error (.value "incomplete domain")
      else do
        match rt.idnaDecode (← slice view (pos + 1) domainLen) with
        | some address => return (address, pos + 1 + domainLen)
        | none => .error (.value "the domain cannot be decoded")
  else if addrType = 3 then
    if view.length < pos + 16 then .error (.value "incomplete ipv6")
    else do return (rt.inetNtop (← slice view pos 16), pos + 16)
  else .error (.value ("unknown address type: " ++ toString addrType.toNat))

/-- What `_parse_vless_header` gives. -/
structure VlessHeader where
  command : ℕ
  address : String
  port : ℕ
  payload : List UInt8
deriving DecidableEq, Repr

/-- The part of `_parse_vless_header` after the addons, which end at `pos`. -/
def parseCommand (rt : Runtime) (view : List UInt8) (pos : ℕ) : Except HeaderError VlessHeader := do
  let command := (← byteAt view pos).toNat
  if command ≠ 1 then
    .error (.value ("unsupported vless command: " ++ toString command))
  else do
    let port := fromBytes (← slice view (pos + 1) 2)
    if port = 0 then .error (.value "invalid destination port")
    else do
      let addrType ← byteAt view (pos + 3)
      let (address, pos) ← parseAddress rt view addrType (pos + 4)
      return ⟨command, address, port, view.drop pos⟩

/-- `_parse_vless_header`. -/
def parseVlessHeader (rt : Runtime) (view : List UInt8) : Except HeaderError VlessHeader :=
  if view.length < 19 then .error (.value "incomplete vless prefix")
  else do
    let addonLen := (← byteAt view 17).toNat
    if view.length < 18 + addonLen + 4 then .error (.value "incomplete vless options")
    else parseCommand rt view (18 + addonLen)

/-- `_vless_uuid_from_header`. -/
def vlessUuidFromHeader (rt : Runtime) (view : List UInt8) : Except HeaderError String :=
  if view.length < 17 then .error (.value "incomplete vless identity")
  else do
    if (← byteAt view 0) ≠ 0 then .error (.value "unsupported vless version")
    else return rt.uuidText (fromBytes (← slice view 1 16))

/-! ## Collecting -/

/-- `HEADER_MAX`. -/
def headerMax : ℕ := 16 * 1024

/-- `_early_data`, on the header of the WebSocket request. -/
def earlyData (rt : Runtime) (raw : String) : List UInt8 :=
  let token := strip (String.ofList (raw.toList.takeWhile (· ≠ ',')))
  if token = "" ∨ (headerMax * 4 + 2) / 3 < token.length then []
  else (rt.urlsafeB64decode (padded token)).getD []

/-- What a session receives. -/
inductive Message
  | binary (bytes : List UInt8)
  | text (s : String)
  | disconnect
  | timeout
deriving DecidableEq, Repr

/-- The bytes of a message. -/
def Message.bytes (rt : Runtime) : Message → List UInt8
  | .binary bytes => bytes
  | .text s => (rt.b64decode s).getD (s.toList.flatMap String.utf8EncodeChar)
  | _ => []

/-- How `_collect_header` ends: with a header, the number of bytes it took, the UUID of a session
that is identified by it, and the messages that are left; with an exception of the parser; with a
client that has gone; or not at all, for want of messages. -/
inductive Collected
  | accepted (header : VlessHeader) (size : ℕ) (uuid : Option String) (rest : List Message)
  | rejected (error : HeaderError)
  | gone
  | waiting
deriving DecidableEq, Repr

/-- A header was parsed. -/
def collected (rt : Runtime) (includeUuid : Bool) (buffer : List UInt8) (header : VlessHeader)
    (rest : List Message) : Collected :=
  if includeUuid then
    match vlessUuidFromHeader rt buffer with
    | .ok uuid => .accepted header buffer.length (some uuid) rest
    | .error e => .rejected e
  else .accepted header buffer.length none rest

/-- One turn of the loop of `_collect_header`, before it receives: how it ends, if it does. -/
def attempt (rt : Runtime) (includeUuid : Bool) (buffer : List UInt8) (rest : List Message) :
    Option Collected :=
  if includeUuid ∧ buffer.head?.any (fun b => decide (b ≠ 0)) then
    some (.rejected (.value "unsupported vless version"))
  else
    match parseVlessHeader rt buffer with
    | .ok header => some (collected rt includeUuid buffer header rest)
    | .error .index => some (.rejected .index)
    | .error (.value _) =>
      if headerMax ≤ buffer.length then
        some (.rejected (.value "vless header too large or invalid"))
      else none

/-- `_collect_header`, without prefetching the payload. -/
def collectHeader (rt : Runtime) (includeUuid : Bool) : List UInt8 → List Message → Collected
  | buffer, [] => (attempt rt includeUuid buffer []).getD .waiting
  | buffer, message :: messages =>
    match attempt rt includeUuid buffer (message :: messages) with
    | some outcome => outcome
    | none =>
      if message = .disconnect ∨ message = .timeout then .gone
      else collectHeader rt includeUuid (buffer ++ message.bytes rt) messages

/-! ## The grammar -/

/-- Where a request goes. -/
inductive Destination
  | ipv4 (bytes : List UInt8) (length : bytes.length = 4)
  | domain (bytes : List UInt8) (pos : 0 < bytes.length) (length : bytes.length < 256)
  | ipv6 (bytes : List UInt8) (length : bytes.length = 16)

namespace Destination

/-- The address type. -/
def addrType : Destination → UInt8
  | ipv4 _ _ => 1
  | domain _ _ _ => 2
  | ipv6 _ _ => 3

/-- The bytes of the address. -/
def body : Destination → List UInt8
  | ipv4 bytes _ => bytes
  | domain bytes _ _ => UInt8.ofNat bytes.length :: bytes
  | ipv6 bytes _ => bytes

/-- The host that is connected to. -/
def host (rt : Runtime) : Destination → Option String
  | ipv4 bytes _ => some (rt.inetNtop bytes)
  | domain bytes _ _ => rt.idnaDecode bytes
  | ipv6 bytes _ => some (rt.inetNtop bytes)

end Destination

/-- A request: what a header says. -/
structure Request where
  version : UInt8
  uuid : List UInt8
  addons : List UInt8
  portHigh : UInt8
  portLow : UInt8
  destination : Destination
  uuid_length : uuid.length = 16
  addons_length : addons.length < 256
  port_ne_zero : fromBytes [portHigh, portLow] ≠ 0

namespace Request

/-- The port that is connected to. -/
def port (r : Request) : ℕ := fromBytes [r.portHigh, r.portLow]

/-- The header of a request. -/
def encode (r : Request) : List UInt8 :=
  r.version :: r.uuid ++ UInt8.ofNat r.addons.length :: r.addons ++
    1 :: r.portHigh :: r.portLow :: r.destination.addrType :: r.destination.body

/-- The request may be made: its host can be decoded, and its version is 0 where the UUID is
taken from the header. -/
structure Valid (rt : Runtime) (includeUuid : Bool) (r : Request) (host : String) : Prop where
  host_eq : r.destination.host rt = some host
  version_eq : includeUuid = true → r.version = 0

end Request

/-! ## Reading bytes -/

lemma byteAt_append (before after : List UInt8) {view : List UInt8} {b : UInt8} {pos : ℕ}
    (hview : view = before ++ b :: after) (hpos : pos = before.length) :
    byteAt view pos = .ok b := by
  subst hview hpos
  simp [byteAt]

lemma slice_append (before after : List UInt8) {part view : List UInt8} {pos n : ℕ}
    (hview : view = before ++ (part ++ after)) (hpos : pos = before.length)
    (hn : n = part.length) : slice view pos n = .ok part := by
  subst hview hpos hn
  rw [slice, if_pos (by simp), List.drop_left, List.take_left]

/-- Bytes that are long enough have a first part of a given length. -/
lemma exists_split {l : List UInt8} {n : ℕ} (h : n ≤ l.length) :
    ∃ part rest, l = part ++ rest ∧ part.length = n :=
  ⟨l.take n, l.drop n, (List.take_append_drop n l).symm, by simpa using h⟩

lemma exists_cons {l : List UInt8} (h : 0 < l.length) : ∃ b rest, l = b :: rest := by
  cases l with
  | nil => cases h
  | cons b rest => exact ⟨b, rest, rfl⟩

lemma toNat_ofNat_length {n : ℕ} (h : n < 256) : (UInt8.ofNat n).toNat = n := by
  rw [UInt8.toNat_ofNat']
  omega

/-! ## The parser and the grammar -/

variable {rt : Runtime}

/-- An address of the grammar is parsed. -/
lemma parseAddress_body {d : Destination} {host : String} (hhost : d.host rt = some host)
    {before tail view : List UInt8} {pos : ℕ} (hview : view = before ++ (d.body ++ tail))
    (hpos : pos = before.length) :
    parseAddress rt view d.addrType pos = .ok (host, pos + d.body.length) := by
  have hlength : view.length = pos + (d.body.length + tail.length) := by
    rw [hview, hpos, List.length_append, List.length_append]
  unfold parseAddress
  cases d with
  | ipv4 bytes h4 =>
    obtain rfl := Option.some.inj hhost
    have hslice : slice view pos 4 = .ok bytes := slice_append _ _ hview hpos h4.symm
    simp only [Destination.body, Destination.addrType] at hlength ⊢
    rw [if_pos trivial, if_neg (by omega), hslice, h4]
    rfl
  | domain bytes hne hlt =>
    have hbyte : byteAt view pos = .ok (UInt8.ofNat bytes.length) :=
      byteAt_append _ (bytes ++ tail) hview hpos
    have hslice : slice view (pos + 1) bytes.length = .ok bytes := by
      refine slice_append (before ++ [UInt8.ofNat bytes.length]) tail ?_ ?_ rfl
      · rw [hview]
        simp [Destination.body]
      · simp [hpos]
    have hdecode : rt.idnaDecode bytes = some host := hhost
    simp only [Destination.body, Destination.addrType, List.length_cons] at hlength ⊢
    rw [if_neg (by decide), if_pos trivial, if_neg (by omega), hbyte]
    show (if (UInt8.ofNat bytes.length).toNat = 0 ∨ _ then _ else _) = _
    rw [toNat_ofNat_length hlt, if_neg (by omega), hslice]
    show (match rt.idnaDecode bytes with | some address => _ | none => _) = _
    rw [hdecode]
    show Except.ok (host, pos + 1 + bytes.length) = _
    rw [Nat.add_assoc, Nat.add_comm 1]
  | ipv6 bytes h16 =>
    obtain rfl := Option.some.inj hhost
    have hslice : slice view pos 16 = .ok bytes := slice_append _ _ hview hpos h16.symm
    simp only [Destination.body, Destination.addrType] at hlength ⊢
    rw [if_neg (by decide), if_neg (by decide), if_pos trivial, if_neg (by omega), hslice, h16]
    rfl

/-- The parser of addresses raises a `ValueError`, or reads an address of the grammar. -/
lemma parseAddress_cases (rt : Runtime) {before rest view : List UInt8} {pos : ℕ} (hview : view = before ++ rest)
    (hpos : pos = before.length) (addrType : UInt8) :
    (∃ message, parseAddress rt view addrType pos = .error (.value message)) ∨
      ∃ (d : Destination) (tail : List UInt8) (host : String), addrType = d.addrType ∧
        rest = d.body ++ tail ∧ d.host rt = some host := by
  have hlength : view.length = pos + rest.length := by rw [hview, hpos, List.length_append]
  unfold parseAddress
  by_cases h1 : addrType = 1
  · rw [if_pos h1]
    by_cases hshort : view.length < pos + 4
    · rw [if_pos hshort]
      exact .inl ⟨_, rfl⟩
    · obtain ⟨bytes, tail, hrest, hbytes⟩ := exists_split (l := rest) (n := 4) (by omega)
      exact .inr ⟨.ipv4 bytes hbytes, tail, _, h1, hrest, rfl⟩
  rw [if_neg h1]
  by_cases h2 : addrType = 2
  · rw [if_pos h2]
    by_cases hshort : view.length < pos + 1
    · rw [if_pos hshort]
      exact .inl ⟨_, rfl⟩
    · obtain ⟨b, rest', rfl⟩ := exists_cons (l := rest) (by omega)
      rw [List.length_cons] at hlength
      rw [if_neg hshort, byteAt_append _ _ hview hpos]
      show (∃ message, (if b.toNat = 0 ∨ _ then _ else _) = _) ∨ _
      by_cases hbad : b.toNat = 0 ∨ view.length < pos + 1 + b.toNat
      · rw [if_pos hbad]
        exact .inl ⟨_, rfl⟩
      · -- the whole domain is there; what is left is whether it can be decoded
        rw [if_neg hbad]
        have hb : b.toNat < 256 := b.toNat_lt
        obtain ⟨bytes, tail, rfl, hbytes⟩ := exists_split (l := rest') (n := b.toNat) (by omega)
        have hslice : slice view (pos + 1) b.toNat = .ok bytes := by
          refine slice_append (before ++ [b]) tail ?_ ?_ hbytes.symm
          · rw [hview, List.append_assoc]
            rfl
          · rw [hpos, List.length_append]
            rfl
        rw [hslice, ok_bind]
        cases hdecode : rt.idnaDecode bytes with
        | none => exact .inl ⟨_, rfl⟩
        | some host =>
          have hbody : b = UInt8.ofNat bytes.length := by rw [hbytes, UInt8.ofNat_toNat]
          refine .inr ⟨.domain bytes (by omega) (by omega), tail, host, h2, ?_, hdecode⟩
          simp only [Destination.body, ← hbody]
          rfl
  rw [if_neg h2]
  by_cases h3 : addrType = 3
  · rw [if_pos h3]
    by_cases hshort : view.length < pos + 16
    · rw [if_pos hshort]
      exact .inl ⟨_, rfl⟩
    · obtain ⟨bytes, tail, hrest, hbytes⟩ := exists_split (l := rest) (n := 16) (by omega)
      exact .inr ⟨.ipv6 bytes hbytes, tail, _, h3, hrest, rfl⟩
  · rw [if_neg h3]
    exact .inl ⟨_, rfl⟩

/-- The command, the port and the address of a request are parsed, wherever they start. -/
lemma parseCommand_request {r : Request} {host : String} (hhost : r.destination.host rt = some host)
    {before tail view : List UInt8} {pos : ℕ}
    (hview : view = before ++
      1 :: r.portHigh :: r.portLow :: r.destination.addrType :: (r.destination.body ++ tail))
    (hpos : pos = before.length) :
    parseCommand rt view pos = .ok ⟨1, host, r.port, tail⟩ := by
  have hcommand : byteAt view pos = .ok 1 := byteAt_append _ _ hview hpos
  have hport : slice view (pos + 1) 2 = .ok [r.portHigh, r.portLow] := by
    refine slice_append (before ++ [1])
      (r.destination.addrType :: (r.destination.body ++ tail)) ?_ ?_ rfl
    · rw [hview, List.append_assoc]
      rfl
    · rw [hpos, List.length_append]
      rfl
  have htype : byteAt view (pos + 3) = .ok r.destination.addrType := by
    refine byteAt_append (before ++ [1, r.portHigh, r.portLow])
      (r.destination.body ++ tail) ?_ ?_
    · rw [hview, List.append_assoc]
      rfl
    · rw [hpos, List.length_append]
      rfl
  have hbefore : view = (before ++ [1, r.portHigh, r.portLow, r.destination.addrType]) ++
      (r.destination.body ++ tail) := by
    rw [hview, List.append_assoc]
    rfl
  have hlength : pos + 4 =
      (before ++ [1, r.portHigh, r.portLow, r.destination.addrType]).length := by
    rw [hpos, List.length_append]
    rfl
  have hdrop : view.drop (pos + 4 + r.destination.body.length) = tail := by
    rw [hbefore, ← List.append_assoc, hlength, ← List.length_append, List.drop_left]
  unfold parseCommand
  rw [hcommand, ok_bind, if_neg (by decide), hport, ok_bind, if_neg r.port_ne_zero, htype, ok_bind,
    parseAddress_body hhost hbefore hlength, ok_bind]
  dsimp only
  rw [hdrop]
  rfl

/-- The parser of the command raises a `ValueError`, or reads the rest of a header. -/
lemma parseCommand_cases (rt : Runtime) {before rest view : List UInt8} {pos : ℕ} (hview : view = before ++ rest)
    (hpos : pos = before.length) (hlength : 4 ≤ rest.length) :
    (∃ message, parseCommand rt view pos = .error (.value message)) ∨
      ∃ (hi lo : UInt8) (d : Destination) (tail : List UInt8) (host : String),
        rest = 1 :: hi :: lo :: d.addrType :: (d.body ++ tail) ∧ fromBytes [hi, lo] ≠ 0 ∧
          d.host rt = some host := by
  obtain ⟨part, rest', rfl, hpart⟩ := exists_split hlength
  obtain ⟨command, hi, lo, addrType, rfl⟩ : ∃ a b c d, part = [a, b, c, d] :=
    List.length_eq_four.mp hpart
  have hcommand : byteAt view pos = .ok command :=
    byteAt_append _ (hi :: lo :: addrType :: rest') hview hpos
  unfold parseCommand
  rw [hcommand, ok_bind]
  by_cases hone : command.toNat ≠ 1
  · rw [if_pos hone]
    exact .inl ⟨_, rfl⟩
  rw [if_neg hone]
  have hport : slice view (pos + 1) 2 = .ok [hi, lo] := by
    refine slice_append (before ++ [command]) (addrType :: rest') ?_ ?_ rfl
    · rw [hview, List.append_assoc]
      rfl
    · rw [hpos, List.length_append]
      rfl
  rw [hport, ok_bind]
  dsimp only
  by_cases hzero : fromBytes [hi, lo] = 0
  · rw [if_pos hzero]
    exact .inl ⟨_, rfl⟩
  rw [if_neg hzero]
  have htype : byteAt view (pos + 3) = .ok addrType := by
    refine byteAt_append (before ++ [command, hi, lo]) rest' ?_ ?_
    · rw [hview, List.append_assoc]
      rfl
    · rw [hpos, List.length_append]
      rfl
  have hbefore : view = (before ++ [command, hi, lo, addrType]) ++ rest' := by
    rw [hview, List.append_assoc]
  have hfour : pos + 4 = (before ++ [command, hi, lo, addrType]).length := by
    rw [hpos, List.length_append]
    rfl
  rw [htype, ok_bind]
  rcases parseAddress_cases rt hbefore hfour addrType with ⟨message, herror⟩ |
    ⟨d, tail, host, rfl, rfl, hhost⟩
  · rw [herror]
    exact .inl ⟨message, rfl⟩
  · have hcommand1 : command = 1 := by
      have htoNat : command.toNat = 1 := not_not.mp hone
      rw [← UInt8.ofNat_toNat (x := command), htoNat]
      rfl
    exact .inr ⟨hi, lo, d, tail, host, by rw [hcommand1]; rfl, hzero, hhost⟩

/-- The header of a request is parsed, with what follows it as the payload. -/
lemma parse_encode {r : Request} {host : String} (hhost : r.destination.host rt = some host)
    (tail : List UInt8) : parseVlessHeader rt (r.encode ++ tail) = .ok ⟨1, host, r.port, tail⟩ := by
  have hview : r.encode ++ tail = (r.version :: r.uuid) ++ UInt8.ofNat r.addons.length ::
      (r.addons ++ 1 :: r.portHigh :: r.portLow :: r.destination.addrType ::
        (r.destination.body ++ tail)) := by
    simp [Request.encode]
  have hafter : r.encode ++ tail = (r.version :: r.uuid ++ UInt8.ofNat r.addons.length :: r.addons) ++
      1 :: r.portHigh :: r.portLow :: r.destination.addrType :: (r.destination.body ++ tail) := by
    simp [Request.encode]
  have hprefix : 17 = (r.version :: r.uuid).length := by rw [List.length_cons, r.uuid_length]
  have hpos : 18 + r.addons.length =
      (r.version :: r.uuid ++ UInt8.ofNat r.addons.length :: r.addons).length := by
    rw [List.length_append, ← hprefix, List.length_cons]
    omega
  have hlength : (r.encode ++ tail).length = 18 + r.addons.length + 4 +
      (r.destination.body ++ tail).length := by
    rw [hafter, List.length_append, ← hpos]
    simp only [List.length_cons]
    omega
  have hbyte : byteAt (r.encode ++ tail) 17 = .ok (UInt8.ofNat r.addons.length) :=
    byteAt_append _ _ hview hprefix
  unfold parseVlessHeader
  rw [if_neg (by omega), hbyte, ok_bind]
  dsimp only
  rw [toNat_ofNat_length r.addons_length, if_neg (by omega)]
  exact parseCommand_request hhost hafter hpos

/-- The parser raises a `ValueError`, or the bytes start with the header of a request. -/
lemma parse_cases (rt : Runtime) (view : List UInt8) :
    (∃ message, parseVlessHeader rt view = .error (.value message)) ∨
      ∃ (r : Request) (host : String) (tail : List UInt8),
        r.destination.host rt = some host ∧ view = r.encode ++ tail := by
  unfold parseVlessHeader
  by_cases hshort : view.length < 19
  · rw [if_pos hshort]
    exact .inl ⟨_, rfl⟩
  rw [if_neg hshort]
  obtain ⟨identity, rest, hsplit, hidentity⟩ := exists_split (l := view) (n := 17) (by omega)
  have hlength : view.length = 17 + rest.length := by
    rw [hsplit, List.length_append, hidentity]
  obtain ⟨version, uuid, rfl⟩ := exists_cons (l := identity) (by omega)
  obtain ⟨addonLen, rest, rfl⟩ := exists_cons (l := rest) (by omega)
  rw [List.length_cons] at hlength
  have hbyte : byteAt view 17 = .ok addonLen := byteAt_append _ _ hsplit hidentity.symm
  rw [hbyte, ok_bind]
  dsimp only
  by_cases hoptions : view.length < 18 + addonLen.toNat + 4
  · rw [if_pos hoptions]
    exact .inl ⟨_, rfl⟩
  rw [if_neg hoptions]
  obtain ⟨addons, rest, rfl, haddons⟩ := exists_split (l := rest) (n := addonLen.toNat) (by omega)
  rw [List.length_append] at hlength
  have hafter : view = (version :: uuid ++ addonLen :: addons) ++ rest := by
    rw [hsplit, List.append_assoc]
    rfl
  have hpos : 18 + addonLen.toNat = (version :: uuid ++ addonLen :: addons).length := by
    rw [List.length_append, hidentity, List.length_cons, haddons]
    omega
  have hlt : addonLen.toNat < 256 := addonLen.toNat_lt
  rcases parseCommand_cases rt hafter hpos (by omega) with ⟨message, herror⟩ |
    ⟨hi, lo, d, tail, host, rfl, hport, hhost⟩
  · exact .inl ⟨message, herror⟩
  · refine .inr ⟨⟨version, uuid, addons, hi, lo, d, by simpa using hidentity, by omega, hport⟩, host,
      tail, hhost, ?_⟩
    have hlen : addonLen = UInt8.ofNat addons.length := by rw [haddons, UInt8.ofNat_toNat]
    rw [hafter]
    simp only [Request.encode, ← hlen]
    simp

/-- The header of a request ends where it ends: no other header starts the same bytes. -/
lemma encode_inj {r r' : Request} {host host' : String} {tail tail' : List UInt8}
    (hhost : r.destination.host rt = some host) (hhost' : r'.destination.host rt = some host')
    (h : r.encode ++ tail = r'.encode ++ tail') : r.encode = r'.encode ∧ tail = tail' := by
  have hparse := parse_encode hhost tail
  rw [h, parse_encode hhost' tail'] at hparse
  have htail : tail' = tail := congrArg VlessHeader.payload (Except.ok.inj hparse)
  subst htail
  exact ⟨List.append_cancel_right h, rfl⟩

/-- A header is short. -/
lemma length_encode_lt (r : Request) : r.encode.length < headerMax := by
  have huuid := r.uuid_length
  have haddons := r.addons_length
  have hbody : r.destination.body.length ≤ 256 := by
    cases r.destination with
    | ipv4 bytes h => simp [Destination.body, h]
    | domain bytes hpos h =>
      simp only [Destination.body, List.length_cons]
      omega
    | ipv6 bytes h => simp [Destination.body, h]
  simp only [Request.encode, List.length_append, List.length_cons, headerMax]
  omega

/-! ## Collecting a header -/

/-- The UUID that a session is identified by, where it comes from the header. -/
def uuidOf (rt : Runtime) (includeUuid : Bool) (r : Request) : Option String :=
  if includeUuid then some (rt.uuidText (fromBytes r.uuid)) else none

/-- What a session goes on with: the command, the host and the port, the UUID, and the bytes that
are still to be forwarded. -/
def Collected.delivered (rt : Runtime) :
    Collected → Option (ℕ × String × ℕ × Option String × List UInt8)
  | .accepted header _ uuid rest =>
    some (header.command, header.address, header.port, uuid,
      header.payload ++ (rest.map (Message.bytes rt)).flatten)
  | _ => none

variable {includeUuid : Bool}

lemma flatten_bytes (frames : List (List UInt8)) :
    ((frames.map Message.binary).map (Message.bytes rt)).flatten = frames.flatten := by
  induction frames with
  | nil => rfl
  | cons frame frames ih =>
    simp only [List.map_cons, List.flatten_cons, ih]
    rfl

lemma vlessUuid_encode {r : Request} (hversion : r.version = 0) (tail : List UInt8) :
    vlessUuidFromHeader rt (r.encode ++ tail) = .ok (rt.uuidText (fromBytes r.uuid)) := by
  have hview : r.encode ++ tail = [r.version] ++ (r.uuid ++ (UInt8.ofNat r.addons.length ::
      r.addons ++ 1 :: r.portHigh :: r.portLow :: r.destination.addrType ::
        r.destination.body ++ tail)) := by
    simp [Request.encode]
  have hlength : 17 ≤ (r.encode ++ tail).length := by
    rw [hview, List.length_append, List.length_append, r.uuid_length, List.length_singleton]
    omega
  have hfirst : byteAt (r.encode ++ tail) 0 = .ok 0 := by
    rw [← hversion]
    exact byteAt_append [] _ hview rfl
  have huuid : slice (r.encode ++ tail) 1 16 = .ok r.uuid :=
    slice_append _ _ hview rfl r.uuid_length.symm
  unfold vlessUuidFromHeader
  rw [if_neg (by omega), hfirst, ok_bind, if_neg (by decide), huuid]
  rfl

/-- A buffer that starts with the header of a request ends the collection. -/
lemma attempt_encode {r : Request} {host : String} (hvalid : r.Valid rt includeUuid host)
    (payload : List UInt8) (rest : List Message) :
    attempt rt includeUuid (r.encode ++ payload) rest =
      some (.accepted ⟨1, host, r.port, payload⟩ (r.encode ++ payload).length
        (uuidOf rt includeUuid r) rest) := by
  have hfirst : (r.encode ++ payload).head? = some r.version := rfl
  unfold attempt
  rw [hfirst, parse_encode hvalid.host_eq]
  cases includeUuid with
  | false => rfl
  | true =>
    have hversion := hvalid.version_eq rfl
    rw [if_neg (by simp [hversion])]
    simp only [collected, if_true, vlessUuid_encode hversion, uuidOf]

/-- A proper beginning of the header of a request does not end the collection. -/
lemma attempt_beginning {r : Request} {host : String} (hvalid : r.Valid rt includeUuid host)
    {buffer missing : List UInt8} (hbuffer : r.encode = buffer ++ missing) (hne : missing ≠ [])
    (rest : List Message) : attempt rt includeUuid buffer rest = none := by
  have hversion : ¬ (includeUuid ∧ buffer.head?.any (fun b => decide (b ≠ 0))) := by
    rintro ⟨hinclude, hfirst⟩
    obtain ⟨b, hb, hbad⟩ := (Option.any_eq_true _ _).mp hfirst
    obtain ⟨others, rfl⟩ := List.head?_eq_some_iff.mp hb
    have hhead : r.encode.head? = some b := by rw [hbuffer, List.cons_append, List.head?_cons]
    have hb0 : b = r.version := (Option.some.inj hhead).symm
    rw [hb0, hvalid.version_eq hinclude] at hbad
    simp at hbad
  have hlength := length_encode_lt r
  have hshort : buffer.length < r.encode.length := by
    rw [hbuffer, List.length_append]
    have hpos := List.length_pos_iff.mpr hne
    omega
  unfold attempt
  rw [if_neg hversion]
  rcases parse_cases rt buffer with ⟨message, herror⟩ | ⟨r', host', tail', hhost', hsplit⟩
  · rw [herror]
    dsimp only
    rw [if_neg (by omega)]
  · -- another header would start the same bytes
    exfalso
    have heq : r.encode ++ [] = r'.encode ++ (tail' ++ missing) := by
      rw [List.append_nil, hbuffer, hsplit, List.append_assoc]
    obtain ⟨-, hnil⟩ := encode_inj hvalid.host_eq hhost' heq
    exact hne (List.append_eq_nil_iff.mp hnil.symm).2

/-- A stream that starts with the header of a request is accepted, however it is cut, and the
rest of it is handed on. -/
lemma collect_complete {r : Request} {host : String} (hvalid : r.Valid rt includeUuid host)
    {tail : List UInt8} (frames : List (List UInt8)) (buffer : List UInt8)
    (hstream : buffer ++ frames.flatten = r.encode ++ tail) :
    (collectHeader rt includeUuid buffer (frames.map .binary)).delivered rt =
      some (1, host, r.port, uuidOf rt includeUuid r, tail) := by
  induction frames generalizing buffer with
  | nil =>
    rw [List.flatten_nil, List.append_nil] at hstream
    rw [List.map_nil, collectHeader, hstream, attempt_encode hvalid]
    simp [Collected.delivered]
  | cons frame frames ih =>
    rw [List.map_cons, collectHeader]
    rcases List.append_eq_append_iff.mp hstream with ⟨missing, hheader, hrest⟩ |
      ⟨payload, hbuffer, htail⟩
    · by_cases hne : missing = []
      · -- the header ends where the buffer ends
        subst hne
        have hwhole : buffer = r.encode ++ [] := by rw [hheader, List.append_nil, List.append_nil]
        rw [hwhole, attempt_encode hvalid]
        dsimp only [Collected.delivered]
        rw [← List.map_cons, flatten_bytes, hrest]
        rfl
      · rw [attempt_beginning hvalid hheader hne]
        dsimp only
        rw [if_neg (by simp)]
        refine ih (buffer ++ frame) ?_
        rw [← hstream, List.append_assoc, List.flatten_cons]
    · -- the buffer has the header and the beginning of the rest
      rw [hbuffer, attempt_encode hvalid]
      dsimp only [Collected.delivered]
      rw [← List.map_cons, flatten_bytes, ← htail]

/-- A turn of the loop raises a `ValueError`, goes on, or has the header of a request. -/
lemma attempt_cases (rt : Runtime) (includeUuid : Bool) (buffer : List UInt8) (rest : List Message) :
    (∃ message, attempt rt includeUuid buffer rest = some (.rejected (.value message))) ∨
      attempt rt includeUuid buffer rest = none ∨
        ∃ (r : Request) (host : String) (payload : List UInt8),
          r.Valid rt includeUuid host ∧ buffer = r.encode ++ payload := by
  rcases parse_cases rt buffer with ⟨message, herror⟩ | ⟨r, host, payload, hhost, hbuffer⟩
  · unfold attempt
    rw [herror]
    dsimp only
    split
    · exact .inl ⟨_, rfl⟩
    · split
      · exact .inl ⟨_, rfl⟩
      · exact .inr (.inl rfl)
  · by_cases hversion : includeUuid = true ∧ r.version ≠ 0
    · left
      refine ⟨_, if_pos ⟨hversion.1, ?_⟩⟩
      rw [hbuffer]
      exact decide_eq_true hversion.2
    · refine .inr (.inr ⟨r, host, payload, ⟨hhost, ?_⟩, hbuffer⟩)
      intro hinclude
      by_contra hne
      exact hversion ⟨hinclude, hne⟩

/-- What is accepted starts with the header of a request. -/
lemma collect_sound (frames : List (List UInt8)) (buffer : List UInt8)
    (h : (collectHeader rt includeUuid buffer (frames.map .binary)).delivered rt ≠ none) :
    ∃ (r : Request) (host : String) (tail : List UInt8),
      r.Valid rt includeUuid host ∧ buffer ++ frames.flatten = r.encode ++ tail := by
  induction frames generalizing buffer with
  | nil =>
    rw [List.map_nil, collectHeader] at h
    rcases attempt_cases rt includeUuid buffer [] with
      ⟨message, hattempt⟩ | hattempt | ⟨r, host, payload, hvalid, rfl⟩
    · rw [hattempt] at h
      exact absurd rfl h
    · rw [hattempt] at h
      exact absurd rfl h
    · exact ⟨r, host, payload, hvalid, List.append_nil _⟩
  | cons frame frames ih =>
    rw [List.map_cons, collectHeader] at h
    rcases attempt_cases rt includeUuid buffer
      (.binary frame :: frames.map .binary) with
      ⟨message, hattempt⟩ | hattempt | ⟨r, host, payload, hvalid, rfl⟩
    · rw [hattempt] at h
      exact absurd rfl h
    · rw [hattempt] at h
      dsimp only at h
      rw [if_neg (by simp)] at h
      obtain ⟨r, host, tail, hvalid, hstream⟩ := ih (buffer ++ frame) h
      refine ⟨r, host, tail, hvalid, ?_⟩
      rw [← hstream, List.flatten_cons, List.append_assoc]
    · exact ⟨r, host, payload ++ (frame :: frames).flatten, hvalid, List.append_assoc _ _ _⟩

/-- Nothing is read beyond the bytes that were received. -/
lemma collect_index (buffer : List UInt8) (messages : List Message) :
    collectHeader rt includeUuid buffer messages ≠ .rejected .index := by
  induction messages generalizing buffer with
  | nil =>
    rw [collectHeader]
    rcases attempt_cases rt includeUuid buffer [] with
      ⟨message, hattempt⟩ | hattempt | ⟨r, host, payload, hvalid, rfl⟩
    · rw [hattempt]
      simp
    · rw [hattempt]
      simp
    · rw [attempt_encode hvalid]
      simp
  | cons message messages ih =>
    rw [collectHeader]
    rcases attempt_cases rt includeUuid buffer (message :: messages) with
      ⟨_, hattempt⟩ | hattempt | ⟨r, host, payload, hvalid, rfl⟩
    · rw [hattempt]
      simp
    · rw [hattempt]
      dsimp only
      split
      · simp
      · exact ih _
    · rw [attempt_encode hvalid]
      simp

/-! ## Early data -/

/-- Early data of up to 16 KiB is decoded from the header of the WebSocket request. -/
lemma earlyData_unpadded (rt : Runtime) {early : List UInt8} (h : early.length ≤ headerMax) :
    earlyData rt (String.ofList (Base64.unpadded early)) = early := by
  have hcomma : (Base64.unpadded early).takeWhile (fun c => decide (c ≠ ',')) =
      Base64.unpadded early := by
    refine List.takeWhile_eq_self_iff.mpr fun c hc => decide_eq_true ?_
    rintro rfl
    exact absurd (Base64.isDigit_of_mem hc) (by decide)
  have hblank : ∀ c ∈ (String.ofList (Base64.unpadded early)).toList, isSpace c = false := by
    intro c hc
    rw [String.toList_ofList] at hc
    have hdigit := Base64.isDigit_of_mem hc
    simp only [Base64.isDigit, Bool.or_eq_true, beq_iff_eq] at hdigit
    rcases hdigit with (halnum | rfl) | rfl
    · exact alphanum_not_space c halnum
    · decide
    · decide
  have htoken : strip (String.ofList ((String.ofList (Base64.unpadded early)).toList.takeWhile
      fun c => decide (c ≠ ','))) = String.ofList (Base64.unpadded early) := by
    rw [String.toList_ofList, hcomma]
    exact strip_eq_self hblank
  have hlength : (String.ofList (Base64.unpadded early)).length = (early.length * 4 + 2) / 3 := by
    rw [String.length_ofList, Base64.length_unpadded]
  unfold earlyData
  dsimp only
  rw [htoken]
  split
  · rename_i hrefused
    rcases hrefused with hempty | hlong
    · -- without early data there is no token
      rw [hempty] at hlength
      simp only [String.length_empty] at hlength
      exact (List.length_eq_zero_iff.mp (by omega)).symm
    · rw [hlength] at hlong
      omega
  · rw [padded_unpadded, rt.urlsafeB64decode_encode]
    rfl

/-- A header is read in the same way however its stream is cut.  Whether a stream is accepted
depends only on whether it starts with the header of a request; what a session goes on with is
what that header says, and all that follows the header; and nothing is read beyond the bytes that
were received. -/
theorem header_segmentation (rt : Runtime) (includeUuid : Bool) (token : String)
    (frames : List (List UInt8)) :
    let stream := earlyData rt token ++ frames.flatten
    let outcome := collectHeader rt includeUuid (earlyData rt token) (frames.map .binary)
    (outcome.delivered rt ≠ none ↔
        ∃ (r : Request) (host : String) (tail : List UInt8),
          r.Valid rt includeUuid host ∧ stream = r.encode ++ tail) ∧
      (∀ (r : Request) (host : String) (tail : List UInt8), r.Valid rt includeUuid host →
        stream = r.encode ++ tail →
          outcome.delivered rt = some (1, host, r.port, uuidOf rt includeUuid r, tail)) ∧
      outcome ≠ .rejected .index ∧
      (∀ (token' : String) (frames' : List (List UInt8)),
        earlyData rt token' ++ frames'.flatten = stream →
        (collectHeader rt includeUuid (earlyData rt token') (frames'.map .binary)).delivered rt =
          outcome.delivered rt) ∧
      ∀ early : List UInt8, early.length ≤ headerMax →
        earlyData rt (String.ofList (Base64.unpadded early)) = early := by
  intro stream outcome
  have hcomplete : ∀ (token' : String) (frames' : List (List UInt8)), earlyData rt token' ++ frames'.flatten = stream →
      ∀ (r : Request) (host : String) (tail : List UInt8), r.Valid rt includeUuid host →
        stream = r.encode ++ tail →
          (collectHeader rt includeUuid (earlyData rt token')
            (frames'.map .binary)).delivered rt =
              some (1, host, r.port, uuidOf rt includeUuid r, tail) := by
    intro token' frames' hsame r host tail hvalid hstream
    exact collect_complete hvalid frames' _ (hsame.trans hstream)
  have hsound : ∀ (token' : String) (frames' : List (List UInt8)), earlyData rt token' ++ frames'.flatten = stream →
      (collectHeader rt includeUuid (earlyData rt token')
        (frames'.map .binary)).delivered rt ≠ none →
          ∃ (r : Request) (host : String) (tail : List UInt8),
            r.Valid rt includeUuid host ∧ stream = r.encode ++ tail := by
    intro token' frames' hsame haccepted
    rw [← hsame]
    exact collect_sound frames' _ haccepted
  refine ⟨⟨hsound token frames rfl, ?_⟩, hcomplete token frames rfl, collect_index _ _, ?_,
    fun _ h => earlyData_unpadded rt h⟩
  · rintro ⟨r, host, tail, hvalid, hstream⟩
    rw [hcomplete token frames rfl r host tail hvalid hstream]
    exact nofun
  · intro token' frames' hsame
    by_cases haccepted : ∃ (r : Request) (host : String) (tail : List UInt8),
        r.Valid rt includeUuid host ∧ stream = r.encode ++ tail
    · obtain ⟨r, host, tail, hvalid, hstream⟩ := haccepted
      rw [hcomplete token' frames' hsame r host tail hvalid hstream,
        hcomplete token frames rfl r host tail hvalid hstream]
    · have hnone : ∀ (token' : String) (frames' : List (List UInt8)), earlyData rt token' ++ frames'.flatten = stream →
          (collectHeader rt includeUuid (earlyData rt token')
            (frames'.map .binary)).delivered rt = none := by
        intro token' frames' hsame
        by_contra hne
        exact haccepted (hsound token' frames' hsame hne)
      rw [hnone token' frames' hsame, hnone token frames rfl]

end Session
