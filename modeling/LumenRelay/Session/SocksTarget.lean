import LumenRelay.Routing.FirstPacket
import LumenRelay.Session.Connect
import Mathlib.Algebra.Order.BigOperators.Group.List
import Mathlib.Data.List.DropRight

/-!
# Destinations of a SOCKS5 request

The destination of a session is read off its header as a text.  A SOCKS5 request names it as an
address or as a domain, and which of the two is told from the text again, after brackets at its
ends and a zone were taken away.
-/

namespace Session

open Lib Py Routing Net Effect

/-! ## The grammar of SOCKS5 -/

/-- A host in a SOCKS5 request. -/
inductive SocksHost
  | ipv4 (bytes : List UInt8)
  | domain (bytes : List UInt8)
  | ipv6 (bytes : List UInt8)
deriving DecidableEq

/-- Reads a host and a port, as a SOCKS5 proxy does. -/
def decodeTarget : List UInt8 → Option (SocksHost × ℕ)
  | 1 :: bytes =>
    if bytes.length = 6 then some (.ipv4 (bytes.take 4), fromBytes (bytes.drop 4)) else none
  | 3 :: n :: bytes =>
    if bytes.length = n.toNat + 2 then
      some (.domain (bytes.take n.toNat), fromBytes (bytes.drop n.toNat))
    else none
  | 4 :: bytes =>
    if bytes.length = 18 then some (.ipv6 (bytes.take 16), fromBytes (bytes.drop 16)) else none
  | _ => none

/-- The host that a text names: the address that it is a literal of, or else a domain. -/
def namedHost (rt : Runtime) (host : String) : Option SocksHost :=
  match rt.ipAddress host with
  | some (version, _) =>
    some (if version = 4 then .ipv4 (rt.ipPacked host) else .ipv6 (rt.ipPacked host))
  | none => (rt.idna host).map fun ascii => .domain (utf8Bytes ascii)

/-- What is sent to a proxy before the request: the greeting and the credentials. -/
def BeforeRequest (params : ProxyParams) : NetEvent → Prop
  | .send bytes => bytes = [5, 2, 0, 2] ∨ bytes = [5, 1, 0] ∨ bytes = socksCredentials params
  | _ => True

/-- The request for a destination names this destination; or there is no request, and then the
handshake raises without having sent one. -/
structure Faithful (rt : Runtime) (host : String) (port : ℤ) : Prop where
  named : ∀ bytes, socksTarget rt host port = .ok bytes →
    ∃ named, namedHost rt host = some named ∧ decodeTarget bytes = some (named, port.toNat)
  refused : ∀ e, socksTarget rt host port = .error e → ∀ packet params script,
    let run := socksOnce rt host port packet params ⟨script, []⟩
    (∃ e', run.1 = .error e') ∧ ∀ event ∈ run.2.log, BeforeRequest params event

/-- A text that is the name of a domain in a SOCKS5 request. -/
def Encodable (rt : Runtime) (host : String) : Prop :=
  ∃ ascii, rt.idna host = some ascii ∧ (utf8Bytes ascii).length ≤ 255

/-- A literal, or a text that neither looks like one nor loses a bracket where a domain without
it can be named. -/
def KeptWhole (rt : Runtime) (host : String) : Prop :=
  (rt.ipAddress host).isSome ∨
    rt.ipAddress (dropZone (stripBrackets host)) = none ∧
      (stripBrackets host = host ∨ ¬ Encodable rt (stripBrackets host))

/-! ## What is documented of literals and names -/

/-- Whether a character is a square bracket. -/
def isBracket (c : Char) : Bool := c = '[' ∨ c = ']'

/-- What is documented of literals and of the `idna` codec: an address has four or sixteen bytes;
its text has digits and separators up to a zone, which the bytes do not tell; an encoded name
has the brackets of its text, in whichever form they stand there. -/
structure LiteralSpec (rt : Runtime) : Prop where
  packed : ∀ s v t, rt.ipAddress s = some (v, t) →
    v = 4 ∧ (rt.ipPacked s).length = 4 ∨ v = 6 ∧ (rt.ipPacked s).length = 16
  zone : ∀ s v t, rt.ipAddress s = some (v, t) →
    (rt.ipAddress (dropZone s)).map Prod.fst = some v ∧ rt.ipPacked (dropZone s) = rt.ipPacked s
  text : ∀ s v t, rt.ipAddress s = some (v, t) →
    dropZone s ≠ "" ∧ ∀ c ∈ (dropZone s).toList, c.isAlphanum ∨ c = ':' ∨ c = '.'
  brackets : ∃ weight : Char → ℕ, (∀ c, isBracket c = true → 0 < weight c) ∧
    ∀ s ascii, rt.idna s = some ascii →
      (ascii.toList.filter isBracket).length = (s.toList.map weight).sum

/-! ## Brackets and zones -/

section Texts

/-- What a predicate takes from the front stays where another one takes from the ends, if nothing
satisfies both. -/
lemma dropWhile_of_takeWhile {p q : Char → Bool} {l : List Char} (hne : l.takeWhile q ≠ [])
    (h : ∀ c ∈ l.takeWhile q, p c = false) : l.dropWhile p = l := by
  cases l with
  | nil => rfl
  | cons c l =>
    have hq : q c = true := by
      by_contra hq
      simp [hq] at hne
    rw [List.dropWhile_cons, if_neg]
    simp [h c (by simp [hq])]

lemma takeWhile_rdropWhile {p q : Char → Bool} {l : List Char}
    (h : ∀ c ∈ l.takeWhile q, p c = false) : (l.rdropWhile p).takeWhile q = l.takeWhile q := by
  have hsplit : l.rdropWhile p ++ l.rtakeWhile p = l := List.rdropWhile_append_rtakeWhile
  have htake := congrArg (List.takeWhile q) hsplit
  rw [List.takeWhile_append] at htake
  split_ifs at htake with hwhole
  · have hback : (l.rtakeWhile p).takeWhile q = [] := by
      refine List.eq_nil_iff_forall_not_mem.mpr fun c hc => ?_
      have hp : p c = true := List.mem_rtakeWhile_imp ((List.takeWhile_prefix q).subset hc)
      rw [h c (htake ▸ List.mem_append_right _ hc)] at hp
      cases hp
    rw [hback, List.append_nil] at htake
    rw [← htake]
    exact (List.takeWhile_prefix q).eq_of_length hwhole
  · exact htake

lemma isBracket_eq_false {c : Char} (h : c.isAlphanum ∨ c = ':' ∨ c = '.') :
    isBracket c = false := by
  refine Bool.eq_false_iff.mpr fun hb => ?_
  rcases of_decide_eq_true hb with rfl | rfl
  · revert h
    decide
  · revert h
    decide

lemma toList_stripBrackets (s : String) :
    (stripBrackets s).toList = (s.toList.dropWhile isBracket).rdropWhile isBracket := by
  simp only [stripBrackets, String.toList_ofList, List.rdropWhile]
  rfl

/-- Only brackets are taken away. -/
lemma stripBrackets_split (s : String) :
    ∃ front back : List Char, s.toList = front ++ (stripBrackets s).toList ++ back ∧
      (∀ c ∈ front ++ back, isBracket c = true) := by
  refine ⟨s.toList.takeWhile isBracket, (s.toList.dropWhile isBracket).rtakeWhile isBracket, ?_, ?_⟩
  · rw [toList_stripBrackets, List.append_assoc, List.rdropWhile_append_rtakeWhile,
      List.takeWhile_append_dropWhile]
  · intro c hc
    rcases List.mem_append.mp hc with h | h
    · exact List.mem_takeWhile_imp h
    · exact List.mem_rtakeWhile_imp h

/-- A text that loses a bracket has another name. -/
lemma idna_stripBrackets {rt : Runtime} (spec : LiteralSpec rt) {host ascii : String}
    (hne : stripBrackets host ≠ host) (h : rt.idna host = some ascii) :
    rt.idna (stripBrackets host) ≠ some ascii := by
  intro hbare
  obtain ⟨weight, hpos, hcount⟩ := spec.brackets
  obtain ⟨front, back, hsplit, hall⟩ := stripBrackets_split host
  have heq : (host.toList.map weight).sum = ((stripBrackets host).toList.map weight).sum := by
    rw [← hcount _ _ h, ← hcount _ _ hbare]
  rw [hsplit, List.map_append, List.map_append, List.sum_append, List.sum_append] at heq
  -- some bracket was taken away, and it weighs something
  obtain ⟨c, hc⟩ : ∃ c, c ∈ front ++ back := by
    refine List.exists_mem_of_ne_nil _ fun hnil => hne ?_
    rw [List.append_eq_nil_iff] at hnil
    rw [hnil.1, hnil.2, List.nil_append, List.append_nil] at hsplit
    exact String.ext (by rw [hsplit])
  have hle : weight c ≤ ((front ++ back).map weight).sum :=
    List.single_le_sum (by simp) _ (List.mem_map_of_mem hc)
  rw [List.map_append, List.sum_append] at hle
  have := hpos c (hall c hc)
  omega

/-- A literal keeps its address when brackets and a zone are taken away. -/
lemma dropZone_stripBrackets {rt : Runtime} (spec : LiteralSpec rt) {s t : String} {v : ℕ}
    (h : rt.ipAddress s = some (v, t)) : dropZone (stripBrackets s) = dropZone s := by
  obtain ⟨hne, hchars⟩ := spec.text s v t h
  have hplain : ∀ c ∈ s.toList.takeWhile (· ≠ '%'), isBracket c = false := by
    intro c hc
    have hsep := hchars c (by rw [dropZone, String.toList_ofList]; exact hc)
    exact isBracket_eq_false hsep
  have hstart : s.toList.takeWhile (· ≠ '%') ≠ [] := fun hnil => hne (by rw [dropZone, hnil])
  rw [dropZone, toList_stripBrackets, dropWhile_of_takeWhile hstart hplain,
    takeWhile_rdropWhile hplain, dropZone]

end Texts

/-! ## The request -/

section Request

variable {rt : Runtime} {host : String}

lemma portBytes_nat {port : ℕ} (h : port < 65536) :
    ∃ high low, portBytes port = .ok [high, low] ∧ fromBytes [high, low] = port := by
  refine ⟨_, _, if_pos ⟨by omega, by omega⟩, ?_⟩
  rw [Int.toNat_natCast]
  simp [fromBytes]
  omega

lemma socksTarget_address {port : ℤ} {bytes : List UInt8} {v : ℕ} {t : String}
    (h : rt.ipAddress (dropZone (stripBrackets host)) = some (v, t))
    (hport : portBytes port = .ok bytes) :
    socksTarget rt host port = .ok ((if v = 4 then 1 else 4) ::
      rt.ipPacked (dropZone (stripBrackets host)) ++ bytes) := by
  simp [socksTarget, h, hport]

lemma socksTarget_domain {port : ℤ} {bytes : List UInt8} {ascii : String}
    (h : rt.ipAddress (dropZone (stripBrackets host)) = none)
    (hidna : rt.idna (stripBrackets host) = some ascii) (hlength : (utf8Bytes ascii).length ≤ 255)
    (hport : portBytes port = .ok bytes) :
    socksTarget rt host port =
      .ok (3 :: UInt8.ofNat (utf8Bytes ascii).length :: utf8Bytes ascii ++ bytes) := by
  simp [socksTarget, h, hidna, hport, Nat.not_lt.mpr hlength]

lemma socksTarget_not_encodable (port : ℤ)
    (h : rt.ipAddress (dropZone (stripBrackets host)) = none)
    (hidna : ¬ Encodable rt (stripBrackets host)) : ∃ e, socksTarget rt host port = .error e := by
  cases hascii : rt.idna (stripBrackets host) with
  | none => exact ⟨_, by simp [socksTarget, h, hascii]; rfl⟩
  | some ascii =>
    have hlong : 255 < (utf8Bytes ascii).length :=
      not_le.mp fun hle => hidna ⟨ascii, hascii, hle⟩
    exact ⟨_, by simp [socksTarget, h, hascii, hlong]; rfl⟩

/-- An address is read back. -/
lemma decodeTarget_address {v : ℕ} {packed : List UInt8} {high low : UInt8}
    (h : v = 4 ∧ packed.length = 4 ∨ v = 6 ∧ packed.length = 16) :
    decodeTarget ((if v = 4 then 1 else 4) :: packed ++ [high, low]) =
      some (if v = 4 then .ipv4 packed else .ipv6 packed, fromBytes [high, low]) := by
  rcases h with ⟨rfl, hlength⟩ | ⟨rfl, hlength⟩
  · simp [decodeTarget, ← hlength]
  · simp [decodeTarget, ← hlength]

/-- A domain is read back. -/
lemma decodeTarget_domain {name : List UInt8} {high low : UInt8} (h : name.length ≤ 255) :
    decodeTarget (3 :: UInt8.ofNat name.length :: name ++ [high, low]) =
      some (.domain name, fromBytes [high, low]) := by
  simp [decodeTarget, toNat_ofNat_length (Nat.lt_succ_of_le h)]

/-- Without a request, the handshake ends before it sends one. -/
lemma socksOnce_refused {port : ℤ} {e : PyErr} (h : socksTarget rt host port = .error e)
    (packet : List UInt8) (params : ProxyParams) (script : List Reply) :
    let run := socksOnce rt host port packet params ⟨script, []⟩
    (∃ e', run.1 = .error e') ∧ ∀ event ∈ run.2.log, BeforeRequest params event := by
  have hnone : ∀ f : List UInt8 → Net Unit,
      (ofExcept (socksTarget rt host port) >>= f) = fail e := by
    intro f
    rw [h]
    rfl
  refine ⟨?_, ?_⟩
  · rcases hrun : socksOnce rt host port packet params ⟨script, []⟩ with ⟨r, s⟩
    cases r with
    | error e' => exact ⟨e', rfl⟩
    | ok u =>
      exfalso
      obtain ⟨_, _, -, hrun⟩ := Effect.bind_eq_ok hrun
      obtain ⟨_, _, -, hrun⟩ := Effect.bind_eq_ok (closing_ok hrun)
      obtain ⟨greeting, _, -, hrun⟩ := Effect.bind_eq_ok hrun
      split at hrun
      · obtain ⟨_, _, -, hrun⟩ := Effect.bind_eq_ok hrun
        obtain ⟨_, _, -, hrun⟩ := Effect.bind_eq_ok hrun
        rw [hnone] at hrun
        cases hrun
      · cases hrun
  · have hkeeps : Keeps (Only (BeforeRequest params)) (socksOnce rt host port packet params) := by
      refine (keeps_dial trivial).bind fun _ => keeps_closing trivial ?_
      refine (keeps_write ?_).bind fun _ => (keeps_readExactly 2).bind fun greeting => ?_
      · split
        · exact .inl rfl
        · exact .inr (.inl rfl)
      split
      · refine (keeps_failIf _ _).bind fun _ => ?_
        refine (keeps_socksAuthenticate (.inr (.inr rfl)) _ _).bind fun _ => ?_
        rw [hnone]
        exact keeps_fail e
      · exact keeps_fail _
    exact hkeeps ⟨script, []⟩ nofun

/-- A destination that goes out whole. -/
lemma faithful_of_keptWhole (spec : LiteralSpec rt) {port : ℕ} (hport : port < 65536)
    (h : KeptWhole rt host) : Faithful rt host port := by
  obtain ⟨high, low, hbytes, hvalue⟩ := portBytes_nat hport
  refine ⟨fun bytes hok => ?_, fun e he => socksOnce_refused he⟩
  rw [Int.toNat_natCast, ← hvalue]
  rcases h with hliteral | ⟨hnone, hkept⟩
  · obtain ⟨⟨v, t⟩, hip⟩ := Option.isSome_iff_exists.mp hliteral
    obtain ⟨hzone, hpacked⟩ := spec.zone host v t hip
    obtain ⟨⟨v', t'⟩, hip', hv⟩ := Option.map_eq_some_iff.mp hzone
    obtain rfl : v' = v := hv
    rw [← dropZone_stripBrackets spec hip] at hip' hpacked
    rw [socksTarget_address hip' hbytes, hpacked] at hok
    obtain rfl := Except.ok.inj hok
    exact ⟨_, by rw [namedHost, hip], decodeTarget_address (spec.packed host v' t hip)⟩
  · have henc : Encodable rt (stripBrackets host) := by
      by_contra hnot
      obtain ⟨e, he⟩ := socksTarget_not_encodable port hnone hnot
      rw [he] at hok
      cases hok
    obtain ⟨ascii, hidna, hlength⟩ := henc
    have hself : stripBrackets host = host :=
      hkept.resolve_right (not_not.mpr ⟨ascii, hidna, hlength⟩)
    rw [socksTarget_domain hnone hidna hlength hbytes] at hok
    obtain rfl := Except.ok.inj hok
    rw [hself] at hnone hidna
    refine ⟨_, ?_, decodeTarget_domain hlength⟩
    have hip : rt.ipAddress host = none := by
      cases hip : rt.ipAddress host with
      | none => rfl
      | some found =>
        have hzone := (spec.zone host found.1 found.2 hip).1
        rw [hnone] at hzone
        cases hzone
    rw [namedHost, hip, hidna]
    rfl

/-- A destination that goes out whole is a literal, or keeps its brackets and its kind. -/
lemma keptWhole_of_faithful (spec : LiteralSpec rt) {port : ℕ} (hport : port < 65536)
    (h : Faithful rt host port) : KeptWhole rt host := by
  obtain ⟨high, low, hbytes, hvalue⟩ := portBytes_nat hport
  cases hip : rt.ipAddress host with
  | some found => exact .inl (by rw [hip]; rfl)
  | none =>
    have hdomain : ∀ named, namedHost rt host = some named →
        ∃ ascii, rt.idna host = some ascii ∧ named = .domain (utf8Bytes ascii) := by
      intro named hnamed
      rw [namedHost, hip] at hnamed
      obtain ⟨ascii, hascii, rfl⟩ := Option.map_eq_some_iff.mp hnamed
      exact ⟨ascii, hascii, rfl⟩
    cases hbare : rt.ipAddress (dropZone (stripBrackets host)) with
    | some found =>
      -- it would go out as an address
      exfalso
      obtain ⟨v, t⟩ := found
      obtain ⟨named, hnamed, hdecode⟩ := h.named _ (socksTarget_address hbare hbytes)
      obtain ⟨ascii, -, rfl⟩ := hdomain named hnamed
      rw [decodeTarget_address (spec.packed _ v t hbare)] at hdecode
      split_ifs at hdecode <;> cases hdecode
    | none =>
      refine .inr ⟨hbare, ?_⟩
      by_contra hnot
      rw [not_or, not_not] at hnot
      obtain ⟨hne, ascii, hidna, hlength⟩ := hnot
      obtain ⟨named, hnamed, hdecode⟩ := h.named _ (socksTarget_domain hbare hidna hlength hbytes)
      obtain ⟨whole, hwhole, rfl⟩ := hdomain named hnamed
      rw [decodeTarget_domain hlength, Option.some.injEq, Prod.mk.injEq,
        SocksHost.domain.injEq] at hdecode
      rw [utf8Bytes_inj rt hdecode.1] at hidna
      exact idna_stripBrackets spec hne hwhole hidna

end Request

/-! ## Destinations of a header -/

/-- The port of a header has two bytes. -/
lemma parseVlessHeader_port {rt : Runtime} {chunk : List UInt8} {header : VlessHeader}
    (h : parseVlessHeader rt chunk = .ok header) : header.port < 65536 := by
  rcases parse_cases rt chunk with ⟨message, herror⟩ | ⟨r, host, tail, hhost, rfl⟩
  · rw [herror] at h
    cases h
  · rw [parse_encode hhost] at h
    obtain rfl := Except.ok.inj h
    have hhigh := r.portHigh.toNat_lt
    have hlow := r.portLow.toNat_lt
    simp only [Request.port, fromBytes, List.foldl_cons, List.foldl_nil]
    omega

/-- **Destinations of a SOCKS5 request.**  The destination of a header is what the request for it
names, exactly when its host is a literal, or a text that is no literal without its zone and the
brackets at its ends, and has no such brackets unless no domain can be named without them. -/
theorem socks_destination_faithful {rt : Runtime} (spec : LiteralSpec rt) {chunk : List UInt8}
    {header : VlessHeader} (h : parseVlessHeader rt chunk = .ok header) :
    Faithful rt header.address header.port ↔ KeptWhole rt header.address :=
  ⟨keptWhole_of_faithful spec (parseVlessHeader_port h),
    faithful_of_keptWhole spec (parseVlessHeader_port h)⟩

/-! ## A name in brackets -/

/-- Names of ASCII characters, and one address. -/
def oneAddress : Runtime :=
  { Runtime.ascii with
    ipAddress := fun s => if s = "1.2.3.4" then some (4, "1.2.3.4") else none
    ipAddress_text := by
      intro s v t h c hc
      split_ifs at h with hs
      obtain ⟨rfl, rfl⟩ := Prod.mk.inj (Option.some.inj h)
      exact .inr (.inr (hs ▸ hc))
    ipPacked := fun s => if s = "1.2.3.4" then [1, 2, 3, 4] else [] }

lemma oneAddress_eq {s t : String} {v : ℕ} (h : oneAddress.ipAddress s = some (v, t)) :
    s = "1.2.3.4" ∧ v = 4 := by
  have hip : (if s = "1.2.3.4" then some (4, "1.2.3.4") else none) = some (v, t) := h
  split_ifs at hip with hs
  exact ⟨hs, (Prod.mk.inj (Option.some.inj hip)).1.symm⟩

lemma oneAddress_spec : LiteralSpec oneAddress where
  packed s v t h := by
    obtain ⟨rfl, rfl⟩ := oneAddress_eq h
    exact .inl ⟨rfl, rfl⟩
  zone s v t h := by
    obtain ⟨rfl, rfl⟩ := oneAddress_eq h
    exact ⟨by decide +kernel, by decide +kernel⟩
  text s v t h := by
    obtain ⟨rfl, rfl⟩ := oneAddress_eq h
    have htext : dropZone "1.2.3.4" = "1.2.3.4" := by decide +kernel
    rw [htext]
    have hall : ("1.2.3.4".toList.all fun c => c.isAlphanum || c = ':' || c = '.') = true := by decide
    refine ⟨by decide, fun c hc => ?_⟩
    simpa [or_assoc] using List.all_eq_true.mp hall c hc
  brackets := by
    refine ⟨fun c => if isBracket c then 1 else 0, fun c hc => by simp [hc], fun s ascii h => ?_⟩
    obtain rfl : s = ascii := Option.some.inj h
    induction s.toList with
    | nil => rfl
    | cons c l ih =>
      rw [List.filter_cons, List.map_cons, List.sum_cons, ← ih]
      split_ifs
      · exact Nat.add_comm _ _
      · exact (Nat.zero_add _).symm

/-- A request for a domain at port 80. -/
def domainRequest (host : String) (hpos : 0 < (utf8Bytes host).length)
    (hlength : (utf8Bytes host).length < 256) : Request where
  version := 0
  uuid := List.replicate 16 0
  addons := []
  portHigh := 0
  portLow := 80
  destination := .domain (utf8Bytes host) hpos hlength
  uuid_length := rfl
  addons_length := by decide
  port_ne_zero := by decide

lemma parse_domainRequest (host : String) (hpos : 0 < (utf8Bytes host).length)
    (hlength : (utf8Bytes host).length < 256) :
    parseVlessHeader oneAddress (domainRequest host hpos hlength).encode =
      .ok ⟨1, host, 80, []⟩ := by
  have hhost : (domainRequest host hpos hlength).destination.host oneAddress = some host :=
    decodeBytes_encode host
  have hparse := parse_encode hhost []
  rw [List.append_nil] at hparse
  exact hparse

theorem socks_destination_faithful_example : Faithful oneAddress "example.com" 80 :=
  (socks_destination_faithful oneAddress_spec
    (parse_domainRequest "example.com" (by decide +kernel) (by decide +kernel))).mpr
    (.inr ⟨by decide +kernel, .inl (by decide +kernel)⟩)

/-- A name in brackets goes out without them, and a name that starts with an address and a percent
sign goes out as the address. -/
theorem socks_destination_changed :
    (∃ chunk header, parseVlessHeader oneAddress chunk = .ok header ∧
      header.address = "[example.com]" ∧ ¬ Faithful oneAddress header.address header.port ∧
      socksTarget oneAddress header.address header.port =
        .ok (3 :: 11 :: utf8Bytes "example.com" ++ [0, 80])) ∧
    ∃ chunk header, parseVlessHeader oneAddress chunk = .ok header ∧
      header.address = "1.2.3.4%x" ∧ ¬ Faithful oneAddress header.address header.port ∧
      socksTarget oneAddress header.address header.port = .ok [1, 1, 2, 3, 4, 0, 80] := by
  have hport : 80 < 65536 := by decide
  refine ⟨⟨_, _, parse_domainRequest "[example.com]" (by decide +kernel)
    (by decide +kernel), rfl, fun h => ?_, by decide +kernel⟩, _, _,
    parse_domainRequest "1.2.3.4%x" (by decide +kernel) (by decide +kernel), rfl,
    fun h => ?_, by decide +kernel⟩
  · rcases keptWhole_of_faithful oneAddress_spec hport h with hip | ⟨-, hkept⟩
    · exact absurd hip (by decide +kernel)
    · rcases hkept with hself | hnot
      · exact absurd hself (by decide +kernel)
      · exact hnot ⟨stripBrackets "[example.com]", rfl, by decide +kernel⟩
  · rcases keptWhole_of_faithful oneAddress_spec hport h with hip | ⟨hbare, -⟩
    · exact absurd hip (by decide +kernel)
    · exact absurd hbare (by decide +kernel)

end Session
