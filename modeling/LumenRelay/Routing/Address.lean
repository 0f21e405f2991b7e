import LumenRelay.Py.Dynamic

/-!
# Addresses and server names

The address of a configuration is an IP literal or a domain, in canonical form; the server
name of the TLS handshake is a domain.
-/

namespace Routing

open Py

variable (rt : Runtime)

/-! ## Patterns -/

/-- A character of an ASCII label, in either case. -/
def labelChar (c : Char) : Bool := c.isAlphanum

/-- `_LABEL`: 1 to 63 characters, letters and digits, with hyphens inside. -/
def isLabel (s : String) : Bool :=
  let l := s.toList
  1 ≤ l.length && l.length ≤ 63 && l.all (fun c => labelChar c || c == '-') &&
    l.head?.any labelChar && l.getLast?.any labelChar

/-- `_IPV4_SHAPE`: four groups of decimal digits. -/
def ipv4Shape (s : String) : Bool :=
  let groups := splitChar '.' s
  groups.length == 4 &&
    groups.all fun g => g ≠ "" && g.toList.all fun c => (rt.digitValue c).isSome

/-! ## Normalisation -/

/-- The text of an address without the brackets of an IPv6 literal. -/
def unbracket (s : String) : String :=
  match s.toList with
  | '[' :: l => if l.getLast? = some ']' then strip (String.ofList l.dropLast) else s
  | _ => s

/-- The forms that `normalize_address` refuses before it looks at the kind of address. -/
def addressRefusal (raw : String) : Option String :=
  if raw = "" then some "آدرس خالی است"
  else if 253 < raw.length || raw.toList.any isSpace then
    some "طول یا فاصله در آدرس نامعتبر است"
  else if "://".toList <:+: raw.toList || raw.toList.any (fun c => c ∈ "/?#@".toList) then
    some "Address باید فقط IP یا دامنه و بدون پروتکل، مسیر و پورت باشد"
  else if '%' ∈ raw.toList then
    some "IPv6 دارای zone-id برای لینک عمومی قابل استفاده نیست"
  else none

/-- The domain branch of `normalize_address`. -/
def normalizeDomain (raw : String) : Except PyErr String :=
  match rt.idna (rstripChar '.' raw) with
  | none => .error (.valueError "دامنه نامعتبر است")
  | some ascii =>
    let domain := rt.lower ascii
    if domain = "" || 253 < domain.length || (splitChar '.' domain).any (fun x => !isLabel x) then
      .error (.valueError "دامنه نامعتبر است")
    else .ok domain

/-- `normalize_address`. -/
def normalizeAddress (value : Json) : Except PyErr String :=
  let raw := unbracket (strip (value.text rt))
  match addressRefusal raw with
  | some message => .error (.valueError message)
  | none =>
    match rt.ipAddress raw with
    | some (_, compressed) => .ok compressed
    | none =>
      if ipv4Shape rt raw then .error (.valueError "IPv4 نامعتبر است")
      else normalizeDomain rt raw

/-- The kinds of address. -/
inductive AddressKind
  | ipv4
  | ipv6
  | domain
deriving DecidableEq, Repr

/-- `address_kind`. -/
def addressKind (value : Json) : Except PyErr AddressKind := do
  let normalized ← normalizeAddress rt value
  match rt.ipAddress normalized with
  | some (version, _) => return if version = 6 then .ipv6 else .ipv4
  | none => return .domain

/-- `normalize_sni`. -/
def normalizeSni (value : Json) : Except PyErr String := do
  let normalized ← normalizeAddress rt value
  match rt.ipAddress normalized with
  | some _ => throw (.valueError "TLS SNI باید دامنه باشد؛ IP را در بخش Address وارد کنید")
  | none => return normalized

/-- Whether a field has any text: `str(value or "").strip()`. -/
def hasText (value : Json) : Bool := strip (value.text rt) ≠ ""

/-- `link_hosts`: the address to dial and the TLS name. -/
def linkHosts (address sni serviceHost : Json) : Except PyErr (String × String) := do
  let service ← normalizeAddress rt serviceHost
  let chosen ← if hasText rt address then normalizeAddress rt address else pure service
  if hasText rt sni then
    return (chosen, ← normalizeSni rt sni)
  match ← addressKind rt (.str chosen) with
  | .domain => return (chosen, ← normalizeSni rt (.str chosen))
  | _ =>
    match normalizeSni rt (.str service) with
    | .ok name => return (chosen, name)
    | .error _ => return (chosen, service)

/-- `authority_host`. -/
def authorityHost (value : Json) : Except PyErr String := do
  let host ← normalizeAddress rt value
  match ← addressKind rt (.str host) with
  | .ipv6 => return "[" ++ host ++ "]"
  | _ => return host

end Routing
