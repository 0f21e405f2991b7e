import LumenRelay.Routing.MultiLocation

/-!
# Links that may be used

A session runs on a link that exists, whose transport runs here, that is active, not expired
and below its limit.  What a session transfers is added to the counter of its link in batches,
each after the link was checked again.
-/

namespace Session

open Lib Py Routing

/-! ## Comparing numbers -/

/-- The number that a value is in a comparison. -/
def number : Json → Except PyErr PyFloat
  | .bool b => .ok (.fin (if b then 1 else 0))
  | .int n => .ok (.fin n)
  | .float x => .ok x
  | _ => .error .typeError

/-- `x > y`. -/
def exceeds : PyFloat → PyFloat → Bool
  | .fin p, .fin q => q < p
  | .inf negative, .fin _ => !negative
  | .fin _, .inf negative => negative
  | .inf negative, .inf negative' => !negative && negative'
  | _, _ => false

/-- `x >= y`. -/
def reaches (x y : PyFloat) : Bool := exceeds x y || (x = y && x ≠ .nan)

/-! ## The check of a link -/

/-- `is_link_expired`; a date that cannot be compared with the present counts for nothing. -/
def isLinkExpired (server : Server) (link : Obj) : Bool :=
  match link.get "expires_at" with
  | .str date =>
    match server.site.rt.fromisoformat date with
    | some expiry => date ≠ "" && expiry < server.now
    | none => false
  | _ => false

/-- Whether each location of a Raw TCP link has its own server name. -/
def rawTcpUsable (site : Site) (subs : Dict String Obj) (link : Obj) : Except PyErr Bool :=
  if link.getD "protocol" (.str defaultProtocol) ≠ .str "vless-tcp" then .ok true
  else do
    let (_, ml) ← multiLocationForLink subs link
    match validateRawTcpMultiLocation site (some link) (ml.elim .null .obj) with
    | .ok () => return true
    | .error (.valueError _) => return false
    | .error e => throw e

/-- Whether a link has used up its limit; a limit of zero is none. -/
def quotaReached (link : Obj) : Except PyErr Bool := do
  let limit ← number (link.getD "limit_bytes" (.int 0))
  if !exceeds limit (.fin 0) then return false
  return reaches (← number (link.getD "used_bytes" (.int 0))) limit

/-- `is_link_allowed`. -/
def isLinkAllowed (server : Server) (subs : Dict String Obj) : Option Obj → Except PyErr Bool
  | none => .ok false
  | some link =>
    if !Transports.isAvailable server.site (link.getD "protocol" (.str defaultProtocol)) then
      .ok false
    else do
      if !(← rawTcpUsable server.site subs link) then return false
      if !(link.getD "active" (.bool true)).truthy || isLinkExpired server link then return false
      return !(← quotaReached link)

/-- A link that may be used has not reached its limit. -/
lemma quotaReached_of_allowed {server : Server} {subs : Dict String Obj} {link : Obj}
    (h : isLinkAllowed server subs (some link) = .ok true) : quotaReached link = .ok false := by
  rw [isLinkAllowed] at h
  split at h
  · cases h
  · obtain ⟨usable, -, h⟩ := bind_eq_ok h
    cases usable with
    | false => cases h
    | true =>
      simp only [Bool.not_true, Bool.false_eq_true, if_false] at h
      split at h
      · cases h
      · obtain ⟨reached, hreached, h⟩ := bind_eq_ok h
        cases reached with
        | false => exact hreached
        | true => cases h

/-- A field that is there has its value whatever the default is. -/
lemma getD_of_get {link : Obj} {key : String} {v : Json} (h : link.get key = v) (hv : v ≠ .null)
    (default : Json) : link.getD key default = v := by
  unfold Obj.get Obj.getD at h
  unfold Obj.getD
  cases hfield : List.lookup key link with
  | none =>
    rw [hfield] at h
    exact absurd h.symm hv
  | some w =>
    rw [hfield] at h
    exact h

lemma reaches_int (m n : ℤ) : reaches (.fin m) (.fin n) = decide (n ≤ m) := by
  have hlt : ((n : ℚ) < m) ↔ n < m := by exact_mod_cast Iff.rfl
  have heq : ((m : ℚ) = n) ↔ m = n := by exact_mod_cast Iff.rfl
  simp only [reaches, exceeds, hlt, PyFloat.fin.injEq, heq, ne_eq, reduceCtorEq, not_false_eq_true,
    decide_true, Bool.and_true]
  by_cases h : n ≤ m
  · simp [h]
    omega
  · simp [h]
    omega

/-- With a limit and a counter that are integers, the limit is reached when the counter is not
below it. -/
lemma quotaReached_int {link : Obj} {limit used : ℤ} (hlimit : link.get "limit_bytes" = .int limit)
    (hused : link.get "used_bytes" = .int used) (hpos : 0 < limit) :
    quotaReached link = .ok (decide (limit ≤ used)) := by
  have hexceeds : exceeds (.fin limit) (.fin 0) = true :=
    decide_eq_true (by exact_mod_cast hpos)
  unfold quotaReached
  rw [getD_of_get hlimit (by simp), getD_of_get hused (by simp), number, ok_bind, hexceeds,
    ← reaches_int]
  rfl

/-! ## The counter of a link -/

/-- `check_and_use`: whether the bytes were added, and the links after it. -/
def checkAndUse (server : Server) (subs : Dict String Obj) (uid : String) (nbytes : ℤ)
    (links : Dict String Obj) : Except PyErr (Bool × Dict String Obj) :=
  if nbytes ≤ 0 then .ok (true, links)
  else
    match links.get? uid with
    | none => .ok (false, links)
    | some link => do
      if !(← isLinkAllowed server subs (some link)) then return (false, links)
      let used ← ((link.getD "used_bytes" (.int 0)).or (.int 0)).toInt server.site.rt
      return (true, links.set uid (link.set "used_bytes" (.int (used + nbytes))))

/-- The bytes are added to the counter of a link that may be used, or nothing changes. -/
lemma checkAndUse_spec {server : Server} {subs links links' : Dict String Obj} {uid : String}
    {nbytes : ℤ} {result : Bool} (hpos : 0 < nbytes)
    (h : checkAndUse server subs uid nbytes links = .ok (result, links')) :
    (result = false ∧ links' = links) ∨
      ∃ link used, links.get? uid = some link ∧
        isLinkAllowed server subs (some link) = .ok true ∧
        ((link.getD "used_bytes" (.int 0)).or (.int 0)).toInt server.site.rt = .ok used ∧
        result = true ∧ links' = links.set uid (link.set "used_bytes" (.int (used + nbytes))) := by
  unfold checkAndUse at h
  rw [if_neg (by omega)] at h
  split at h
  · obtain ⟨rfl, rfl⟩ := Prod.mk.inj (Except.ok.inj h)
    exact .inl ⟨rfl, rfl⟩
  · rename_i link hlink
    obtain ⟨allowed, hallowed, h⟩ := bind_eq_ok h
    cases allowed with
    | false =>
      obtain ⟨rfl, rfl⟩ := Prod.mk.inj (Except.ok.inj h)
      exact .inl ⟨rfl, rfl⟩
    | true =>
      obtain ⟨used, hused, h⟩ := bind_eq_ok h
      obtain ⟨rfl, rfl⟩ := Prod.mk.inj (Except.ok.inj h)
      exact .inr ⟨link, used, hlink, hallowed, hused, rfl, rfl⟩

/-- A refusal changes nothing. -/
lemma checkAndUse_false {server : Server} {subs links links' : Dict String Obj} {uid : String}
    {nbytes : ℤ} (h : checkAndUse server subs uid nbytes links = .ok (false, links')) :
    links' = links := by
  by_cases hpos : 0 < nbytes
  · rcases checkAndUse_spec hpos h with ⟨-, hsame⟩ | ⟨_, _, _, _, _, htrue, _⟩
    · exact hsame
    · cases htrue
  · rw [checkAndUse, if_pos (by omega)] at h
    cases h

end Session
