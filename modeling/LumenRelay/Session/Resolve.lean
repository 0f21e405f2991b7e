import LumenRelay.Lib.Dict
import LumenRelay.Lib.Machine
import LumenRelay.Py.Dynamic
import Mathlib.Data.Rat.Defs
import Mathlib.Tactic.Linarith

/-!
# Lookups that are shared

Callers that want the addresses of one host share a lookup, and its answer is kept for a while.
The entry of a lookup in flight is removed by a caller that goes on after the lookup has ended.  If
every one of them has been cancelled before, the entry stays, and a later caller takes the old
answer for a new one.
-/

namespace Session.Dns

open Lib Py

/-! ## Addresses -/

inductive Family
  | inet
  | inet6
deriving DecidableEq

/-- The other family. -/
def Family.other : Family → Family
  | .inet => .inet6
  | .inet6 => .inet

structure Sockaddr where
  host : String
  port : ℤ
  flowinfo : ℤ
  scope : ℤ
deriving DecidableEq

abbrev Address : Type := Family × Sockaddr

/-- A host and a port. -/
abbrev Key : Type := String × ℤ

/-- Two queues, one item of each in turn. -/
def alternate {α : Type} : List α → List α → List α
  | [], q => q
  | a :: p, [] => a :: p
  | a :: p, b :: q => a :: b :: alternate p q

/-- The route that was fastest last comes first. -/
def preferredFirst (addresses : List Address) : Option Address → List Address
  | some route => if route ∈ addresses then route :: addresses.erase route else addresses
  | none => addresses

/-- `_interleave_families`. -/
def interleaveFamilies (addresses : List Address) (preferred : Option Address) : List Address :=
  let unique := preferredFirst addresses preferred
  match unique with
  | [] => []
  | (first, _) :: _ =>
    alternate (unique.filter fun item => item.1 = first)
      (unique.filter fun item => item.1 = first.other)

lemma alternate_perm {α : Type} (p q : List α) : (alternate p q).Perm (p ++ q) := by
  induction p generalizing q with
  | nil => rfl
  | cons a p ih =>
    cases q with
    | nil => simp [alternate]
    | cons b q =>
      rw [alternate, List.cons_append]
      refine .cons a ?_
      exact ((ih q).cons b).trans List.perm_middle.symm

lemma preferredFirst_perm (addresses : List Address) (preferred : Option Address) :
    (preferredFirst addresses preferred).Perm addresses := by
  unfold preferredFirst
  split
  · split
    · rename_i route hmem
      exact (List.perm_cons_erase hmem).symm
    · rfl
  · rfl

/-- No address is lost, and none is added. -/
lemma interleaveFamilies_perm (addresses : List Address) (preferred : Option Address) :
    (interleaveFamilies addresses preferred).Perm addresses := by
  refine .trans ?_ (preferredFirst_perm addresses preferred)
  unfold interleaveFamilies
  dsimp only
  split
  · rename_i hnil
    rw [hnil]
  · rename_i first sockaddr rest hcons
    have hother : ∀ item : Address, decide (item.1 = first.other) = !decide (item.1 = first) := by
      rintro ⟨family, _⟩
      cases family <;> cases first <;> rfl
    simp only [hother]
    exact (alternate_perm _ _).trans (List.filter_append_perm _ _)

/-! ## The state -/

/-- `DNS_TTL`. -/
def dnsTtl : ℚ := 300

/-- `DNS_CACHE_MAX`. -/
def dnsCacheMax : ℕ := 4096

/-- A task that runs `_do_resolve`. -/
structure Lookup where
  key : Key
  /-- When it ended, and how. -/
  outcome : Option (ℚ × Except PyErr (List Address))

/-- A caller that waits for a lookup. -/
structure Waiter where
  key : Key
  /-- `now`. -/
  arrived : ℚ
  lookup : ℕ
  /-- The caller has been cancelled, and has not gone on since. -/
  cancelled : Bool

structure Resolver where
  /-- `time.monotonic()`. -/
  now : ℚ
  lookups : List Lookup
  /-- `_dns_cache`. -/
  cache : Dict Key (ℚ × List Address)
  /-- `_dns_inflight`. -/
  inflight : Dict Key ℕ
  /-- `_route_cache`. -/
  routes : Dict Key (ℚ × Address)
  waiters : Dict ℕ Waiter

inductive Event
  /-- A caller takes the lookup in flight; and when that has ended, if it has. -/
  | joined (key : Key) (ended : Option ℚ)
  | returned (key : Key) (time : ℚ) (addresses : List Address)
  | raised (key : Key) (e : PyErr)
  | cancelled (key : Key)
deriving DecidableEq

inductive Label
  /-- Time passes. -/
  | tick (seconds : ℚ)
  /-- A caller calls `_resolve`, and runs until it waits. -/
  | call (caller : ℕ) (key : Key)
  /-- A lookup ends. -/
  | finish (lookup : ℕ) (result : Except PyErr (List Address))
  | cancel (caller : ℕ)
  /-- A caller goes on after it has waited. -/
  | resume (caller : ℕ)
  /-- `_record_route_success`. -/
  | route (key : Key) (expires : ℚ) (address : Address)

namespace Resolver

/-- When a lookup ended, if it has. -/
def ended (s : Resolver) (lookup : ℕ) : Option ℚ :=
  (s.lookups[lookup]?.bind Lookup.outcome).map Prod.fst

/-- The addresses that are kept for a key. -/
def hit (s : Resolver) (key : Key) : Option (List Address) :=
  match s.cache.get? key with
  | some (expires, addresses) => if s.now < expires then some addresses else none
  | none => none

/-- The route that was fastest last. -/
def preferred (s : Resolver) (key : Key) (now : ℚ) : Option Address :=
  match s.routes.get? key with
  | some (expires, address) => if now < expires then some address else none
  | none => none

/-- The `finally` of `_resolve`. -/
def forget (s : Resolver) (w : Waiter) : Resolver :=
  if s.inflight.get? w.key = some w.lookup ∧ s.ended w.lookup ≠ none then
    { s with inflight := s.inflight.erase w.key }
  else s

/-- Keep the addresses; a cache that is full is emptied before. -/
def store (s : Resolver) (key : Key) (entry : ℚ × List Address) : Resolver :=
  let s := if dnsCacheMax ≤ s.cache.keys.length then { s with cache := .empty, routes := .empty }
    else s
  { s with cache := s.cache.set key entry }

section Fields

variable (s : Resolver) (key : Key) (entry : ℚ × List Address) (w : Waiter)

@[simp] lemma forget_now : (s.forget w).now = s.now := by
  unfold forget
  split <;> rfl

@[simp] lemma forget_lookups : (s.forget w).lookups = s.lookups := by
  unfold forget
  split <;> rfl

@[simp] lemma store_now : (s.store key entry).now = s.now := by
  unfold store
  split <;> rfl

@[simp] lemma store_lookups : (s.store key entry).lookups = s.lookups := by
  unfold store
  split <;> rfl

@[simp] lemma store_inflight : (s.store key entry).inflight = s.inflight := by
  unfold store
  split <;> rfl

@[simp] lemma store_waiters : (s.store key entry).waiters = s.waiters := by
  unfold store
  split <;> rfl

/-- What is kept is the new entry, or was kept before. -/
lemma store_cache {key' : Key} {entry' : ℚ × List Address}
    (h : (s.store key entry).cache.get? key' = some entry') :
    key' = key ∧ entry' = entry ∨ s.cache.get? key' = some entry' := by
  unfold store at h
  dsimp only at h
  rw [Dict.get?_set] at h
  split at h
  · rename_i hkey
    exact .inl ⟨hkey, (Option.some.inj h).symm⟩
  · split at h
    · cases h
    · exact .inr h

end Fields

/-- What `_resolve` does after it has waited. -/
def goOn (s : Resolver) (w : Waiter) : Resolver × List Event :=
  let outcome := s.lookups[w.lookup]?.bind Lookup.outcome
  let s := s.forget w
  if w.cancelled = true then (s, [.cancelled w.key])
  else
    match outcome with
    | none => (s, [])
    | some (_, .error e) => (s, [.raised w.key e])
    | some (_, .ok result) =>
      let s := s.store w.key (w.arrived + dnsTtl, result)
      (s, [.returned w.key s.now (interleaveFamilies result (s.preferred w.key w.arrived))])

/-- What `_resolve` does when there are no addresses yet. -/
def ask (s : Resolver) (caller : ℕ) (key : Key) : Resolver × List Event :=
  match s.inflight.get? key with
  | none =>
    let w : Waiter := ⟨key, s.now, s.lookups.length, false⟩
    ({ s with
      lookups := s.lookups ++ [⟨key, none⟩]
      inflight := s.inflight.set key s.lookups.length
      waiters := s.waiters.set caller w }, [])
  | some lookup =>
    let w : Waiter := ⟨key, s.now, lookup, false⟩
    match s.ended lookup with
    | none => ({ s with waiters := s.waiters.set caller w }, [.joined key none])
    -- a task that has ended does not suspend who awaits it
    | some time => ((s.goOn w).1, .joined key (some time) :: (s.goOn w).2)

/-- `_resolve`, until it waits. -/
def call (s : Resolver) (caller : ℕ) (key : Key) : Resolver × List Event :=
  match s.hit key with
  | some result =>
    (s, [.returned key s.now (interleaveFamilies result (s.preferred key s.now))])
  | none => s.ask caller key

def step (s : Resolver) : Label → Option (Resolver × List Event)
  | .tick seconds => if 0 ≤ seconds then some ({ s with now := s.now + seconds }, []) else none
  | .call caller key => if s.waiters.get? caller = none then some (s.call caller key) else none
  | .finish lookup result =>
    match s.lookups[lookup]? with
    | some ⟨key, none⟩ =>
      some ({ s with lookups := s.lookups.set lookup ⟨key, some (s.now, result)⟩ }, [])
    | _ => none
  | .cancel caller =>
    match s.waiters.get? caller with
    | some w => some ({ s with waiters := s.waiters.set caller { w with cancelled := true } }, [])
    | none => none
  | .resume caller =>
    match s.waiters.get? caller with
    | some w =>
      if w.cancelled = true ∨ s.ended w.lookup ≠ none then
        some (goOn { s with waiters := s.waiters.erase caller } w)
      else none
    | none => none
  | .route key expires address =>
    some ({ s with routes := s.routes.set key (expires, address) }, [])

/-- A process that has not looked up anything. -/
def fresh : Resolver := ⟨0, [], .empty, .empty, .empty, .empty⟩

end Resolver

/-- Callers, lookups and cancellations in any order. -/
def resolver : Machine Resolver Label Event := ⟨Resolver.step⟩

variable {s s' : Resolver} {events es : List Event} {key : Key} {since : ℚ}
  {addresses : List Address}

/-! ## Freshness -/

/-- The addresses are the answer of a lookup that has ended since. -/
def LookedUp (s : Resolver) (key : Key) (since : ℚ) (addresses : List Address) : Prop :=
  ∃ (lookup : ℕ) (time : ℚ), s.lookups[lookup]? = some ⟨key, some (time, .ok addresses)⟩ ∧ since ≤ time

/-- What a caller gets is not older than it may be, and no lookup that has ended is taken for one in
flight. -/
structure Fresh (events : List Event) (s : Resolver) : Prop where
  returned : ∀ key time addresses, Event.returned key time addresses ∈ events →
    ∃ result, LookedUp s key (time - dnsTtl) result ∧ addresses.Perm result
  joined : ∀ key ended, Event.joined key ended ∈ events → ended = none

/-- The step leaves no lookup behind: a lookup ends while a caller waits for it, no caller comes
between the end of the lookup in flight and the caller that goes on first, and none goes on later
than `DNS_TTL` after the end. -/
def Prompt (s : Resolver) : Label → Prop
  | .finish lookup _ => ∃ w ∈ s.waiters.values, w.lookup = lookup
  | .call _ key => s.hit key = none → ∀ w ∈ s.waiters.values,
      s.inflight.get? key = some w.lookup → s.ended w.lookup = none
  | .resume caller => ∀ w ∈ s.waiters.get? caller, w.cancelled = false →
      ∀ time ∈ s.ended w.lookup, s.now - dnsTtl ≤ time
  | _ => True

instance (s : Resolver) (l : Label) : Decidable (Prompt s l) := by
  unfold Prompt
  split <;> infer_instance

/-! ## Lookups stay as they are -/

/-- No lookup that has ended changes. -/
def Grows (s s' : Resolver) : Prop :=
  ∀ (lookup : ℕ) found, s.lookups[lookup]? = some found → found.outcome ≠ none →
    s'.lookups[lookup]? = some found

lemma grows_of_eq (h : s'.lookups = s.lookups) : Grows s s' := fun _ _ hfound _ => h ▸ hfound

lemma LookedUp.grows (h : LookedUp s key since addresses) (hgrows : Grows s s') :
    LookedUp s' key since addresses := by
  obtain ⟨lookup, time, hfound, hsince⟩ := h
  exact ⟨lookup, time, hgrows _ _ hfound nofun, hsince⟩

lemma LookedUp.mono {since' : ℚ} (h : LookedUp s key since addresses) (hle : since' ≤ since) :
    LookedUp s key since' addresses := by
  obtain ⟨lookup, time, hfound, hsince⟩ := h
  exact ⟨lookup, time, hfound, hle.trans hsince⟩

lemma fresh_nil : Fresh [] s := ⟨nofun, nofun⟩

lemma Fresh.append (h : Fresh events s) (hgrows : Grows s s') (hes : Fresh es s') :
    Fresh (events ++ es) s' := by
  refine ⟨fun key time addresses hmem => ?_, fun key ended hmem => ?_⟩
  · rcases List.mem_append.mp hmem with hold | hnew
    · obtain ⟨result, hlooked, hperm⟩ := h.returned key time addresses hold
      exact ⟨result, hlooked.grows hgrows, hperm⟩
    · exact hes.returned key time addresses hnew
  · rcases List.mem_append.mp hmem with hold | hnew
    · exact h.joined key ended hold
    · exact hes.joined key ended hnew

lemma fresh_returned (h : LookedUp s key (s.now - dnsTtl) addresses) (preferred : Option Address) :
    Fresh [.returned key s.now (interleaveFamilies addresses preferred)] s := by
  refine ⟨fun key' time addresses' hmem => ?_, fun key' ended hmem => ?_⟩
  · cases List.mem_singleton.mp hmem
    exact ⟨addresses, h, interleaveFamilies_perm addresses preferred⟩
  · cases List.mem_singleton.mp hmem

/-! ## The invariant -/

/-- A caller waits for a lookup of its key, which has not ended before the caller came. -/
structure Waits (s : Resolver) (w : Waiter) : Prop where
  arrived : w.arrived ≤ s.now
  found : ∃ found, s.lookups[w.lookup]? = some found ∧ found.key = w.key ∧
    ∀ outcome ∈ found.outcome, w.arrived ≤ outcome.1

lemma Waits.of_eq {w : Waiter} (h : Waits s w) (hnow : s.now ≤ s'.now)
    (hlookups : s'.lookups = s.lookups) : Waits s' w := by
  obtain ⟨harrived, found, hfound, hkey, htime⟩ := h
  exact ⟨harrived.trans hnow, found, by rw [hlookups, hfound], hkey, htime⟩

/-- Someone waits for a lookup in flight that has ended, and what is kept was looked up. -/
structure Sound (s : Resolver) : Prop where
  inflight : ∀ key lookup, s.inflight.get? key = some lookup →
    ∃ found, s.lookups[lookup]? = some found ∧ found.key = key ∧
      (found.outcome = none ∨ ∃ caller w, s.waiters.get? caller = some w ∧ w.lookup = lookup)
  waiters : ∀ caller w, s.waiters.get? caller = some w → Waits s w
  cache : ∀ key expires addresses, s.cache.get? key = some (expires, addresses) →
    LookedUp s key (expires - dnsTtl) addresses

/-- What a step keeps. -/
structure Kept (s s' : Resolver) (es : List Event) : Prop where
  sound : Sound s'
  grows : Grows s s'
  fresh : Fresh es s'

lemma ended_eq {lookup : ℕ} {found : Lookup} (h : s.lookups[lookup]? = some found) :
    s.ended lookup = found.outcome.map Prod.fst := by
  rw [Resolver.ended, h]
  rfl

/-- What is kept for a key is not too old. -/
lemma Sound.hit (h : Sound s) (hhit : s.hit key = some addresses) :
    LookedUp s key (s.now - dnsTtl) addresses := by
  unfold Resolver.hit at hhit
  split at hhit
  · rename_i expires addresses' hcache
    split at hhit
    · rename_i hlt
      cases hhit
      refine (h.cache key expires addresses hcache).mono ?_
      linarith
    · cases hhit
  · cases hhit

/-! ## Steps -/

/-- A lookup that nobody asks for yet is started. -/
lemma Sound.start (h : Sound s) (caller : ℕ) (hfree : s.waiters.get? caller = none) :
    Kept s { s with
      lookups := s.lookups ++ [⟨key, none⟩]
      inflight := s.inflight.set key s.lookups.length
      waiters := s.waiters.set caller ⟨key, s.now, s.lookups.length, false⟩ } [] := by
  have hold : ∀ (lookup : ℕ) found, s.lookups[lookup]? = some found →
      (s.lookups ++ [⟨key, none⟩])[lookup]? = some found := fun lookup found hfound => by
    rw [List.getElem?_append_left (List.getElem?_eq_some_iff.mp hfound).1, hfound]
  have hnew : (s.lookups ++ [⟨key, none⟩])[s.lookups.length]? = some ⟨key, none⟩ := by simp
  have hgrows : ∀ s', s'.lookups = s.lookups ++ [⟨key, none⟩] → Grows s s' := by
    intro s' hs' lookup found hfound _
    rw [hs']
    exact hold lookup found hfound
  refine ⟨⟨?_, ?_, ?_⟩, hgrows _ rfl, fresh_nil⟩
  · intro key' lookup hlookup
    dsimp only at hlookup ⊢
    rw [Dict.get?_set] at hlookup
    split at hlookup
    · rename_i hkey
      cases hlookup
      exact ⟨_, hnew, hkey.symm, .inl rfl⟩
    · obtain ⟨found, hfound, hkey, hwaits⟩ := h.inflight key' lookup hlookup
      refine ⟨found, hold _ _ hfound, hkey, hwaits.imp_right ?_⟩
      rintro ⟨caller', w, hw, hlookup⟩
      refine ⟨caller', w, ?_, hlookup⟩
      rw [Dict.get?_set_ne]
      · exact hw
      · rintro rfl
        rw [hfree] at hw
        cases hw
  · intro caller' w hw
    dsimp only at hw
    rw [Dict.get?_set] at hw
    split at hw
    · cases hw
      exact ⟨le_refl _, _, hnew, rfl, nofun⟩
    · obtain ⟨harrived, found, hfound, hkey, htime⟩ := h.waiters caller' w hw
      exact ⟨harrived, found, hold _ _ hfound, hkey, htime⟩
  · intro key' expires addresses hcache
    exact (h.cache key' expires addresses hcache).grows (hgrows _ rfl)

/-- A caller waits for the lookup in flight. -/
lemma Sound.join (h : Sound s) (caller lookup : ℕ) (hfree : s.waiters.get? caller = none)
    (hinflight : s.inflight.get? key = some lookup) (hended : s.ended lookup = none) :
    Kept s { s with waiters := s.waiters.set caller ⟨key, s.now, lookup, false⟩ }
      [.joined key none] := by
  refine ⟨⟨?_, ?_, h.cache⟩, grows_of_eq rfl, ⟨by simp, by simp⟩⟩
  · intro key' lookup' hlookup
    obtain ⟨found, hfound, hkey, hwaits⟩ := h.inflight key' lookup' hlookup
    refine ⟨found, hfound, hkey, hwaits.imp_right ?_⟩
    rintro ⟨caller', w, hw, hlookup⟩
    refine ⟨caller', w, ?_, hlookup⟩
    show (s.waiters.set caller _).get? caller' = some w
    rw [Dict.get?_set_ne]
    · exact hw
    · rintro rfl
      rw [hfree] at hw
      cases hw
  · intro caller' w hw
    dsimp only at hw
    rw [Dict.get?_set] at hw
    split at hw
    · cases hw
      obtain ⟨found, hfound, hkey, -⟩ := h.inflight key lookup hinflight
      refine ⟨le_refl _, found, hfound, hkey, fun outcome houtcome => ?_⟩
      rw [ended_eq hfound, houtcome] at hended
      cases hended
    · exact (h.waiters caller' w hw).of_eq (le_refl _) rfl

/-- A lookup ends that someone waits for. -/
lemma Sound.finish (h : Sound s) {lookup : ℕ} (hfound : s.lookups[lookup]? = some ⟨key, none⟩)
    (hwaited : ∃ caller w, s.waiters.get? caller = some w ∧ w.lookup = lookup)
    (result : Except PyErr (List Address)) :
    Kept s { s with lookups := s.lookups.set lookup ⟨key, some (s.now, result)⟩ } [] := by
  have hother : ∀ (lookup' : ℕ) found, lookup' ≠ lookup → s.lookups[lookup']? = some found →
      (s.lookups.set lookup ⟨key, some (s.now, result)⟩)[lookup']? = some found :=
    fun lookup' found hne hfound' => by rw [List.getElem?_set_ne hne.symm, hfound']
  have hself : (s.lookups.set lookup ⟨key, some (s.now, result)⟩)[lookup]? =
      some ⟨key, some (s.now, result)⟩ := by
    rw [List.getElem?_set_self (List.getElem?_eq_some_iff.mp hfound).1]
  have hgrows : Grows s { s with lookups := s.lookups.set lookup ⟨key, some (s.now, result)⟩ } := by
    intro lookup' found hfound' hended
    refine hother lookup' found ?_ hfound'
    rintro rfl
    rw [hfound] at hfound'
    cases hfound'
    exact hended rfl
  refine ⟨⟨?_, ?_, ?_⟩, hgrows, fresh_nil⟩
  · intro key' lookup' hlookup
    obtain ⟨found, hfound', hkey, hwaits⟩ := h.inflight key' lookup' hlookup
    by_cases hsame : lookup' = lookup
    · subst hsame
      rw [hfound] at hfound'
      cases hfound'
      exact ⟨_, hself, hkey, .inr hwaited⟩
    · exact ⟨found, hother _ _ hsame hfound', hkey, hwaits⟩
  · intro caller w hw
    obtain ⟨harrived, found, hfound', hkey, htime⟩ := h.waiters caller w hw
    by_cases hsame : w.lookup = lookup
    · rw [hsame, hfound] at hfound'
      cases hfound'
      refine ⟨harrived, ⟨key, some (s.now, result)⟩, by rw [hsame]; exact hself, hkey, ?_⟩
      intro outcome houtcome
      cases houtcome
      exact harrived
    · exact ⟨harrived, found, hother _ _ hsame hfound', hkey, htime⟩
  · intro key' expires addresses hcache
    exact (h.cache key' expires addresses hcache).grows hgrows

lemma Sound.cancel (h : Sound s) {caller : ℕ} {w : Waiter} (hw : s.waiters.get? caller = some w) :
    Kept s { s with waiters := s.waiters.set caller { w with cancelled := true } } [] := by
  refine ⟨⟨?_, ?_, h.cache⟩, grows_of_eq rfl, fresh_nil⟩
  · intro key lookup hlookup
    obtain ⟨found, hfound, hkey, hwaits⟩ := h.inflight key lookup hlookup
    refine ⟨found, hfound, hkey, hwaits.imp_right ?_⟩
    rintro ⟨caller', w', hw', hlookup⟩
    dsimp only
    by_cases hsame : caller' = caller
    · subst hsame
      rw [hw] at hw'
      cases hw'
      exact ⟨caller', _, Dict.get?_set_self _ _ _, hlookup⟩
    · exact ⟨caller', w', by rw [Dict.get?_set_ne hsame, hw'], hlookup⟩
  · intro caller' w' hw'
    dsimp only at hw'
    rw [Dict.get?_set] at hw'
    split at hw'
    · cases hw'
      obtain ⟨harrived, hfound⟩ := h.waiters caller w hw
      exact ⟨harrived, hfound⟩
    · exact (h.waiters caller' w' hw').of_eq (le_refl _) rfl

lemma Sound.tick (h : Sound s) {seconds : ℚ} (hnonneg : 0 ≤ seconds) :
    Kept s { s with now := s.now + seconds } [] :=
  ⟨⟨h.inflight, fun caller w hw => (h.waiters caller w hw).of_eq (le_add_of_nonneg_right hnonneg) rfl,
    h.cache⟩, grows_of_eq rfl, fresh_nil⟩

/-- A caller that goes on removes the entry of its lookup, if that has ended. -/
lemma Sound.leave (h : Sound s) {caller : ℕ} {w : Waiter} (hw : s.waiters.get? caller = some w) :
    Sound (Resolver.forget { s with waiters := s.waiters.erase caller } w) := by
  have hwaiters : ∀ caller' w', (s.waiters.erase caller).get? caller' = some w' → Waits s w' := by
    intro caller' w' hw'
    rw [Dict.get?_erase] at hw'
    split at hw'
    · cases hw'
    · exact h.waiters caller' w' hw'
  -- whoever waits for another lookup still does
  have hothers : ∀ key lookup, s.inflight.get? key = some lookup →
      (lookup = w.lookup → s.ended lookup = none) →
      ∃ found, s.lookups[lookup]? = some found ∧ found.key = key ∧ (found.outcome = none ∨
        ∃ caller' w', (s.waiters.erase caller).get? caller' = some w' ∧ w'.lookup = lookup) := by
    intro key lookup hlookup hrunning
    obtain ⟨found, hfound, hkey, hwaits⟩ := h.inflight key lookup hlookup
    refine ⟨found, hfound, hkey, ?_⟩
    rcases hwaits with hnone | ⟨caller', w', hw', hsame⟩
    · exact .inl hnone
    · by_cases hcaller : caller' = caller
      · subst hcaller
        rw [hw] at hw'
        cases hw'
        have hended := hrunning hsame.symm
        rw [ended_eq hfound, Option.map_eq_none_iff] at hended
        exact .inl hended
      · exact .inr ⟨caller', w', by rw [Dict.get?_erase_ne hcaller, hw'], hsame⟩
  unfold Resolver.forget
  split
  · rename_i hforget
    refine ⟨fun key lookup hlookup => ?_, fun caller' w' hw' =>
      (hwaiters caller' w' hw').of_eq (le_refl _) rfl, h.cache⟩
    dsimp only at hlookup hforget
    rw [Dict.get?_erase] at hlookup
    split at hlookup
    · cases hlookup
    · rename_i hkey
      refine hothers key lookup hlookup fun hsame => ?_
      obtain ⟨-, found, hfound, hkeyed, -⟩ := h.waiters caller w hw
      obtain ⟨found', hfound', hkeyed', -⟩ := h.inflight key lookup hlookup
      rw [hsame, hfound] at hfound'
      cases hfound'
      exact absurd (hkeyed'.symm.trans hkeyed) hkey
  · rename_i hforget
    refine ⟨fun key lookup hlookup => ?_, fun caller' w' hw' =>
      (hwaiters caller' w' hw').of_eq (le_refl _) rfl, h.cache⟩
    refine hothers key lookup hlookup fun hsame => ?_
    obtain ⟨-, found, hfound, hkeyed, -⟩ := h.waiters caller w hw
    obtain ⟨found', hfound', hkeyed', -⟩ := h.inflight key lookup hlookup
    rw [hsame, hfound] at hfound'
    cases hfound'
    have hkey : key = w.key := hkeyed'.symm.trans hkeyed
    subst hsame hkey
    exact not_not.mp fun hended => hforget ⟨hlookup, hended⟩

/-- Addresses that were looked up are kept. -/
lemma Sound.store (h : Sound s) {expires : ℚ} (hlooked : LookedUp s key (expires - dnsTtl) addresses) :
    Sound (s.store key (expires, addresses)) := by
  refine ⟨by simpa using h.inflight, fun caller w hw => ?_, fun key' expires' addresses' hget => ?_⟩
  · rw [Resolver.store_waiters] at hw
    exact (h.waiters caller w hw).of_eq (by simp) (by simp)
  · have hgrows : Grows s (s.store key (expires, addresses)) := grows_of_eq (by simp)
    rcases Resolver.store_cache s key _ hget with ⟨rfl, heq⟩ | hold
    · cases heq
      exact hlooked.grows hgrows
    · exact (h.cache key' expires' addresses' hold).grows hgrows

/-- A caller goes on in time. -/
lemma Sound.resume (h : Sound s) {caller : ℕ} {w : Waiter} (hw : s.waiters.get? caller = some w)
    (hprompt : w.cancelled = false → ∀ time ∈ s.ended w.lookup, s.now - dnsTtl ≤ time) :
    Kept s (Resolver.goOn { s with waiters := s.waiters.erase caller } w).1
      (Resolver.goOn { s with waiters := s.waiters.erase caller } w).2 := by
  have hleft := h.leave hw
  obtain ⟨harrived, found, hfound, hkey, htime⟩ := h.waiters caller w hw
  generalize hs₁ : ({ s with waiters := s.waiters.erase caller } : Resolver) = s₁ at hleft ⊢
  have hlookups : s₁.lookups = s.lookups := by rw [← hs₁]
  have hnow : s₁.now = s.now := by rw [← hs₁]
  have hgrows : Grows s (s₁.forget w) := grows_of_eq (by simp [hlookups])
  unfold Resolver.goOn
  rw [hlookups, hfound, Option.bind_some]
  dsimp only
  split
  · exact ⟨hleft, hgrows, ⟨by simp, by simp⟩⟩
  · rename_i hlive
    split
    · exact ⟨hleft, hgrows, fresh_nil⟩
    · exact ⟨hleft, hgrows, ⟨by simp, by simp⟩⟩
    · rename_i time result houtcome
      have hended : s.ended w.lookup = some time := by
        rw [ended_eq hfound, houtcome]
        rfl
      have hlooked : ∀ since, since ≤ time → LookedUp (s₁.forget w) w.key since result := by
        intro since hsince
        refine ⟨w.lookup, time, ?_, hsince⟩
        rw [Resolver.forget_lookups, hlookups, hfound, ← hkey, ← houtcome]
      have hstored : Grows (s₁.forget w)
          ((s₁.forget w).store w.key (w.arrived + dnsTtl, result)) := grows_of_eq (by simp)
      refine ⟨hleft.store (hlooked _ ?_), fun lookup found hfound hended =>
        hstored lookup found (hgrows lookup found hfound hended) hended, fresh_returned ?_ _⟩
      · rw [add_sub_cancel_right]
        exact htime _ houtcome
      · refine (hlooked _ ?_).grows hstored
        rw [Resolver.store_now, Resolver.forget_now, hnow]
        exact hprompt (by simpa using hlive) time hended

/-- A caller comes while no lookup that has ended is in flight. -/
lemma Sound.call (h : Sound s) {caller : ℕ} (hfree : s.waiters.get? caller = none)
    (hprompt : Prompt s (.call caller key)) :
    Kept s (s.call caller key).1 (s.call caller key).2 := by
  unfold Resolver.call
  split
  · rename_i result hhit
    exact ⟨h, grows_of_eq rfl, fresh_returned (h.hit hhit) _⟩
  · rename_i hmiss
    unfold Resolver.ask
    split
    · exact h.start caller hfree
    · rename_i lookup hinflight
      have hended : s.ended lookup = none := by
        obtain ⟨found, hfound, -, hnone | ⟨caller', w, hw, rfl⟩⟩ := h.inflight key lookup hinflight
        · rw [ended_eq hfound, hnone]
          rfl
        · exact hprompt hmiss w (Dict.mem_values_iff.mpr ⟨caller', hw⟩) hinflight
      simp only [hended]
      exact h.join caller lookup hfree hinflight hended

/-- A prompt step keeps the invariant. -/
lemma Sound.step (h : Sound s) {l : Label} (hprompt : Prompt s l)
    (hstep : resolver.step s l = some (s', es)) : Kept s s' es := by
  cases l with
  | tick seconds =>
    simp only [resolver, Resolver.step] at hstep
    split at hstep
    · rename_i hnonneg
      cases hstep
      exact h.tick hnonneg
    · cases hstep
  | call caller key =>
    simp only [resolver, Resolver.step] at hstep
    split at hstep
    · rename_i hfree
      have hkept := h.call hfree hprompt
      rw [Option.some.inj hstep] at hkept
      exact hkept
    · cases hstep
  | finish lookup result =>
    simp only [resolver, Resolver.step] at hstep
    split at hstep
    · rename_i key hfound
      cases hstep
      obtain ⟨w, hw, hlookup⟩ := hprompt
      obtain ⟨caller, hw⟩ := Dict.mem_values_iff.mp hw
      exact h.finish hfound ⟨caller, w, hw, hlookup⟩ result
    · cases hstep
  | cancel caller =>
    simp only [resolver, Resolver.step] at hstep
    split at hstep
    · rename_i w hw
      cases hstep
      exact h.cancel hw
    · cases hstep
  | resume caller =>
    simp only [resolver, Resolver.step] at hstep
    split at hstep
    · rename_i w hw
      split at hstep
      · have hkept := h.resume hw (hprompt w hw)
        rw [Option.some.inj hstep] at hkept
        exact hkept
      · cases hstep
    · cases hstep
  | route key expires address =>
    cases hstep
    exact ⟨⟨h.inflight, fun caller w hw => (h.waiters caller w hw).of_eq (le_refl _) rfl, h.cache⟩,
      grows_of_eq rfl, fresh_nil⟩

/-- In every run that leaves no lookup behind, whoever is cancelled and whenever, what callers get
is not older than `DNS_TTL`, and no lookup that has ended is taken for one in flight. -/
theorem resolve_fresh {visited : List Resolver}
    (h : (resolver.restrict Prompt).Run .fresh visited events s) : Fresh events s := by
  have hnew : Sound .fresh := ⟨nofun, nofun, nofun⟩
  refine (h.invariant_events (I := fun events s => Sound s ∧ Fresh events s) ⟨hnew, fresh_nil⟩ ?_).2
  rintro events s l s' es ⟨hsound, hfresh⟩ hstep
  obtain ⟨hprompt, hstep⟩ := Machine.restrict_step.mp hstep
  have hkept := hsound.step hprompt hstep
  exact ⟨hkept.sound, hfresh.append hkept.grows hkept.fresh⟩

/-! ## Lookups that are left behind -/

/-- An address of a host. -/
def oldAddress : Address := (.inet, ⟨"192.0.2.1", 443, 0, 0⟩)

/-- An address that the host has later. -/
def newAddress : Address := (.inet, ⟨"192.0.2.2", 443, 0, 0⟩)

/-- Two callers share a lookup, one of them is cancelled, and a third one comes when the answer is
too old. -/
theorem resolve_fresh_shared : ∃ visited events s,
    (resolver.restrict Prompt).Run .fresh visited events s ∧
      (.joined ("example.org", 443) none ∈ events ∧
        .returned ("example.org", 443) 2 [oldAddress] ∈ events ∧
        .returned ("example.org", 443) 402 [newAddress] ∈ events) ∧ Fresh events s := by
  have hends : ∃ visited events s, (resolver.restrict Prompt).Run .fresh visited events s ∧
      (.joined ("example.org", 443) none ∈ events ∧
        .returned ("example.org", 443) 2 [oldAddress] ∈ events ∧
        .returned ("example.org", 443) 402 [newAddress] ∈ events) :=
    Machine.exists_run
      [.call 0 ("example.org", 443), .tick 1, .call 1 ("example.org", 443), .cancel 0, .resume 0,
        .tick 1, .finish 0 (.ok [oldAddress]), .resume 1, .tick 400, .call 2 ("example.org", 443),
        .finish 1 (.ok [newAddress]), .resume 2]
      (by decide +kernel)
  obtain ⟨_, _, _, hrun, hfacts⟩ := hends
  exact ⟨_, _, _, hrun, hfacts, resolve_fresh hrun⟩

/-- The only caller is cancelled before its lookup ends; a caller that comes more than six minutes
later is given the old answer as that of a lookup in flight. -/
theorem resolve_left_behind : ∃ visited events s, resolver.Run .fresh visited events s ∧
    .joined ("example.org", 443) (some 1) ∈ events ∧
      .returned ("example.org", 443) 401 [oldAddress] ∈ events ∧
      (∀ result, ¬ LookedUp s ("example.org", 443) (401 - dnsTtl) result) ∧ ¬ Fresh events s := by
  have hends : ∃ visited events s, resolver.Run .fresh visited events s ∧
      .joined ("example.org", 443) (some 1) ∈ events ∧
        .returned ("example.org", 443) 401 [oldAddress] ∈ events ∧
        ∀ found ∈ s.lookups, ∀ outcome ∈ found.outcome, outcome.1 < 401 - dnsTtl :=
    Machine.exists_run
      [.call 0 ("example.org", 443), .cancel 0, .resume 0, .tick 1, .finish 0 (.ok [oldAddress]),
        .tick 400, .call 1 ("example.org", 443)]
      (by decide +kernel)
  obtain ⟨visited, events, s, hrun, hjoined, hreturned, hold⟩ := hends
  refine ⟨visited, events, s, hrun, hjoined, hreturned, ?_, fun hfresh => ?_⟩
  · rintro result ⟨lookup, time, hfound, hsince⟩
    have hlt := hold _ (List.mem_of_getElem? hfound) (time, .ok result) rfl
    exact absurd hlt (not_lt.mpr hsince)
  · cases hfresh.joined _ _ hjoined

end Session.Dns
