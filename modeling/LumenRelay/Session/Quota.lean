import LumenRelay.Lib.Machine
import LumenRelay.Session.QuotaGate

/-!
# How far a limit is overshot

Any number of sessions share the limit of a link.  Each gate lets some bytes through that it
commits later, and a commit is refused only when the limit was reached before it, so the counter
may pass the limit by one commit, and every gate by less than its largest batch.
-/

namespace Session

open Lib Py Routing

/-! ## One pump -/

namespace Pump

/-- What a pump let through its gate is counted or waits, and less than a batch of it is never
counted. -/
def Balanced (p : Pump) : Prop :=
  p.accepted < p.counted + p.gate.maxBatch ∧ p.counted ≤ p.accepted ∧
    match p.phase with
    | .reading => p.accepted = p.counted + p.gate.pending
    | .passing _ => p.accepted = p.counted + p.gate.pending
    | .committing amount frame => p.gate.pending = 0 ∧ p.accepted + frame = p.counted + amount
    | .closing _ => p.counted + p.gate.pending ≤ p.accepted
    | .flushing amount _ => p.gate.pending = 0 ∧ p.counted + amount ≤ p.accepted
    | .done => True

/-- The largest batch of a gate is not empty. -/
lemma maxBatch_pos (gate : QuotaGate) : 0 < gate.maxBatch := by
  have hmin : 0 < quotaMinBatch := by decide
  have hge := gate.batch_ge
  have hle := gate.batch_le
  omega

lemma Moves.counted_eq {p p' : Pump} {added lost : ℕ} (h : Moves p p' added lost) :
    p'.counted = p.counted + added := by
  cases h <;> rfl

lemma Moves.maxBatch_eq {p p' : Pump} {added lost : ℕ} (h : Moves p p' added lost) :
    p'.gate.maxBatch = p.gate.maxBatch := by
  cases h with
  | hot _ hmax | batch _ hmax | refused _ hmax | unflushed _ hmax => exact hmax
  | _ => rfl

/-- Every step keeps a pump balanced. -/
lemma Balanced.moves {p p' : Pump} {added lost : ℕ} (h : p.Balanced) (hmove : Moves p p' added lost) :
    p'.Balanced := by
  have hbatch := maxBatch_pos p.gate
  obtain ⟨hlt, hle, hphase⟩ := h
  cases hmove with
  | denied hreading =>
    rw [hreading] at hphase
    exact ⟨hlt, hle, hphase.ge⟩
  | hot hreading hmax hpending hsmall =>
    rw [hreading] at hphase
    dsimp only at hphase
    refine ⟨?_, ?_, ?_⟩
    all_goals
      dsimp only
      omega
  | batch hreading hmax hempty =>
    rw [hreading] at hphase
    dsimp only at hphase
    refine ⟨?_, hle, hempty, ?_⟩
    all_goals
      dsimp only
      omega
  | counted hcommitting =>
    rw [hcommitting] at hphase
    dsimp only at hphase
    refine ⟨?_, ?_, ?_⟩
    all_goals
      dsimp only [pass]
      omega
  | refused hcommitting hmax hpending =>
    rw [hcommitting] at hphase
    dsimp only at hphase
    refine ⟨?_, hle, ?_⟩
    all_goals
      dsimp only
      omega
  | forwarded hpassing =>
    rw [hpassing] at hphase
    exact ⟨hlt, hle, hphase⟩
  | stopped hreading =>
    rw [hreading] at hphase
    exact ⟨hlt, hle, hphase.ge⟩
  | interrupted hpassing =>
    rw [hpassing] at hphase
    exact ⟨hlt, hle, hphase.ge⟩
  | flushing hclosing =>
    rw [hclosing] at hphase
    exact ⟨hlt, hle, rfl, hphase⟩
  | empty _ _ => exact ⟨hlt, hle, trivial⟩
  | flushed hflushing =>
    rw [hflushing] at hphase
    dsimp only at hphase
    refine ⟨?_, ?_, trivial⟩
    all_goals
      dsimp only
      omega
  | unflushed _ hmax =>
    refine ⟨?_, hle, trivial⟩
    dsimp only
    omega

lemma balanced_create {rt : Runtime} {link : Option Obj} {now : ℚ} {gate : QuotaGate}
    (h : QuotaGate.create rt link now = .ok gate) : (Pump.create gate).Balanced := by
  have hbatch := maxBatch_pos gate
  have hempty := QuotaGate.create_pending h
  refine ⟨?_, le_rfl, ?_⟩
  · show 0 < 0 + gate.maxBatch
    omega
  · show 0 = 0 + gate.pending
    omega

end Pump

/-! ## All the sessions of a link -/

/-- The links, the pumps of the sessions of one link by number, the bytes that headers added to
its counter, and the largest amount that was ever added to it. -/
structure Relay where
  links : Dict String Obj
  pumps : Dict ℕ Pump
  headers : ℕ
  largest : ℕ

/-- What happens: another part of the program changes the links; a gate is created; the header
of a session is counted; a pump makes a step. -/
inductive RelayEvent
  | change (links : Dict String Obj)
  | create (id : ℕ) (now : ℚ)
  | header (server : Server) (subs : Dict String Obj) (nbytes : ℕ)
  | pump (id : ℕ) (action : Pump.Action)

namespace Relay

/-- The header of a session is counted, or refused. -/
def header (uid : String) (s : Relay) (server : Server) (subs : Dict String Obj) (nbytes : ℕ) :
    Relay :=
  match checkAndUse server subs uid nbytes s.links with
  | .ok (true, links) =>
    { s with links := links, headers := s.headers + nbytes, largest := max s.largest nbytes }
  | _ => s

/-- The relay after a step of a pump. -/
def afterPump (s : Relay) (id : ℕ) (p p' : Pump) (links : Dict String Obj) : Relay :=
  { s with
    links := links, pumps := s.pumps.set id p'
    largest := max s.largest (p'.counted - p.counted) }

/-- One step of the relay. -/
def step (rt : Runtime) (uid : String) (s : Relay) : RelayEvent → Option Relay
  | .change links => some { s with links := links }
  | .create id now =>
    match s.pumps.get? id, QuotaGate.create rt (s.links.get? uid) now with
    | none, .ok gate => some { s with pumps := s.pumps.set id (.create gate) }
    | _, _ => none
  | .header server subs nbytes => some (s.header uid server subs nbytes)
  | .pump id action =>
    match s.pumps.get? id with
    | none => none
    | some p => (p.step rt uid s.links action).map fun r => s.afterPump id p r.1 r.2

/-- The relay as a machine. -/
def machine (rt : Runtime) (uid : String) : Machine Relay RelayEvent Empty where
  step s event := (s.step rt uid event).map fun s => (s, [])

/-- The relay before the first session. -/
def start (links : Dict String Obj) : Relay := ⟨links, .empty, 0, 0⟩

/-- The bytes that all the sessions let through. -/
def letThrough (s : Relay) : ℤ := s.headers + s.pumps.sumBy fun p => p.accepted

/-- The number of gates that were created. -/
def gates (s : Relay) : ℕ := s.pumps.entries.length

/-- The link keeps its limit and its counter. -/
def keepsLimit (uid : String) (limit : ℤ) (s : Relay) : RelayEvent → Bool
  | .change links =>
    (links.get? uid).any fun link =>
      link.get "limit_bytes" = .int limit &&
        (s.links.get? uid).any fun old => link.get "used_bytes" = old.get "used_bytes"
  | _ => true

/-- The link may not be used, if the step is one that would use it. -/
def notAllowed (uid : String) (s : Relay) : RelayEvent → Bool
  | .header server subs _ => isLinkAllowed server subs (s.links.get? uid) ≠ .ok true
  | .pump _ (.commit server subs) => isLinkAllowed server subs (s.links.get? uid) ≠ .ok true
  | _ => true

/-- The link has its limit, and its counter has the bytes that were added. -/
def Counts (uid : String) (limit used₀ : ℤ) (s : Relay) : Prop :=
  ∃ link, s.links.get? uid = some link ∧ link.get "limit_bytes" = .int limit ∧
    link.get "used_bytes" = .int (used₀ + s.headers + s.pumps.sumBy fun p => p.counted)

/-- The invariant of a relay whose link keeps a limit. -/
structure Metered (uid : String) (limit used₀ : ℤ) (s : Relay) : Prop where
  counts : Counts uid limit used₀ s
  bounded : used₀ + s.headers + s.pumps.sumBy (fun p => p.counted) < limit + s.largest
  balanced : ∀ id p, s.pumps.get? id = some p → p.Balanced
  metered : ∀ id p, s.pumps.get? id = some p → p.gate.maxBatch = quotaMeteredMaxBatch

end Relay

/-- A commit on a link with a limit finds its counter below the limit, and adds to it. -/
lemma checkAndUse_metered {server : Server} {subs links links' : Dict String Obj} {uid : String}
    {nbytes : ℕ} {limit used : ℤ} {link : Obj} (hlink : links.get? uid = some link)
    (hlimit : link.get "limit_bytes" = .int limit) (hused : link.get "used_bytes" = .int used)
    (hpos : 0 < limit) (hn : 0 < nbytes)
    (h : checkAndUse server subs uid nbytes links = .ok (true, links')) :
    used < limit ∧ ∃ link', links'.get? uid = some link' ∧
      link'.get "limit_bytes" = .int limit ∧ link'.get "used_bytes" = .int (used + nbytes) := by
  rcases checkAndUse_spec (by omega) h with ⟨hfalse, -⟩ | ⟨link₁, used₁, hlink₁, hallowed, hint, -, rfl⟩
  · cases hfalse
  · obtain rfl := Option.some.inj (hlink.symm.trans hlink₁)
    have hreached := quotaReached_of_allowed hallowed
    rw [quotaReached_int hlimit hused hpos] at hreached
    have hbelow : ¬ limit ≤ used := of_decide_eq_false (Except.ok.inj hreached)
    have hor : ((Json.int used).or (.int 0)).toInt server.site.rt = .ok used := by
      unfold Json.or
      split
      · rfl
      · rename_i hzero
        simp only [Json.truthy, ne_eq, decide_not, Bool.not_eq_true', decide_eq_false_iff_not,
          not_not] at hzero
        rw [hzero]
        rfl
    rw [getD_of_get hused (by simp), hor] at hint
    obtain rfl := Except.ok.inj hint
    refine ⟨by omega, _, Dict.get?_set_self _ _ _, ?_, Obj.get_set_self _ _ _⟩
    rw [Obj.get_set_ne (by decide)]
    exact hlimit

namespace Relay

variable {rt : Runtime} {uid : String} {limit used₀ : ℤ} {s s' : Relay} {event : RelayEvent}

/-- A commit of some bytes, wherever it comes from, keeps the counter below the limit and one
commit. -/
lemma Metered.pay (h : Metered uid limit used₀ s) (hpos : 0 < limit) {server : Server}
    {subs links : Dict String Obj} {nbytes : ℕ}
    (hpay : checkAndUse server subs uid nbytes s.links = .ok (true, links)) :
    (∃ link, links.get? uid = some link ∧ link.get "limit_bytes" = .int limit ∧
      link.get "used_bytes" =
        .int (used₀ + s.headers + s.pumps.sumBy (fun p => p.counted) + nbytes)) ∧
      used₀ + s.headers + s.pumps.sumBy (fun p => p.counted) + nbytes <
        limit + max s.largest nbytes := by
  obtain ⟨link, hlink, hlimit, hused⟩ := h.counts
  have hbounded := h.bounded
  rcases Nat.eq_zero_or_pos nbytes with rfl | hn
  · -- a commit of nothing
    have hsame : links = s.links := by
      rw [checkAndUse, if_pos (by simp)] at hpay
      exact (Prod.mk.inj (Except.ok.inj hpay)).2.symm
    subst hsame
    refine ⟨⟨link, hlink, hlimit, by simpa using hused⟩, ?_⟩
    simpa using hbounded
  · obtain ⟨hbelow, hlink'⟩ := checkAndUse_metered hlink hlimit hused hpos hn hpay
    refine ⟨hlink', ?_⟩
    have hmax : nbytes ≤ max s.largest nbytes := Nat.le_max_right _ _
    omega

/-- What a pump adds to the counter, the sum over the pumps grows by. -/
lemma sum_counted {pumps : Dict ℕ Pump} {id added lost : ℕ} {p p' : Pump}
    (hp : pumps.get? id = some p) (hmove : Pump.Moves p p' added lost) :
    (pumps.set id p').sumBy (fun p => (p.counted : ℤ)) =
      pumps.sumBy (fun p => (p.counted : ℤ)) + added := by
  rw [Dict.sumBy_set_of_some hp, hmove.counted_eq]
  push_cast
  ring

/-- A step of a pump keeps the invariant. -/
lemma Metered.afterPump (h : Metered uid limit used₀ s) (hpos : 0 < limit) {id : ℕ} {p p' : Pump}
    {links : Dict String Obj} {action : Pump.Action} (hp : s.pumps.get? id = some p)
    (hpump : p.step rt uid s.links action = some (p', links)) :
    Metered uid limit used₀ (s.afterPump id p p' links) := by
  obtain ⟨added, lost, hmove, hpays, -⟩ := Pump.step_moves hpump
  have hsum := sum_counted hp hmove
  have hadded : p'.counted - p.counted = added := by
    rw [hmove.counted_eq]
    omega
  have hpumps : ∀ id' q, (s.pumps.set id p').get? id' = some q →
      q = p' ∨ s.pumps.get? id' = some q := by
    intro id' q hq
    rw [Dict.get?_set] at hq
    split at hq
    · exact .inl (Option.some.inj hq).symm
    · exact .inr hq
  have hcounts : Counts uid limit used₀ (s.afterPump id p p' links) ∧
      used₀ + s.headers + (s.pumps.set id p').sumBy (fun p => (p.counted : ℤ)) <
        limit + max s.largest (p'.counted - p.counted) := by
    unfold Counts Relay.afterPump
    dsimp only
    rw [hsum, hadded]
    rcases hpays with ⟨rfl, rfl⟩ | ⟨server, subs, rfl, hpay⟩
    · have hbounded := h.bounded
      simpa using ⟨h.counts, hbounded⟩
    · simpa [add_assoc] using h.pay hpos hpay
  refine ⟨hcounts.1, hcounts.2, ?_, ?_⟩
  · intro id' q hq
    rcases hpumps id' q hq with rfl | hq
    · exact (h.balanced id p hp).moves hmove
    · exact h.balanced id' q hq
  · intro id' q hq
    rcases hpumps id' q hq with rfl | hq
    · rw [hmove.maxBatch_eq]
      exact h.metered id p hp
    · exact h.metered id' q hq

/-- A step of the relay that keeps the limit keeps the invariant. -/
lemma Metered.step (h : Metered uid limit used₀ s) (hpos : 0 < limit)
    (hkeeps : keepsLimit uid limit s event = true) (hstep : s.step rt uid event = some s') :
    Metered uid limit used₀ s' := by
  obtain ⟨link, hlink, hlimit, hused⟩ := h.counts
  cases event with
  | change links =>
    obtain rfl := Option.some.inj hstep
    obtain ⟨link', hlink', htest⟩ := (Option.any_eq_true _ _).mp hkeeps
    simp only [hlink, Option.any_some, Bool.and_eq_true, decide_eq_true_eq] at htest
    exact ⟨⟨link', hlink', htest.1, htest.2.trans hused⟩, h.bounded, h.balanced, h.metered⟩
  | create id now =>
    rw [Relay.step, hlink] at hstep
    split at hstep
    · rename_i gate hfresh hgate
      obtain rfl := Option.some.inj hstep
      have hcounted : (s.pumps.set id (.create gate)).sumBy (fun p => (p.counted : ℤ)) =
          s.pumps.sumBy fun p => p.counted := by
        rw [Dict.sumBy_set_of_none hfresh]
        exact add_zero _
      refine ⟨⟨link, hlink, hlimit, by rw [hused, hcounted]⟩, by rw [hcounted]; exact h.bounded,
        ?_, ?_⟩
      · intro id' p hp
        rw [Dict.get?_set] at hp
        split at hp
        · obtain rfl := Option.some.inj hp
          exact Pump.balanced_create hgate
        · exact h.balanced id' p hp
      · intro id' p hp
        rw [Dict.get?_set] at hp
        split at hp
        · obtain rfl := Option.some.inj hp
          exact QuotaGate.create_metered hlimit hpos hgate
        · exact h.metered id' p hp
    · cases hstep
  | header server subs nbytes =>
    obtain rfl := Option.some.inj hstep
    unfold Relay.header
    split
    · rename_i links hpay
      obtain ⟨⟨link', hlink', hlimit', hused'⟩, hbound⟩ := h.pay hpos hpay
      refine ⟨⟨link', hlink', hlimit', ?_⟩, ?_, h.balanced, h.metered⟩
      · rw [hused']
        push_cast
        ring_nf
      · push_cast at hbound ⊢
        omega
    · exact h
  | pump id action =>
    rw [Relay.step] at hstep
    split at hstep
    · cases hstep
    · rename_i p hp
      obtain ⟨⟨p', links⟩, hpump, rfl⟩ := Option.map_eq_some_iff.mp hstep
      exact h.afterPump hpos hp hpump

/-- What the sessions let through is what they counted, and less than a batch for each gate. -/
lemma letThrough_le (hbalanced : ∀ id p, s.pumps.get? id = some p → p.Balanced)
    (hmetered : ∀ id p, s.pumps.get? id = some p → p.gate.maxBatch = quotaMeteredMaxBatch) :
    s.letThrough ≤ s.headers + s.pumps.sumBy (fun p => p.counted) +
      s.gates * quotaMeteredMaxBatch := by
  have hvalues : ∀ l : List Pump, (∀ p ∈ l, (p.accepted : ℤ) ≤ p.counted + quotaMeteredMaxBatch) →
      (l.map fun p => (p.accepted : ℤ)).sum ≤
        (l.map fun p => (p.counted : ℤ)).sum + l.length * quotaMeteredMaxBatch := by
    intro l hl
    induction l with
    | nil => simp
    | cons p l ih =>
      have hp := hl p List.mem_cons_self
      have hrest := ih fun q hq => hl q (List.mem_cons_of_mem _ hq)
      simp only [List.map_cons, List.sum_cons, List.length_cons, Nat.cast_add, Nat.cast_one]
      linarith
  have hsum := hvalues s.pumps.values (by
    intro p hp
    obtain ⟨id, hget⟩ := Dict.mem_values_iff.mp hp
    have hlt := (hbalanced id p hget).1
    rw [hmetered id p hget] at hlt
    exact_mod_cast hlt.le)
  have hlength : s.pumps.values.length = s.gates := by simp [Dict.values, gates]
  rw [hlength] at hsum
  unfold letThrough Dict.sumBy
  linarith

/-- The pumps of a relay, seen from an earlier relay: the old ones are there and have counted
nothing since, and the new ones have counted nothing. -/
structure NothingSince (s₀ s : Relay) : Prop where
  kept : ∀ id p₀, s₀.pumps.get? id = some p₀ → ∃ p, s.pumps.get? id = some p
  balanced : ∀ id p, s.pumps.get? id = some p → p.Balanced
  counted : ∀ id p, s.pumps.get? id = some p →
    p.counted = (s₀.pumps.get? id).elim 0 fun p₀ => p₀.counted

/-- A step on a link that may not be used counts nothing. -/
lemma NothingSince.step {s₀ : Relay} (h : NothingSince s₀ s)
    (hdenied : notAllowed uid s event = true) (hstep : s.step rt uid event = some s') :
    NothingSince s₀ s' := by
  cases event with
  | change links =>
    obtain rfl := Option.some.inj hstep
    exact ⟨h.kept, h.balanced, h.counted⟩
  | header server subs nbytes =>
    obtain rfl := Option.some.inj hstep
    unfold Relay.header
    split
    · exact ⟨h.kept, h.balanced, h.counted⟩
    · exact h
  | create id now =>
    rw [Relay.step] at hstep
    split at hstep
    · rename_i gate hfresh hgate
      obtain rfl := Option.some.inj hstep
      have hnew : s₀.pumps.get? id = none := by
        cases hold : s₀.pumps.get? id with
        | none => rfl
        | some p₀ =>
          obtain ⟨p, hp⟩ := h.kept id p₀ hold
          cases hfresh.symm.trans hp
      refine ⟨?_, ?_, ?_⟩
      · intro id' p₀ hp₀
        obtain ⟨p, hp⟩ := h.kept id' p₀ hp₀
        have hne : id' ≠ id := by
          rintro rfl
          cases hfresh.symm.trans hp
        exact ⟨p, (Dict.get?_set_ne hne _ _).trans hp⟩
      · intro id' p hp
        rw [Dict.get?_set] at hp
        split at hp
        · obtain rfl := Option.some.inj hp
          exact Pump.balanced_create hgate
        · exact h.balanced id' p hp
      · intro id' p hp
        rw [Dict.get?_set] at hp
        split at hp
        · rename_i hid
          obtain rfl := Option.some.inj hp
          rw [hid, hnew]
          rfl
        · exact h.counted id' p hp
    · cases hstep
  | pump id action =>
    rw [Relay.step] at hstep
    split at hstep
    · cases hstep
    · rename_i p hp
      obtain ⟨⟨p', links⟩, hpump, rfl⟩ := Option.map_eq_some_iff.mp hstep
      obtain ⟨added, lost, hmove, hpays, -⟩ := Pump.step_moves hpump
      have hadded : added = 0 := by
        rcases hpays with ⟨hzero, -⟩ | ⟨server, subs, rfl, hpay⟩
        · exact hzero
        · by_contra hne
          rcases checkAndUse_spec (by omega) hpay with ⟨hfalse, -⟩ | ⟨link, _, hlink, hallowed, -⟩
          · cases hfalse
          · simp [notAllowed, hlink, hallowed] at hdenied
      subst hadded
      refine ⟨?_, ?_, ?_⟩
      · intro id' p₀ hp₀
        obtain ⟨q, hq⟩ := h.kept id' p₀ hp₀
        unfold afterPump
        rw [Dict.get?_set]
        split
        · exact ⟨_, rfl⟩
        · exact ⟨q, hq⟩
      · intro id' q hq
        unfold afterPump at hq
        rw [Dict.get?_set] at hq
        split at hq
        · obtain rfl := Option.some.inj hq
          exact (h.balanced id p hp).moves hmove
        · exact h.balanced id' q hq
      · intro id' q hq
        unfold afterPump at hq
        rw [Dict.get?_set] at hq
        split at hq
        · rename_i hid
          obtain rfl := Option.some.inj hq
          rw [hmove.counted_eq, hid]
          exact h.counted id p hp
        · exact h.counted id' q hq

end Relay

/-- The overshoot of a limit is bounded.  In every run of the sessions of a link with a fixed
limit, the counter stays below the limit and the largest commit; each gate has let through less
than a batch that is not counted, so that all the sessions together let through less than the
limit, the largest commit and a batch for each gate; and while the link may not be used, each
gate lets through less than a batch. -/
theorem bounded_overshoot {rt : Runtime} {uid : String} {limit used₀ : ℤ} {links : Dict String Obj}
    {link : Obj} (hlink : links.get? uid = some link) (hlimit : link.get "limit_bytes" = .int limit)
    (hused : link.get "used_bytes" = .int used₀) (hpos : 0 ≤ used₀) (hbelow : used₀ < limit)
    {visited : List Relay} {events : List Empty} {s : Relay}
    (h : ((Relay.machine rt uid).restrict fun s event => Relay.keepsLimit uid limit s event).Run
      (.start links) visited events s) :
    (∃ link used, s.links.get? uid = some link ∧ link.get "used_bytes" = .int used ∧
        used < limit + s.largest) ∧
      (∀ id p, s.pumps.get? id = some p → p.accepted < p.counted + p.gate.maxBatch) ∧
      s.letThrough < limit + s.largest + s.gates * quotaMeteredMaxBatch ∧
      ∀ visited' events' s',
        ((Relay.machine rt uid).restrict fun s event => Relay.notAllowed uid s event).Run s visited'
            events' s' →
          ∀ id p, s'.pumps.get? id = some p →
            p.accepted < ((s.pumps.get? id).elim 0 fun p => p.accepted) + p.gate.maxBatch := by
  have hstart : Relay.Metered uid limit used₀ (.start links) := by
    refine ⟨⟨link, hlink, hlimit, by simpa [Relay.start] using hused⟩, ?_, nofun, nofun⟩
    simpa [Relay.start] using hbelow
  have hmetered : Relay.Metered uid limit used₀ s := by
    refine h.invariant hstart fun s event s' es hI hs => ?_
    obtain ⟨hkeeps, hs⟩ := Machine.restrict_step.mp hs
    obtain ⟨s'', hstep, heq⟩ := Option.map_eq_some_iff.mp hs
    obtain ⟨rfl, -⟩ := Prod.mk.inj heq
    exact hI.step (by omega) hkeeps hstep
  have hbounded := hmetered.bounded
  refine ⟨?_, fun id p hp => (hmetered.balanced id p hp).1, ?_, ?_⟩
  · obtain ⟨link', hlink', -, hused'⟩ := hmetered.counts
    exact ⟨link', _, hlink', hused', hbounded⟩
  · have hthrough := Relay.letThrough_le hmetered.balanced hmetered.metered
    linarith
  · intro visited' events' s' h' id p hp
    have hsince : Relay.NothingSince s s' := by
      have hhere : Relay.NothingSince s s := by
        refine ⟨fun id p₀ hp₀ => ⟨p₀, hp₀⟩, hmetered.balanced, ?_⟩
        intro id p hp
        rw [hp]
        rfl
      refine h'.invariant hhere fun s event s' es hI hs => ?_
      obtain ⟨hdenied, hs⟩ := Machine.restrict_step.mp hs
      obtain ⟨s'', hstep, heq⟩ := Option.map_eq_some_iff.mp hs
      obtain ⟨rfl, -⟩ := Prod.mk.inj heq
      exact hI.step hdenied hstep
    have hlt := (hsince.balanced id p hp).1
    have hcounted := hsince.counted id p hp
    cases hold : s.pumps.get? id with
    | none =>
      rw [hold] at hcounted
      dsimp only [Option.elim] at hcounted ⊢
      omega
    | some p₀ =>
      have hle := (hmetered.balanced id p₀ hold).2.1
      rw [hold] at hcounted
      dsimp only [Option.elim] at hcounted ⊢
      omega

/-- Links with one that may transfer a hundred bytes. -/
def limitedLinks : Dict String Obj :=
  Dict.set .empty "u" [("limit_bytes", .int 100), ("used_bytes", .int 0)]

/-- A session on it counts its header and lets a thousand bytes through. -/
theorem bounded_overshoot_upload : ∃ visited events s,
    ((Relay.machine .ascii "u").restrict fun s event => Relay.keepsLimit "u" 100 s event).Run
        (.start limitedLinks) visited events s ∧
      s.letThrough = 1030 ∧ s.letThrough < 100 + s.largest + s.gates * quotaMeteredMaxBatch := by
  have hends : ∃ visited events s,
      ((Relay.machine .ascii "u").restrict fun s event => Relay.keepsLimit "u" 100 s event).Run
        (.start limitedLinks) visited events s ∧ s.letThrough = 1030 :=
    Machine.exists_run [.header (.bare .ascii) .empty 30, .create 0 0, .pump 0 (.receive 1000 0)]
      (by decide +kernel)
  obtain ⟨_, _, s, hrun, hthrough⟩ := hends
  have hbounds := bounded_overshoot rfl rfl (show _ = Json.int 0 from rfl) le_rfl (by decide) hrun
  exact ⟨_, _, s, hrun, hthrough, hbounds.2.2.1⟩

end Session
