import LumenRelay.Bot.Ledger

/-!
# The life of an order

The phase of an order is its status, with the way of payment while the order is in processing.
In every run the phases of an order follow the table `FlowMove`, its finishing is reported at
most once, and provisioning is never started for an order that was decided otherwise.
-/

namespace Bot

open Lib Py

/-- A status, with the way of payment while the order is in processing. -/
abbrev Phase : Type := Status × Option Method

/-- The phase of an order. -/
def phase (o : Order) : Phase :=
  (o.status, if o.status = .processing then o.paymentMethod else none)

/-- The moves of an order. -/
inductive FlowMove : Phase → Phase → Prop
  | startCard : FlowMove (.draft, none) (.awaitingReceipt, none)
  | submit : FlowMove (.awaitingReceipt, none) (.pendingAdmin, none)
  | accept : FlowMove (.pendingAdmin, none) (.processing, some .card)
  | payWallet : FlowMove (.draft, none) (.processing, some .wallet)
  | payFree : FlowMove (.draft, none) (.processing, some .free)
  | approve (m : Method) : FlowMove (.processing, some m) (.approved, none)
  | backWallet : FlowMove (.processing, some .wallet) (.draft, none)
  | backFree : FlowMove (.processing, some .free) (.draft, none)
  | backCard : FlowMove (.processing, some .card) (.pendingAdmin, none)
  | cancel : FlowMove (.draft, none) (.cancelled, none)
  | cancelWaiting : FlowMove (.awaitingReceipt, none) (.cancelled, none)
  | expire : FlowMove (.awaitingReceipt, none) (.expired, none)
  | reject : FlowMove (.pendingAdmin, none) (.rejected, none)

/-- The statuses that the store leaves once and for all. -/
def Status.closed : Status → Prop
  | .approved | .cancelled | .expired | .rejected => True
  | _ => False

/-- There is no move from a closed status. -/
lemma FlowMove.not_closed {a b : Phase} (h : FlowMove a b) : ¬ a.1.closed := by
  cases h <;> exact id

/-- Processing leads to approval or back to where it came from. -/
lemma FlowMove.back {a b c : Phase} (h : FlowMove a b) (hb : b.1 = .processing)
    (h' : FlowMove b c) : c.1 = .approved ∨ c = a := by
  cases h <;> cases h' <;> simp_all

/-- The phase of an order id, when there is such an order. -/
def phaseOf (oid : String) (s : State) : Option Phase := (s.store.orders.get? oid).map phase

/-- The phases an order went through. -/
def phaseHistory (oid : String) (visited : List State) : List Phase :=
  Machine.history (phaseOf oid) visited

/-! ## One step -/

/-- What a step may do to the phase at an order id. -/
inductive PhaseStep : Option Phase → Option Phase → Prop
  | same (p : Option Phase) : PhaseStep p p
  | created : PhaseStep none (some (.draft, none))
  | moved {a b : Phase} : FlowMove a b → PhaseStep (some a) (some b)

lemma QuietMove.flow {refusal : Prop} {a b : Status} (h : QuietMove refusal a b) :
    b = a ∨ FlowMove (a, none) (b, none) := by
  cases h with
  | edit => exact .inl rfl
  | startCard => exact .inr .startCard
  | cancel => exact .inr .cancel
  | cancelWaiting => exact .inr .cancelWaiting
  | expire => exact .inr .expire
  | submit => exact .inr .submit
  | reject _ => exact .inr .reject

lemma phase_of_status {o : Order} (h : o.status ≠ .processing) : phase o = (o.status, none) := by
  simp [phase, h]

lemma phase_of_processing {o : Order} {m : Method} (h : o.status = .processing)
    (hm : o.paymentMethod = some m) : phase o = (.processing, some m) := by
  simp [phase, h, hm]

lemma Quiet.phaseStep {R : String → Prop} {st st' : Store} (hq : Quiet R st st') (oid : String) :
    PhaseStep ((st.orders.get? oid).map phase) ((st'.orders.get? oid).map phase) := by
  have hstep := hq.orders oid
  generalize st.orders.get? oid = before at hstep ⊢
  generalize st'.orders.get? oid = after at hstep ⊢
  cases hstep with
  | same => exact .same _
  | created o hs =>
    rw [Option.map_some, phase_of_status (by simp [hs]), hs]
    exact .created
  | edited o o' he =>
    obtain ⟨⟨-, hp⟩, -, hp'⟩ := he.move.unsettled
    rw [Option.map_some, Option.map_some, phase_of_status hp, phase_of_status hp']
    rcases he.move.flow with hsame | hmove
    · rw [hsame]
      exact .same _
    · exact .moved hmove

/-- A step that rewrites one order moves its phase only. -/
lemma phaseStep_set {st st' : Store} {key : String} {o o' : Order}
    (hb : st.orders.get? key = some o) (ha : st'.orders = st.orders.set key o')
    (hmove : FlowMove (phase o) (phase o')) (oid : String) :
    PhaseStep ((st.orders.get? oid).map phase) ((st'.orders.get? oid).map phase) := by
  rw [ha, Dict.get?_set]
  split_ifs with hk
  · rw [hk, hb]
    exact .moved hmove
  · exact .same _

lemma phaseStep_of_orders {st st' : Store} (h : st'.orders = st.orders) (oid : String) :
    PhaseStep ((st.orders.get? oid).map phase) ((st'.orders.get? oid).map phase) := by
  rw [h]
  exact .same _

variable {rt : Runtime} {env : Env} {R : String → Prop} {s s' : State} {visited : List State}
  {events es : List Event}

/-- The table of moves is respected by every step. -/
lemma step_phase (hinv : Inv s) (hm : Moves rt R s s' es) (oid : String) :
    PhaseStep (phaseOf oid s) (phaseOf oid s') := by
  have hnext := hinv.step hm
  cases hm with
  | quiet hq hh => exact hq.phaseStep oid
  | redeemed hpos ho hb hk hh => exact phaseStep_of_orders ho oid
  | enter hst hn hh hstage => exact phaseStep_of_orders (by rw [hst]) oid
  | refused hh hstage hq hn => exact hq.phaseStep oid
  | @started h reviewerId o o' hh hstage hst hn =>
    obtain ⟨o₁, hok⟩ := hnext.holder _ hn rfl
    obtain rfl : o' = o₁ := by
      have horder := hok.order
      rw [hst.after, Dict.get?_set_self] at horder
      exact Option.some.inj horder
    refine phaseStep_set hst.before hst.after ?_ oid
    have hcame := hst.came
    have hmethod := hok.method
    rw [phase_of_processing hst.status hmethod]
    cases hsource : h.source with
    | wallet =>
      rw [hsource] at hcame
      rw [phase_of_status (by simp [hcame, Source.allowed]), hcame]
      exact .payWallet
    | free =>
      rw [hsource] at hcame
      rw [phase_of_status (by simp [hcame, Source.allowed]), hcame]
      exact .payFree
    | card =>
      rw [hsource] at hcame
      rw [phase_of_status (by simp [hcame, Source.allowed]), hcame]
      exact .accept
  | inside hh hin hq ho hn => exact phaseStep_of_orders ho oid
  | credited hh hstage ho hk hst hn => exact phaseStep_of_orders (by rw [hst]; rfl) oid
  | @approved h serviceId now hh hstage hst hn =>
    obtain ⟨o, o', hok, ha⟩ := hinv.approves hh hstage hst
    refine phaseStep_set hok.order ha.after ?_ oid
    rw [phase_of_processing hok.status hok.method, phase_of_status (by simp [ha.status]), ha.status]
    exact .approve _
  | @rolledBack h message hh hstage hst hn =>
    obtain ⟨o, o', hok, hr⟩ := hinv.rollsBack hh hstage hst
    refine phaseStep_set hok.order hr.after ?_ oid
    rw [phase_of_processing hok.status hok.method,
      phase_of_status (by rw [hr.status]; cases h.source <;> simp [Source.allowed]), hr.status]
    cases h.source with
    | wallet => exact .backWallet
    | free => exact .backFree
    | card => exact .backCard
  | returned hh hstage hst hn => exact phaseStep_of_orders (by rw [hst]) oid

/-- An approved order stays approved. -/
lemma step_approved (hinv : Inv s) (hm : Moves rt R s s' es) {oid : String}
    (h : phaseOf oid s = some (.approved, none)) : phaseOf oid s' = some (.approved, none) := by
  have hstep := step_phase hinv hm oid
  rw [h] at hstep
  generalize phaseOf oid s' = after at hstep ⊢
  cases hstep with
  | same => rfl
  | moved hmove => exact absurd trivial hmove.not_closed

/-! ## Reports -/

/-- Whether the handler inside the lock is about to report that it finished an order. -/
def reporting (oid : String) (s : State) : ℕ :=
  match s.holder with
  | none => 0
  | some h =>
    match h.stage with
    | .savingOutcome true => if h.oid = oid then 1 else 0
    | _ => 0

lemma reporting_of_holder_none (oid : String) (h : s.holder = none) : reporting oid s = 0 := by
  simp [reporting, h]

lemma reporting_of_stage {h : Holder} (oid : String) (hh : s.holder = some h)
    (hne : h.stage ≠ .savingOutcome true) : reporting oid s = 0 := by
  rcases hs : h.stage with _ | _ | _ | _ | _ | _ | _ | fulfilled
  case savingOutcome =>
    cases fulfilled with
    | true => exact absurd hs hne
    | false => simp [reporting, hh, hs]
  all_goals simp [reporting, hh, hs]

lemma Inside.silent {o : Option Order} {oid : String} {stage stage' : Stage}
    (h : Inside o oid stage stage' es) :
    stage' ≠ .savingOutcome true ∧ ∀ oid', es.count (.fulfilled oid') = 0 := by
  cases h <;> simp

/-- At most one report for an approved order and none for another, the one under way included. -/
structure ReportInv (events : List Event) (s : State) : Prop where
  inv : Inv s
  once : ∀ oid, events.count (.fulfilled oid) + reporting oid s ≤ 1
  approved : ∀ oid, 0 < events.count (.fulfilled oid) + reporting oid s →
    phaseOf oid s = some (.approved, none)

/-- The reports across a step that neither reports nor starts to. -/
lemma ReportInv.of_silent (hinv : ReportInv events s) (hm : Moves rt R s s' es)
    (hes : ∀ oid, es.count (.fulfilled oid) = 0)
    (hr : ∀ oid, reporting oid s' ≤ reporting oid s) : ReportInv (events ++ es) s' := by
  refine ⟨hinv.inv.step hm, fun oid => ?_, fun oid hpos => ?_⟩
  · have := hinv.once oid
    have := hr oid
    rw [List.count_append, hes]
    omega
  · rw [List.count_append, hes] at hpos
    have := hr oid
    exact step_approved hinv.inv hm (hinv.approved oid (by omega))

theorem ReportInv.step (hinv : ReportInv events s) (hm : Moves rt R s s' es) :
    ReportInv (events ++ es) s' := by
  have hkeep : s'.holder = s.holder → ∀ oid, reporting oid s' ≤ reporting oid s := by
    intro hh oid
    simp [reporting, hh]
  have hall := hm
  cases hm with
  | quiet hq hh => exact hinv.of_silent hall (by simp) (hkeep hh)
  | redeemed hpos ho hb hk hh =>
    exact hinv.of_silent hall (by simp) (hkeep hh)
  | enter hst hn hh hstage =>
    refine hinv.of_silent hall (by simp) fun oid => ?_
    simp [reporting_of_stage oid hh (by simp [hstage])]
  | refused hh hstage hq hn =>
    refine hinv.of_silent hall (by simp) fun oid => ?_
    simp [reporting_of_holder_none oid hn]
  | started hh hstage hst hn =>
    refine hinv.of_silent hall (by simp) fun oid => ?_
    simp [reporting_of_stage oid hn (by simp)]
  | inside hh hin hq ho hn =>
    refine hinv.of_silent hall hin.silent.2 fun oid => ?_
    simp [reporting_of_stage oid hn hin.silent.1]
  | credited hh hstage ho hk hst hn =>
    refine hinv.of_silent hall (by simp) fun oid => ?_
    simp [reporting_of_stage oid hn (by simp)]
  | rolledBack hh hstage hst hn =>
    refine hinv.of_silent hall (by simp) fun oid => ?_
    simp [reporting_of_stage oid hn (by simp)]
  | @approved h serviceId now hh hstage hst hn =>
    -- the order was in processing, so nothing has been reported for it
    obtain ⟨o, o', hok, ha⟩ := hinv.inv.approves hh hstage hst
    have hnew : phaseOf h.oid s' = some (.approved, none) := by
      rw [phaseOf, ha.after, Dict.get?_set_self, Option.map_some, phase_of_status (by simp [ha.status]),
        ha.status]
    have hzero : events.count (.fulfilled h.oid) + reporting h.oid s = 0 := by
      by_contra hne
      have := hinv.approved h.oid (by omega)
      simp [phaseOf, hok.order, phase, hok.status] at this
    have hreport : ∀ oid, reporting oid s' = if h.oid = oid then 1 else 0 := by
      intro oid
      simp [reporting, hn]
    refine ⟨hinv.inv.step hall, fun oid => ?_, fun oid hpos => ?_⟩
    · rw [List.append_nil, hreport]
      split_ifs with hoid
      · rw [← hoid]
        omega
      · have := hinv.once oid
        omega
    · rw [List.append_nil, hreport] at hpos
      by_cases hoid : h.oid = oid
      · rw [← hoid]
        exact hnew
      · rw [if_neg hoid] at hpos
        exact step_approved hinv.inv hall (hinv.approved oid (by omega))
  | @returned h fulfilled hh hstage hst hn =>
    have hcount : ∀ oid, (if fulfilled then [Event.fulfilled h.oid] else []).count
        (.fulfilled oid) = reporting oid s := by
      intro oid
      cases fulfilled <;> simp [reporting, hh, hstage, List.count_singleton]
    refine ⟨hinv.inv.step hall, fun oid => ?_, fun oid hpos => ?_⟩
    · rw [List.count_append, hcount, reporting_of_holder_none oid hn]
      exact hinv.once oid
    · rw [List.count_append, hcount, reporting_of_holder_none oid hn] at hpos
      exact step_approved hinv.inv hall (hinv.approved oid hpos)

/-! ## Runs -/

lemma reportInv_of_run (h : (machine rt env).Run (.fresh (defaultStore env) none) visited events s) :
    ReportInv events s := by
  refine h.invariant_events ⟨.fresh (fun oid o ho => by cases ho) _, fun oid => ?_, fun oid hpos => ?_⟩
    fun events s l s' es hinv hs => hinv.step (step_moves hs)
  · simp [reporting, State.fresh]
  · simp [reporting, State.fresh] at hpos

/-- The history of an order is a chain of the table that begins with a draft. -/
lemma isChain_phaseHistory
    (h : (machine rt env).Run (.fresh (defaultStore env) none) visited events s) (oid : String) :
    (phaseHistory oid visited).IsChain FlowMove ∧
      (∀ a, (phaseHistory oid visited).head? = some a → a = (.draft, none)) ∧
      (phaseHistory oid visited).getLast? = phaseOf oid s := by
  refine h.isChain_history rfl fun visited events s l s' es hrun hs => ?_
  have hstep := step_phase (reportInv_of_run hrun).inv (step_moves hs) oid
  generalize phaseOf oid s = before at hstep ⊢
  generalize phaseOf oid s' = after at hstep ⊢
  cases hstep with
  | same => exact .inl rfl
  | created => exact .inr (.inl ⟨rfl, _, rfl, rfl⟩)
  | moved hmove => exact .inr (.inr ⟨_, _, rfl, rfl, hmove⟩)

lemma chain_of_infix {l : List Phase} (h : l.IsChain FlowMove) {a b c : Phase}
    (hin : [a, b, c] <:+: l) : FlowMove a b ∧ FlowMove b c := by
  obtain ⟨pre, post, rfl⟩ := hin
  have h' := (List.isChain_append.mp (List.isChain_append.mp h).1).2.1
  simpa using h'

/-- A closed phase in the past of an order is its phase now. -/
lemma closed_last {l : List Phase} (h : l.IsChain FlowMove) {a b : Phase} (ha : a ∈ l)
    (hclosed : a.1.closed) (hlast : l.getLast? = some b) : a = b := by
  obtain ⟨pre, post, rfl⟩ := List.append_of_mem ha
  cases post with
  | nil => simpa using hlast
  | cons c post =>
    have h' := (List.isChain_append.mp h).2.1
    exact absurd hclosed (List.isChain_cons_cons.mp h').1.not_closed

/-- A step that starts provisioning an order finds it in processing. -/
lemma provisioning_processing (hinv : Inv s) (hm : Moves rt R s s' es) {oid : String}
    (h : Event.provisioning oid ∈ es) : ∃ m, phaseOf oid s = some (.processing, m) := by
  cases hm with
  | @inside h stage es hh hin hq ho hn =>
    obtain ⟨o, hok⟩ := hinv.holder h hh hin.working.1
    have hoid : h.oid = oid := by
      generalize h.stage = before at hin
      cases hin <;> simp_all
    refine ⟨o.paymentMethod, ?_⟩
    rw [← hoid]
    simp [phaseOf, hok.order, phase, hok.status]
  | returned => split_ifs at h <;> simp at h
  | quiet | redeemed | enter | refused | started | credited | approved | rolledBack => simp at h

/-- **The order state machine.**  In every run from an empty store, whatever the interleaving:
the phases of an order form a chain of the table that begins with a draft; processing leads to
approval or back to the phase it came from; finishing an order is reported at most once; and a
step that starts provisioning an order finds no rejected, cancelled or expired phase in its past. -/
theorem order_flow
    (h : (machine rt env).Run (.fresh (defaultStore env) none) visited events s) :
    (∀ oid, (phaseHistory oid visited).IsChain FlowMove ∧
        (∀ a, (phaseHistory oid visited).head? = some a → a = (.draft, none)) ∧
        (phaseHistory oid visited).getLast? = phaseOf oid s) ∧
      (∀ oid a b c, [a, b, c] <:+: phaseHistory oid visited → b.1 = .processing →
        c.1 = .approved ∨ c = a) ∧
      (∀ oid a, a ∈ phaseHistory oid visited → a.1.closed → phaseOf oid s = some a) ∧
      (∀ oid, events.count (.fulfilled oid) ≤ 1) ∧
      ∀ l s' es oid, (machine rt env).step s l = some (s', es) → .provisioning oid ∈ es →
        ∀ a ∈ phaseHistory oid visited, a.1 ≠ .rejected ∧ a.1 ≠ .cancelled ∧ a.1 ≠ .expired := by
  have hreport := reportInv_of_run h
  have hclosed : ∀ oid a, a ∈ phaseHistory oid visited → a.1.closed → phaseOf oid s = some a := by
    intro oid a ha hc
    obtain ⟨hchain, -, hlast⟩ := isChain_phaseHistory h oid
    cases hp : phaseOf oid s with
    | none =>
      have hnil := List.getLast?_eq_none_iff.mp (hlast.trans hp)
      simp [hnil] at ha
    | some b => rw [closed_last hchain ha hc (hlast.trans hp)]
  refine ⟨isChain_phaseHistory h, fun oid a b c hin hb => ?_, hclosed, fun oid => ?_,
    fun l s' es oid hs hes a ha => ?_⟩
  · obtain ⟨hab, hbc⟩ := chain_of_infix (isChain_phaseHistory h oid).1 hin
    exact hab.back hb hbc
  · exact le_trans (Nat.le_add_right _ _) (hreport.once oid)
  · obtain ⟨m, hm⟩ := provisioning_processing hreport.inv (step_moves hs) hes
    have hopen : ¬ a.1.closed := by
      intro hc
      have hcurrent := hclosed oid a ha hc
      rw [hm] at hcurrent
      obtain rfl := Option.some.inj hcurrent
      exact hc
    refine ⟨fun h => hopen ?_, fun h => hopen ?_, fun h => hopen ?_⟩ <;> rw [h] <;> trivial

theorem order_flow_renewal : ∃ visited events s,
    (machine .ascii exampleEnv).Run (.fresh (defaultStore exampleEnv) none) visited events s ∧
      phaseHistory "O1" visited =
        [(.draft, none), (.processing, some .wallet), (.approved, none)] ∧
      (phaseHistory "O1" visited).IsChain FlowMove := by
  have hsome : ((machine .ascii exampleEnv).exec (customerSteps ++ payWalletSteps 1 "O1" "svc")
      (.fresh (defaultStore exampleEnv) none)).isSome = true := by decide
  have hfacts : ∀ r ∈ (machine .ascii exampleEnv).exec (customerSteps ++ payWalletSteps 1 "O1" "svc")
      (.fresh (defaultStore exampleEnv) none),
      phaseHistory "O1" (.fresh (defaultStore exampleEnv) none :: r.1) =
        [(.draft, none), (.processing, some .wallet), (.approved, none)] := by decide
  obtain ⟨r, hr⟩ := Option.isSome_iff_exists.mp hsome
  have hrun := Machine.Run.start.exec hr
  exact ⟨_, _, _, hrun, hfacts r hr, ((order_flow hrun).1 "O1").1⟩

end Bot
