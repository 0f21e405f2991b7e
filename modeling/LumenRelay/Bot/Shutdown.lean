import LumenRelay.Bot.PaidOrders

/-!
# Stopping and restarting the bot

The process is stopped (the handlers are cancelled where they are suspended, and the store is
saved once more) or killed, and later started again from the file.  What becomes of a paid order is
decided by where the handler inside the provisioning lock was when the copy was taken that the file
then holds: between the charge and the decision, it leaves the order in a status that no operation
accepts.
-/

namespace Bot

open Lib Py

/-! ## The process -/

/-- The process is up, or it is down and the file holds a store. -/
inductive Process
  | up (s : State)
  | down (saved : Option Store)

/-- How the process ends. -/
inductive Ending
  /-- `stop_bot`, whose save succeeds or fails. -/
  | stopped (written : Bool)
  /-- Killed, with the file as it is. -/
  | killed
  /-- A write that was under way reaches the file last. -/
  | overtaken
deriving DecidableEq

/-- The steps of the process. -/
inductive Life
  | work (l : Label)
  | finish (e : Ending)
  | restart

variable (rt : Runtime) (env : Env)

/-- The file that an ending leaves behind. -/
def leftBy (s : State) : Ending → Option (Option Store)
  | .stopped true => some (some s.store)
  | .stopped false => some s.saved
  | .killed => some s.saved
  | .overtaken => s.writer.map fun w => some w.2

/-- A step of the process. -/
def lifeStep : Process → Life → Option (Process × List Event)
  | .up s, .work l => (step rt env s l).map fun r => (.up r.1, r.2)
  | .up s, .finish e => (leftBy s e).map fun saved => (.down saved, [])
  | .down saved, .restart => some (.up (.fresh (loadStore env saved) saved), [])
  | _, _ => none

/-- The process as a machine. -/
def lifeMachine : Machine Process Life Event := ⟨lifeStep rt env⟩

/-! ## What a copy of the store shows -/

/-- The handlers inside the provisioning lock when the copies of the store were taken. -/
structure Copies where
  /-- When the copy that is being written was taken. -/
  copied : Option Holder
  /-- When the copy that the file holds was taken. -/
  filed : Option Holder

/-- The copies after a step of the bot. -/
def Copies.mark (c : Copies) (s : State) : Label → Copies
  | .startSave _ => { c with copied := s.holder }
  | .endSave _ true => { c with filed := c.copied }
  | _ => c

/-- The handler inside the lock when the copy was taken that the file holds after an ending. -/
def shownBy (s : State) (c : Copies) : Ending → Option Holder
  | .stopped true => s.holder
  | .stopped false => c.filed
  | .killed => c.filed
  | .overtaken => c.copied

/-- The copies after a step of the process. -/
def Copies.next (c : Copies) : Process → Life → Copies
  | .up s, .work l => c.mark s l
  | .up s, .finish e => { c with filed := shownBy s c e }
  | _, _ => c

/-- The process, with the handlers that its copies show. -/
def watched : Machine (Process × Copies) Life Event := (lifeMachine rt env).withHistory Copies.next

/-- Before the first start there is no file. -/
def notStarted : Process × Copies := (.down none, ⟨none, none⟩)

/-- The handler is between the charge and the decision on an order that is paid from the wallet or
by card: it is in the save after the charge, delivers, waits for provisioning or for the save in it,
or is about to approve the order or to take it back. -/
def undecided (oid : String) (holder : Option Holder) : Bool :=
  holder.any fun h => h.oid = oid && h.stage.working && h.source ≠ .free

/-- An admin refuses the receipt of an order. -/
def refusesReceipt (oid : String) (s : State) : Label → Bool
  | .invoke _ _ (.rejectOrder oid' _) =>
    oid' = oid && (s.store.orders.get? oid).any fun o => o.status = .pendingAdmin
  | _ => false

/-- A step spares an order: no admin refuses its receipt, and an ending leaves a copy in the file
that was taken when the handler was not between the charge and the decision on it. -/
def spares (oid : String) (p : Process × Copies) : Life → Bool
  | .work l =>
    match p.1 with
    | .up s => !refusesReceipt oid s l
    | .down _ => true
  | .finish e =>
    match p.1 with
    | .up s => !undecided oid (shownBy s p.2 e)
    | .down _ => true
  | .restart => true

variable {rt env} {R : String → Prop} {P : Store → Option Holder → Prop}
  {s s' : State} {c : Copies} {events es : List Event} {oid : String}

/-- The copies of the store were taken in states that had a property. -/
structure Copied (P : Store → Option Holder → Prop) (s : State) (c : Copies) : Prop where
  writer : ∀ pid st, s.writer = some (pid, st) → P st c.copied
  saved : ∀ st, s.saved = some st → P st c.filed

lemma Copied.of_eq (h : Copied P s c) (hsaved : s'.saved = s.saved) (hwriter : s'.writer = s.writer) :
    Copied P s' c :=
  ⟨fun pid st hst => h.writer pid st (hwriter ▸ hst), fun st hst => h.saved st (hsaved ▸ hst)⟩

lemma Copied.mono {P' : Store → Option Holder → Prop} (h : Copied P s c)
    (himp : ∀ st holder, P st holder → P' st holder) : Copied P' s c :=
  ⟨fun pid st hst => himp _ _ (h.writer pid st hst), fun st hst => himp _ _ (h.saved st hst)⟩

lemma afterSave_files {pid : ℕ} (h : afterSave s pid = some (s', es)) :
    s'.saved = s.saved ∧ s'.writer = s.writer := by
  unfold afterSave at h
  split at h
  · cases h; exact ⟨rfl, rfl⟩
  · cases h; exact ⟨rfl, rfl⟩
  · cases h
  · split at h
    · cases h
    · split at h
      · cases h; exact ⟨rfl, rfl⟩
      · cases h; exact ⟨rfl, rfl⟩
      · cases h; exact ⟨rfl, rfl⟩
      · cases h

/-- What a step does to the file and to the copy that is being written: a save takes its copy of the
store as it is, and its write ends with this copy in the file or without it. -/
lemma step_files {l : Label} (hstep : step rt env s l = some (s', es)) :
    (∃ pid, l = .startSave pid ∧ s'.saved = s.saved ∧ s'.writer = some (pid, s.store)) ∨
      (∃ pid written st, l = .endSave pid written ∧ s.writer = some (pid, st) ∧
        s'.saved = (if written then some st else s.saved) ∧ s'.writer = none) ∨
      (∀ c : Copies, c.mark s l = c) ∧ s'.saved = s.saved ∧ s'.writer = s.writer := by
  have hsuspend : ∀ (t : State) (pid : ℕ) (pc : Option Pc),
      (t.suspend pid pc).saved = t.saved ∧ (t.suspend pid pc).writer = t.writer := by
    intro t pid pc
    cases pc <;> exact ⟨rfl, rfl⟩
  cases l with
  | invoke pid now action =>
    simp only [Bot.step] at hstep
    split_ifs at hstep
    split at hstep
    · cases hstep
    · cases hstep
      exact .inr (.inr ⟨fun _ => rfl, hsuspend _ _ _⟩)
  | enter pid =>
    simp only [Bot.step] at hstep
    split at hstep
    · cases hstep
      exact .inr (.inr ⟨fun _ => rfl, rfl, rfl⟩)
    · cases hstep
  | run pid now =>
    refine .inr (.inr ⟨fun _ => rfl, ?_⟩)
    simp only [Bot.step] at hstep
    split at hstep
    · cases hstep
      exact hsuspend _ _ _
    · cases hstep
    · split at hstep
      · split_ifs at hstep
        unfold runHolder at hstep
        split at hstep
        · split at hstep <;> cases hstep <;> exact ⟨rfl, rfl⟩
        · split at hstep
          · cases hstep
          · split at hstep <;> cases hstep <;> exact ⟨rfl, rfl⟩
        · cases hstep; exact ⟨rfl, rfl⟩
        · cases hstep; exact ⟨rfl, rfl⟩
        · cases hstep
      · cases hstep
  | customerSub pid subId =>
    simp only [Bot.step] at hstep
    split at hstep
    · split at hstep
      · split_ifs at hstep
        cases hstep
        exact .inr (.inr ⟨fun _ => rfl, rfl, rfl⟩)
      · cases hstep
    · cases hstep
  | provisioned pid outcome =>
    refine .inr (.inr ⟨fun _ => rfl, ?_⟩)
    simp only [Bot.step] at hstep
    split at hstep
    · split at hstep
      · split_ifs at hstep
        split at hstep <;> cases hstep <;> exact ⟨rfl, rfl⟩
      · cases hstep
    · cases hstep
  | startSave pid =>
    simp only [Bot.step] at hstep
    split_ifs at hstep
    cases hstep
    exact .inl ⟨pid, rfl, rfl, rfl⟩
  | endSave pid written =>
    simp only [Bot.step] at hstep
    split at hstep
    · rename_i writerPid snapshot hw
      by_cases hpid : writerPid = pid
      · subst hpid
        rw [if_pos rfl] at hstep
        obtain ⟨hsaved, hwriter⟩ := afterSave_files hstep
        refine .inr (.inl ⟨writerPid, written, snapshot, rfl, hw, ?_, hwriter⟩)
        cases written <;> exact hsaved
      · rw [if_neg hpid] at hstep
        cases hstep
    · cases hstep

/-- The copies after a step were taken in states that had the property. -/
theorem Copied.step {l : Label} (h : Copied P s c) (hstore : P s.store s.holder)
    (hstep : step rt env s l = some (s', es)) : Copied P s' (c.mark s l) := by
  rcases step_files hstep with ⟨pid, rfl, hsaved, hwriter⟩ |
    ⟨pid, written, st, rfl, hw, hsaved, hwriter⟩ | ⟨hmark, hsaved, hwriter⟩
  · -- the copy is the store of this moment
    refine ⟨fun pid' st hst => ?_, fun st hst => h.saved st (hsaved.symm.trans hst)⟩
    obtain ⟨-, rfl⟩ := Prod.mk.inj (Option.some.inj (hwriter.symm.trans hst))
    exact hstore
  · refine ⟨fun pid' st' hst => ?_, fun st' hst => ?_⟩
    · cases hwriter.symm.trans hst
    · cases written with
      | true =>
        obtain rfl := Option.some.inj (hsaved.symm.trans hst)
        exact h.writer pid st hw
      | false => exact h.saved st' (hsaved.symm.trans hst)
  · rw [hmark]
    exact h.of_eq hsaved hwriter

/-- What an ending leaves behind was the store when a copy was taken. -/
lemma Copied.leftBy (h : Copied P s c) (hstore : P s.store s.holder) {e : Ending} {st : Store}
    (hleft : leftBy s e = some (some st)) : P st (shownBy s c e) := by
  cases e with
  | stopped written =>
    cases written with
    | true =>
      obtain rfl : s.store = st := by simpa [Bot.leftBy] using hleft
      exact hstore
    | false => exact h.saved st (Option.some.inj hleft)
  | killed => exact h.saved st (Option.some.inj hleft)
  | overtaken =>
    simp only [Bot.leftBy, Option.map_eq_some_iff, Option.some.injEq] at hleft
    obtain ⟨⟨pid, st'⟩, hw, rfl⟩ := hleft
    exact h.writer pid st' hw

/-! ## The invariant -/

/-- No admin has refused an order. -/
def Unrefused (oid : String) (st : Store) : Prop :=
  ∀ o, st.orders.get? oid = some o → o.status ≠ .rejected

/-- What a copy shows of an order: it is paid and in processing if and only if the handler inside the
lock was between its charge and its decision, and no admin has refused it. -/
structure Shows (oid : String) (st : Store) (holder : Option Holder) : Prop where
  undecided : undecided oid holder = true ↔
    ∃ o, st.orders.get? oid = some o ∧ Paid o ∧ o.status = .processing
  unrefused : Unrefused oid st

/-- A step that does not refuse the receipt of an order leaves it unrefused. -/
lemma Moves.unrefused (h : Unrefused oid s.store) (hinv : Inv s)
    (hR : R oid → ∀ o, s.store.orders.get? oid = some o → o.status ≠ .pendingAdmin)
    (hm : Moves rt R s s' es) : Unrefused oid s'.store := by
  have hquiet : Quiet R s.store s'.store → Unrefused oid s'.store := by
    intro hq o' ho' hs
    rcases hq.order_cases ho' with ho | ⟨-, hdraft, -⟩ | ⟨o, ho, he⟩
    · exact h o' ho hs
    · simp [hs] at hdraft
    · have hmove := he.move
      rw [hs] at hmove
      generalize hb : o.status = before at hmove
      cases hmove with
      | reject hrefuses => exact hR hrefuses o ho hb
  have hset : ∀ {key : String} {o' : Order}, s'.store.orders = s.store.orders.set key o' →
      o'.status ≠ .rejected → Unrefused oid s'.store := by
    intro key o' ha hne o ho
    rw [ha, Dict.get?_set] at ho
    split_ifs at ho
    · exact Option.some.inj ho ▸ hne
    · exact h o ho
  cases hm with
  | quiet hq _ => exact hquiet hq
  | refused _ _ hq _ => exact hquiet hq
  | redeemed _ ho _ _ _ =>
    unfold Unrefused
    rw [ho]
    exact h
  | enter hst _ _ _ => rw [hst]; exact h
  | started _ _ hst _ => exact hset hst.after (by simp [hst.status])
  | inside _ _ _ ho _ =>
    unfold Unrefused
    rw [ho]
    exact h
  | credited _ _ _ _ hst _ => rw [hst]; exact h
  | approved hh hstage hst _ =>
    obtain ⟨o, o', hok, ha⟩ := hinv.approves hh hstage hst
    exact hset ha.after (by simp [ha.status])
  | @rolledBack holder message hh hstage hst _ =>
    obtain ⟨o, o', hok, hr⟩ := hinv.rollsBack hh hstage hst
    refine hset hr.after ?_
    rw [hr.status]
    cases holder.source <;> simp [Source.allowed]
  | returned _ _ hst _ => rw [hst]; exact h

/-- What is known while the process is up: of the store, of the handler inside the lock, and of the
copies. -/
structure UpKnown (oid : String) (events : List Event) (s : State) (c : Copies) : Prop where
  inv : Inv s
  store : AllKnown events s.store
  holder : HolderKnown events s
  attended : Attended (fun key o => key = oid ∧ Paid o) s
  unrefused : Unrefused oid s.store
  copies : Copied (fun st holder => AllKnown events st ∧ Shows oid st holder) s c

/-- The store itself shows the handler inside the lock. -/
lemma UpKnown.shows (h : UpKnown oid events s c) : Shows oid s.store s.holder := by
  refine ⟨⟨fun hundecided => ?_, ?_⟩, h.unrefused⟩
  · obtain ⟨holder, hholder, htest⟩ := (Option.any_eq_true _ _).mp hundecided
    simp only [Bool.and_eq_true, decide_eq_true_eq, decide_not, Bool.not_eq_true',
      decide_eq_false_iff_not] at htest
    obtain ⟨⟨rfl, hwork⟩, hfree⟩ := htest
    obtain ⟨o, hok⟩ := h.inv.holder holder hholder hwork
    refine ⟨o, hok.order, ?_, hok.status⟩
    have hmethod := hok.method
    cases hsource : holder.source with
    | wallet =>
      rw [hsource] at hmethod
      exact .inl ⟨hmethod, .inl hok.status⟩
    | card =>
      rw [hsource] at hmethod
      exact .inr ((h.store _ o hok.order).submitted (.inr ⟨hok.status, hmethod⟩))
    | free => exact absurd hsource hfree
  · rintro ⟨o, ho, hpaid, hs⟩
    obtain ⟨holder, hholder, hoid, hwork⟩ := h.attended oid o ho hs ⟨rfl, hpaid⟩
    refine (Option.any_eq_true _ _).mpr ⟨holder, hholder, ?_⟩
    -- a free order is not charged, and has no receipt
    have hfree : holder.source ≠ .free := by
      intro hsource
      obtain ⟨o', hok⟩ := h.inv.holder holder hholder hwork
      obtain rfl : o = o' := Option.some.inj (ho.symm.trans (hoid ▸ hok.order))
      have hmethod := hok.method
      rw [hsource] at hmethod
      rcases hpaid with ⟨hwallet, -⟩ | hreceipt
      · simp [hmethod, Source.method] at hwallet
      · have hcard := ((h.store oid o ho).receipt hreceipt).1
        simp [hmethod, Source.method] at hcard
    simp [hoid, hwork, hfree]

/-- What is known while the process is up is kept by every step that does not refuse the receipt of
the order. -/
lemma UpKnown.step (h : UpKnown oid events s c) {l : Label} (hl : refusesReceipt oid s l = false)
    (hs : step rt env s l = some (s', es)) : UpKnown oid (events ++ es) s' (c.mark s l) := by
  have hm := step_moves hs
  have hR : l.refuses oid → ∀ o, s.store.orders.get? oid = some o → o.status ≠ .pendingAdmin := by
    intro hrefuses o ho hpending
    unfold Label.refuses at hrefuses
    split at hrefuses
    · subst hrefuses
      simp [refusesReceipt, ho, hpending] at hl
    · exact hrefuses
  refine ⟨h.inv.step hm, hm.allKnown h.inv h.store h.holder, hm.holderKnown h.holder,
    h.attended.step h.inv hm, hm.unrefused h.unrefused h.inv hR, ?_⟩
  exact (h.copies.step ⟨h.store, h.shows⟩ hs).mono fun st holder hst => ⟨hst.1.mono es, hst.2⟩

/-! ## Runs -/

/-- The process runs with its copies as it runs without them. -/
lemma watched_run_iff {p : Process} :
    (∃ visited c, (watched rt env).Run notStarted visited events (p, c)) ↔
      ∃ visited, (lifeMachine rt env).Run (.down none) visited events p := by
  constructor
  · rintro ⟨visited, c, h⟩
    exact ⟨_, h.of_history⟩
  · rintro ⟨visited, h⟩
    have hwatched : ∃ visited' c, (watched rt env).Run notStarted visited' events (p, c) ∧
        visited'.map Prod.fst = visited :=
      h.exists_history (Copies.mk none none)
    obtain ⟨visited', c, hrun, -⟩ := hwatched
    exact ⟨visited', c, hrun⟩

/-- What is known of a process. -/
def ProcessKnown (oid : String) (events : List Event) (p : Process × Copies) : Prop :=
  match p.1 with
  | .up s => UpKnown oid events s p.2
  | .down saved => ∀ st, saved = some st →
      AllKnown events st ∧ Shows oid st p.2.filed ∧ undecided oid p.2.filed = false

/-- Loading a store does not touch its orders. -/
lemma loadStore_orders (saved : Option Store) :
    (loadStore env saved).orders = (saved.map Store.orders).getD .empty := by
  cases saved <;> simp [loadStore, defaultStore]

/-- What is known after a start. -/
lemma upKnown_fresh {saved : Option Store} (h : ∀ st, saved = some st →
      AllKnown events st ∧ Shows oid st c.filed ∧ undecided oid c.filed = false) :
    UpKnown oid events (.fresh (loadStore env saved) saved) c := by
  have hall : AllKnown events (loadStore env saved) := by
    intro key o ho
    rw [loadStore_orders] at ho
    cases saved with
    | none => cases ho
    | some st => exact (h st rfl).1 key o ho
  refine ⟨.fresh (fun key o ho => (hall key o ho).ok) _, hall, fun holder hh => (by cases hh), ?_, ?_,
    fun pid st hst => (by cases hst), fun st hst => ⟨(h st hst).1, (h st hst).2.1⟩⟩
  · -- the store that was loaded has no paid order in processing
    rintro key o ho hs ⟨rfl, hpaid⟩
    change (loadStore env saved).orders.get? key = some o at ho
    rw [loadStore_orders] at ho
    cases saved with
    | none => cases ho
    | some st =>
      obtain ⟨-, hshows, hdecided⟩ := h st rfl
      rw [hshows.undecided.mpr ⟨o, ho, hpaid, hs⟩] at hdecided
      cases hdecided
  · intro o ho
    change (loadStore env saved).orders.get? oid = some o at ho
    rw [loadStore_orders] at ho
    cases saved with
    | none => cases ho
    | some st => exact (h st rfl).2.1.unrefused o ho

/-- What is known of a process, in every run whose steps spare the order. -/
lemma processKnown_of_run {visited : List (Process × Copies)} {p : Process × Copies}
    (h : ((watched rt env).restrict fun p l => spares oid p l).Run notStarted visited events p) :
    ProcessKnown oid events p := by
  have hstart : ProcessKnown oid [] notStarted := fun st hst => by cases hst
  refine h.invariant_events hstart ?_
  rintro events ⟨p, c⟩ l ⟨p', c'⟩ es hknown hs
  obtain ⟨hspares, hs⟩ := Machine.restrict_step.mp hs
  obtain ⟨hstep, rfl⟩ := Machine.withHistory_step.mp hs
  cases p with
  | up s =>
    cases l with
    | work l =>
      simp only [lifeMachine, lifeStep, Option.map_eq_some_iff] at hstep
      obtain ⟨⟨s', es'⟩, hwork, heq⟩ := hstep
      cases heq
      exact UpKnown.step hknown (by simpa [spares] using hspares) hwork
    | finish e =>
      simp only [lifeMachine, lifeStep, Option.map_eq_some_iff] at hstep
      obtain ⟨saved, hleft, heq⟩ := hstep
      cases heq
      rintro st rfl
      have hup : UpKnown oid events s c := hknown
      obtain ⟨hall, hshows⟩ := hup.copies.leftBy ⟨hup.store, hup.shows⟩ hleft
      have hdecided : undecided oid (shownBy s c e) = false := by simpa [spares] using hspares
      exact ⟨hall.mono _, hshows, hdecided⟩
    | restart => cases hstep
  | down saved =>
    cases l with
    | work l => cases hstep
    | finish e => cases hstep
    | restart =>
      cases hstep
      exact upKnown_fresh fun st hst => ⟨(hknown st hst).1.mono _, (hknown st hst).2⟩

/-- In every run, no paid order of a reloaded store is stranded if no admin refuses its receipt and
each ending leaves a copy in the file that was taken when the handler inside the lock was not between
the charge and the decision on this order.  An ending that leaves another copy strands the order. -/
theorem paid_orders_not_stranded {visited : List (Process × Copies)} :
    (∀ saved c, ((watched rt env).restrict fun p l => spares oid p l).Run notStarted visited events
        (.down saved, c) →
      ∀ o, (loadStore env saved).orders.get? oid = some o → Paid o →
        NotStranded rt env events (loadStore env saved) oid o) ∧
    (∀ s c, ((watched rt env).restrict fun p l => spares oid p l).Run notStarted visited events
        (.up s, c) →
      ∀ e st, leftBy s e = some (some st) → undecided oid (shownBy s c e) = true →
        ∃ o, (loadStore env (some st)).orders.get? oid = some o ∧ Paid o ∧
          ¬ NotStranded rt env events (loadStore env (some st)) oid o) := by
  constructor
  · intro saved c h o ho hpaid
    have hknown := processKnown_of_run h
    have ho' := ho
    rw [loadStore_orders] at ho'
    cases saved with
    | none => cases ho'
    | some st =>
      obtain ⟨hall, hshows, hdecided⟩ := hknown st rfl
      refine ((hall oid o ho').notStranded_iff ho hpaid).mpr ⟨fun hs => ?_, hshows.unrefused o ho'⟩
      rw [hshows.undecided.mpr ⟨o, ho', hpaid, hs⟩] at hdecided
      cases hdecided
  · intro s c h e st hleft hundecided
    have hup : UpKnown oid events s c := processKnown_of_run h
    obtain ⟨hall, hshows⟩ := hup.copies.leftBy ⟨hup.store, hup.shows⟩ hleft
    obtain ⟨o, ho, hpaid, hs⟩ := hshows.undecided.mp hundecided
    have ho' : (loadStore env (some st)).orders.get? oid = some o := by
      rw [loadStore_orders]
      exact ho
    exact ⟨o, ho', hpaid, fun hns => (((hall oid o ho).notStranded_iff ho' hpaid).mp hns).1 hs⟩

/-! A customer pays a renewal from the wallet.  Provisioning returns, or the bot is stopped
while it is under way. -/

/-- The steps of the bot from the customer's arrival to the start of provisioning. -/
def chargeSteps : List Label :=
  customerSteps ++ [.invoke 1 0 (.finishOrder "O1" none .wallet), .enter 1, .run 1 0] ++
    saveSteps 1 ++ [.run 1 0]

/-- The steps of the bot after provisioning. -/
def approveSteps : List Label := [.provisioned 1 (.ok "svc"), .run 1 0] ++ saveSteps 1

/-- Start the process, take the steps, and stop it. -/
def session (steps : List Label) : List Life :=
  .restart :: steps.map .work ++ [.finish (.stopped true)]

/-- Whether a process is down and the order in the store it would load passes a test. -/
def leavesOrder (test : Order → Bool) : Process → Bool
  | .up _ => false
  | .down saved => ((loadStore exampleEnv saved).orders.get? "O1").any test

/-- Whether a process is up and the handler inside the lock is between the charge and the decision on
an order. -/
def isUndecided (oid : String) (p : Process × Copies) : Bool :=
  match p.1 with
  | .up s => undecided oid s.holder
  | .down _ => false

lemma leavesOrder_iff {test : Order → Bool} {p : Process} (h : leavesOrder test p = true) :
    ∃ saved o, p = .down saved ∧ (loadStore exampleEnv saved).orders.get? "O1" = some o ∧
      test o = true := by
  cases p with
  | up s => cases h
  | down saved =>
    cases ho : (loadStore exampleEnv saved).orders.get? "O1" with
    | none => simp [leavesOrder, ho] at h
    | some o => exact ⟨saved, o, rfl, ho, by simpa [leavesOrder, ho] using h⟩

/-- The order is delivered before the stop in the first run; a stop in the second one would strand
it. -/
theorem paid_orders_not_stranded_delivered :
    (∃ visited events saved c o,
      ((watched .ascii exampleEnv).restrict fun p l => spares "O1" p l).Run notStarted visited events
          (.down saved, c) ∧
        (loadStore exampleEnv saved).orders.get? "O1" = some o ∧ Charged o ∧
        NotStranded .ascii exampleEnv events (loadStore exampleEnv saved) "O1" o) ∧
    ∃ visited events s c o,
      ((watched .ascii exampleEnv).restrict fun p l => spares "O1" p l).Run notStarted visited events
          (.up s, c) ∧
        (loadStore exampleEnv (some s.store)).orders.get? "O1" = some o ∧ Paid o ∧
        ¬ NotStranded .ascii exampleEnv events (loadStore exampleEnv (some s.store)) "O1" o := by
  constructor
  · have hends : ∃ visited events p,
        ((watched .ascii exampleEnv).restrict fun p l => spares "O1" p l).Run notStarted visited events
            p ∧
          leavesOrder (fun o => o.paymentMethod = some .wallet ∧ o.status = .approved) p.1 = true :=
      Machine.exists_run (session (chargeSteps ++ approveSteps)) (by decide +kernel)
    obtain ⟨visited, events, ⟨p, c⟩, hrun, hleaves⟩ := hends
    obtain ⟨saved, o, rfl, ho, htest⟩ := leavesOrder_iff hleaves
    obtain ⟨hwallet, happroved⟩ := of_decide_eq_true htest
    exact ⟨visited, events, saved, c, o, hrun, ho, ⟨hwallet, .inr happroved⟩,
      paid_orders_not_stranded.1 saved c hrun o ho (.inl ⟨hwallet, .inr happroved⟩)⟩
  · have hends : ∃ visited events p,
        ((watched .ascii exampleEnv).restrict fun p l => spares "O1" p l).Run notStarted visited events
            p ∧
          isUndecided "O1" p = true :=
      Machine.exists_run (.restart :: chargeSteps.map .work) (by decide +kernel)
    obtain ⟨visited, events, ⟨p, c⟩, hrun, hundecided⟩ := hends
    cases p with
    | up s =>
      obtain ⟨o, ho, hpaid, hstranded⟩ :=
        paid_orders_not_stranded.2 s c hrun (.stopped true) s.store rfl hundecided
      exact ⟨visited, events, s, c, o, hrun, ho, hpaid, hstranded⟩
    | down saved => cases hundecided

theorem paid_order_stranded_by_stop : ∃ visited events saved o,
    (lifeMachine .ascii exampleEnv).Run (.down none) visited events (.down saved) ∧
      (loadStore exampleEnv saved).orders.get? "O1" = some o ∧ Paid o ∧
      ¬ NotStranded .ascii exampleEnv events (loadStore exampleEnv saved) "O1" o := by
  have hends : ∃ visited events p,
      (lifeMachine .ascii exampleEnv).Run (.down none) visited events p ∧
        leavesOrder (fun o => o.paymentMethod = some .wallet ∧ o.status = .processing) p = true :=
    Machine.exists_run (session chargeSteps) (by decide +kernel)
  obtain ⟨visited, events, p, hrun, hleaves⟩ := hends
  obtain ⟨saved, o, rfl, ho, htest⟩ := leavesOrder_iff hleaves
  obtain ⟨hwallet, hprocessing⟩ := of_decide_eq_true htest
  refine ⟨visited, events, saved, o, hrun, ho, .inl ⟨hwallet, .inl hprocessing⟩, ?_⟩
  rintro (⟨happroved, -⟩ | haccepted)
  · simp [hprocessing] at happroved
  · exact not_accepted_of_status ho (.inl hprocessing) haccepted

end Bot
