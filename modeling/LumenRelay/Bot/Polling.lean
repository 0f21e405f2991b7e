import LumenRelay.Lib.Machine

/-!
# Updates across restarts

The polling loop hands the updates of Telegram to their handlers, one after the other.  The offset
that says which updates were taken is a part of the store, so a save writes it together with what
the handlers did.  The process may be stopped or killed at any point, and starts again from its file.
-/

namespace Bot

open Lib

/-! ## Stores -/

/-- One handling of an update.  Every call of a handler has a number of its own. -/
structure Handling where
  update : ℕ
  number : ℕ
deriving DecidableEq

/-- A change of the store: by the handling of an update, or by the start of the bot. -/
structure StoreChange (α : Type) where
  handling : Option Handling
  apply : α → α

/-- A store: its offset, and the changes that made its other contents, the oldest first. -/
structure PolledStore (α : Type) where
  pollOffset : ℕ
  changes : List (StoreChange α)

namespace PolledStore

variable {α : Type}

/-- The contents that the changes make of those of a new store. -/
def contents (new : α) (s : PolledStore α) : α := s.changes.foldl (fun a change => change.apply a) new

/-- A store after a change. -/
def change (s : PolledStore α) (handling : Option Handling) (f : α → α) : PolledStore α :=
  { s with changes := s.changes ++ [⟨handling, f⟩] }

/-- An effect of an update is in the store. -/
def Contains (s : PolledStore α) (update : ℕ) : Prop :=
  ∃ change ∈ s.changes, ∃ h ∈ change.handling, h.update = update

instance (s : PolledStore α) (update : ℕ) : Decidable (s.Contains update) :=
  inferInstanceAs (Decidable (∃ change ∈ s.changes, ∃ h ∈ change.handling, h.update = update))

end PolledStore

variable {α : Type}

/-! ## The loop -/

/-- What the process works on: the handling of an update, with the updates that are to come after
it, or its start. -/
abbrev PollJob : Type := Option (Handling × List ℕ)

/-- Where the process is: it works, or writes a copy of the store for what it works on; it asks for
updates; it is between two updates; it writes a copy after a handler, and may have been cancelled
before; or it stops, with a last copy. -/
inductive PollStage (α : Type)
  | working (job : PollJob)
  | saving (copy : PolledStore α) (job : PollJob)
  | asking
  | batch (rest : List ℕ)
  | closing (copy : PolledStore α) (rest : List ℕ) (cancelled : Bool)
  | stopping (copy : PolledStore α)
  | stopped

/-- The process: its store, the offset of the loop, and the copies that threads still write although
the loop was cancelled. -/
structure PollProcess (α : Type) where
  store : PolledStore α
  offset : ℕ
  stage : PollStage α
  abandoned : List (PolledStore α)

/-- The store file, the number of calls of handlers so far, and the process if it is up. -/
structure PollWorld (α : Type) where
  file : PolledStore α
  calls : ℕ
  process : Option (PollProcess α)

/-- A bot that was never started: without a file its store is a new one. -/
def PollWorld.new : PollWorld α := ⟨⟨0, []⟩, 0, none⟩

/-- The steps of the process, and what happens to it: `getUpdates` returns updates or fails, a write
succeeds or fails, the loop is cancelled, or the process ends. -/
inductive PollLabel (α : Type)
  | start
  | change (f : α → α)
  | save
  | written (success : Bool)
  | finish
  | answer (ids : Option (List ℕ))
  | next
  | cancel
  | abandonedWritten (i : ℕ) (success : Bool)
  | crash

/-- The updates that Telegram returns for an offset: they are in order, and none is below it. -/
def redelivered (offset : ℕ) (ids : List ℕ) : Bool :=
  ids.all (offset ≤ ·) && decide (ids.Pairwise (· < ·))

/-- The file after a write of a copy. -/
def writeStore (copy file : PolledStore α) (success : Bool) : PolledStore α :=
  if success then copy else file

/-- A step of `_poll_loop` in a process that is up, with the store file and the updates whose handler
is called; the offset is taken on before. -/
def pollStep (w : PollWorld α) (p : PollProcess α) : PollLabel α → Option (PollWorld α × List ℕ)
  | .start => none
  | .crash => some ({ w with process := none }, [])
  | .change f =>
    match p.stage with
    | .working job =>
      some ({ w with process := some { p with store := p.store.change (job.map Prod.fst) f } }, [])
    | _ => none
  | .save =>
    match p.stage with
    | .working job => some ({ w with process := some { p with stage := .saving p.store job } }, [])
    | _ => none
  | .written success =>
    match p.stage with
    | .saving copy job =>
      some ({ w with
        file := writeStore copy w.file success, process := some { p with stage := .working job } }, [])
    | .closing copy rest cancelled =>
      -- a cancellation goes on after the write, and the loop ends with it
      let stage := if cancelled then .stopping p.store else .batch rest
      some ({ w with
        file := writeStore copy w.file success, process := some { p with stage := stage } }, [])
    | .stopping copy =>
      some ({ w with
        file := writeStore copy w.file success, process := some { p with stage := .stopped } }, [])
    | _ => none
  | .finish =>
    match p.stage with
    | .working none =>
      some ({ w with process := some { p with offset := p.store.pollOffset, stage := .asking } }, [])
    | .working (some (_, rest)) =>
      some ({ w with process := some { p with stage := .closing p.store rest false } }, [])
    | _ => none
  | .answer ids =>
    match p.stage with
    | .asking =>
      match ids with
      | none => some (w, [])
      | some ids =>
        if redelivered p.offset ids then
          some ({ w with process := some { p with stage := .batch ids } }, [])
        else none
    | _ => none
  | .next =>
    match p.stage with
    | .batch [] => some ({ w with process := some { p with stage := .asking } }, [])
    | .batch (id :: rest) =>
      let offset := max p.offset (id + 1)
      some ({ w with
        calls := w.calls + 1
        process := some { p with
          offset := offset
          store := { p.store with pollOffset := offset }
          stage := .working (some (⟨id, w.calls⟩, rest)) } }, [id])
    | _ => none
  | .cancel =>
    match p.stage with
    | .asking => some ({ w with process := some { p with stage := .stopping p.store } }, [])
    | .working (some (_, rest)) =>
      some ({ w with process := some { p with stage := .closing p.store rest true } }, [])
    | .saving copy (some (_, rest)) =>
      -- the thread goes on with its copy, and the `finally` block writes another one
      some ({ w with process := some { p with
        stage := .closing p.store rest true, abandoned := p.abandoned ++ [copy] } }, [])
    | .closing copy _ _ =>
      some ({ w with process := some { p with
        stage := .stopping p.store, abandoned := p.abandoned ++ [copy] } }, [])
    | _ => none
  | .abandonedWritten i success =>
    match p.abandoned[i]? with
    | some copy =>
      some ({ w with
        file := writeStore copy w.file success
        process := some { p with abandoned := p.abandoned.eraseIdx i } }, [])
    | none => none

/-- The bot, over its restarts: `_load_store` takes the store from the file.  An event is the id of an update whose handler is called. -/
def pollLoop : Machine (PollWorld α) (PollLabel α) ℕ where
  step w l :=
    match w.process with
    | some p => pollStep w p l
    | none =>
      match l with
      | .start => some ({ w with process := some ⟨w.file, 0, .working none, []⟩ }, [])
      | _ => none

/-! ## What holds of the stores -/

/-- Every effect in the store is of an update below its offset, and the effects of one update are of
one call of its handler. -/
structure SoundStore (s : PolledStore α) : Prop where
  below : ∀ change ∈ s.changes, ∀ h, change.handling = some h → h.update < s.pollOffset
  once : ∀ change ∈ s.changes, ∀ change' ∈ s.changes, ∀ h h', change.handling = some h →
    change'.handling = some h' → h.update = h'.update → h = h'

/-- The copies that the process waits for. -/
def PollStage.copies : PollStage α → List (PolledStore α)
  | .saving copy _ => [copy]
  | .closing copy _ _ => [copy]
  | .stopping copy => [copy]
  | _ => []

/-- The loop was cancelled. -/
def PollStage.cancelled : PollStage α → Bool
  | .closing _ _ cancelled => cancelled
  | .stopping _ => true
  | .stopped => true
  | _ => false

/-- The updates that are to come are in order, and none is below the offset. -/
def Upcoming (offset : ℕ) (rest : List ℕ) : Prop := (∀ id ∈ rest, offset ≤ id) ∧ rest.Pairwise (· < ·)

/-- While an update is handled, its only effects in the store are those of this call. -/
def JobSound (p : PollProcess α) : PollJob → Prop
  | none => True
  | some (h, rest) => p.offset = p.store.pollOffset ∧ Upcoming p.offset rest ∧
      h.update < p.store.pollOffset ∧ ∀ change ∈ p.store.changes, ∀ h', change.handling = some h' →
        h'.update = h.update → h' = h

/-- The loop asks for updates from the offset of the store on, and has only such updates. -/
def StageSound (p : PollProcess α) : PollStage α → Prop
  | .working job => JobSound p job
  | .saving _ job => JobSound p job
  | .asking => p.offset = p.store.pollOffset
  | .batch rest => p.offset = p.store.pollOffset ∧ Upcoming p.offset rest
  | .closing _ rest _ => p.offset = p.store.pollOffset ∧ Upcoming p.offset rest
  | .stopping _ => True
  | .stopped => True

/-- All copies that are being written have the offset of the store, and the file has no larger one. -/
structure ProcessSound (file : PolledStore α) (p : PollProcess α) : Prop where
  store : SoundStore p.store
  file : file.pollOffset ≤ p.store.pollOffset
  stage : StageSound p p.stage
  copies : ∀ copy ∈ p.stage.copies ++ p.abandoned,
    SoundStore copy ∧ copy.pollOffset = p.store.pollOffset
  abandoned : p.abandoned ≠ [] → p.stage.cancelled = true

/-- The invariant of the bot. -/
structure WorldSound (w : PollWorld α) : Prop where
  file : SoundStore w.file
  process : ∀ p ∈ w.process, ProcessSound w.file p

variable {file copy : PolledStore α} {p : PollProcess α} {w w' : PollWorld α}

/-- The process goes on elsewhere, with copies that it had or with a copy of its store. -/
lemma ProcessSound.goOn (h : ProcessSound file p) {stage : PollStage α}
    {abandoned : List (PolledStore α)} (hstage : StageSound p stage)
    (hcopies : ∀ copy ∈ stage.copies ++ abandoned,
      copy = p.store ∨ copy ∈ p.stage.copies ++ p.abandoned)
    (habandoned : abandoned ≠ [] → stage.cancelled = true) :
    ProcessSound file { p with stage := stage, abandoned := abandoned } where
  store := h.store
  file := h.file
  stage := by cases stage <;> exact hstage
  copies copy hcopy := by
    rcases hcopies copy hcopy with rfl | hold
    · exact ⟨h.store, rfl⟩
    · exact h.copies copy hold
  abandoned := habandoned

/-- A write of a copy keeps the file sound, and its offset does not get smaller. -/
lemma ProcessSound.write (h : ProcessSound file p) (hfile : SoundStore file)
    (hcopy : copy ∈ p.stage.copies ++ p.abandoned) (success : Bool) :
    SoundStore (writeStore copy file success) ∧ ProcessSound (writeStore copy file success) p ∧
      file.pollOffset ≤ (writeStore copy file success).pollOffset := by
  obtain ⟨hsound, hoffset⟩ := h.copies copy hcopy
  cases success with
  | false => exact ⟨hfile, h, le_refl _⟩
  | true =>
    refine ⟨hsound, ⟨h.store, le_of_eq hoffset, h.stage, h.copies, h.abandoned⟩, ?_⟩
    show file.pollOffset ≤ copy.pollOffset
    rw [hoffset]
    exact h.file

/-- A change by the start of the bot, or by the handling of an update that is under way. -/
lemma ProcessSound.change (h : ProcessSound file p) {job : PollJob} (hjob : p.stage = .working job)
    (f : α → α) : ProcessSound file { p with store := p.store.change (job.map Prod.fst) f } := by
  have hstage := h.stage
  rw [hjob] at hstage
  have hchanges : ∀ change ∈ (p.store.change (job.map Prod.fst) f).changes, ∀ h₀,
      change.handling = some h₀ → change ∈ p.store.changes ∨ ∃ rest, job = some (h₀, rest) := by
    intro change hmem h₀ hsome
    rcases List.mem_append.mp hmem with hold | hnew
    · exact .inl hold
    · obtain rfl := List.mem_singleton.mp hnew
      obtain ⟨⟨h₁, rest⟩, hjob', rfl⟩ := Option.map_eq_some_iff.mp hsome
      exact .inr ⟨rest, hjob'⟩
  have hcurrent : ∀ change ∈ (p.store.change (job.map Prod.fst) f).changes, ∀ h₀,
      change.handling = some h₀ → ∀ h₁ rest, job = some (h₁, rest) → h₀.update = h₁.update →
        h₀ = h₁ := by
    rintro change hmem h₀ hsome h₁ rest rfl hsame
    rcases hchanges change hmem h₀ hsome with hold | ⟨_, hjob'⟩
    · exact hstage.2.2.2 change hold h₀ hsome hsame
    · exact (Prod.mk.inj (Option.some.inj hjob')).1.symm
  refine ⟨⟨fun change hmem h₀ hsome => ?_, fun change hmem change' hmem' h₀ h₁ hsome hsome' hsame => ?_⟩,
    h.file, ?_, h.copies, h.abandoned⟩
  · rcases hchanges change hmem h₀ hsome with hold | ⟨rest, rfl⟩
    · exact h.store.below change hold h₀ hsome
    · exact hstage.2.2.1
  · rcases hchanges change hmem h₀ hsome with hold | ⟨rest, hnow⟩
    · rcases hchanges change' hmem' h₁ hsome' with hold' | ⟨rest, hnow⟩
      · exact h.store.once change hold change' hold' h₀ h₁ hsome hsome' hsame
      · exact hcurrent change hmem h₀ hsome h₁ rest hnow hsame
    · exact (hcurrent change' hmem' h₁ hsome' h₀ rest hnow hsame.symm).symm
  · show StageSound _ p.stage
    rw [hjob]
    cases job with
    | none => trivial
    | some work =>
      refine ⟨hstage.1, hstage.2.1, hstage.2.2.1, fun change hmem h₀ hsome hsame => ?_⟩
      exact hcurrent change hmem h₀ hsome work.1 work.2 rfl hsame

/-- The call of the handler of the next update. -/
lemma ProcessSound.call (h : ProcessSound file p) {id : ℕ} {rest : List ℕ}
    (hbatch : p.stage = .batch (id :: rest)) (number : ℕ) :
    ProcessSound file { p with
        offset := max p.offset (id + 1)
        store := { p.store with pollOffset := max p.offset (id + 1) }
        stage := .working (some (⟨id, number⟩, rest)) } ∧ file.pollOffset ≤ id := by
  have hstage := h.stage
  rw [hbatch] at hstage
  obtain ⟨hoffset, habove, hsorted⟩ := hstage
  have hid : p.offset ≤ id := habove id List.mem_cons_self
  have hmax : max p.offset (id + 1) = id + 1 := by omega
  have hfile := h.file
  -- nothing is written between two updates
  have hnone : p.abandoned = [] := by
    by_contra hne
    have hcancelled := h.abandoned hne
    rw [hbatch] at hcancelled
    cases hcancelled
  rw [hmax]
  refine ⟨⟨⟨fun change hmem h₀ hsome => ?_, h.store.once⟩, ?_, ⟨rfl, ⟨?_, ?_⟩, ?_, ?_⟩, ?_, ?_⟩, by omega⟩
  · have hlt := h.store.below change hmem h₀ hsome
    show h₀.update < id + 1
    omega
  · show file.pollOffset ≤ id + 1
    omega
  · intro id' hid'
    exact Nat.succ_le_of_lt ((List.pairwise_cons.mp hsorted).1 id' hid')
  · exact (List.pairwise_cons.mp hsorted).2
  · exact Nat.lt_succ_self id
  · intro change hmem h₀ hsome hsame
    have hlt := h.store.below change hmem h₀ hsome
    have heq : h₀.update = id := hsame
    omega
  · intro copy hcopy
    rw [hnone] at hcopy
    cases hcopy
  · intro hne
    exact absurd hnone hne

/-! ## Steps and runs -/

/-- What a step keeps: the invariant; the offset of the file, which does not get smaller; and the
handler is called for updates from this offset on only. -/
structure PollKept (w w' : PollWorld α) (called : List ℕ) : Prop where
  sound : WorldSound w'
  file : w.file.pollOffset ≤ w'.file.pollOffset
  called : ∀ id ∈ called, w.file.pollOffset ≤ id

/-- A step that leaves the file alone and calls no handler. -/
lemma WorldSound.quiet (h : WorldSound w) {p' : PollProcess α} (hp : ProcessSound w.file p') :
    PollKept w { w with process := some p' } [] where
  sound := ⟨h.file, fun _ hp₀ => Option.some.inj hp₀ ▸ hp⟩
  file := le_refl _
  called := nofun

/-- A step that ends a write. -/
lemma WorldSound.write (h : WorldSound w) (hp : ProcessSound w.file p)
    (hcopy : copy ∈ p.stage.copies ++ p.abandoned) (success : Bool) {p' : PollProcess α}
    (hp' : ∀ file, ProcessSound file p → ProcessSound file p') :
    PollKept w { w with file := writeStore copy w.file success, process := some p' } [] := by
  obtain ⟨hfile, hsound, hle⟩ := hp.write h.file hcopy success
  exact ⟨⟨hfile, fun _ hp₀ => Option.some.inj hp₀ ▸ hp' _ hsound⟩, hle, nofun⟩

/-- A process that waits for nothing goes on elsewhere. -/
lemma ProcessSound.leave (h : ProcessSound file p) {stage : PollStage α} (hstage : StageSound p stage)
    (hcopies : ∀ copy ∈ stage.copies, copy = p.store ∨ copy ∈ p.stage.copies)
    (hcancelled : p.stage.cancelled = true → stage.cancelled = true) :
    ProcessSound file { p with stage := stage } := by
  refine h.goOn hstage (fun copy hcopy => ?_) fun hne => hcancelled (h.abandoned hne)
  rcases List.mem_append.mp hcopy with hmem | hmem
  · exact (hcopies copy hmem).imp_right (List.mem_append_left _)
  · exact .inr (List.mem_append_right _ hmem)

/-- The end of a write that the process waited for. -/
lemma WorldSound.written (h : WorldSound w) (hp : w.process = some p) {success : Bool}
    {called : List ℕ} (hstep : pollStep w p (.written success) = some (w', called)) :
    PollKept w w' called := by
  have hsound := h.process p hp
  have hstage := hsound.stage
  simp only [pollStep] at hstep
  split at hstep
  · rename_i copy job hsaving
    obtain ⟨rfl, rfl⟩ := Prod.mk.inj (Option.some.inj hstep)
    rw [hsaving] at hstage
    refine h.write hsound (by simp [hsaving, PollStage.copies]) success fun _ hp => ?_
    exact hp.leave hstage nofun (by simp [hsaving, PollStage.cancelled])
  · rename_i copy rest cancelled hclosing
    obtain ⟨rfl, rfl⟩ := Prod.mk.inj (Option.some.inj hstep)
    rw [hclosing] at hstage
    refine h.write hsound (by simp [hclosing, PollStage.copies]) success fun _ hp => ?_
    cases cancelled with
    | false => exact hp.leave hstage nofun (by simp [hclosing, PollStage.cancelled])
    | true => exact hp.leave trivial (by simp [PollStage.copies]) fun _ => rfl
  · rename_i copy hstopping
    obtain ⟨rfl, rfl⟩ := Prod.mk.inj (Option.some.inj hstep)
    refine h.write hsound (by simp [hstopping, PollStage.copies]) success fun _ hp => ?_
    exact hp.leave trivial nofun fun _ => rfl
  · cases hstep

/-- A cancellation: what is being written stays under way. -/
lemma WorldSound.cancel (h : WorldSound w) (hp : w.process = some p) {called : List ℕ}
    (hstep : pollStep w p .cancel = some (w', called)) : PollKept w w' called := by
  have hsound := h.process p hp
  have hstage := hsound.stage
  simp only [pollStep] at hstep
  split at hstep
  · rename_i hasking
    obtain ⟨rfl, rfl⟩ := Prod.mk.inj (Option.some.inj hstep)
    exact h.quiet (hsound.leave trivial (by simp [PollStage.copies]) fun _ => rfl)
  · rename_i handling rest hworking
    obtain ⟨rfl, rfl⟩ := Prod.mk.inj (Option.some.inj hstep)
    rw [hworking] at hstage
    exact h.quiet (hsound.leave ⟨hstage.1, hstage.2.1⟩ (by simp [PollStage.copies]) fun _ => rfl)
  · rename_i copy handling rest hsaving
    obtain ⟨rfl, rfl⟩ := Prod.mk.inj (Option.some.inj hstep)
    rw [hsaving] at hstage
    refine h.quiet (hsound.goOn ⟨hstage.1, hstage.2.1⟩ (fun copy' hcopy => ?_) fun _ => rfl)
    simp only [PollStage.copies, List.cons_append, List.nil_append, List.mem_cons, List.mem_append,
      List.not_mem_nil, or_false, hsaving] at hcopy ⊢
    tauto
  · rename_i copy rest cancelled hclosing
    obtain ⟨rfl, rfl⟩ := Prod.mk.inj (Option.some.inj hstep)
    refine h.quiet (hsound.goOn trivial (fun copy' hcopy => ?_) fun _ => rfl)
    simp only [PollStage.copies, List.cons_append, List.nil_append, List.mem_cons, List.mem_append,
      List.not_mem_nil, or_false, hclosing] at hcopy ⊢
    tauto
  · cases hstep

/-- What one step of a process keeps. -/
lemma pollStep_kept (h : WorldSound w) (hp : w.process = some p) {l : PollLabel α} {called : List ℕ}
    (hstep : pollStep w p l = some (w', called)) : PollKept w w' called := by
  have hsound := h.process p hp
  have hstage := hsound.stage
  cases l with
  | start => cases hstep
  | crash =>
    obtain ⟨rfl, rfl⟩ := Prod.mk.inj (Option.some.inj hstep)
    exact ⟨⟨h.file, nofun⟩, le_refl _, nofun⟩
  | change f =>
    simp only [pollStep] at hstep
    split at hstep
    · rename_i job hworking
      obtain ⟨rfl, rfl⟩ := Prod.mk.inj (Option.some.inj hstep)
      exact h.quiet (hsound.change hworking f)
    · cases hstep
  | save =>
    simp only [pollStep] at hstep
    split at hstep
    · rename_i job hworking
      obtain ⟨rfl, rfl⟩ := Prod.mk.inj (Option.some.inj hstep)
      rw [hworking] at hstage
      refine h.quiet (hsound.leave hstage (by simp [PollStage.copies]) ?_)
      simp [hworking, PollStage.cancelled]
    · cases hstep
  | written success => exact h.written hp hstep
  | finish =>
    simp only [pollStep] at hstep
    split at hstep
    · rename_i hworking
      obtain ⟨rfl, rfl⟩ := Prod.mk.inj (Option.some.inj hstep)
      have hoffset : ProcessSound w.file { p with offset := p.store.pollOffset } :=
        ⟨hsound.store, hsound.file, by rw [hworking]; trivial, hsound.copies, hsound.abandoned⟩
      exact h.quiet (hoffset.leave rfl nofun (by simp [hworking, PollStage.cancelled]))
    · rename_i handling rest hworking
      obtain ⟨rfl, rfl⟩ := Prod.mk.inj (Option.some.inj hstep)
      rw [hworking] at hstage
      refine h.quiet (hsound.leave ⟨hstage.1, hstage.2.1⟩ (by simp [PollStage.copies]) ?_)
      simp [hworking, PollStage.cancelled]
    · cases hstep
  | answer ids =>
    simp only [pollStep] at hstep
    split at hstep
    · rename_i hasking
      rw [hasking] at hstage
      cases ids with
      | none =>
        obtain ⟨rfl, rfl⟩ := Prod.mk.inj (Option.some.inj hstep)
        exact ⟨h, le_refl _, nofun⟩
      | some ids =>
        dsimp only at hstep
        split at hstep
        · rename_i hids
          obtain ⟨rfl, rfl⟩ := Prod.mk.inj (Option.some.inj hstep)
          obtain ⟨habove, hsorted⟩ := Bool.and_eq_true_iff.mp hids
          have hupcoming : Upcoming p.offset ids :=
            ⟨fun id hid => of_decide_eq_true (List.all_eq_true.mp habove id hid), of_decide_eq_true hsorted⟩
          refine h.quiet (hsound.leave ⟨hstage, hupcoming⟩ nofun ?_)
          simp [hasking, PollStage.cancelled]
        · cases hstep
    · cases hstep
  | next =>
    simp only [pollStep] at hstep
    split at hstep
    · rename_i hbatch
      obtain ⟨rfl, rfl⟩ := Prod.mk.inj (Option.some.inj hstep)
      rw [hbatch] at hstage
      exact h.quiet (hsound.leave hstage.1 nofun (by simp [hbatch, PollStage.cancelled]))
    · rename_i id rest hbatch
      obtain ⟨rfl, rfl⟩ := Prod.mk.inj (Option.some.inj hstep)
      obtain ⟨hcall, hid⟩ := hsound.call hbatch w.calls
      refine ⟨⟨h.file, fun _ hp₀ => Option.some.inj hp₀ ▸ hcall⟩, le_refl _, ?_⟩
      intro id' hid'
      rw [List.mem_singleton.mp hid']
      exact hid
    · cases hstep
  | cancel => exact h.cancel hp hstep
  | abandonedWritten i success =>
    simp only [pollStep] at hstep
    split at hstep
    · rename_i copy hcopy
      obtain ⟨rfl, rfl⟩ := Prod.mk.inj (Option.some.inj hstep)
      have hmem : copy ∈ p.abandoned := List.mem_of_getElem? hcopy
      refine h.write hsound (List.mem_append_right _ hmem) success fun _ hp => ?_
      refine hp.goOn hp.stage (fun copy' hcopy' => .inr ?_) fun hne => ?_
      · rcases List.mem_append.mp hcopy' with hold | hold
        · exact List.mem_append_left _ hold
        · exact List.mem_append_right _ (List.mem_of_mem_eraseIdx hold)
      · refine hp.abandoned fun hnil => hne ?_
        rw [hnil]
        rfl
    · cases hstep

/-- What one step of the bot keeps. -/
lemma pollLoop_kept (h : WorldSound w) {l : PollLabel α} {called : List ℕ}
    (hstep : pollLoop.step w l = some (w', called)) : PollKept w w' called := by
  simp only [pollLoop] at hstep
  split at hstep
  · rename_i p hp
    exact pollStep_kept h hp hstep
  · split at hstep
    · obtain ⟨rfl, rfl⟩ := Prod.mk.inj (Option.some.inj hstep)
      refine h.quiet ⟨h.file, le_refl _, trivial, nofun, nofun⟩
    · cases hstep

/-- What a run keeps that starts from a sound state. -/
lemma WorldSound.run (h : WorldSound w) {visited : List (PollWorld α)} {called : List ℕ}
    (hrun : pollLoop.Run w visited called w') : PollKept w w' called := by
  refine hrun.invariant_events (I := fun called w' => PollKept w w' called) ⟨h, le_refl _, nofun⟩ ?_
  intro called w₁ l w₂ called' hkept hstep
  have hnext := pollLoop_kept hkept.sound hstep
  refine ⟨hnext.sound, hkept.file.trans hnext.file, fun id hid => ?_⟩
  rcases List.mem_append.mp hid with hold | hnew
  · exact hkept.called id hold
  · exact hkept.file.trans (hnext.called id hnew)

/-- In every run over crashes and restarts, all effects of an update in the store file are of one
call of its handler; and when the file contains an effect of an update, no handler is called for this
update any more. -/
theorem updates_take_effect_once {visited : List (PollWorld α)} {called : List ℕ}
    (hrun : pollLoop.Run .new visited called w) :
    (∀ change ∈ w.file.changes, ∀ change' ∈ w.file.changes, ∀ h h', change.handling = some h →
      change'.handling = some h' → h.update = h'.update → h = h') ∧
    ∀ update, w.file.Contains update → ∀ visited' called' w',
      pollLoop.Run w visited' called' w' → update ∉ called' := by
  have hnew : WorldSound (.new : PollWorld α) := ⟨⟨nofun, nofun⟩, nofun⟩
  have hsound : WorldSound w := (hnew.run hrun).sound
  refine ⟨hsound.file.once, ?_⟩
  rintro update ⟨change, hmem, h, hsome, rfl⟩ visited' called' w' hrun' hcalled
  have hlt := hsound.file.below change hmem h hsome
  have hle := (hsound.run hrun').called h.update hcalled
  omega

/-- An update is handled and saved, and the bot is killed; the next update is handled after a
restart. -/
theorem updates_take_effect_once_restart : ∃ visited called w,
    pollLoop.Run (.new : PollWorld ℕ) visited called w ∧ (called = [5, 6] ∧
      w.file.contents 0 = 2 ∧ w.file.Contains 5) ∧
      ∀ visited' called' w', pollLoop.Run w visited' called' w' → 5 ∉ called' := by
  have hends : ∃ visited called w, pollLoop.Run (.new : PollWorld ℕ) visited called w ∧
      (called = [5, 6] ∧ w.file.contents 0 = 2 ∧ w.file.Contains 5) :=
    Machine.exists_run
      [.start, .finish, .answer (some [5, 6]), .next, .change (· + 1), .save, .written true, .crash,
        .start, .finish, .answer (some [6]), .next, .change (· + 1), .finish, .written true]
      (by decide)
  obtain ⟨_, _, _, hrun, hfacts⟩ := hends
  exact ⟨_, _, _, hrun, hfacts, (updates_take_effect_once hrun).2 5 hfacts.2.2⟩

end Bot
