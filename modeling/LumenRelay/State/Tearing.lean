import LumenRelay.Lib.Machine
import LumenRelay.State.Requests

/-!
# Saving while the state changes

A save builds its payload on the event loop.  It copies the dictionary of the links and that of the
groups, but not the links and the groups themselves, which stay those of the state.  A worker thread
then writes the payload field by field, while the event loop goes on with other operations.
-/

namespace State

open Lib Py Routing

/-! ## The payload -/

/-- The name of a link or of a group. -/
inductive RecordKey
  | link (uid : String)
  | sub (subId : String)
deriving DecidableEq

/-- The link or the group of a name. -/
def record (p : Panel) : RecordKey → Option Obj
  | .link uid => p.links.get? uid
  | .sub subId => p.subs.get? subId

instance : DecidableEq (List (RecordKey × Obj)) := inferInstance

/-- The links and the groups, in the order in which they are written. -/
def records (p : Panel) : List (RecordKey × Obj) :=
  p.links.entries.map (fun e => (.link e.1, e.2)) ++ p.subs.entries.map fun e => (.sub e.1, e.2)

/-- A link or a group in the payload.  It is the one in the state; after it was removed from the
state it keeps its last value. -/
structure PayloadRecord where
  key : RecordKey
  last : Option Obj
deriving DecidableEq

/-- The value of a record in the payload at a moment. -/
def PayloadRecord.value (p : Panel) (r : PayloadRecord) : Obj := r.last.getD ((record p r.key).getD [])

/-- A record in the payload after an operation. -/
def PayloadRecord.after (p p' : Panel) (r : PayloadRecord) : PayloadRecord :=
  if (record p' r.key).isSome then r else { r with last := some (r.value p) }

/-- `dict(LINKS)` and `dict(SUBS)` of `_state_payload`. -/
def sharedPayload (p : Panel) : List PayloadRecord := (records p).map fun e => ⟨e.1, none⟩

/-! ## A save -/

/-- A save under way, and the state: the records that are written; the size of the record that is
being written and its fields so far; and the records to come, this one first. -/
structure SaveUnderWay where
  panel : Panel
  written : List (RecordKey × Obj)
  current : Option (ℕ × Obj)
  todo : List PayloadRecord

/-- A save that has its payload. -/
def SaveUnderWay.started (p : Panel) : SaveUnderWay := ⟨p, [], none, sharedPayload p⟩

/-- An operation changes the state, or the worker reads the next field. -/
inductive SaveLabel
  | operate (operation : Panel → Panel)
  | read

/-- The worker reads a field, or finds the end of a record.  It raises when a dictionary has another
size than at the start of its iteration; then nothing is saved. -/
def readField (s : SaveUnderWay) : Option SaveUnderWay :=
  match s.todo with
  | [] => none
  | r :: rest =>
    let value := r.value s.panel
    let current := s.current.getD (value.length, [])
    if value.length ≠ current.1 then none
    else
      match value[current.2.length]? with
      | some field => some { s with current := some (current.1, current.2 ++ [field]) }
      | none => some { s with written := s.written ++ [(r.key, current.2)], current := none, todo := rest }

/-- A save, and the operations that run meanwhile. -/
def saveMachine : Machine SaveUnderWay SaveLabel Empty where
  step s
    | .operate operation =>
      let panel := operation s.panel
      some ({ s with panel := panel, todo := s.todo.map (·.after s.panel panel) }, [])
    | .read => (readField s).map fun s => (s, [])

/-! ## What is still to be read -/

/-- The records that are not written, with the number of fields of each that were read. -/
def unread (s : SaveUnderWay) : List (PayloadRecord × ℕ) :=
  match s.todo with
  | [] => []
  | r :: rest => (r, s.current.elim 0 fun current => current.2.length) :: rest.map fun r => (r, 0)

/-- Two values of a record have the same fields from some place on. -/
def SameFrom (n : ℕ) (old new : Obj) : Prop := new.length = old.length ∧ new.drop n = old.drop n

instance (n : ℕ) (old new : Obj) : Decidable (SameFrom n old new) :=
  inferInstanceAs (Decidable (_ ∧ _))

/-- An operation leaves the fields of the payload that are still to be read as they are. -/
def sparesUnread (s : SaveUnderWay) : SaveLabel → Bool
  | .operate operation =>
    (unread s).all fun x =>
      decide (SameFrom x.2 (x.1.value s.panel)
        ((x.1.after s.panel (operation s.panel)).value (operation s.panel)))
  | .read => true

/-- What was written is the state at one of several moments. -/
def Existed (moments : List SaveUnderWay) (written : List (RecordKey × Obj)) : Prop :=
  ∃ moment ∈ moments, written = records moment.panel

instance (moments : List SaveUnderWay) (written : List (RecordKey × Obj)) :
    Decidable (Existed moments written) :=
  inferInstanceAs (Decidable (∃ moment ∈ moments, _))

variable {p₀ : Panel} {s s' : SaveUnderWay} {n : ℕ} {old mid new : Obj}

lemma SameFrom.trans (h : SameFrom n old mid) (h' : SameFrom n mid new) : SameFrom n old new :=
  ⟨h'.1.trans h.1, h'.2.trans h.2⟩

lemma SameFrom.getElem? (h : SameFrom n old new) : new[n]? = old[n]? := by
  have hhead : (new.drop n)[0]? = (old.drop n)[0]? := by rw [h.2]
  simpa using hhead

lemma SameFrom.succ (h : SameFrom n old new) : SameFrom (n + 1) old new := by
  refine ⟨h.1, ?_⟩
  rw [← List.drop_drop, ← List.drop_drop, h.2]

lemma unread_of_none (h : s.current = none) : unread s = s.todo.map fun r => (r, 0) := by
  unfold unread
  cases hs : s.todo with
  | nil => rfl
  | cons r rest =>
    rw [h]
    rfl

/-- What is written agrees with the records at the start of the save, and what is still to be read is
as it was there. -/
def AsAtStart (p₀ : Panel) (s : SaveUnderWay) : Prop :=
  ∃ rest, s.written ++ rest = records p₀ ∧
    List.Forall₂ (fun (x : PayloadRecord × ℕ) e =>
      x.1.key = e.1 ∧ SameFrom x.2 e.2 (x.1.value s.panel)) (unread s) rest ∧
    ∀ size fields, s.current = some (size, fields) → ∀ e ∈ rest.head?,
      size = e.2.length ∧ fields = e.2.take fields.length

lemma record_of_mem {e : RecordKey × Obj} (h : e ∈ records p₀) : record p₀ e.1 = some e.2 := by
  rcases List.mem_append.mp h with h | h
  · obtain ⟨entry, hentry, rfl⟩ := List.mem_map.mp h
    exact Dict.mem_entries_iff.mp hentry
  · obtain ⟨entry, hentry, rfl⟩ := List.mem_map.mp h
    exact Dict.mem_entries_iff.mp hentry

lemma asAtStart_started : AsAtStart p₀ (.started p₀) := by
  refine ⟨records p₀, rfl, ?_, nofun⟩
  rw [unread_of_none rfl]
  show List.Forall₂ _ (List.map _ (List.map _ (records p₀))) _
  rw [List.forall₂_map_left_iff, List.forall₂_map_left_iff, List.forall₂_same]
  intro e he
  have hvalue : PayloadRecord.value p₀ ⟨e.1, none⟩ = e.2 := by
    show (record p₀ e.1).getD [] = e.2
    rw [record_of_mem he]
    rfl
  refine ⟨rfl, ?_⟩
  show SameFrom 0 e.2 (PayloadRecord.value p₀ ⟨e.1, none⟩)
  rw [hvalue]
  exact ⟨rfl, rfl⟩

/-- An operation that spares what is still to be read. -/
lemma AsAtStart.operate (h : AsAtStart p₀ s) {operation : Panel → Panel}
    (hspares : sparesUnread s (.operate operation) = true) :
    AsAtStart p₀ { s with
      panel := operation s.panel, todo := s.todo.map (·.after s.panel (operation s.panel)) } := by
  obtain ⟨rest, hwritten, hrest, hcurrent⟩ := h
  have hunread : unread { s with
      panel := operation s.panel, todo := s.todo.map (·.after s.panel (operation s.panel)) } =
      (unread s).map fun x => (x.1.after s.panel (operation s.panel), x.2) := by
    unfold unread
    cases s.todo with
    | nil => rfl
    | cons r todo => simp
  refine ⟨rest, hwritten, ?_, hcurrent⟩
  rw [hunread, List.forall₂_map_left_iff]
  refine (List.forall₂_iff_zip.mpr ⟨hrest.length_eq, fun {x e} hmem => ?_⟩)
  obtain ⟨hkey, hsame⟩ := (List.forall₂_iff_zip.mp hrest).2 hmem
  have hspared := of_decide_eq_true (List.all_eq_true.mp hspares x (List.of_mem_zip hmem).1)
  refine ⟨?_, hsame.trans hspared⟩
  unfold PayloadRecord.after
  split
  · exact hkey
  · exact hkey

/-- The worker reads what was there at the start. -/
lemma AsAtStart.read (h : AsAtStart p₀ s) (hread : readField s = some s') : AsAtStart p₀ s' := by
  obtain ⟨rest, hwritten, hrest, hcurrent⟩ := h
  unfold readField at hread
  unfold unread at hrest
  split at hread
  · cases hread
  · rename_i r todo htodo
    rw [htodo] at hrest
    dsimp only at hread hrest
    cases hrest with
    | @cons _ e _ rest hhead htail =>
      obtain ⟨hkey, hsame⟩ := hhead
      -- the size and the fields so far are those of the record at the start
      have hfields : (s.current.getD ((r.value s.panel).length, [])).1 = e.2.length ∧
          (s.current.getD ((r.value s.panel).length, [])).2 =
            e.2.take (s.current.getD ((r.value s.panel).length, [])).2.length ∧
          (s.current.elim 0 fun current => current.2.length) =
            (s.current.getD ((r.value s.panel).length, [])).2.length := by
        cases hs : s.current with
        | none => exact ⟨hsame.1, rfl, rfl⟩
        | some current =>
          obtain ⟨hsize, htake⟩ := hcurrent current.1 current.2 hs e rfl
          exact ⟨hsize, htake, rfl⟩
      obtain ⟨hsize, htake, hcount⟩ := hfields
      generalize s.current.getD ((r.value s.panel).length, []) = current at hread hsize htake hcount
      rw [hcount] at hsame
      rw [hsame.getElem?] at hread
      split_ifs at hread
      cases hfield : e.2[current.2.length]? with
      | some field =>
        rw [hfield] at hread
        obtain rfl := Option.some.inj hread
        have hnext : current.2 ++ [field] = e.2.take (current.2.length + 1) := by
          rw [List.take_add_one, hfield, ← htake]
          rfl
        refine ⟨e :: rest, hwritten, ?_, ?_⟩
        · show List.Forall₂ _ (unread _) _
          unfold unread
          rw [htodo]
          refine .cons ⟨hkey, ?_⟩ htail
          show SameFrom (current.2 ++ [field]).length e.2 (r.value s.panel)
          rw [List.length_append]
          exact hsame.succ
        · intro size fields hsome e' he'
          obtain rfl := Option.some.inj he'
          obtain ⟨rfl, rfl⟩ := Prod.mk.inj (Option.some.inj hsome)
          refine ⟨hsize, ?_⟩
          rw [List.length_append, List.length_singleton]
          exact hnext
      | none =>
        rw [hfield] at hread
        obtain rfl := Option.some.inj hread
        have hall : current.2 = e.2 := by
          rw [htake, List.take_of_length_le (List.getElem?_eq_none_iff.mp hfield)]
        refine ⟨rest, ?_, ?_, nofun⟩
        · rw [← hwritten, hall, hkey, List.append_assoc]
          rfl
        · rw [unread_of_none rfl]
          exact htail

/-- A save that ends has written the state at one moment of the save, in every run in which each
operation leaves the fields of the payload that are still to be read as they are. -/
theorem saved_state_existed {visited : List SaveUnderWay} {events : List Empty}
    (hrun : (saveMachine.restrict fun s l => sparesUnread s l).Run (.started p₀) visited events s)
    (hends : s.todo = []) : Existed visited s.written := by
  have hstart : AsAtStart p₀ s := by
    refine hrun.invariant (I := fun s => AsAtStart p₀ s) asAtStart_started ?_
    intro s l s' es h hstep
    obtain ⟨hspares, hstep⟩ := Machine.restrict_step.mp hstep
    cases l with
    | operate operation =>
      obtain ⟨rfl, -⟩ := Prod.mk.inj (Option.some.inj hstep)
      exact h.operate hspares
    | read =>
      obtain ⟨s₁, hread, heq⟩ := Option.map_eq_some_iff.mp hstep
      obtain ⟨rfl, -⟩ := Prod.mk.inj heq
      exact h.read hread
  refine ⟨.started p₀, hrun.mem_visited_start, ?_⟩
  obtain ⟨rest, hwritten, hrest, -⟩ := hstart
  have hnone : unread s = [] := by
    unfold unread
    rw [hends]
  rw [hnone] at hrest
  cases hrest
  rw [List.append_nil] at hwritten
  exact hwritten

/-- A panel with a link and two groups; the link is in the first one. -/
def linkedGroups : Panel where
  links := Dict.set .empty "a" [("sub_id", .str "g"), ("active", .bool true)]
  subs := (Dict.set .empty "g" [("link_ids", .arr [.str "a"])]).set "h" [("link_ids", .arr [])]
  tests := .empty
  preferred := .empty
  passwordHash := .null

/-- The link moves to the second group. -/
def moveLink (p : Panel) : Panel := (setLinkSub (.bare .ascii) "a" (some "h") p).2

/-- The link is switched off. -/
def switchOff (p : Panel) : Panel := (setLinkActive "a" (.bool false) p).2

/-- A link is switched off when it is written already. -/
theorem saved_state_existed_later : ∃ visited events s,
    (saveMachine.restrict fun s l => sparesUnread s l).Run (.started linkedGroups) visited events s ∧
      (s.todo = [] ∧ s.panel.links.get? "a" =
        some [("sub_id", .str "g"), ("active", .bool false)]) ∧
      Existed visited s.written := by
  have hends : ∃ visited events s,
      (saveMachine.restrict fun s l => sparesUnread s l).Run (.started linkedGroups) visited events s ∧
      (s.todo = [] ∧ s.panel.links.get? "a" =
        some [("sub_id", .str "g"), ("active", .bool false)]) :=
    Machine.exists_run
      [.read, .read, .read, .operate switchOff, .read, .read, .read, .read] (by decide +kernel)
  obtain ⟨_, _, _, hrun, hfacts⟩ := hends
  exact ⟨_, _, _, hrun, hfacts, saved_state_existed hrun hfacts.1⟩

/-- The link is in the first group, and is listed by the second one. -/
def tornRecords : List (RecordKey × Obj) :=
  [(.link "a", [("sub_id", .str "g"), ("active", .bool true)]), (.sub "g", [("link_ids", .arr [])]),
    (.sub "h", [("link_ids", .arr [.str "a"])])]

/-- A link moves when it is written and its groups are not. -/
theorem saved_state_torn : ∃ visited events s,
    saveMachine.Run (.started linkedGroups) visited events s ∧
      s.todo = [] ∧
      s.written = tornRecords ∧
      ¬ Existed visited s.written :=
  Machine.exists_run
    [.read, .read, .read, .operate moveLink, .read, .read, .read, .read] (by decide +kernel)

end State
