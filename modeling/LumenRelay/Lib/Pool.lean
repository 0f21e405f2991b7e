import LumenRelay.Lib.Coroutine
import Mathlib.Algebra.Order.BigOperators.Group.List
import Mathlib.Algebra.Order.Ring.Int

/-!
# Coroutines that share a state

Several coroutines run in turn: one goes on until it waits, and then any of them may go on.  Between
two waits a coroutine is alone with the state, so what it does there is a relation of the state
before and the state after, of the reply with which it went on, and of the point at which it waits
next.  `Obeys` says that all these pieces of a coroutine are in a relation.
-/

namespace Lib

namespace Coroutine

variable {σ ω : Type} {ρ : ω → Type} {ε α β : Type}

/-- The reply with which a piece of a coroutine starts; there is none at its beginning. -/
abbrev Origin {ω : Type} (ρ : ω → Type) (ε : Type) : Type := Option ((p : ω) × Except ε (ρ p))

/-- The point at which a coroutine waits. -/
def point : Coroutine σ ρ ε α → Option ω
  | await p _ => some p
  | _ => none

section Obeys

variable (G : Origin ρ ε → σ → σ → Option ω → Prop)

/-- The pieces of a coroutine are in a relation; the one that is being run started in the first
state, and has come to the second one.  The last piece is as the postcondition says. -/
def Obeys (Post : Except ε α → Origin ρ ε → σ → σ → Prop) :
    Coroutine σ ρ ε α → Origin ρ ε → σ → σ → Prop
  | ret a, o, s₀, s => Post (.ok a) o s₀ s
  | raise e, o, s₀, s => Post (.error e) o s₀ s
  | edit f k, o, s₀, s => Obeys Post k o s₀ (f s)
  | read k, o, s₀, s => Obeys Post (k s) o s₀ s
  | await p k, o, s₀, s => G o s₀ s (some p) ∧ ∀ r s', Obeys Post (k r) (some ⟨p, r⟩) s' s'

/-- A coroutine whose last piece is in the relation too. -/
def Follows (x : Coroutine σ ρ ε α) (o : Origin ρ ε) (s₀ s : σ) : Prop :=
  Obeys G (fun _ o s₀ s => G o s₀ s none) x o s₀ s

/-- Where a coroutine waits, the pieces to come are in the relation. -/
def Rested : Coroutine σ ρ ε α → Prop
  | await p k => ∀ r s, Follows G (k r) (some ⟨p, r⟩) s s
  | _ => True

end Obeys

variable {G : Origin ρ ε → σ → σ → Option ω → Prop} {Post : Except ε α → Origin ρ ε → σ → σ → Prop}
  {Post' : Except ε β → Origin ρ ε → σ → σ → Prop} {o : Origin ρ ε} {s₀ s : σ}

lemma Obeys.mono {Post₁ : Except ε α → Origin ρ ε → σ → σ → Prop} {x : Coroutine σ ρ ε α}
    (h : Obeys G Post x o s₀ s) (himp : ∀ r o s₀ s, Post r o s₀ s → Post₁ r o s₀ s) :
    Obeys G Post₁ x o s₀ s := by
  induction x generalizing o s₀ s with
  | ret a => exact himp _ _ _ _ h
  | raise e => exact himp _ _ _ _ h
  | edit f k ih => exact ih h
  | read k ih => exact ih s h
  | await p k ih => exact ⟨h.1, fun r s' => ih r (h.2 r s')⟩

lemma Obeys.andThen {x : Coroutine σ ρ ε α} {f : Except ε α → Coroutine σ ρ ε β}
    (h : Obeys G (fun r o s₀ s => Obeys G Post' (f r) o s₀ s) x o s₀ s) :
    Obeys G Post' (x.andThen f) o s₀ s := by
  induction x generalizing o s₀ s with
  | ret a => exact h
  | raise e => exact h
  | edit f k ih => exact ih h
  | read k ih => exact ih s h
  | await p k ih => exact ⟨h.1, fun r s' => ih r (h.2 r s')⟩

lemma Obeys.bind {x : Coroutine σ ρ ε α} {f : α → Coroutine σ ρ ε β}
    (h : Obeys G (fun r o s₀ s => match r with
      | .ok a => Obeys G Post' (f a) o s₀ s
      | .error e => Post' (.error e) o s₀ s) x o s₀ s) : Obeys G Post' (x >>= f) o s₀ s := by
  refine Obeys.andThen (h.mono fun r o s₀ s h => ?_)
  cases r with
  | ok a => exact h
  | error e => exact h

lemma Obeys.tryCatch {x : Coroutine σ ρ ε α} {h : ε → Coroutine σ ρ ε α}
    (hx : Obeys G (fun r o s₀ s => match r with
      | .ok a => Post (.ok a) o s₀ s
      | .error e => Obeys G Post (h e) o s₀ s) x o s₀ s) : Obeys G Post (x.tryCatch h) o s₀ s := by
  refine Obeys.andThen (hx.mono fun r o s₀ s h => ?_)
  cases r with
  | ok a => exact h
  | error e => exact h

lemma obeys_ofExcept {r : Except ε α} (h : Post r o s₀ s) : Obeys G Post (ofExcept r) o s₀ s := by
  cases r with
  | ok a => exact h
  | error e => exact h

lemma obeys_ofExcept_bind {r : Except ε α} {f : α → Coroutine σ ρ ε β}
    (herror : ∀ e, r = .error e → Post' (.error e) o s₀ s)
    (hok : ∀ a, r = .ok a → Obeys G Post' (f a) o s₀ s) : Obeys G Post' (ofExcept r >>= f) o s₀ s := by
  cases r with
  | ok a => exact hok a rfl
  | error e => exact herror e rfl

/-- The rule of cleaning up by a change of the state. -/
lemma Obeys.andFinally_modify {x : Coroutine σ ρ ε α} {f : σ → σ}
    (hx : Obeys G (fun r o s₀ s => Post r o s₀ (f s)) x o s₀ s) :
    Obeys G Post (x.andFinally (modify f)) o s₀ s :=
  Obeys.andThen (hx.mono fun _ _ _ _ h => obeys_ofExcept h)

/-- The rule of points. -/
lemma obeys_wait {p : ω} {Post : Except ε (ρ p) → Origin ρ ε → σ → σ → Prop}
    (h : G o s₀ s (some p)) (hpost : ∀ r s', Post r (some ⟨p, r⟩) s' s') :
    Obeys G Post (wait p) o s₀ s :=
  ⟨h, fun r s' => obeys_ofExcept (hpost r s')⟩

/-- A piece is run to its end. -/
lemma Follows.advance {x : Coroutine σ ρ ε α} (h : Follows G x o s₀ s) :
    G o s₀ (x.advance s).2 (x.advance s).1.point ∧ Rested G (x.advance s).1 := by
  induction x generalizing s with
  | ret a => exact ⟨h, trivial⟩
  | raise e => exact ⟨h, trivial⟩
  | edit f k ih => exact ih h
  | read k ih => exact ih s h
  | await p k ih => exact h

/-! ## Given replies -/

/-- The run in which each point gets the reply that is given for it, and others change the state
while the coroutine waits there. -/
def runWith (reply : (p : ω) → Except ε (ρ p)) (others : ω → σ → σ) :
    Coroutine σ ρ ε α → σ → Except ε α × σ
  | ret a, s => (.ok a, s)
  | raise e, s => (.error e, s)
  | edit f k, s => k.runWith reply others (f s)
  | read k, s => (k s).runWith reply others s
  | await p k, s => (k (reply p)).runWith reply others (others p s)

section RunWith

variable {reply : (p : ω) → Except ε (ρ p)} {others : ω → σ → σ}

lemma runWith_andThen (x : Coroutine σ ρ ε α) (f : Except ε α → Coroutine σ ρ ε β) (s : σ) :
    (x.andThen f).runWith reply others s =
      (f (x.runWith reply others s).1).runWith reply others (x.runWith reply others s).2 := by
  induction x generalizing s with
  | ret a => rfl
  | raise e => rfl
  | edit g k ih => exact ih (g s)
  | read k ih => exact ih s s
  | await p k ih => exact ih (reply p) (others p s)

lemma runWith_bind_ok {x : Coroutine σ ρ ε α} {s s' : σ} {a : α}
    (h : x.runWith reply others s = (.ok a, s')) (f : α → Coroutine σ ρ ε β) :
    (x >>= f).runWith reply others s = (f a).runWith reply others s' := by
  change (x.andThen _).runWith reply others s = _
  rw [runWith_andThen, h]

lemma runWith_bind_error {x : Coroutine σ ρ ε α} {s s' : σ} {e : ε}
    (h : x.runWith reply others s = (.error e, s')) (f : α → Coroutine σ ρ ε β) :
    (x >>= f).runWith reply others s = (.error e, s') := by
  change (x.andThen _).runWith reply others s = _
  rw [runWith_andThen, h]
  rfl

lemma runWith_tryCatch_ok {x : Coroutine σ ρ ε α} {s s' : σ} {a : α}
    (h : x.runWith reply others s = (.ok a, s')) (handler : ε → Coroutine σ ρ ε α) :
    (x.tryCatch handler).runWith reply others s = (.ok a, s') := by
  change (x.andThen _).runWith reply others s = _
  rw [runWith_andThen, h]
  rfl

lemma runWith_tryCatch_error {x : Coroutine σ ρ ε α} {s s' : σ} {e : ε}
    (h : x.runWith reply others s = (.error e, s')) (handler : ε → Coroutine σ ρ ε α) :
    (x.tryCatch handler).runWith reply others s = (handler e).runWith reply others s' := by
  change (x.andThen _).runWith reply others s = _
  rw [runWith_andThen, h]

lemma runWith_ofExcept (r : Except ε α) (s : σ) :
    (ofExcept r : Coroutine σ ρ ε α).runWith reply others s = (r, s) := by
  cases r with
  | ok a => rfl
  | error e => rfl

lemma runWith_wait (p : ω) (s : σ) :
    (wait p : Coroutine σ ρ ε (ρ p)).runWith reply others s = (reply p, others p s) :=
  runWith_ofExcept (reply p) (others p s)

/-- Cleaning up changes the state that a coroutine leaves. -/
lemma runWith_andFinally_modify {x : Coroutine σ ρ ε α} {s s' : σ} {r : Except ε α}
    (h : x.runWith reply others s = (r, s')) (f : σ → σ) :
    (x.andFinally (modify f)).runWith reply others s = (r, f s') := by
  change (x.andThen _).runWith reply others s = _
  rw [runWith_andThen, h]
  exact runWith_ofExcept r (f s')

end RunWith

end Coroutine

open Coroutine

/-! ## Pools -/

variable {σ τ ω ι κ : Type} {ρ : ω → Type} {ε : Type}

/-- A coroutine of a pool: what it was started for, where it is, and the state that it alone has. -/
structure Task (σ τ ι : Type) {ω : Type} (ρ : ω → Type) (ε : Type) where
  label : ι
  code : Coroutine (σ × τ) ρ ε Unit
  own : τ

/-- Coroutines and the state that they share. -/
structure Pool (σ τ ι : Type) {ω : Type} (ρ : ω → Type) (ε : Type) where
  shared : σ
  tasks : List (Task σ τ ι ρ ε)

namespace Pool

/-- What happens: a coroutine is started, one goes on with a reply, or another party makes a move. -/
inductive Act (ι κ : Type) {ω : Type} (ρ : ω → Type) (ε : Type)
  | start (l : ι)
  | resume (i : ℕ) (p : ω) (r : Except ε (ρ p))
  | other (m : κ)

/-- The weight of where a coroutine waits. -/
def weightOf (weight : ω → ℤ) (p : Option ω) : ℤ := (p.map weight).getD 0

/-- The weight of where all coroutines wait. -/
def total (weight : ω → ℤ) (s : Pool σ τ ι ρ ε) : ℤ :=
  (s.tasks.map fun t => weightOf weight t.code.point).sum

lemma total_nonneg {weight : ω → ℤ} (h : ∀ p, 0 ≤ weight p) (s : Pool σ τ ι ρ ε) :
    0 ≤ s.total weight := by
  refine List.sum_nonneg fun x hx => ?_
  obtain ⟨t, -, rfl⟩ := List.mem_map.mp hx
  unfold weightOf
  cases t.code.point with
  | none => exact le_rfl
  | some p => exact h p

/-- Where the weights are those of an indicator, the total is a number of coroutines. -/
lemma total_indicator {f : Option ω → Bool} (hf : f none = false) (s : Pool σ τ ι ρ ε) :
    s.total (fun p => if f (some p) then 1 else 0) = s.tasks.countP fun t => f t.code.point := by
  unfold total
  induction s.tasks with
  | nil => rfl
  | cons t tasks ih =>
    have hone : weightOf (fun p => if f (some p) then 1 else 0) t.code.point =
        if f t.code.point then 1 else 0 := by
      cases t.code.point with
      | none => simp [weightOf, hf]
      | some p => rfl
    rw [List.map_cons, List.sum_cons, ih, hone, List.countP_cons]
    push_cast
    split <;> omega

lemma sum_map_set {α : Type*} (f : α → ℤ) {l : List α} {i : ℕ} {a : α} (h : l[i]? = some a) (b : α) :
    ((l.set i b).map f).sum = (l.map f).sum + (f b - f a) := by
  obtain ⟨hi, rfl⟩ := List.getElem?_eq_some_iff.mp h
  have hlength : i < (l.map f).length := by rwa [List.length_map]
  rw [List.map_set, List.sum_set', dif_pos hlength, List.getElem_map]
  omega

variable [DecidableEq ω]

/-- Coroutines that run in turn. -/
def machine (program : ι → Coroutine (σ × τ) ρ ε Unit) (fresh : τ) (other : σ → κ → Option σ) :
    Machine (Pool σ τ ι ρ ε) (Act ι κ ρ ε) Empty where
  step s
    | .start l =>
      let x := (program l).advance (s.shared, fresh)
      some (⟨x.2.1, s.tasks ++ [⟨l, x.1, x.2.2⟩]⟩, [])
    | .resume i p r =>
      match s.tasks[i]? with
      | some ⟨l, .await p' k, own⟩ =>
        if h : p = p' then
          let x := (k (h ▸ r)).advance (s.shared, own)
          some (⟨x.2.1, s.tasks.set i ⟨l, x.1, x.2.2⟩⟩, [])
        else none
      | _ => none
    | .other m => (other s.shared m).map fun shared => ({ s with shared := shared }, [])

variable {program : ι → Coroutine (σ × τ) ρ ε Unit} {fresh : τ} {other : σ → κ → Option σ}
  {s s' : Pool σ τ ι ρ ε} {es : List Empty}

/-- A coroutine goes on from the point at which it waits. -/
lemma step_resume {i : ℕ} {p : ω} {r : Except ε (ρ p)}
    (h : (machine program fresh other).step s (.resume i p r) = some (s', es)) :
    ∃ l k own, s.tasks[i]? = some ⟨l, .await p k, own⟩ ∧
      s' = ⟨((k r).advance (s.shared, own)).2.1,
        s.tasks.set i ⟨l, ((k r).advance (s.shared, own)).1, ((k r).advance (s.shared, own)).2.2⟩⟩ := by
  simp only [machine] at h
  split at h
  · rename_i l p' k own htask
    split_ifs at h with hp
    subst hp
    cases h
    exact ⟨l, k, own, htask, rfl⟩
  · cases h

section Pieces

variable {G : ι → Origin ρ ε → σ × τ → σ × τ → Option ω → Prop}

/-- What a step does: a coroutine runs a piece, which is in its relation and takes the coroutine to
where it waits next, or another party makes a move. -/
inductive Moves (G : ι → Origin ρ ε → σ × τ → σ × τ → Option ω → Prop) (fresh : τ)
    (other : σ → κ → Option σ) (s s' : Pool σ τ ι ρ ε) : Act ι κ ρ ε → Prop
  | started {l : ι} {own : τ} {rest : Option ω} : G l none (s.shared, fresh) (s'.shared, own) rest →
      (∀ weight, s'.total weight = s.total weight + weightOf weight rest) →
      Moves G fresh other s s' (.start l)
  | resumed {i : ℕ} {l : ι} {p : ω} {r : Except ε (ρ p)} {own own' : τ} {rest : Option ω} :
      G l (some ⟨p, r⟩) (s.shared, own) (s'.shared, own') rest →
      (∀ weight, s'.total weight =
        s.total weight + (weightOf weight rest - weightOf weight (some p))) →
      Moves G fresh other s s' (.resume i p r)
  | other {m : κ} : other s.shared m = some s'.shared → s'.tasks = s.tasks →
      Moves G fresh other s s' (.other m)

/-- The pieces to come are in the relation. -/
def AllRested (G : ι → Origin ρ ε → σ × τ → σ × τ → Option ω → Prop) (s : Pool σ τ ι ρ ε) : Prop :=
  ∀ t ∈ s.tasks, Rested (G t.label) t.code

/-- What a step does, said once. -/
lemma AllRested.step (hprogram : ∀ l s, Follows (G l) (program l) none (s, fresh) (s, fresh))
    {act : Act ι κ ρ ε} (h : s.AllRested G)
    (hstep : (machine program fresh other).step s act = some (s', es)) :
    s'.AllRested G ∧ Moves G fresh other s s' act := by
  cases act with
  | start l =>
    obtain ⟨hpiece, hrested⟩ := (hprogram l s.shared).advance
    cases hstep
    refine ⟨fun t ht => ?_, .started hpiece fun weight => ?_⟩
    · rcases List.mem_append.mp ht with ht | ht
      · exact h t ht
      · rw [List.mem_singleton.mp ht]
        exact hrested
    · simp [total]
  | resume i p r =>
    obtain ⟨l, k, own, htask, rfl⟩ := step_resume hstep
    have hmem := List.mem_of_getElem? htask
    obtain ⟨hpiece, hrested⟩ := (h _ hmem r (s.shared, own)).advance
    refine ⟨fun t ht => ?_, .resumed hpiece fun weight => ?_⟩
    · rcases List.mem_or_eq_of_mem_set ht with ht | rfl
      · exact h t ht
      · exact hrested
    · simp only [total]
      rw [sum_map_set _ htask]
      rfl
  | other m =>
    obtain ⟨shared, hm, heq⟩ := Option.map_eq_some_iff.mp hstep
    cases heq
    exact ⟨h, .other hm rfl⟩

/-- What a state exceeds is what its coroutines weigh, and their pieces to come are in the relation. -/
structure Balanced (weight : ω → ℤ) (excess : σ → ℤ)
    (G : ι → Origin ρ ε → σ × τ → σ × τ → Option ω → Prop) (s : Pool σ τ ι ρ ε) : Prop where
  excess_eq : excess s.shared = s.total weight
  rested : s.AllRested G

/-- Where each piece of a coroutine changes what the state exceeds by as much as the coroutine comes
to weigh, and the other parties do not change it, the balance is kept. -/
lemma Balanced.step {weight : ω → ℤ} {excess : σ → ℤ} (hweight : ∀ p, 0 ≤ weight p)
    (hG : ∀ l o s₀ s rest, G l o s₀ s rest →
      excess s.1 - weightOf weight rest = excess s₀.1 - weightOf weight (o.map Sigma.fst))
    (hprogram : ∀ l s, Follows (G l) (program l) none (s, fresh) (s, fresh))
    (hother : ∀ s m s', other s m = some s' → 0 ≤ excess s → excess s' = excess s)
    {act : Act ι κ ρ ε} (h : Balanced weight excess G s)
    (hstep : (machine program fresh other).step s act = some (s', es)) :
    Balanced weight excess G s' := by
  obtain ⟨hrested, hmoves⟩ := h.rested.step hprogram hstep
  refine ⟨?_, hrested⟩
  have hold := h.excess_eq
  cases hmoves with
  | started hpiece htotal =>
    have hbalance := hG _ _ _ _ _ hpiece
    have hnone : weightOf weight (Option.map Sigma.fst (none : Origin ρ ε)) = 0 := rfl
    have hnew := htotal weight
    dsimp only at hbalance
    omega
  | @resumed i l p r own own' rest hpiece htotal =>
    have hbalance := hG _ _ _ _ _ hpiece
    have hpoint : Option.map Sigma.fst (some ⟨p, r⟩ : Origin ρ ε) = some p := rfl
    have hnew := htotal weight
    rw [hpoint] at hbalance
    dsimp only at hbalance
    omega
  | other hm htasks =>
    have hnonneg : 0 ≤ excess s.shared := by
      rw [hold]
      exact total_nonneg hweight s
    rw [hother _ _ _ hm hnonneg, hold, total, total, htasks]

end Pieces

end Pool

end Lib
