import LumenRelay.Lib.Machine
import Mathlib.Logic.Basic

/-!
# Coroutines

A coroutine changes a state, and waits at points at which other parties may change it too.  At a
point it goes on with a reply, or with an exception that is raised there.  The rules below are those
of total correctness for finite coroutines: `Safe` says that a coroutine ends as it should, whatever
the others do and whatever replies it gets.
-/

namespace Lib

/-- A coroutine on states `σ`.  At a point it waits for a reply of the type that belongs to the
point, or for an exception. -/
inductive Coroutine (σ : Type) {ω : Type} (ρ : ω → Type) (ε α : Type) : Type
  | ret (a : α)
  | raise (e : ε)
  | edit (f : σ → σ) (k : Coroutine σ ρ ε α)
  | read (k : σ → Coroutine σ ρ ε α)
  | await (p : ω) (k : Except ε (ρ p) → Coroutine σ ρ ε α)

namespace Coroutine

variable {σ ω : Type} {ρ : ω → Type} {ε α β : Type}

/-- Go on with the outcome of a coroutine. -/
def andThen : Coroutine σ ρ ε α → (Except ε α → Coroutine σ ρ ε β) → Coroutine σ ρ ε β
  | ret a, f => f (.ok a)
  | raise e, f => f (.error e)
  | edit g k, f => edit g (k.andThen f)
  | read k, f => read fun s => (k s).andThen f
  | await p k, f => await p fun r => (k r).andThen f

/-- The coroutine that ends at once. -/
def ofExcept : Except ε α → Coroutine σ ρ ε α
  | .ok a => ret a
  | .error e => raise e

instance : Monad (Coroutine σ ρ ε) where
  pure := ret
  bind x f := x.andThen fun
    | .ok a => f a
    | .error e => raise e

/-- Wait at a point. -/
def wait (p : ω) : Coroutine σ ρ ε (ρ p) := await p ofExcept

/-- Change the state. -/
def modify (f : σ → σ) : Coroutine σ ρ ε Unit := edit f (ret ())

/-- Look at the state. -/
def look : Coroutine σ ρ ε σ := read ret

/-- Handle an exception. -/
def tryCatch (x : Coroutine σ ρ ε α) (h : ε → Coroutine σ ρ ε α) : Coroutine σ ρ ε α :=
  x.andThen fun
    | .ok a => ret a
    | .error e => h e

/-- Clean up, however the coroutine ends; an exception of the clean-up replaces the outcome. -/
def andFinally (x : Coroutine σ ρ ε α) (cleanUp : Coroutine σ ρ ε Unit) : Coroutine σ ρ ε α :=
  x.andThen fun r => cleanUp.andThen fun
    | .ok _ => ofExcept r
    | .error e => raise e

/-- How a coroutine has ended, when it has. -/
def outcome : Coroutine σ ρ ε α → Option (Except ε α)
  | ret a => some (.ok a)
  | raise e => some (.error e)
  | _ => none

/-- A coroutine runs until it waits or ends. -/
def advance : Coroutine σ ρ ε α → σ → Coroutine σ ρ ε α × σ
  | edit f k, s => k.advance (f s)
  | read k, s => (k s).advance s
  | ret a, s => (ret a, s)
  | raise e, s => (raise e, s)
  | await p k, s => (await p k, s)

/-! ## Running -/

/-- What happens to a coroutine: another party makes a move, or it goes on from a point. -/
inductive Act (ρ : ω → Type) (ε ι : Type)
  | other (l : ι)
  | resume (p : ω) (r : Except ε (ρ p))

/-- A coroutine and its state, with the moves of other parties, and the replies that may come at a
point in a state. -/
def machine {ι : Type} [DecidableEq ω] (other : σ → ι → Option σ)
    (allowed : σ → (p : ω) → Except ε (ρ p) → Bool) :
    Machine (Coroutine σ ρ ε α × σ) (Act ρ ε ι) Empty where
  step x
    | .other l => (other x.2 l).map fun s => ((x.1, s), [])
    | .resume p r =>
      match x.1 with
      | .await p' k =>
        if h : p = p' then if allowed x.2 p r then some ((k (h ▸ r)).advance x.2, []) else none
        else none
      | _ => none

/-! ## Safety -/

section

variable (Rely : σ → σ → Prop) (Allowed : σ → (p : ω) → Except ε (ρ p) → Prop)

/-- However others change the state while the coroutine waits, and whatever it is told, it ends as
the postcondition says. -/
def Safe (Post : Except ε α → σ → Prop) : Coroutine σ ρ ε α → σ → Prop
  | ret a, s => Post (.ok a) s
  | raise e, s => Post (.error e) s
  | edit f k, s => Safe Post k (f s)
  | read k, s => Safe Post (k s) s
  | await p k, s => ∀ s', Rely s s' → ∀ r, Allowed s' p r → Safe Post (k r) s'

end

variable {Rely : σ → σ → Prop} {Allowed : σ → (p : ω) → Except ε (ρ p) → Prop}
  {Post : Except ε α → σ → Prop} {Post' : Except ε β → σ → Prop}

/-- The rule of composition. -/
lemma Safe.andThen {x : Coroutine σ ρ ε α} {f : Except ε α → Coroutine σ ρ ε β} {s : σ}
    (h : Safe Rely Allowed (fun r s => Safe Rely Allowed Post' (f r) s) x s) :
    Safe Rely Allowed Post' (x.andThen f) s := by
  induction x generalizing s with
  | ret a => exact h
  | raise e => exact h
  | edit g k ih => exact ih h
  | read k ih => exact ih s h
  | await p k ih => exact fun s' hrely r hallowed => ih r (h s' hrely r hallowed)

/-- The rule of consequence. -/
lemma Safe.mono {Post₁ : Except ε α → σ → Prop} {x : Coroutine σ ρ ε α} {s : σ}
    (h : Safe Rely Allowed Post x s) (himp : ∀ r s, Post r s → Post₁ r s) :
    Safe Rely Allowed Post₁ x s := by
  induction x generalizing s with
  | ret a => exact himp _ _ h
  | raise e => exact himp _ _ h
  | edit g k ih => exact ih h
  | read k ih => exact ih s h
  | await p k ih => exact fun s' hrely r hallowed => ih r (h s' hrely r hallowed)

lemma safe_ofExcept {r : Except ε α} {s : σ} (h : Post r s) :
    Safe Rely Allowed Post (ofExcept r) s := by
  cases r with
  | ok a => exact h
  | error e => exact h

/-- The rule of sequences: an exception of the first part is one of the whole. -/
lemma Safe.bind {x : Coroutine σ ρ ε α} {f : α → Coroutine σ ρ ε β} {s : σ}
    (hx : Safe Rely Allowed (fun r s => match r with
      | .ok a => Safe Rely Allowed Post' (f a) s
      | .error e => Post' (.error e) s) x s) : Safe Rely Allowed Post' (x >>= f) s := by
  refine Safe.andThen (hx.mono fun r s h => ?_)
  cases r with
  | ok a => exact h
  | error e => exact h

/-- The rule of handlers. -/
lemma Safe.tryCatch {x : Coroutine σ ρ ε α} {h : ε → Coroutine σ ρ ε α} {s : σ}
    (hx : Safe Rely Allowed (fun r s => match r with
      | .ok a => Post (.ok a) s
      | .error e => Safe Rely Allowed Post (h e) s) x s) :
    Safe Rely Allowed Post (x.tryCatch h) s := by
  refine Safe.andThen (hx.mono fun r s h => ?_)
  cases r with
  | ok a => exact h
  | error e => exact h

/-- The rule of cleaning up: whatever the outcome, the clean-up starts where the coroutine ended. -/
lemma Safe.andFinally {x : Coroutine σ ρ ε α} {cleanUp : Coroutine σ ρ ε Unit} {s : σ}
    (hx : Safe Rely Allowed (fun r s => Safe Rely Allowed (fun r' s => match r' with
      | .ok _ => Post r s
      | .error e => Post (.error e) s) cleanUp s) x s) :
    Safe Rely Allowed Post (x.andFinally cleanUp) s := by
  refine Safe.andThen (hx.mono fun r s h => Safe.andThen (h.mono fun r' s h => ?_))
  cases r' with
  | ok _ => exact safe_ofExcept h
  | error e => exact h

/-- The rule of points. -/
lemma safe_wait {p : ω} {Post : Except ε (ρ p) → σ → Prop} {s : σ}
    (h : ∀ s', Rely s s' → ∀ r, Allowed s' p r → Post r s') :
    Safe Rely Allowed Post (wait p) s :=
  fun s' hrely r hallowed => safe_ofExcept (h s' hrely r hallowed)

lemma safe_modify_bind {g : σ → σ} {k : Unit → Coroutine σ ρ ε β} {s : σ}
    (h : Safe Rely Allowed Post' (k ()) (g s)) : Safe Rely Allowed Post' (modify g >>= k) s := h

lemma safe_look_bind {k : σ → Coroutine σ ρ ε β} {s : σ} (h : Safe Rely Allowed Post' (k s) s) :
    Safe Rely Allowed Post' (look >>= k) s := h

/-! ### Predicates that are kept -/

/-- However the coroutine ends, a predicate that held at its start holds at its end. -/
def Keeps (Rely : σ → σ → Prop) (Allowed : σ → (p : ω) → Except ε (ρ p) → Prop) (I : σ → Prop)
    (x : Coroutine σ ρ ε α) : Prop := ∀ s, I s → Safe Rely Allowed (fun _ s => I s) x s

variable {I : σ → Prop}

lemma keeps_pure (a : α) : Keeps Rely Allowed I (pure a : Coroutine σ ρ ε α) := fun _ hs => hs

lemma keeps_raise (e : ε) : Keeps Rely Allowed I (raise e : Coroutine σ ρ ε α) := fun _ hs => hs

lemma keeps_look : Keeps Rely Allowed I (look : Coroutine σ ρ ε σ) := fun _ hs => hs

lemma keeps_modify {f : σ → σ} (hf : ∀ s, I s → I (f s)) :
    Keeps Rely Allowed I (modify f : Coroutine σ ρ ε Unit) := fun s hs => hf s hs

lemma keeps_wait (hstable : ∀ s s', I s → Rely s s' → I s') (p : ω) :
    Keeps Rely Allowed I (wait p : Coroutine σ ρ ε (ρ p)) :=
  fun s hs => safe_wait fun s' hrely _ _ => hstable s s' hs hrely

lemma Keeps.bind {x : Coroutine σ ρ ε α} {f : α → Coroutine σ ρ ε β} (hx : Keeps Rely Allowed I x)
    (hf : ∀ a, Keeps Rely Allowed I (f a)) : Keeps Rely Allowed I (x >>= f) := by
  refine fun s hs => Safe.bind ((hx s hs).mono fun r s hs => ?_)
  cases r with
  | ok a => exact hf a s hs
  | error e => exact hs

lemma Keeps.tryCatch {x : Coroutine σ ρ ε α} {h : ε → Coroutine σ ρ ε α}
    (hx : Keeps Rely Allowed I x) (hh : ∀ e, Keeps Rely Allowed I (h e)) :
    Keeps Rely Allowed I (x.tryCatch h) := by
  refine fun s hs => Safe.tryCatch ((hx s hs).mono fun r s hs => ?_)
  cases r with
  | ok a => exact hs
  | error e => exact hh e s hs

lemma keeps_ite {c : Prop} [Decidable c] {x y : Coroutine σ ρ ε α} (hx : Keeps Rely Allowed I x)
    (hy : Keeps Rely Allowed I y) : Keeps Rely Allowed I (if c then x else y) := by
  split
  · exact hx
  · exact hy

/-! ### Runs -/

/-- What is safe is safe where it waits next. -/
lemma Safe.advance {x : Coroutine σ ρ ε α} {s : σ} (h : Safe Rely Allowed Post x s) :
    Safe Rely Allowed Post (x.advance s).1 (x.advance s).2 := by
  induction x generalizing s with
  | ret a => exact h
  | raise e => exact h
  | edit g k ih => exact ih h
  | read k ih => exact ih s h
  | await p k ih => exact h

/-- A coroutine that has run until it waits or ends. -/
def Rests : Coroutine σ ρ ε α → Prop
  | edit _ _ => False
  | read _ => False
  | _ => True

lemma rests_advance (x : Coroutine σ ρ ε α) (s : σ) : (x.advance s).1.Rests := by
  induction x generalizing s with
  | ret a => trivial
  | raise e => trivial
  | edit g k ih => exact ih (g s)
  | read k ih => exact ih s s
  | await p k ih => trivial

/-- A coroutine that rests stays safe while others change the state, when its postcondition does. -/
lemma Safe.rely {x : Coroutine σ ρ ε α} {s s' : σ} (h : Safe Rely Allowed Post x s)
    (hrests : x.Rests) (htrans : ∀ s₁ s₂ s₃, Rely s₁ s₂ → Rely s₂ s₃ → Rely s₁ s₃)
    (hpost : ∀ r s s', Post r s → Rely s s' → Post r s') (hrely : Rely s s') :
    Safe Rely Allowed Post x s' := by
  cases x with
  | ret a => exact hpost _ _ _ h hrely
  | raise e => exact hpost _ _ _ h hrely
  | edit f k => exact hrests.elim
  | read k => exact hrests.elim
  | await p k => exact fun s'' hrely' => h s'' (htrans _ _ _ hrely hrely')

/-- A safe coroutine that has ended has ended as its postcondition says, in every run whose steps
meet a condition. -/
theorem Safe.run {ι : Type} [DecidableEq ω] {other : σ → ι → Option σ}
    {allowed : σ → (p : ω) → Except ε (ρ p) → Bool} {P : Coroutine σ ρ ε α × σ → Act ρ ε ι → Prop}
    [∀ x act, Decidable (P x act)] {x : Coroutine σ ρ ε α} {s₀ : σ}
    {visited : List (Coroutine σ ρ ε α × σ)} {events : List Empty} {y : Coroutine σ ρ ε α × σ}
    (h : Safe Rely Allowed Post x s₀) (hrefl : ∀ s, Rely s s)
    (htrans : ∀ s₁ s₂ s₃, Rely s₁ s₂ → Rely s₂ s₃ → Rely s₁ s₃)
    (hother : ∀ s l s', other s l = some s' → Rely s s')
    (hallowed : ∀ x p r, P x (.resume p r) → allowed x.2 p r = true → Allowed x.2 p r)
    (hpost : ∀ r s s', Post r s → Rely s s' → Post r s')
    (hrun : ((machine other allowed).restrict P).Run (x.advance s₀) visited events y) :
    ∀ r, y.1.outcome = some r → Post r y.2 := by
  have hsafe : y.1.Rests ∧ Safe Rely Allowed Post y.1 y.2 := by
    refine hrun.invariant (I := fun y => y.1.Rests ∧ Safe Rely Allowed Post y.1 y.2)
      ⟨rests_advance x s₀, h.advance⟩ ?_
    rintro ⟨x, s⟩ act y es ⟨hrests, hsafe⟩ hstep
    obtain ⟨hP, hstep⟩ := Machine.restrict_step.mp hstep
    cases act with
    | other l =>
      obtain ⟨s', hs', heq⟩ := Option.map_eq_some_iff.mp hstep
      obtain ⟨rfl, -⟩ := Prod.mk.inj heq
      exact ⟨hrests, hsafe.rely hrests htrans hpost (hother _ _ _ hs')⟩
    | resume p r =>
      cases x with
      | await p' k =>
        simp only [machine] at hstep
        split at hstep
        · rename_i hp
          subst hp
          split at hstep
          · rename_i hr
            obtain ⟨rfl, -⟩ := Prod.mk.inj (Option.some.inj hstep)
            have hnext : Safe Rely Allowed Post (k r) s :=
              hsafe s (hrefl s) r (hallowed (_, s) p r hP hr)
            exact ⟨rests_advance _ _, hnext.advance⟩
          · cases hstep
        · cases hstep
      | _ => cases hstep
  intro r hr
  obtain ⟨-, hsafe⟩ := hsafe
  rcases y with ⟨x, s⟩
  cases x with
  | ret a =>
    obtain rfl := Option.some.inj hr
    exact hsafe
  | raise e =>
    obtain rfl := Option.some.inj hr
    exact hsafe
  | _ => cases hr

end Coroutine

end Lib
