import Mathlib.Order.Basic

/-!
# Computations that change a state and may raise

A computation reads and changes a state and then returns or raises.  What it changed before
it raised stays changed, so that an exception does not undo anything.  `Keeps` is the rule of
invariants: a predicate on states that every part of a computation keeps is kept by the whole.
-/

namespace Lib

/-- A computation on states `σ` that raises `ε` or returns `α`. -/
def Effect (σ ε α : Type) : Type := σ → Except ε α × σ

namespace Effect

variable {σ ε α β : Type}

/-- Return a value. -/
def ret (a : α) : Effect σ ε α := fun s => (.ok a, s)

/-- Run a computation and, if it returns, go on. -/
def andThen (x : Effect σ ε α) (f : α → Effect σ ε β) : Effect σ ε β := fun s =>
  match x s with
  | (.ok a, s') => f a s'
  | (.error e, s') => (.error e, s')

instance : Monad (Effect σ ε) where
  pure := ret
  bind := andThen

/-- Raise. -/
def raise (e : ε) : Effect σ ε α := fun s => (.error e, s)

/-- Read the state. -/
def read : Effect σ ε σ := fun s => (.ok s, s)

/-- Change the state. -/
def edit (f : σ → σ) : Effect σ ε Unit := fun s => (.ok (), f s)

/-- A computation that does not look at the state. -/
def lift (r : Except ε α) : Effect σ ε α := fun s => (r, s)

/-- Handle an exception. -/
def handle (x : Effect σ ε α) (h : ε → Effect σ ε α) : Effect σ ε α := fun s =>
  match x s with
  | (.ok a, s') => (.ok a, s')
  | (.error e, s') => h e s'

variable {x : Effect σ ε α} {f : α → Effect σ ε β} {h : ε → Effect σ ε α} {s s' : σ}

@[simp] lemma pure_run (a : α) (s : σ) : (pure a : Effect σ ε α) s = (.ok a, s) := rfl

@[simp] lemma raise_run (e : ε) (s : σ) : (raise e : Effect σ ε α) s = (.error e, s) := rfl

@[simp] lemma read_run (s : σ) : (read : Effect σ ε σ) s = (.ok s, s) := rfl

@[simp] lemma edit_run (g : σ → σ) (s : σ) : (edit g : Effect σ ε Unit) s = (.ok (), g s) := rfl

@[simp] lemma lift_run (r : Except ε α) (s : σ) : (lift r : Effect σ ε α) s = (r, s) := rfl

lemma bind_run (x : Effect σ ε α) (f : α → Effect σ ε β) (s : σ) :
    (x >>= f) s = match x s with
      | (.ok a, s') => f a s'
      | (.error e, s') => (.error e, s') := rfl

lemma bind_run_ok {a : α} (hx : x s = (.ok a, s')) : (x >>= f) s = f a s' := by
  rw [bind_run, hx]

lemma bind_run_error {e : ε} (hx : x s = (.error e, s')) : (x >>= f) s = (.error e, s') := by
  rw [bind_run, hx]

@[simp] lemma pure_bind_run (a : α) (f : α → Effect σ ε β) (s : σ) :
    ((pure a : Effect σ ε α) >>= f) s = f a s := rfl

@[simp] lemma read_bind_run (f : σ → Effect σ ε β) (s : σ) :
    ((read : Effect σ ε σ) >>= f) s = f s s := rfl

@[simp] lemma edit_bind_run (g : σ → σ) (f : Unit → Effect σ ε β) (s : σ) :
    ((edit g : Effect σ ε Unit) >>= f) s = f () (g s) := rfl

@[simp] lemma raise_bind_run (e : ε) (f : α → Effect σ ε β) (s : σ) :
    ((raise e : Effect σ ε α) >>= f) s = (.error e, s) := rfl

@[simp] lemma lift_ok_bind_run (a : α) (f : α → Effect σ ε β) (s : σ) :
    ((lift (.ok a) : Effect σ ε α) >>= f) s = f a s := rfl

@[simp] lemma lift_error_bind_run (e : ε) (f : α → Effect σ ε β) (s : σ) :
    ((lift (.error e) : Effect σ ε α) >>= f) s = (.error e, s) := rfl

lemma bind_assoc {γ : Type} (x : Effect σ ε α) (f : α → Effect σ ε β) (g : β → Effect σ ε γ) :
    (x >>= f) >>= g = x >>= fun a => f a >>= g := by
  funext s
  rw [bind_run, bind_run, bind_run]
  rcases x s with ⟨r, s'⟩
  cases r <;> rfl

/-- A composition ends in one of two ways: in its first part, which raises, or in its second. -/
lemma bind_cases {r : Except ε β} (hrun : (x >>= f) s = (r, s')) :
    (∃ a s₁, x s = (.ok a, s₁) ∧ f a s₁ = (r, s')) ∨ (∃ e, x s = (.error e, s') ∧ r = .error e) := by
  rw [bind_run] at hrun
  rcases hx : x s with ⟨r₁, s₁⟩
  rw [hx] at hrun
  cases r₁ with
  | ok a => exact .inl ⟨a, s₁, rfl, hrun⟩
  | error e =>
    obtain ⟨rfl, rfl⟩ := Prod.mk.inj hrun
    exact .inr ⟨e, rfl, rfl⟩

/-- A composition that returns did so in both its parts. -/
lemma bind_eq_ok {b : β} (hrun : (x >>= f) s = (.ok b, s')) :
    ∃ a s₁, x s = (.ok a, s₁) ∧ f a s₁ = (.ok b, s') := by
  rcases bind_cases hrun with h | ⟨e, -, he⟩
  · exact h
  · cases he

lemma lift_bind_eq_ok {r : Except ε α} {b : β}
    (hrun : ((lift r : Effect σ ε α) >>= f) s = (.ok b, s')) :
    ∃ a, r = .ok a ∧ f a s = (.ok b, s') := by
  obtain ⟨a, s₁, hlift, h⟩ := bind_eq_ok hrun
  obtain ⟨rfl, rfl⟩ := Prod.mk.inj hlift
  exact ⟨a, rfl, h⟩

lemma handle_run_ok {a : α} (hx : x s = (.ok a, s')) : x.handle h s = (.ok a, s') := by
  unfold handle
  rw [hx]

/-- A computation with a handler ends in one of two ways: it returns, or the handler is run. -/
lemma handle_cases {r : Except ε α} (hrun : x.handle h s = (r, s')) :
    (∃ a, x s = (.ok a, s') ∧ r = .ok a) ∨ ∃ e s₁, x s = (.error e, s₁) ∧ h e s₁ = (r, s') := by
  unfold handle at hrun
  rcases hx : x s with ⟨r₁, s₁⟩
  rw [hx] at hrun
  cases r₁ with
  | ok a =>
    obtain ⟨rfl, rfl⟩ := Prod.mk.inj hrun
    exact .inl ⟨a, rfl, rfl⟩
  | error e => exact .inr ⟨e, s₁, rfl, hrun⟩

/-- A handler that always raises does not matter to a computation that returns. -/
lemma handle_eq_ok {a : α} (hraises : ∀ e s₁, ∃ e', (h e s₁).1 = .error e')
    (hrun : x.handle h s = (.ok a, s')) : x s = (.ok a, s') := by
  rcases handle_cases hrun with ⟨b, hx, hb⟩ | ⟨e, s₁, -, hraised⟩
  · cases hb
    exact hx
  · obtain ⟨e', he'⟩ := hraises e s₁
    cases he'.symm.trans (congrArg Prod.fst hraised)

/-! ## Invariants -/

/-- A computation keeps a predicate on states, however it ends. -/
def Keeps (I : σ → Prop) (x : Effect σ ε α) : Prop := ∀ s, I s → I (x s).2

variable {I : σ → Prop}

lemma keeps_pure (a : α) : Keeps I (pure a : Effect σ ε α) := fun _ hs => hs

lemma keeps_raise (e : ε) : Keeps I (raise e : Effect σ ε α) := fun _ hs => hs

lemma keeps_read : Keeps I (read : Effect σ ε σ) := fun _ hs => hs

lemma keeps_lift (r : Except ε α) : Keeps I (lift r : Effect σ ε α) := fun _ hs => hs

lemma keeps_edit {g : σ → σ} (hg : ∀ s, I s → I (g s)) : Keeps I (edit g : Effect σ ε Unit) :=
  fun s hs => hg s hs

lemma Keeps.bind (hx : Keeps I x) (hf : ∀ a, Keeps I (f a)) : Keeps I (x >>= f) := by
  intro s hs
  have hs₁ := hx s hs
  rw [bind_run]
  rcases hrun : x s with ⟨r, s₁⟩
  rw [hrun] at hs₁
  cases r with
  | ok a => exact hf a s₁ hs₁
  | error e => exact hs₁

lemma keeps_ite {c : Prop} [Decidable c] {y : Effect σ ε α} (hx : Keeps I x) (hy : Keeps I y) :
    Keeps I (if c then x else y) := by
  split
  · exact hx
  · exact hy

lemma Keeps.handle (hx : Keeps I x) (hh : ∀ e, Keeps I (h e)) : Keeps I (x.handle h) := by
  intro s hs
  have hs₁ := hx s hs
  unfold Effect.handle
  rcases hrun : x s with ⟨r, s₁⟩
  rw [hrun] at hs₁
  cases r with
  | ok a => exact hs₁
  | error e => exact hh e s₁ hs₁

end Effect

end Lib
