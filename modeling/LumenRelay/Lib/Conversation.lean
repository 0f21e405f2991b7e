import LumenRelay.Lib.Pool

/-!
# Conversations

A coroutine that waits at a point asks something of another party, and the reply with which it goes
on is the answer.  What it has asked and been answered so far is its history.  `Talks` says that
everything it asks is allowed by its history, whatever it is answered and however others change the
state while it waits, and that it ends as its postcondition says.
-/

namespace Lib

namespace Coroutine

variable {σ ω : Type} {ρ : ω → Type} {ε α β : Type}

/-- What was asked, and the answer. -/
abbrev Exchange {ω : Type} (ρ : ω → Type) (ε : Type) : Type := (p : ω) × Except ε (ρ p)

/-- Everything that is asked is allowed by the history, and the end is as the postcondition says. -/
def Talks (Ask : List (Exchange ρ ε) → ω → Prop) (Post : List (Exchange ρ ε) → Except ε α → Prop) :
    Coroutine σ ρ ε α → List (Exchange ρ ε) → σ → Prop
  | ret a, h, _ => Post h (.ok a)
  | raise e, h, _ => Post h (.error e)
  | edit f k, h, s => Talks Ask Post k h (f s)
  | read k, h, s => Talks Ask Post (k s) h s
  | await p k, h, _ => Ask h p ∧ ∀ r s', Talks Ask Post (k r) (h ++ [⟨p, r⟩]) s'

variable {Ask : List (Exchange ρ ε) → ω → Prop} {Post : List (Exchange ρ ε) → Except ε α → Prop}
  {Post' : List (Exchange ρ ε) → Except ε β → Prop} {h : List (Exchange ρ ε)} {s : σ}

/-- The rule of consequence. -/
lemma Talks.mono {Post₁ : List (Exchange ρ ε) → Except ε α → Prop} {x : Coroutine σ ρ ε α}
    (hx : Talks Ask Post x h s) (himp : ∀ h r, Post h r → Post₁ h r) : Talks Ask Post₁ x h s := by
  induction x generalizing h s with
  | ret a => exact himp _ _ hx
  | raise e => exact himp _ _ hx
  | edit f k ih => exact ih hx
  | read k ih => exact ih s hx
  | await p k ih => exact ⟨hx.1, fun r s' => ih r (hx.2 r s')⟩

/-- The rule of composition. -/
lemma Talks.andThen {x : Coroutine σ ρ ε α} {f : Except ε α → Coroutine σ ρ ε β}
    (hx : Talks Ask (fun h r => ∀ s, Talks Ask Post' (f r) h s) x h s) :
    Talks Ask Post' (x.andThen f) h s := by
  induction x generalizing h s with
  | ret a => exact hx s
  | raise e => exact hx s
  | edit f k ih => exact ih hx
  | read k ih => exact ih s hx
  | await p k ih => exact ⟨hx.1, fun r s' => ih r (hx.2 r s')⟩

/-- The rule of sequences: an exception of the first part is one of the whole. -/
lemma Talks.bind {x : Coroutine σ ρ ε α} {f : α → Coroutine σ ρ ε β}
    (hx : Talks Ask (fun h r => match r with
      | .ok a => ∀ s, Talks Ask Post' (f a) h s
      | .error e => Post' h (.error e)) x h s) : Talks Ask Post' (x >>= f) h s := by
  refine Talks.andThen (hx.mono fun h r hr s => ?_)
  cases r with
  | ok a => exact hr s
  | error e => exact hr

/-- The rule of handlers. -/
lemma Talks.tryCatch {x : Coroutine σ ρ ε α} {handler : ε → Coroutine σ ρ ε α}
    (hx : Talks Ask (fun h r => match r with
      | .ok a => Post h (.ok a)
      | .error e => ∀ s, Talks Ask Post (handler e) h s) x h s) :
    Talks Ask Post (x.tryCatch handler) h s := by
  refine Talks.andThen (hx.mono fun h r hr s => ?_)
  cases r with
  | ok a => exact hr
  | error e => exact hr s

lemma talks_ofExcept {r : Except ε α} (hr : Post h r) : Talks Ask Post (ofExcept r) h s := by
  cases r with
  | ok a => exact hr
  | error e => exact hr

/-- The rule of questions. -/
lemma talks_wait {p : ω} {Post : List (Exchange ρ ε) → Except ε (ρ p) → Prop} (hp : Ask h p)
    (hpost : ∀ r, Post (h ++ [⟨p, r⟩]) r) : Talks Ask Post (wait p : Coroutine σ ρ ε (ρ p)) h s :=
  ⟨hp, fun r _ => talks_ofExcept (hpost r)⟩

lemma talks_look_bind {k : σ → Coroutine σ ρ ε β} (hk : Talks Ask Post' (k s) h s) :
    Talks Ask Post' (look >>= k) h s := hk

lemma talks_modify_bind {g : σ → σ} {k : Unit → Coroutine σ ρ ε β}
    (hk : Talks Ask Post' (k ()) h (g s)) : Talks Ask Post' (modify g >>= k) h s := hk

/-- The rule of checks: what is refused ends the whole. -/
lemma talks_ofExcept_bind {r : Except ε α} {f : α → Coroutine σ ρ ε β}
    (herror : ∀ e, r = .error e → Post' h (.error e))
    (hok : ∀ a, r = .ok a → ∀ s, Talks Ask Post' (f a) h s) :
    Talks Ask Post' (ofExcept r >>= f) h s := by
  cases r with
  | ok a => exact hok a rfl s
  | error e => exact herror e rfl

lemma talks_pure {a : α} (ha : Post h (.ok a)) :
    Talks Ask Post (pure a : Coroutine σ ρ ε α) h s := ha

lemma talks_raise {e : ε} (he : Post h (.error e)) :
    Talks Ask Post (raise e : Coroutine σ ρ ε α) h s := he

/-! ## Whole conversations -/

/-- What happens to a coroutine: the others change the state, or it gets an answer. -/
inductive Turn (σ : Type) {ω : Type} (ρ : ω → Type) (ε : Type)
  | others (s : σ)
  | answer (e : Exchange ρ ε)

/-- A coroutine in a state that others change as they like while it waits; it emits its history. -/
def conversation [DecidableEq ω] : Machine (Coroutine σ ρ ε α × σ) (Turn σ ρ ε) (Exchange ρ ε) where
  step x
    | .others s => some ((x.1, s), [])
    | .answer ⟨p, r⟩ =>
      match x.1 with
      | .await p' k =>
        if hp : p = p' then some ((k (hp ▸ r)).advance x.2, [⟨p, r⟩]) else none
      | _ => none

/-- What an answer does: it comes where it was asked for, and the coroutine goes on. -/
lemma answer_cases [DecidableEq ω] {y y' : Coroutine σ ρ ε α × σ} {e : Exchange ρ ε}
    {es : List (Exchange ρ ε)} (hstep : conversation.step y (.answer e) = some (y', es)) :
    ∃ k, y.1 = .await e.1 k ∧ y' = (k e.2).advance y.2 ∧ es = [e] := by
  obtain ⟨p, r⟩ := e
  rcases y with ⟨x, s⟩
  cases x with
  | await p' k =>
    simp only [conversation] at hstep
    split at hstep
    · rename_i hp
      subst hp
      cases hstep
      exact ⟨k, rfl, rfl, rfl⟩
    · cases hstep
  | _ => cases hstep

/-- A conversation without others emits the answers. -/
lemma exec_answers [DecidableEq ω] {answers : List (Exchange ρ ε)} {y : Coroutine σ ρ ε α × σ}
    {r : List (Coroutine σ ρ ε α × σ) × List (Exchange ρ ε) × Coroutine σ ρ ε α × σ}
    (hr : conversation.exec (answers.map .answer) y = some r) : r.2.1 = answers := by
  induction answers generalizing y r with
  | nil =>
    cases hr
    rfl
  | cons e answers ih =>
    rw [List.map_cons, Machine.exec] at hr
    cases hs : conversation.step y (.answer e) with
    | none => simp [hs] at hr
    | some next =>
      simp only [hs, Option.map_eq_some_iff] at hr
      obtain ⟨r', hr', rfl⟩ := hr
      obtain ⟨-, -, -, hevent⟩ := answer_cases hs
      dsimp only
      rw [hevent, ih hr', List.singleton_append]

/-- A run from its answers, with what holds where it ends. -/
lemma exists_run_answers [DecidableEq ω] {answers : List (Exchange ρ ε)}
    {y : Coroutine σ ρ ε α × σ} (good : Coroutine σ ρ ε α × σ → Bool)
    (hgood : (conversation.exec (answers.map .answer) y).any (fun r => good r.2.2) = true) :
    ∃ visited y', conversation.Run y visited answers y' ∧ good y' = true := by
  obtain ⟨r, hr, hend⟩ := (Option.any_eq_true _ _).mp hgood
  have hrun := Machine.Run.start.exec hr
  rw [exec_answers hr, List.nil_append] at hrun
  exact ⟨_, _, hrun, hend⟩

/-- What is asked, and has been asked, is allowed. -/
structure Heard (Ask : List (Exchange ρ ε) → ω → Prop)
    (Post : List (Exchange ρ ε) → Except ε α → Prop) (h : List (Exchange ρ ε))
    (x : Coroutine σ ρ ε α) : Prop where
  past : ∀ before e after, h = before ++ e :: after → Ask before e.1
  now : ∀ p k, x = .await p k → Ask h p
  ended : ∀ r, x.outcome = some r → Post h r

lemma Talks.advance {x : Coroutine σ ρ ε α} (hx : Talks Ask Post x h s) :
    ∀ s', Talks Ask Post (x.advance s).1 h s' := by
  induction x generalizing s with
  | ret a => exact fun _ => hx
  | raise e => exact fun _ => hx
  | edit f k ih => exact ih hx
  | read k ih => exact ih s hx
  | await p k ih => exact fun _ => hx

/-- **Whole conversations**: everything that is ever asked is allowed by what came before, and a
coroutine that has ended has ended as it should. -/
theorem Talks.run [DecidableEq ω] {x : Coroutine σ ρ ε α} {visited : List (Coroutine σ ρ ε α × σ)}
    {y : Coroutine σ ρ ε α × σ} (hx : Talks Ask Post x [] s)
    (hrun : conversation.Run (x.advance s) visited h y) : Heard Ask Post h y.1 := by
  have hinv : (∀ s, Talks Ask Post y.1 h s) ∧
      ∀ before e after, h = before ++ e :: after → Ask before e.1 := by
    refine hrun.invariant_events (I := fun h y => (∀ s, Talks Ask Post y.1 h s) ∧
      ∀ before e after, h = before ++ e :: after → Ask before e.1) ⟨hx.advance, by simp⟩ ?_
    rintro h ⟨x, s⟩ l y es ⟨hx, hpast⟩ hstep
    cases l with
    | others s' =>
      cases hstep
      rw [List.append_nil]
      exact ⟨hx, hpast⟩
    | answer e =>
      obtain ⟨k, hawait, rfl, rfl⟩ := answer_cases hstep
      obtain rfl : x = .await e.1 k := hawait
      obtain ⟨hask, hnext⟩ := hx s
      refine ⟨(hnext e.2 s).advance, ?_⟩
      -- the new exchange is the last one, or it is one of the past
      intro before e' after heq
      rcases List.eq_nil_or_concat after with rfl | ⟨after', last, rfl⟩
      · obtain ⟨rfl, hlast⟩ := List.append_inj' heq rfl
        obtain rfl := List.singleton_inj.mp hlast
        exact hask
      · rw [List.concat_eq_append, ← List.cons_append, ← List.append_assoc] at heq
        exact hpast before e' after' (List.append_inj' heq rfl).1
  obtain ⟨htalks, hpast⟩ := hinv
  rcases y with ⟨x, s⟩
  refine ⟨hpast, ?_, ?_⟩
  · rintro p k rfl
    exact (htalks s).1
  · intro r hr
    cases x with
    | ret a =>
      obtain rfl := Option.some.inj hr
      exact htalks s
    | raise e =>
      obtain rfl := Option.some.inj hr
      exact htalks s
    | _ => cases hr

/-- Each answer in a conversation starts a piece of the coroutine. -/
theorem Follows.conversation [DecidableEq ω] {G : Origin ρ ε → σ → σ → Option ω → Prop}
    {x : Coroutine σ ρ ε α} {visited : List (Coroutine σ ρ ε α × σ)}
    {y y' : Coroutine σ ρ ε α × σ} {e : Exchange ρ ε} {es : List (Exchange ρ ε)}
    (hx : Follows G x none s s) (hrun : Coroutine.conversation.Run (x.advance s) visited h y)
    (hstep : Coroutine.conversation.step y (.answer e) = some (y', es)) :
    G (some e) y.2 y'.2 y'.1.point := by
  have hanswer : ∀ {y y' : Coroutine σ ρ ε α × σ} {e es}, Rested G y.1 →
      Coroutine.conversation.step y (.answer e) = some (y', es) →
      G (some e) y.2 y'.2 y'.1.point ∧ Rested G y'.1 := by
    rintro ⟨x, s⟩ y' e es hrested hstep
    obtain ⟨k, hawait, rfl, -⟩ := answer_cases hstep
    obtain rfl : x = .await e.1 k := hawait
    exact (hrested e.2 s).advance
  have hrested : Rested G y.1 := by
    refine hrun.invariant (I := fun y => Rested G y.1) hx.advance.2 ?_
    rintro y l y' es hy hs
    cases l with
    | others s' =>
      cases hs
      exact hy
    | answer e => exact (hanswer hy hs).2
  exact (hanswer hrested hstep).1

attribute [irreducible] Talks

end Coroutine

end Lib
