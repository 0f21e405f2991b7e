import Mathlib.Data.List.Chain

/-!
# Runs of a machine

A machine takes labelled steps and emits events.  A run from an initial state records the
states it has visited and the events it has emitted, both in order.  A property of the
visited states, the emitted events and the current state that holds at the start and is kept
by every step holds of every run.
-/

namespace Lib

/-- A machine with states `σ`, labels `ι` and events `ε`.  A label that is not enabled in a
state has no successor. -/
structure Machine (σ ι ε : Type*) where
  /-- The effect of a label in a state, with the events it emits. -/
  step : σ → ι → Option (σ × List ε)

namespace Machine

variable {σ ι ε : Type*} {M : Machine σ ι ε} {s₀ s : σ} {visited : List σ} {events : List ε}

/-- `M.Run s₀ visited events s`: a run that starts in `s₀`, is now in `s`, went through the
states `visited` (from `s₀` to `s`, both included) and emitted `events`. -/
inductive Run (M : Machine σ ι ε) (s₀ : σ) : List σ → List ε → σ → Prop
  | start : Run M s₀ [s₀] [] s₀
  | next {visited : List σ} {events es : List ε} {s s' : σ} {l : ι} :
      Run M s₀ visited events s → M.step s l = some (s', es) →
      Run M s₀ (visited ++ [s']) (events ++ es) s'

/-- The invariant rule for properties that look at the whole run. -/
theorem Run.induct_history {I : List σ → List ε → σ → Prop} (hstart : I [s₀] [] s₀)
    (hstep : ∀ visited events s l s' es, M.Run s₀ visited events s → I visited events s →
      M.step s l = some (s', es) → I (visited ++ [s']) (events ++ es) s')
    (h : M.Run s₀ visited events s) : I visited events s := by
  induction h with
  | start => exact hstart
  | next hrun hs ih => exact hstep _ _ _ _ _ _ hrun ih hs

/-- The invariant rule for properties of the current state. -/
theorem Run.invariant {I : σ → Prop} (hstart : I s₀)
    (hstep : ∀ s l s' es, I s → M.step s l = some (s', es) → I s')
    (h : M.Run s₀ visited events s) : I s :=
  h.induct_history (I := fun _ _ s => I s) hstart fun _ _ s l s' es _ hI => hstep s l s' es hI

/-- The invariant rule for properties of the emitted events and the current state. -/
theorem Run.invariant_events {I : List ε → σ → Prop} (hstart : I [] s₀)
    (hstep : ∀ events s l s' es, I events s → M.step s l = some (s', es) → I (events ++ es) s')
    (h : M.Run s₀ visited events s) : I events s :=
  h.induct_history (I := fun _ events s => I events s) hstart
    fun _ events s l s' es _ hI => hstep events s l s' es hI

/-- The initial state is visited. -/
lemma Run.mem_visited_start (h : M.Run s₀ visited events s) : s₀ ∈ visited := by
  induction h with
  | start => exact List.mem_singleton_self s₀
  | next _ _ ih => exact List.mem_append_left _ ih

/-- The last visited state is the current one. -/
lemma Run.getLast?_visited (h : M.Run s₀ visited events s) : visited.getLast? = some s := by
  cases h with
  | start => rfl
  | next _ _ => exact List.getLast?_concat

/-- Every event of a run is emitted by a step from one visited state to another. -/
lemma Run.exists_step (h : M.Run s₀ visited events s) {e : ε} (he : e ∈ events) :
    ∃ before ∈ visited, ∃ after ∈ visited, ∃ l es, M.step before l = some (after, es) ∧ e ∈ es := by
  induction h with
  | start => cases he
  | @next visited events es s s' l hrun hstep ih =>
    rcases List.mem_append.mp he with hold | hnew
    · obtain ⟨before, hbefore, after, hafter, hrest⟩ := ih hold
      exact ⟨before, List.mem_append_left _ hbefore, after, List.mem_append_left _ hafter, hrest⟩
    · have hlast : s ∈ visited := List.mem_of_getLast? hrun.getLast?_visited
      exact ⟨s, List.mem_append_left _ hlast, s',
        List.mem_append_right _ (List.mem_singleton_self s'), l, es, hstep, hnew⟩

/-! ## Runs whose steps meet a condition -/

/-- The machine that takes only the steps that meet a condition. -/
def restrict (M : Machine σ ι ε) (P : σ → ι → Prop) [∀ s l, Decidable (P s l)] : Machine σ ι ε where
  step s l := if P s l then M.step s l else none

lemma restrict_step {P : σ → ι → Prop} [∀ s l, Decidable (P s l)] {l : ι} {r : σ × List ε} :
    (M.restrict P).step s l = some r ↔ P s l ∧ M.step s l = some r := by
  by_cases h : P s l <;> simp [restrict, h]

/-! ## Runs that are written down -/

/-- The machine that keeps the events it has emitted. -/
def logged (M : Machine σ ι ε) : Machine (σ × List ε) ι ε where
  step p l := (M.step p.1 l).map fun r => ((r.1, p.2 ++ r.2), r.2)

lemma logged_step {p p' : σ × List ε} {l : ι} {es : List ε} :
    M.logged.step p l = some (p', es) ↔ M.step p.1 l = some (p'.1, es) ∧ p'.2 = p.2 ++ es := by
  constructor
  · intro h
    obtain ⟨⟨s', es'⟩, hs, heq⟩ := Option.map_eq_some_iff.mp h
    obtain ⟨rfl, rfl⟩ := Prod.mk.inj heq
    exact ⟨hs, rfl⟩
  · rintro ⟨hs, hlog⟩
    exact Option.map_eq_some_iff.mpr ⟨(p'.1, es), hs, by rw [← hlog]⟩

/-- What was written down is what was emitted. -/
lemma Run.log_eq {P : σ × List ε → ι → Prop} [∀ p l, Decidable (P p l)]
    {visited : List (σ × List ε)} {p : σ × List ε}
    (h : (M.logged.restrict P).Run (s₀, []) visited events p) : p.2 = events := by
  refine h.invariant_events (I := fun events p => p.2 = events) rfl ?_
  intro events p l p' es hlog hstep
  rw [(logged_step.mp (restrict_step.mp hstep).2).2, hlog]

/-! ## History variables -/

variable {γ : Type*} {mark : γ → σ → ι → γ} {g : γ}

/-- The machine with a history variable, which each step updates by the state before it and its
label. -/
def withHistory (M : Machine σ ι ε) (mark : γ → σ → ι → γ) : Machine (σ × γ) ι ε where
  step p l := (M.step p.1 l).map fun r => ((r.1, mark p.2 p.1 l), r.2)

lemma withHistory_step {p p' : σ × γ} {l : ι} {es : List ε} :
    (M.withHistory mark).step p l = some (p', es) ↔
      M.step p.1 l = some (p'.1, es) ∧ p'.2 = mark p.2 p.1 l := by
  constructor
  · intro h
    obtain ⟨⟨s', es'⟩, hs, heq⟩ := Option.map_eq_some_iff.mp h
    obtain ⟨rfl, rfl⟩ := Prod.mk.inj heq
    exact ⟨hs, rfl⟩
  · rintro ⟨hs, hmark⟩
    exact Option.map_eq_some_iff.mpr ⟨(p'.1, es), hs, by rw [← hmark]⟩

/-- A history variable does not change the runs. -/
lemma Run.of_history {visited : List (σ × γ)} {p : σ × γ}
    (h : (M.withHistory mark).Run (s₀, g) visited events p) :
    M.Run s₀ (visited.map Prod.fst) events p.1 := by
  induction h with
  | start => exact .start
  | next _ hs ih =>
    rw [List.map_append]
    exact ih.next (withHistory_step.mp hs).1

/-- Every run has its history. -/
lemma Run.exists_history (h : M.Run s₀ visited events s) (g : γ) :
    ∃ visited' g', (M.withHistory mark).Run (s₀, g) visited' events (s, g') ∧
      visited'.map Prod.fst = visited := by
  induction h with
  | start => exact ⟨_, g, .start, rfl⟩
  | @next visited events es s s' l hrun hs ih =>
    obtain ⟨visited', g', hrun', hvisited⟩ := ih
    have hstep : (M.withHistory mark).step (s, g') l = some ((s', mark g' s l), es) :=
      withHistory_step.mpr ⟨hs, rfl⟩
    exact ⟨_, _, hrun'.next hstep, by rw [List.map_append, hvisited]; rfl⟩

/-! ## What is seen along a run -/

/-- What is seen of each visited state and the next one. -/
def seen {α : Type*} (look : σ → σ → List α) : List σ → List α
  | s :: s' :: visited => look s s' ++ seen look (s' :: visited)
  | _ => []

lemma seen_concat {α : Type*} {look : σ → σ → List α} (h : visited.getLast? = some s) (s' : σ) :
    seen look (visited ++ [s']) = seen look visited ++ look s s' := by
  induction visited with
  | nil => cases h
  | cons a visited ih =>
    cases visited with
    | nil =>
      obtain rfl := Option.some.inj h
      simp [seen]
    | cons b visited =>
      have hlast : (b :: visited).getLast? = some s := by rwa [List.getLast?_cons_cons] at h
      have htail : seen look (b :: (visited ++ [s'])) = _ := ih hlast
      simp only [List.cons_append, seen, htail, List.append_assoc]

/-! ## The history of a part of the state -/

/-- The values that a part of the state, when it is there, went through; a value that stays is
recorded once. -/
def history {α : Type*} [DecidableEq α] (f : σ → Option α) (visited : List σ) : List α :=
  visited.foldl (fun past s =>
    match f s with
    | none => past
    | some a => if past.getLast? = some a then past else past ++ [a]) []

lemma history_concat {α : Type*} [DecidableEq α] (f : σ → Option α) (visited : List σ) (s : σ) :
    history f (visited ++ [s]) =
      match f s with
      | none => history f visited
      | some a =>
        if (history f visited).getLast? = some a then history f visited
        else history f visited ++ [a] := by
  rw [history, List.foldl_append]
  rfl

/-- If a part of the state is absent at the start, appears with a value that satisfies `P`, and
afterwards stays or moves along `R`, then its history is a chain of `R` that starts in `P` and
ends with the current value. -/
theorem Run.isChain_history {α : Type*} [DecidableEq α] {f : σ → Option α} {P : α → Prop}
    {R : α → α → Prop} (hstart : f s₀ = none)
    (hstep : ∀ visited events s l s' es, M.Run s₀ visited events s → M.step s l = some (s', es) →
      f s' = f s ∨ (f s = none ∧ ∃ a, f s' = some a ∧ P a) ∨
        ∃ a b, f s = some a ∧ f s' = some b ∧ R a b)
    (h : M.Run s₀ visited events s) :
    (history f visited).IsChain R ∧ (∀ a, (history f visited).head? = some a → P a) ∧
      (history f visited).getLast? = f s := by
  induction h with
  | start => simp [history, hstart]
  | @next visited events es s s' l hrun hs ih =>
    obtain ⟨hchain, hhead, hlast⟩ := ih
    rw [history_concat]
    rcases hstep _ _ _ _ _ _ hrun hs with hsame | ⟨hnone, a, ha, hP⟩ | ⟨a, b, ha, hb, hR⟩
    · -- the value stayed
      rw [hsame]
      cases hf : f s with
      | none => exact ⟨hchain, hhead, hlast.trans hf⟩
      | some a =>
        dsimp only
        rw [if_pos (hlast.trans hf)]
        exact ⟨hchain, hhead, hlast.trans hf⟩
    · -- the value appeared
      have hnil : history f visited = [] := List.getLast?_eq_none_iff.mp (hlast.trans hnone)
      rw [ha, hnil]
      simp [hP]
    · -- the value moved
      rw [hb]
      dsimp only
      by_cases hab : a = b
      · rw [if_pos (by rw [hlast, ha, hab])]
        exact ⟨hchain, hhead, by rw [hlast, ha, hab]⟩
      · rw [if_neg (by rw [hlast, ha]; simpa using hab)]
        refine ⟨List.isChain_append.mpr ⟨hchain, .singleton b, ?_⟩, fun c hc => ?_, by simp⟩
        · intro x hx y hy
          rw [hlast, ha] at hx
          simp only [List.head?_cons, Option.mem_def, Option.some.injEq] at hx hy
          exact hx ▸ hy ▸ hR
        · cases hh : history f visited with
          | nil => simp [hh, ha] at hlast
          | cons d l =>
            rw [hh] at hc
            exact hhead c (by rw [hh]; exact hc)

/-! ## Running a list of labels -/

/-- The run along a list of labels, when every label is enabled in its turn: the states after
each step, the events and the last state. -/
def exec (M : Machine σ ι ε) : List ι → σ → Option (List σ × List ε × σ)
  | [], s => some ([], [], s)
  | l :: labels, s =>
    match M.step s l with
    | none => none
    | some (s', es) =>
      (exec M labels s').map fun r => (s' :: r.1, es ++ r.2.1, r.2.2)

/-- A run goes on along a list of labels that can be run. -/
theorem Run.exec {labels : List ι} {r : List σ × List ε × σ} (h : M.Run s₀ visited events s)
    (hr : M.exec labels s = some r) : M.Run s₀ (visited ++ r.1) (events ++ r.2.1) r.2.2 := by
  induction labels generalizing visited events s r with
  | nil =>
    obtain rfl := Option.some.inj hr
    simpa using h
  | cons l labels ih =>
    rw [Machine.exec] at hr
    cases hs : M.step s l with
    | none => simp [hs] at hr
    | some next =>
      simp only [hs, Option.map_eq_some_iff] at hr
      obtain ⟨r', hr', rfl⟩ := hr
      simpa using ih (h.next hs) hr'

/-- A run along labels that can be run ends as a test of its states, its events and its last state
finds. -/
theorem exists_run (labels : List ι) {P : List σ → List ε → σ → Prop}
    [∀ visited es s, Decidable (P visited es s)]
    (h : (M.exec labels s₀).any (fun r => decide (P (s₀ :: r.1) r.2.1 r.2.2)) = true) :
    ∃ visited events s, M.Run s₀ visited events s ∧ P visited events s := by
  obtain ⟨r, hr, hP⟩ := (Option.any_eq_true _ _).mp h
  have hrun := Run.start.exec hr
  rw [List.nil_append] at hrun
  exact ⟨_, _, _, hrun, of_decide_eq_true hP⟩

end Machine

end Lib
