import LumenRelay.Lib.Dict
import LumenRelay.Lib.Effect
import LumenRelay.Lib.Machine

/-!
# Changes within bounds

What may become of a value is a relation between the value before and the value after.  When it is
reflexive and transitive it can be followed along a computation and along a run.  A bound on the
values of a dictionary is one such relation for each key; that a key has no value counts as a value.
-/

namespace Lib

/-- What may become of the value of each key. -/
structure Bound (κ ν : Type*) where
  rel : κ → Option ν → Option ν → Prop
  refl : ∀ k v, rel k v v
  trans : ∀ {k u v w}, rel k u v → rel k v w → rel k u w

namespace Dict

variable {κ ν : Type*} [DecidableEq κ] {b : Bound κ ν} {d d' d'' : Dict κ ν}

/-- Every key of a dictionary changed within the bound. -/
def Within (b : Bound κ ν) (d d' : Dict κ ν) : Prop := ∀ k, b.rel k (d.get? k) (d'.get? k)

lemma Within.refl (b : Bound κ ν) (d : Dict κ ν) : Within b d d := fun k => b.refl k _

lemma Within.trans (h : Within b d d') (h' : Within b d' d'') : Within b d d'' :=
  fun k => b.trans (h k) (h' k)

/-- A new value changes its own key only. -/
lemma within_set {k : κ} {v : ν} (h : b.rel k (d.get? k) (some v)) : Within b d (d.set k v) := by
  intro k'
  rw [get?_set]
  split
  · rename_i hk
    subst hk
    exact h
  · exact b.refl k' _

/-- An edit in place changes its own key only. -/
lemma within_modify {k : κ} {f : ν → ν} (h : ∀ v, d.get? k = some v → b.rel k (some v) (some (f v))) :
    Within b d (d.modify k f) := by
  cases hv : d.get? k with
  | none =>
    rw [modify_of_none hv]
    exact .refl b d
  | some v =>
    rw [modify_of_some hv]
    refine within_set ?_
    rw [hv]
    exact h v hv

end Dict

/-- A loop whose body stays within a bound stays within it. -/
lemma foldl_within {σ ι : Type*} {R : σ → σ → Prop} (hrefl : ∀ s, R s s)
    (htrans : ∀ {s t u}, R s t → R t u → R s u) {f : σ → ι → σ} (hf : ∀ s i, R s (f s i))
    (l : List ι) (s : σ) : R s (l.foldl f s) := by
  induction l generalizing s with
  | nil => exact hrefl s
  | cons i l ih => exact htrans (hf s i) (ih (f s i))

namespace Effect

variable {σ ε α β : Type} {x : Effect σ ε α} {f : α → Effect σ ε β} {I : σ → Prop}

/-- An invariant of a composition whose second part relies on what the first one returns. -/
lemma Keeps.bind_of {Q : α → Prop} (hx : Keeps I x)
    (hq : ∀ s a s', I s → x s = (.ok a, s') → Q a) (hf : ∀ a, Q a → Keeps I (f a)) :
    Keeps I (x >>= f) := by
  intro s hs
  have hs₁ := hx s hs
  rw [bind_run]
  rcases hrun : x s with ⟨r, s₁⟩
  rw [hrun] at hs₁
  cases r with
  | ok a => exact hf a (hq s a s₁ hs hrun) s₁ hs₁
  | error e => exact hs₁

end Effect

namespace Machine

variable {σ ι ε : Type*} {M : Machine σ ι ε} {s₀ s : σ} {visited : List σ} {events : List ε}

/-- The rule for a relation between the first and the last state of a run, which every step from a
state with the invariant keeps. -/
theorem Run.within {I : σ → Prop} {R : σ → σ → Prop} (hrefl : ∀ s, R s s)
    (htrans : ∀ {s t u}, R s t → R t u → R s u) (hstart : I s₀)
    (hstep : ∀ s l s' es, I s → M.step s l = some (s', es) → I s' ∧ R s s')
    (h : M.Run s₀ visited events s) : I s ∧ R s₀ s := by
  induction h with
  | start => exact ⟨hstart, hrefl s₀⟩
  | @next visited events es s s' l _ hs ih =>
    obtain ⟨hI, hR⟩ := hstep s l s' es ih.1 hs
    exact ⟨hI, htrans ih.2 hR⟩

/-- The rule for a property of the events that every step from a state with the invariant emits. -/
theorem Run.all_events {I : σ → Prop} {P : ε → Prop} (hstart : I s₀)
    (hstep : ∀ s l s' es, I s → M.step s l = some (s', es) → I s' ∧ ∀ e ∈ es, P e)
    (h : M.Run s₀ visited events s) : ∀ e ∈ events, P e := by
  refine (h.invariant_events (I := fun events s => I s ∧ ∀ e ∈ events, P e)
    ⟨hstart, by simp⟩ ?_).2
  rintro events s l s' es ⟨hI, hP⟩ hs
  obtain ⟨hI', hes⟩ := hstep s l s' es hI hs
  refine ⟨hI', ?_⟩
  intro e he
  rcases List.mem_append.mp he with he | he
  · exact hP e he
  · exact hes e he

end Machine

end Lib
