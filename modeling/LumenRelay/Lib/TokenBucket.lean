import Mathlib.Algebra.Order.BigOperators.Group.List
import Mathlib.Algebra.Order.Field.Basic
import Mathlib.Tactic.Linarith

/-!
# Token buckets

A bucket is filled at a constant rate up to its capacity, and what is granted is taken out of it.
A log has the grants with their times.  In any window of time a bucket grants at most its capacity
and what flows in during the window.
-/

namespace Lib

/-- A token bucket: its tokens are those of the time at which it was filled last. -/
@[ext] structure TokenBucket (K : Type*) where
  rate : K
  capacity : K
  tokens : K
  last : K

namespace TokenBucket

variable {K : Type*} [Field K] [LinearOrder K]

/-- Fill a bucket up to a time. -/
def refill (b : TokenBucket K) (now : K) : TokenBucket K :=
  if b.last < now then
    { b with last := now, tokens := min b.capacity (b.tokens + (now - b.last) * b.rate) }
  else b

/-- Take tokens out of a bucket. -/
def take (b : TokenBucket K) (amount : K) : TokenBucket K := { b with tokens := b.tokens - amount }

/-- The tokens are within the capacity, and the rate is not negative. -/
structure Sound (b : TokenBucket K) : Prop where
  nonneg : 0 ≤ b.tokens
  le_capacity : b.tokens ≤ b.capacity
  rate_nonneg : 0 ≤ b.rate

/-- What was granted in a window of time, both ends included. -/
def granted (a z : K) (log : List (K × K)) : K :=
  (log.map fun g => if a ≤ g.1 ∧ g.1 ≤ z then g.2 else 0).sum

@[simp] lemma granted_nil (a z : K) : granted a z ([] : List (K × K)) = 0 := rfl

@[simp] lemma granted_append (a z : K) (log log' : List (K × K)) :
    granted a z (log ++ log') = granted a z log + granted a z log' := by
  simp [granted]

@[simp] lemma granted_singleton (a z t amount : K) :
    granted a z [(t, amount)] = if a ≤ t ∧ t ≤ z then amount else 0 := by
  simp [granted]

/-- Nothing was granted after the last grant. -/
lemma granted_of_lt {a z last : K} {log : List (K × K)} (h : ∀ g ∈ log, g.1 ≤ last) (ha : last < a) :
    granted a z log = 0 := by
  refine List.sum_eq_zero fun x hx => ?_
  obtain ⟨g, hg, rfl⟩ := List.mem_map.mp hx
  exact if_neg fun hin => absurd (hin.1.trans (h g hg)) (not_le.mpr ha)

/-- A window that ends after the last grant is as good as an open one. -/
lemma granted_of_le {a z last : K} {log : List (K × K)} (h : ∀ g ∈ log, g.1 ≤ last) (hz : last ≤ z) :
    granted a z log = granted a last log := by
  refine congrArg List.sum (List.map_congr_left fun g hg => ?_)
  have hlast := h g hg
  have hiff : (a ≤ g.1 ∧ g.1 ≤ z) ↔ (a ≤ g.1 ∧ g.1 ≤ last) :=
    and_congr_right fun _ => iff_of_true (hlast.trans hz) hlast
  rw [if_congr hiff rfl rfl]

/-! ## Filling -/

variable {b : TokenBucket K} {now : K}

@[simp] lemma refill_rate : (b.refill now).rate = b.rate := by
  unfold refill
  split <;> rfl

@[simp] lemma refill_capacity : (b.refill now).capacity = b.capacity := by
  unfold refill
  split <;> rfl

/-- A bucket is filled up to the present. -/
lemma refill_last (h : b.last ≤ now) : (b.refill now).last = now := by
  unfold refill
  split
  · rfl
  · rename_i hlt
    exact le_antisymm h (not_lt.mp hlt)

/-- At most what flows in is added. -/
lemma refill_tokens_le (h : b.last ≤ now) :
    (b.refill now).tokens ≤ b.tokens + (now - b.last) * b.rate := by
  unfold refill
  split
  · exact min_le_right _ _
  · rename_i hlt
    rw [le_antisymm (not_lt.mp hlt) h, sub_self, zero_mul, add_zero]

variable [IsStrictOrderedRing K]

lemma Sound.refill (h : b.Sound) (now : K) : (b.refill now).Sound := by
  unfold TokenBucket.refill
  split
  · rename_i hlt
    have hinflow : 0 ≤ (now - b.last) * b.rate :=
      mul_nonneg (sub_nonneg.mpr hlt.le) h.rate_nonneg
    refine ⟨le_min (h.nonneg.trans h.le_capacity) ?_, min_le_left _ _, h.rate_nonneg⟩
    exact add_nonneg h.nonneg hinflow
  · exact h

/-- Tokens that are there can be taken. -/
lemma Sound.take (h : b.Sound) {amount : K} (hnonneg : 0 ≤ amount) (hle : amount ≤ b.tokens) :
    (b.take amount).Sound :=
  ⟨sub_nonneg.mpr hle, (sub_le_self _ hnonneg).trans h.le_capacity, h.rate_nonneg⟩

/-! ## What a bucket grants -/

/-- A bucket and the log of its grants. -/
structure Metered (b : TokenBucket K) (log : List (K × K)) : Prop where
  sound : b.Sound
  /-- Grants are not negative, and in the past. -/
  past : ∀ g ∈ log, g.1 ≤ b.last ∧ 0 ≤ g.2
  /-- What was granted since some time and the tokens that are left do not exceed what was in the
  bucket and what flowed in. -/
  since : ∀ a, a ≤ b.last → granted a b.last log + b.tokens ≤ b.capacity + b.rate * (b.last - a)
  /-- In every window a bucket grants at most its capacity and what flows in. -/
  window : ∀ a z, a ≤ z → granted a z log ≤ b.capacity + b.rate * (z - a)

/-- A bucket that has granted nothing. -/
lemma Metered.new (h : b.Sound) : Metered b [] where
  sound := h
  past := nofun
  since a ha := by
    have hinflow : 0 ≤ b.rate * (b.last - a) := mul_nonneg h.rate_nonneg (sub_nonneg.mpr ha)
    rw [granted_nil]
    linarith [h.le_capacity]
  window a z ha := by
    have hinflow : 0 ≤ b.rate * (z - a) := mul_nonneg h.rate_nonneg (sub_nonneg.mpr ha)
    rw [granted_nil]
    linarith [h.nonneg, h.le_capacity]

/-- Filling keeps the account. -/
lemma Metered.refill {log : List (K × K)} (h : Metered b log) (hnow : b.last ≤ now) :
    Metered (b.refill now) log where
  sound := h.sound.refill now
  past g hg := ⟨(h.past g hg).1.trans (hnow.trans (refill_last hnow).ge), (h.past g hg).2⟩
  since a ha := by
    have hle := (h.sound.refill now).le_capacity
    have htokens := refill_tokens_le hnow
    rw [refill_capacity] at hle
    rw [refill_last hnow] at ha ⊢
    rw [refill_capacity, refill_rate]
    rcases le_or_gt a b.last with hold | hnew
    · rw [granted_of_le (fun g hg => (h.past g hg).1) hnow]
      linarith [h.since a hold, mul_comm (now - b.last) b.rate]
    · -- nothing was granted since then
      have hinflow : 0 ≤ b.rate * (now - a) := mul_nonneg h.sound.rate_nonneg (sub_nonneg.mpr ha)
      rw [granted_of_lt (fun g hg => (h.past g hg).1) hnew]
      linarith
  window a z ha := by
    rw [refill_capacity, refill_rate]
    exact h.window a z ha

/-- Granting tokens that are there keeps the account. -/
lemma Metered.take {log : List (K × K)} (h : Metered b log) {amount : K} (hnonneg : 0 ≤ amount)
    (hle : amount ≤ b.tokens) : Metered (b.take amount) (log ++ [(b.last, amount)]) where
  sound := h.sound.take hnonneg hle
  past g hg := by
    rcases List.mem_append.mp hg with hg | hg
    · exact h.past g hg
    · obtain rfl := List.mem_singleton.mp hg
      exact ⟨le_rfl, hnonneg⟩
  since a ha := by
    have hsince := h.since a ha
    change granted a b.last _ + (b.tokens - amount) ≤ b.capacity + b.rate * (b.last - a)
    rw [granted_append, granted_singleton, if_pos ⟨ha, le_rfl⟩]
    linarith
  window a z ha := by
    change granted a z _ ≤ b.capacity + b.rate * (z - a)
    rw [granted_append, granted_singleton]
    by_cases hin : a ≤ b.last ∧ b.last ≤ z
    · -- the window has the present in it, so it has all grants since it began
      have hmore : b.rate * (b.last - a) ≤ b.rate * (z - a) :=
        mul_le_mul_of_nonneg_left (sub_le_sub_right hin.2 a) h.sound.rate_nonneg
      rw [if_pos hin, granted_of_le (fun g hg => (h.past g hg).1) hin.2]
      linarith [h.since a hin.1]
    · rw [if_neg hin, add_zero]
      exact h.window a z ha

end TokenBucket

end Lib
