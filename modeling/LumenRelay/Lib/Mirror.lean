import Mathlib.Data.List.Nodup
import Mathlib.Logic.Function.Basic

/-!
# Two-way membership

A redundant representation of a partial function from items to groups: every item names the
group it is in, and every group lists its items.  `Mirror` says that the two sides agree.
The operations `remove`, `attach`, `move`, `drop`, `found` and `regroup` change both sides
together and keep the agreement; a system that stores the two sides in different places is
proved consistent by showing that each of its operations does one of these.
-/

namespace Lib

variable {L S : Type*} [DecidableEq L] [DecidableEq S]

/-- The two sides of a two-way membership: the group an item names, and the items a group
lists (`none` when there is no such group). -/
@[ext] structure Groups (L S : Type*) where
  /-- The group an item names. -/
  owner : L → Option S
  /-- The items a group lists. -/
  members : S → Option (List L)

/-- The two sides agree: a group lists exactly the items that name it, each once, and an item
names only a group that exists. -/
structure Mirror (g : Groups L S) : Prop where
  listed_iff : ∀ l s ids, g.members s = some ids → (l ∈ ids ↔ g.owner l = some s)
  nodup : ∀ s ids, g.members s = some ids → ids.Nodup
  exists_group : ∀ l s, g.owner l = some s → ∃ ids, g.members s = some ids

namespace Groups

/-- Take an item out of the group it names. -/
def remove (g : Groups L S) (l : L) : Groups L S where
  owner := Function.update g.owner l none
  members s := (g.members s).map fun ids => if g.owner l = some s then ids.erase l else ids

/-- Put an item at the end of a group's list, unless the list has it already. -/
def attach (g : Groups L S) (l : L) (s : S) : Groups L S where
  owner := Function.update g.owner l (some s)
  members t := (g.members t).map fun ids =>
    if t = s then if l ∈ ids then ids else ids ++ [l] else ids

/-- Move an item to a group. -/
def move (g : Groups L S) (l : L) (s : S) : Groups L S := (g.remove l).attach l s

/-- Delete a group; the items that named it name none. -/
def drop (g : Groups L S) (s : S) : Groups L S where
  owner l := if g.owner l = some s then none else g.owner l
  members := Function.update g.members s none

/-- Add an empty group. -/
def found (g : Groups L S) (s : S) : Groups L S where
  owner := g.owner
  members := Function.update g.members s (some [])

/-- Give a group a new list; items of the list leave their groups for it, and items of the
old list that are not in the new one leave it for none. -/
def regroup (g : Groups L S) (s : S) (ids : List L) : Groups L S where
  owner l := if l ∈ ids then some s else if g.owner l = some s then none else g.owner l
  members t := if t = s then some ids else (g.members t).map fun old =>
    old.filter fun l => l ∉ ids

variable {g : Groups L S} {l : L} {s : S}

omit [DecidableEq L] [DecidableEq S] in
/-- Two items are in one group's list only if they name the same group. -/
lemma owner_of_mem (h : Mirror g) {ids : List L} (hs : g.members s = some ids) (hl : l ∈ ids) :
    g.owner l = some s :=
  (h.listed_iff l s ids hs).mp hl

lemma mirror_remove (h : Mirror g) (l : L) : Mirror (g.remove l) := by
  refine ⟨?_, ?_, ?_⟩
  · intro l' s ids hs
    simp only [remove, Option.map_eq_some_iff] at hs
    obtain ⟨old, hold, rfl⟩ := hs
    have hnd := h.nodup s old hold
    by_cases hl : l' = l
    · subst hl
      have : (g.remove l').owner l' = none := by simp [remove]
      rw [this]
      split_ifs with ho
      · simp [hnd.mem_erase_iff]
      · simpa using fun hmem => ho (owner_of_mem h hold hmem)
    · have : (g.remove l).owner l' = g.owner l' := by simp [remove, hl]
      rw [this, ← h.listed_iff l' s old hold]
      split_ifs
      · simp [hnd.mem_erase_iff, hl]
      · rfl
  · intro s ids hs
    simp only [remove, Option.map_eq_some_iff] at hs
    obtain ⟨old, hold, rfl⟩ := hs
    have hnd := h.nodup s old hold
    split_ifs
    · exact hnd.erase l
    · exact hnd
  · intro l' s hs
    have hne : l' ≠ l := by
      rintro rfl
      simp [remove] at hs
    have : g.owner l' = some s := by simpa [remove, hne] using hs
    obtain ⟨ids, hids⟩ := h.exists_group l' s this
    exact ⟨_, congrArg (Option.map _) hids⟩

/-- Attaching an item that names no group, to a group that exists. -/
lemma mirror_attach (h : Mirror g) (hl : g.owner l = none) {ids : List L}
    (hs : g.members s = some ids) : Mirror (g.attach l s) := by
  have hfree : ∀ t old, g.members t = some old → l ∉ old := by
    intro t old hold hmem
    simpa [hl] using owner_of_mem h hold hmem
  refine ⟨?_, ?_, ?_⟩
  · intro l' t new hnew
    simp only [attach, Option.map_eq_some_iff] at hnew
    obtain ⟨old, hold, rfl⟩ := hnew
    have hnot := hfree t old hold
    by_cases hl' : l' = l
    · subst hl'
      have : (g.attach l' s).owner l' = some s := by simp [attach]
      rw [this]
      by_cases ht : t = s
      · subst ht; simp [hnot]
      · simp [ht, hnot, Ne.symm ht]
    · have : (g.attach l s).owner l' = g.owner l' := by simp [attach, hl']
      rw [this, ← h.listed_iff l' t old hold]
      by_cases ht : t = s
      · subst ht; simp [hnot, hl']
      · simp [ht]
  · intro t new hnew
    simp only [attach, Option.map_eq_some_iff] at hnew
    obtain ⟨old, hold, rfl⟩ := hnew
    have hnd := h.nodup t old hold
    have hnot := hfree t old hold
    by_cases ht : t = s
    · subst ht
      simp only [if_true, if_neg hnot]
      rw [List.nodup_append]
      refine ⟨hnd, by simp, ?_⟩
      intro a ha b hb
      obtain rfl := List.mem_singleton.mp hb
      rintro rfl
      exact hnot ha
    · simpa [ht] using hnd
  · intro l' t ht
    by_cases hl' : l' = l
    · subst hl'
      have : t = s := by simpa [attach, eq_comm] using ht
      subst this
      exact ⟨_, congrArg (Option.map _) hs⟩
    · have : g.owner l' = some t := by simpa [attach, hl'] using ht
      obtain ⟨old, hold⟩ := h.exists_group l' t this
      exact ⟨_, congrArg (Option.map _) hold⟩

lemma mirror_move (h : Mirror g) {ids : List L} (hs : g.members s = some ids) (l : L) :
    Mirror (g.move l s) := by
  have hmembers : (g.remove l).members s = some (if g.owner l = some s then ids.erase l else ids) := by
    simp [remove, hs]
  exact mirror_attach (mirror_remove h l) (by simp [remove]) hmembers

omit [DecidableEq L] in
lemma mirror_drop (h : Mirror g) (s : S) : Mirror (g.drop s) := by
  refine ⟨?_, ?_, ?_⟩
  · intro l t ids ht
    have hts : t ≠ s := by
      rintro rfl
      simp [drop] at ht
    have hmem : g.members t = some ids := by simpa [drop, hts] using ht
    rw [h.listed_iff l t ids hmem]
    by_cases ho : g.owner l = some s
    · simp [drop, ho, Ne.symm hts]
    · simp [drop, ho]
  · intro t ids ht
    have hts : t ≠ s := by
      rintro rfl
      simp [drop] at ht
    exact h.nodup t ids (by simpa [drop, hts] using ht)
  · intro l t ht
    by_cases ho : g.owner l = some s
    · simp [drop, ho] at ht
    · have hot : g.owner l = some t := by simpa [drop, ho] using ht
      obtain ⟨ids, hids⟩ := h.exists_group l t hot
      have hts : t ≠ s := by
        rintro rfl
        exact ho hot
      exact ⟨ids, by simpa [drop, hts] using hids⟩

omit [DecidableEq L] in
lemma mirror_found (h : Mirror g) (hs : g.members s = none) : Mirror (g.found s) := by
  refine ⟨?_, ?_, ?_⟩
  · intro l t ids ht
    by_cases hts : t = s
    · subst hts
      have hids : ids = [] := by simpa [found, eq_comm] using ht
      subst hids
      have : g.owner l ≠ some t := by
        intro ho
        obtain ⟨ids, hids⟩ := h.exists_group l t ho
        simp [hs] at hids
      simpa [found] using this
    · exact h.listed_iff l t ids (by simpa [found, hts] using ht)
  · intro t ids ht
    by_cases hts : t = s
    · subst hts
      have hids : ids = [] := by simpa [found, eq_comm] using ht
      simp [hids]
    · exact h.nodup t ids (by simpa [found, hts] using ht)
  · intro l t ht
    obtain ⟨ids, hids⟩ := h.exists_group l t ht
    have hts : t ≠ s := by
      rintro rfl
      simp [hs] at hids
    exact ⟨ids, by simpa [found, hts] using hids⟩

lemma mirror_regroup (h : Mirror g) {old new : List L} (hs : g.members s = some old)
    (hnd : new.Nodup) : Mirror (g.regroup s new) := by
  refine ⟨?_, ?_, ?_⟩
  · intro l t ids ht
    by_cases hts : t = s
    · subst hts
      have hids : new = ids := by simpa [regroup] using ht
      subst hids
      by_cases hl : l ∈ new
      · simp [regroup, hl]
      · by_cases ho : g.owner l = some t <;> simp [regroup, hl, ho]
    · simp only [regroup, if_neg hts, Option.map_eq_some_iff] at ht
      obtain ⟨ids₀, hids₀, rfl⟩ := ht
      have hiff := h.listed_iff l t ids₀ hids₀
      by_cases hl : l ∈ new
      · simp [regroup, hl, Ne.symm hts]
      · by_cases ho : g.owner l = some s
        · have : l ∉ ids₀ := by
            rw [hiff, ho]
            simpa using Ne.symm hts
          simp [regroup, hl, ho, this]
        · simp [regroup, hl, ho, hiff]
  · intro t ids ht
    by_cases hts : t = s
    · subst hts
      have hids : new = ids := by simpa [regroup] using ht
      subst hids
      exact hnd
    · simp only [regroup, if_neg hts, Option.map_eq_some_iff] at ht
      obtain ⟨ids₀, hids₀, rfl⟩ := ht
      exact (h.nodup t ids₀ hids₀).filter _
  · intro l t ht
    by_cases hts : t = s
    · subst hts
      exact ⟨new, by simp [regroup]⟩
    · have ho : g.owner l = some t := by
        by_cases hl : l ∈ new
        · exact absurd (by simpa [regroup, hl] using ht) (Ne.symm hts)
        · by_cases ho : g.owner l = some s
          · simp [regroup, hl, ho] at ht
          · simpa [regroup, hl, ho] using ht
      obtain ⟨ids, hids⟩ := h.exists_group l t ho
      refine ⟨ids.filter fun l => l ∉ new, ?_⟩
      simp [regroup, hts, hids]

end Groups

end Lib
