import Mathlib.Data.List.Nodup
import Mathlib.Data.List.Lookmap
import Mathlib.Algebra.BigOperators.Group.Finset.Basic
import Mathlib.Algebra.Order.Ring.Int

/-!
# Insertion-ordered dictionaries

An insertion-ordered dictionary is a list of key/value pairs in which no key occurs
twice.  Assigning to a present key replaces its value in place, assigning to an absent
key appends a pair at the end, and deleting a key keeps the order of the others.  The
operations are given first on raw association lists and then on the structure `Dict`,
which carries the absence of duplicate keys as a field.
-/

namespace Lib

variable {κ ν μ : Type*} [DecidableEq κ]

/-! ## Association lists -/

namespace Assoc

/-- Assignment: replace the value of `k` in place, or append the pair at the end. -/
def set : List (κ × ν) → κ → ν → List (κ × ν)
  | [], k, v => [(k, v)]
  | (k', v') :: l, k, v => if k' = k then (k, v) :: l else (k', v') :: set l k v

/-- Deletion of a key. -/
def erase (l : List (κ × ν)) (k : κ) : List (κ × ν) := l.filter fun e => e.1 ≠ k

omit [DecidableEq κ] in
lemma lookup_cons_eq [BEq κ] [LawfulBEq κ] (k : κ) (v : ν) (l : List (κ × ν)) :
    List.lookup k ((k, v) :: l) = some v := by
  simp

lemma lookup_cons_ne {k k' : κ} (h : k' ≠ k) (v : ν) (l : List (κ × ν)) :
    List.lookup k ((k', v) :: l) = List.lookup k l := by
  have : (k == k') = false := by simpa using Ne.symm h
  simp [List.lookup_cons, this]

@[simp] lemma lookup_set_self (l : List (κ × ν)) (k : κ) (v : ν) :
    List.lookup k (set l k v) = some v := by
  induction l with
  | nil => exact lookup_cons_eq k v []
  | cons e l ih =>
    obtain ⟨k', v'⟩ := e
    by_cases h : k' = k
    · simp [set, h]
    · rw [set, if_neg h, lookup_cons_ne h, ih]

lemma lookup_set_ne {k k' : κ} (h : k' ≠ k) (l : List (κ × ν)) (v : ν) :
    List.lookup k' (set l k v) = List.lookup k' l := by
  induction l with
  | nil => exact lookup_cons_ne (Ne.symm h) v []
  | cons e l ih =>
    obtain ⟨k₀, v₀⟩ := e
    by_cases h₀ : k₀ = k
    · subst h₀
      rw [set, if_pos rfl, lookup_cons_ne (Ne.symm h), lookup_cons_ne (Ne.symm h)]
    · rw [set, if_neg h₀]
      by_cases h₁ : k₀ = k'
      · subst h₁
        rw [lookup_cons_eq, lookup_cons_eq]
      · rw [lookup_cons_ne h₁, lookup_cons_ne h₁, ih]

lemma set_set (l : List (κ × ν)) (k : κ) (v w : ν) : set (set l k v) k w = set l k w := by
  induction l with
  | nil => simp [set]
  | cons e l ih =>
    obtain ⟨k', v'⟩ := e
    by_cases h : k' = k
    · simp [set, h]
    · simp [set, h, ih]

lemma lookup_set (l : List (κ × ν)) (k k' : κ) (v : ν) :
    List.lookup k' (set l k v) = if k' = k then some v else List.lookup k' l := by
  by_cases h : k' = k
  · subst h; simp
  · rw [lookup_set_ne h, if_neg h]

/-- Assigning the value a key already has changes nothing, and nothing else does. -/
lemma set_eq_self_iff {l : List (κ × ν)} {k : κ} {v : ν} :
    set l k v = l ↔ List.lookup k l = some v := by
  constructor
  · intro h
    rw [← h, lookup_set_self]
  · intro h
    induction l with
    | nil => simp at h
    | cons e l ih =>
      obtain ⟨k', v'⟩ := e
      by_cases hk : k' = k
      · subst hk
        rw [lookup_cons_eq] at h
        simp [set, Option.some.inj h]
      · rw [lookup_cons_ne hk] at h
        rw [set, if_neg hk, ih h]

lemma mem_keys_iff {l : List (κ × ν)} {k : κ} :
    k ∈ l.map Prod.fst ↔ ∃ v, List.lookup k l = some v := by
  induction l with
  | nil => simp
  | cons e l ih =>
    obtain ⟨k', v'⟩ := e
    by_cases h : k' = k
    · subst h
      simp
    · rw [lookup_cons_ne h, List.map_cons, List.mem_cons, ← ih]
      simp [Ne.symm h]

lemma lookup_eq_none_iff {l : List (κ × ν)} {k : κ} :
    List.lookup k l = none ↔ k ∉ l.map Prod.fst := by
  rw [mem_keys_iff, not_exists, Option.eq_none_iff_forall_ne_some]

lemma mem_of_lookup {l : List (κ × ν)} {k : κ} {v : ν} (h : List.lookup k l = some v) :
    (k, v) ∈ l := by
  induction l with
  | nil => simp at h
  | cons e l ih =>
    obtain ⟨k', v'⟩ := e
    by_cases hk : k' = k
    · subst hk
      rw [lookup_cons_eq] at h
      simp [Option.some.inj h]
    · rw [lookup_cons_ne hk] at h
      exact List.mem_cons_of_mem _ (ih h)

lemma lookup_of_mem {l : List (κ × ν)} (hnd : (l.map Prod.fst).Nodup) {k : κ} {v : ν}
    (h : (k, v) ∈ l) : List.lookup k l = some v := by
  induction l with
  | nil => simp at h
  | cons e l ih =>
    obtain ⟨k', v'⟩ := e
    simp only [List.map_cons, List.nodup_cons] at hnd
    rcases List.mem_cons.mp h with h | h
    · obtain ⟨rfl, rfl⟩ := Prod.mk.inj h
      rw [lookup_cons_eq]
    · have hne : k' ≠ k := by
        rintro rfl
        exact hnd.1 (List.mem_map_of_mem (f := Prod.fst) h)
      rw [lookup_cons_ne hne, ih hnd.2 h]

/-- Assignment keeps the keys when the key is present. -/
lemma keys_set_of_mem {l : List (κ × ν)} {k : κ} (h : k ∈ l.map Prod.fst) (v : ν) :
    (set l k v).map Prod.fst = l.map Prod.fst := by
  induction l with
  | nil => simp at h
  | cons e l ih =>
    obtain ⟨k', v'⟩ := e
    by_cases hk : k' = k
    · simp [set, hk]
    · have hmem : k ∈ l.map Prod.fst := by simpa [Ne.symm hk] using h
      simp [set, hk, ih hmem]

/-- Assignment to an absent key appends. -/
lemma set_of_notMem {l : List (κ × ν)} {k : κ} (h : k ∉ l.map Prod.fst) (v : ν) :
    set l k v = l ++ [(k, v)] := by
  induction l with
  | nil => rfl
  | cons e l ih =>
    obtain ⟨k', v'⟩ := e
    simp only [List.map_cons, List.mem_cons, not_or] at h
    rw [set, if_neg (Ne.symm h.1), ih h.2, List.cons_append]

lemma perm_values_set {l : List (κ × ν)} {k : κ} {v₀ : ν} (h : List.lookup k l = some v₀) (v : ν) :
    (v₀ :: (set l k v).map Prod.snd).Perm (v :: l.map Prod.snd) := by
  induction l with
  | nil => simp at h
  | cons e l ih =>
    obtain ⟨k', v'⟩ := e
    by_cases hk : k' = k
    · subst hk
      rw [lookup_cons_eq] at h
      obtain rfl := Option.some.inj h
      rw [set, if_pos rfl]
      exact .swap _ _ _
    · rw [lookup_cons_ne hk] at h
      rw [set, if_neg hk]
      -- the head is not touched, and moves past both values
      exact (List.Perm.swap _ _ _).trans (((ih h).cons v').trans (.swap _ _ _))

lemma nodup_set {l : List (κ × ν)} (hnd : (l.map Prod.fst).Nodup) (k : κ) (v : ν) :
    ((set l k v).map Prod.fst).Nodup := by
  by_cases h : k ∈ l.map Prod.fst
  · rw [keys_set_of_mem h]
    exact hnd
  · rw [set_of_notMem h, List.map_append, List.nodup_append]
    refine ⟨hnd, by simp, ?_⟩
    intro a ha b hb
    simp only [List.map_cons, List.map_nil, List.mem_singleton] at hb
    subst hb
    rintro rfl
    exact h ha

lemma lookup_erase_self (l : List (κ × ν)) (k : κ) : List.lookup k (erase l k) = none := by
  rw [lookup_eq_none_iff]
  simp [erase]

lemma lookup_erase_ne {k k' : κ} (h : k' ≠ k) (l : List (κ × ν)) :
    List.lookup k' (erase l k) = List.lookup k' l := by
  induction l with
  | nil => rfl
  | cons e l ih =>
    obtain ⟨k₀, v₀⟩ := e
    by_cases h₀ : k₀ = k
    · subst h₀
      have : erase ((k₀, v₀) :: l) k₀ = erase l k₀ := by simp [erase]
      rw [this, ih, lookup_cons_ne (Ne.symm h)]
    · have : erase ((k₀, v₀) :: l) k = (k₀, v₀) :: erase l k := by simp [erase, h₀]
      rw [this]
      by_cases h₁ : k₀ = k'
      · subst h₁
        rw [lookup_cons_eq, lookup_cons_eq]
      · rw [lookup_cons_ne h₁, lookup_cons_ne h₁, ih]

lemma nodup_erase {l : List (κ × ν)} (hnd : (l.map Prod.fst).Nodup) (k : κ) :
    ((erase l k).map Prod.fst).Nodup :=
  hnd.sublist (List.filter_sublist.map _)

/-- Mapping the values leaves the keys alone. -/
def mapVal (f : κ → ν → μ) (l : List (κ × ν)) : List (κ × μ) := l.map fun e => (e.1, f e.1 e.2)

omit [DecidableEq κ] in
@[simp] lemma keys_mapVal (f : κ → ν → μ) (l : List (κ × ν)) :
    (mapVal f l).map Prod.fst = l.map Prod.fst := by
  simp [mapVal, Function.comp_def]

lemma lookup_mapVal (f : κ → ν → μ) (l : List (κ × ν)) (k : κ) :
    List.lookup k (mapVal f l) = (List.lookup k l).map (f k) := by
  induction l with
  | nil => rfl
  | cons e l ih =>
    obtain ⟨k', v'⟩ := e
    have hcons : mapVal f ((k', v') :: l) = (k', f k' v') :: mapVal f l := rfl
    by_cases h : k' = k
    · subst h
      rw [hcons, lookup_cons_eq, lookup_cons_eq, Option.map_some]
    · rw [hcons, lookup_cons_ne h, lookup_cons_ne h, ih]

end Assoc

/-! ## Dictionaries -/

/-- An insertion-ordered dictionary: an association list without duplicate keys. -/
@[ext] structure Dict (κ ν : Type*) where
  /-- The pairs, oldest key first. -/
  entries : List (κ × ν)
  /-- No key occurs twice. -/
  nodup : (entries.map Prod.fst).Nodup

namespace Dict

instance [DecidableEq ν] : DecidableEq (Dict κ ν) := fun d d' =>
  decidable_of_iff (d.entries = d'.entries) Dict.ext_iff.symm

/-- The empty dictionary. -/
def empty : Dict κ ν := ⟨[], by simp⟩

instance : Inhabited (Dict κ ν) := ⟨empty⟩

/-- The keys, oldest first. -/
def keys (d : Dict κ ν) : List κ := d.entries.map Prod.fst

/-- The values, in key order. -/
def values (d : Dict κ ν) : List ν := d.entries.map Prod.snd

/-- The value of a key. -/
def get? (d : Dict κ ν) (k : κ) : Option ν := d.entries.lookup k

/-- Whether a key is present. -/
def contains (d : Dict κ ν) (k : κ) : Bool := (d.get? k).isSome

/-- Assignment to a key. -/
def set (d : Dict κ ν) (k : κ) (v : ν) : Dict κ ν :=
  ⟨Assoc.set d.entries k v, Assoc.nodup_set d.nodup k v⟩

/-- Deletion of a key. -/
def erase (d : Dict κ ν) (k : κ) : Dict κ ν :=
  ⟨Assoc.erase d.entries k, Assoc.nodup_erase d.nodup k⟩

/-- In-place update of the value of a key that is present. -/
def modify (d : Dict κ ν) (k : κ) (f : ν → ν) : Dict κ ν :=
  match d.get? k with
  | none => d
  | some v => d.set k (f v)

/-- In-place update of every value. -/
def mapVal (f : κ → ν → μ) (d : Dict κ ν) : Dict κ μ :=
  ⟨Assoc.mapVal f d.entries, by rw [Assoc.keys_mapVal]; exact d.nodup⟩

/-- The dictionary of a list of pairs; a later pair overrides an earlier one. -/
def ofList (l : List (κ × ν)) : Dict κ ν := l.foldl (fun d e => d.set e.1 e.2) empty

@[simp] lemma get?_empty (k : κ) : (empty : Dict κ ν).get? k = none := rfl

@[simp] lemma get?_set_self (d : Dict κ ν) (k : κ) (v : ν) : (d.set k v).get? k = some v :=
  Assoc.lookup_set_self _ _ _

@[simp] lemma set_set (d : Dict κ ν) (k : κ) (v w : ν) : (d.set k v).set k w = d.set k w :=
  Dict.ext (Assoc.set_set d.entries k v w)

lemma get?_set_ne {k k' : κ} (h : k' ≠ k) (d : Dict κ ν) (v : ν) :
    (d.set k v).get? k' = d.get? k' :=
  Assoc.lookup_set_ne h _ _

lemma get?_set (d : Dict κ ν) (k k' : κ) (v : ν) :
    (d.set k v).get? k' = if k' = k then some v else d.get? k' :=
  Assoc.lookup_set _ _ _ _

@[simp] lemma get?_erase_self (d : Dict κ ν) (k : κ) : (d.erase k).get? k = none :=
  Assoc.lookup_erase_self _ _

lemma get?_erase_ne {k k' : κ} (h : k' ≠ k) (d : Dict κ ν) :
    (d.erase k).get? k' = d.get? k' :=
  Assoc.lookup_erase_ne h _

lemma get?_erase (d : Dict κ ν) (k k' : κ) :
    (d.erase k).get? k' = if k' = k then none else d.get? k' := by
  by_cases h : k' = k
  · subst h; simp
  · rw [get?_erase_ne h, if_neg h]

@[simp] lemma get?_mapVal (f : κ → ν → μ) (d : Dict κ ν) (k : κ) :
    (d.mapVal f).get? k = (d.get? k).map (f k) :=
  Assoc.lookup_mapVal _ _ _

lemma get?_modify (d : Dict κ ν) (k k' : κ) (f : ν → ν) :
    (d.modify k f).get? k' = if k' = k then (d.get? k).map f else d.get? k' := by
  unfold modify
  cases h : d.get? k with
  | none =>
    by_cases hk : k' = k
    · subst hk; simp [h]
    · simp [hk]
  | some v => simp [get?_set]

lemma modify_of_some {d : Dict κ ν} {k : κ} {v : ν} (h : d.get? k = some v) (f : ν → ν) :
    d.modify k f = d.set k (f v) := by
  simp [modify, h]

lemma modify_of_none {d : Dict κ ν} {k : κ} (h : d.get? k = none) (f : ν → ν) :
    d.modify k f = d := by
  simp [modify, h]

@[simp] lemma contains_modify (d : Dict κ ν) (k k' : κ) (f : ν → ν) :
    (d.modify k f).contains k' = d.contains k' := by
  unfold contains
  rw [get?_modify]
  split
  · rename_i h
    rw [h, Option.isSome_map]
  · rfl

lemma set_eq_self_iff {d : Dict κ ν} {k : κ} {v : ν} : d.set k v = d ↔ d.get? k = some v := by
  rw [Dict.ext_iff]
  exact Assoc.set_eq_self_iff

lemma contains_iff {d : Dict κ ν} {k : κ} : d.contains k = true ↔ ∃ v, d.get? k = some v := by
  simp [contains, Option.isSome_iff_exists]

lemma contains_eq_false_iff {d : Dict κ ν} {k : κ} : d.contains k = false ↔ d.get? k = none := by
  simp [contains]

lemma mem_keys_iff {d : Dict κ ν} {k : κ} : k ∈ d.keys ↔ ∃ v, d.get? k = some v :=
  Assoc.mem_keys_iff

lemma mem_entries_iff {d : Dict κ ν} {k : κ} {v : ν} : (k, v) ∈ d.entries ↔ d.get? k = some v :=
  ⟨Assoc.lookup_of_mem d.nodup, Assoc.mem_of_lookup⟩

lemma mem_values_iff {d : Dict κ ν} {v : ν} : v ∈ d.values ↔ ∃ k, d.get? k = some v := by
  simp [values, ← mem_entries_iff]

lemma entries_set_of_none {d : Dict κ ν} {k : κ} (h : d.get? k = none) (v : ν) :
    (d.set k v).entries = d.entries ++ [(k, v)] :=
  Assoc.set_of_notMem (Assoc.lookup_eq_none_iff.mp h) v

omit [DecidableEq κ] in
@[simp] lemma keys_mapVal (f : κ → ν → μ) (d : Dict κ ν) : (d.mapVal f).keys = d.keys :=
  Assoc.keys_mapVal _ _

/-- A dictionary of pairs with different keys has these pairs, in their order. -/
lemma entries_ofList {l : List (κ × ν)} (hnd : (l.map Prod.fst).Nodup) : (ofList l).entries = l := by
  have hfold : ∀ (l : List (κ × ν)) (d : Dict κ ν), ((d.entries ++ l).map Prod.fst).Nodup →
      (l.foldl (fun d e => d.set e.1 e.2) d).entries = d.entries ++ l := by
    intro l
    induction l with
    | nil => simp
    | cons e l ih =>
      intro d hd
      have hfree : d.get? e.1 = none := by
        refine Assoc.lookup_eq_none_iff.mpr fun hmem => ?_
        rw [List.map_append, List.map_cons] at hd
        exact (List.nodup_append.mp hd).2.2 e.1 hmem e.1 List.mem_cons_self rfl
      have hset := entries_set_of_none hfree e.2
      rw [List.foldl_cons, ih (d.set e.1 e.2) (by rw [hset]; simpa using hd), hset]
      simp
  exact hfold l empty (by simpa [empty] using hnd)

/-- What a dictionary of pairs has is one of the pairs. -/
lemma mem_of_get?_ofList {l : List (κ × ν)} {k : κ} {v : ν} (h : (ofList l).get? k = some v) :
    (k, v) ∈ l := by
  have hfold : ∀ (l : List (κ × ν)) (d : Dict κ ν),
      (l.foldl (fun d e => d.set e.1 e.2) d).get? k = some v → (k, v) ∈ l ∨ d.get? k = some v := by
    intro l
    induction l with
    | nil => exact fun d hd => .inr hd
    | cons e l ih =>
      intro d hd
      rcases ih _ hd with hmem | hset
      · exact .inl (List.mem_cons_of_mem e hmem)
      · rw [get?_set] at hset
        split at hset
        · rename_i hk
          obtain rfl := Option.some.inj hset
          exact .inl (by rw [hk]; exact List.mem_cons_self)
        · exact .inr hset
  exact (hfold l empty h).resolve_right (by simp)

lemma values_set_of_none {d : Dict κ ν} {k : κ} (h : d.get? k = none) (v : ν) :
    (d.set k v).values = d.values ++ [v] := by
  simp [values, entries_set_of_none h]

/-- Up to their order, the values after an assignment to a present key are the others and the
new one. -/
lemma perm_values_set {d : Dict κ ν} {k : κ} {v₀ : ν} (h : d.get? k = some v₀) (v : ν) :
    (v₀ :: (d.set k v).values).Perm (v :: d.values) :=
  Assoc.perm_values_set h v

/-! ## Sums over the values -/

/-- The sum of a weight over the values. -/
def sumBy (w : ν → ℤ) (d : Dict κ ν) : ℤ := (d.values.map w).sum

omit [DecidableEq κ] in
@[simp] lemma sumBy_empty (w : ν → ℤ) : sumBy w (empty : Dict κ ν) = 0 := rfl

lemma sumBy_set_of_none {d : Dict κ ν} {k : κ} (h : d.get? k = none) (w : ν → ℤ) (v : ν) :
    (d.set k v).sumBy w = d.sumBy w + w v := by
  simp [sumBy, values, entries_set_of_none h]

/-- Replacing a value changes the sum by the new weight minus the old one. -/
lemma sumBy_set_of_some {d : Dict κ ν} {k : κ} {v₀ : ν} (h : d.get? k = some v₀) (w : ν → ℤ)
    (v : ν) : (d.set k v).sumBy w = d.sumBy w - w v₀ + w v := by
  have hsum := ((perm_values_set h v).map w).sum_eq
  simp only [List.map_cons, List.sum_cons] at hsum
  unfold sumBy
  omega

/-- A sum over the values is a sum over any set of keys that has all the keys. -/
lemma sumBy_eq_sum {d : Dict κ ν} (w : ν → ℤ) {s : Finset κ} (h : ∀ k ∈ d.keys, k ∈ s) :
    d.sumBy w = ∑ k ∈ s, (d.get? k).elim 0 w := by
  have hkeys : d.sumBy w = (d.keys.map fun k => (d.get? k).elim 0 w).sum := by
    unfold sumBy values keys
    rw [List.map_map, List.map_map]
    congr 1
    apply List.map_congr_left
    intro e he
    simp [mem_entries_iff.mp (show (e.1, e.2) ∈ d.entries from he)]
  have hsum : ∑ k ∈ d.keys.toFinset, (d.get? k).elim 0 w =
      (d.keys.map fun k => (d.get? k).elim 0 w).sum := List.sum_toFinset _ d.nodup
  rw [hkeys, ← hsum]
  refine Finset.sum_subset (fun k hk => h k (List.mem_toFinset.mp hk)) fun k _ hk => ?_
  cases hv : d.get? k with
  | none => rfl
  | some v => exact absurd (List.mem_toFinset.mpr (mem_keys_iff.mpr ⟨v, hv⟩)) hk

/-- Two dictionaries with the same weight at every key have the same sum. -/
lemma sumBy_congr {d d' : Dict κ ν} {w : ν → ℤ}
    (h : ∀ k, (d.get? k).elim 0 w = (d'.get? k).elim 0 w) : d.sumBy w = d'.sumBy w := by
  have hleft : ∀ k ∈ d.keys, k ∈ d.keys.toFinset ∪ d'.keys.toFinset := by simp +contextual
  have hright : ∀ k ∈ d'.keys, k ∈ d.keys.toFinset ∪ d'.keys.toFinset := by simp +contextual
  rw [sumBy_eq_sum w hleft, sumBy_eq_sum w hright]
  exact Finset.sum_congr rfl fun k _ => h k

end Dict

end Lib
