import Mathlib.Data.List.Chain

/-!
# Rewriting texts

Two rewritings of texts that work from left to right: each occurrence of a pattern is replaced by a
mark, and each run of unwanted elements is replaced by one separator.  A pattern that cannot be made
up of a mark and its surroundings is nowhere in a text in which it was replaced.
-/

namespace Lib

namespace Rewrite

variable {α : Type} {p m l : List α}

/-! ## Replacing a pattern -/

section Replace

variable [DecidableEq α]

/-- The rest of a text in which a pattern is replaced; so many elements belong to an occurrence that
was replaced. -/
def replaceFrom (p m : List α) : ℕ → List α → List α
  | _, [] => []
  | skip + 1, _ :: l => replaceFrom p m skip l
  | 0, x :: l => if p <+: x :: l then m ++ replaceFrom p m (p.length - 1) l
    else x :: replaceFrom p m 0 l

/-- Replace the occurrences of a pattern that is not empty. -/
def replaceAll (p m l : List α) : List α := replaceFrom p m 0 l

/-- A pattern does not overlap the ends of a mark, and is not in it. -/
structure Apart (p m : List α) : Prop where
  ne_nil : p ≠ []
  first : ∀ a ∈ m.head?, a ∉ p
  last : ∀ b ∈ m.getLast?, b ∉ p
  mark : m ≠ []
  inside : ¬ p <:+: m

/-- What starts an output and has nothing of the mark starts the text. -/
lemma prefix_of_prefix_replaceFrom {q : List α} (hm : m ≠ []) (hq : ∀ a ∈ m.head?, a ∉ q)
    (h : q <+: replaceFrom p m 0 l) : q <+: l := by
  induction l generalizing q with
  | nil => exact h
  | cons x l ih =>
    cases q with
    | nil => exact List.nil_prefix
    | cons y q =>
      rw [replaceFrom] at h
      split at h
      · -- the output starts with the mark
        obtain ⟨a, m', rfl⟩ := List.exists_cons_of_ne_nil hm
        rw [List.cons_append, List.cons_prefix_cons] at h
        exact absurd List.mem_cons_self (h.1 ▸ hq a rfl)
      · rw [List.cons_prefix_cons] at h
        obtain ⟨rfl, h⟩ := h
        refine List.cons_prefix_cons.mpr ⟨rfl, ih (fun a ha hmem => ?_) h⟩
        exact hq a ha (List.mem_cons_of_mem _ hmem)

/-- No occurrence starts where an output starts. -/
lemma not_prefix_replaceFrom (hp : Apart p m) : ¬ p <+: replaceFrom p m 0 l := by
  intro h
  have htext := prefix_of_prefix_replaceFrom hp.mark hp.first h
  cases l with
  | nil => exact hp.ne_nil (List.prefix_nil.mp h)
  | cons x l =>
    -- the occurrence was replaced, and the mark does not start as the pattern does
    rw [replaceFrom, if_pos htext] at h
    obtain ⟨a, m', rfl⟩ := List.exists_cons_of_ne_nil hp.mark
    obtain ⟨b, p', rfl⟩ := List.exists_cons_of_ne_nil hp.ne_nil
    rw [List.cons_append, List.cons_prefix_cons] at h
    exact hp.first a rfl (h.1 ▸ List.mem_cons_self)

omit [DecidableEq α] in
/-- No occurrence starts inside the mark. -/
lemma infix_of_infix_append {r : List α} (hp : Apart p m) (h : p <:+: m ++ r) : p <:+: r := by
  rcases List.infix_append_iff.mp h with h | h | ⟨l₁, l₂, rfl, hl₁, hl₂⟩
  · exact absurd h hp.inside
  · exact h
  · rcases List.eq_nil_or_concat l₁ with rfl | ⟨l, b, rfl⟩
    · exact hl₂.isInfix
    · -- the last element of the mark would be one of the pattern
      obtain ⟨t, rfl⟩ := hl₁
      rw [List.concat_eq_append] at hp
      exact absurd (by simp) (hp.last b (by simp))

/-- **A pattern that is apart from the mark is gone.** -/
theorem not_infix_replaceAll (hp : Apart p m) (l : List α) : ¬ p <:+: replaceAll p m l := by
  have hfrom : ∀ (l : List α) skip, ¬ p <:+: replaceFrom p m skip l := by
    intro l
    induction l with
    | nil =>
      intro skip h
      have hnil : replaceFrom p m skip ([] : List α) = [] := by cases skip <;> rfl
      rw [hnil, List.infix_nil] at h
      exact hp.ne_nil h
    | cons x l ih =>
      intro skip h
      cases skip with
      | succ skip => exact ih skip h
      | zero =>
        have hstart := not_prefix_replaceFrom (l := x :: l) hp
        rw [replaceFrom] at h hstart
        split at h
        · exact ih _ (infix_of_infix_append hp h)
        · rename_i hno
          rw [if_neg hno] at hstart
          rcases List.infix_cons_iff.mp h with h | h
          · exact hstart h
          · exact ih 0 h
  exact hfrom l 0

end Replace

/-! ## Replacing runs -/

section Collapse

variable (keep : α → Bool) (sep : α)

/-- The rest of a text in which runs are replaced; `inRun` says whether a run goes on. -/
def collapseFrom : Bool → List α → List α
  | _, [] => []
  | inRun, x :: l =>
    if keep x then x :: collapseFrom false l
    else if inRun then collapseFrom true l
    else sep :: collapseFrom true l

/-- Replace each run of elements that are not kept by one separator. -/
def collapse (l : List α) : List α := collapseFrom keep sep false l

variable {keep sep}

/-- What is left is kept, or is a separator. -/
lemma mem_collapse {a : α} (h : a ∈ collapse keep sep l) : a = sep ∨ (a ∈ l ∧ keep a = true) := by
  have hfrom : ∀ l inRun, a ∈ collapseFrom keep sep inRun l → a = sep ∨ (a ∈ l ∧ keep a = true) := by
    intro l
    induction l with
    | nil =>
      intro inRun h
      exact absurd h List.not_mem_nil
    | cons x l ih =>
      intro inRun h
      have hrest : ∀ inRun, a ∈ collapseFrom keep sep inRun l →
          a = sep ∨ (a ∈ x :: l ∧ keep a = true) := fun inRun h =>
        (ih inRun h).imp_right fun h => ⟨List.mem_cons_of_mem _ h.1, h.2⟩
      rw [collapseFrom] at h
      split_ifs at h with hkeep
      · rcases List.mem_cons.mp h with rfl | h
        · exact .inr ⟨List.mem_cons_self, hkeep⟩
        · exact hrest _ h
      · exact hrest _ h
      · rcases List.mem_cons.mp h with rfl | h
        · exact .inl rfl
        · exact hrest _ h
  exact hfrom l false h

/-- What starts an output and has no separator starts the text. -/
lemma prefix_of_prefix_collapse {q : List α} (hq : sep ∉ q) (h : q <+: collapseFrom keep sep false l) :
    q <+: l := by
  induction l generalizing q with
  | nil => exact h
  | cons x l ih =>
    cases q with
    | nil => exact List.nil_prefix
    | cons y q =>
      by_cases hkeep : keep x = true
      · rw [collapseFrom, if_pos hkeep] at h
        obtain ⟨rfl, hrest⟩ := List.cons_prefix_cons.mp h
        exact List.cons_prefix_cons.mpr ⟨rfl, ih (fun hmem => hq (List.mem_cons_of_mem _ hmem)) hrest⟩
      · rw [collapseFrom, if_neg hkeep, if_neg Bool.false_ne_true] at h
        exact absurd List.mem_cons_self ((List.cons_prefix_cons.mp h).1 ▸ hq)

/-- **Runs that are replaced bring nothing together**, except with a separator. -/
theorem infix_of_infix_collapse (hp : sep ∉ p) (h : p <:+: collapse keep sep l) : p <:+: l := by
  have hfrom : ∀ l inRun, p <:+: collapseFrom keep sep inRun l → p <:+: l := by
    intro l
    induction l with
    | nil => exact fun inRun h => h
    | cons x l ih =>
      intro inRun h
      rw [collapseFrom] at h
      split_ifs at h with hkeep
      · rcases List.infix_cons_iff.mp h with hstart | h
        · have hstart' : p <+: collapseFrom keep sep false (x :: l) := by
            rwa [collapseFrom, if_pos hkeep]
          exact (prefix_of_prefix_collapse hp hstart').isInfix
        · exact List.infix_cons (ih _ h)
      · exact List.infix_cons (ih _ h)
      · rcases List.infix_cons_iff.mp h with hstart | h
        · cases p with
          | nil => exact List.nil_infix
          | cons y p => exact absurd List.mem_cons_self ((List.cons_prefix_cons.mp hstart).1 ▸ hp)
        · exact List.infix_cons (ih _ h)
  exact hfrom l false h

/-- No separator follows another one. -/
def Spaced (sep : α) (l : List α) : Prop := l.IsChain fun a b => a = sep → b ≠ sep

lemma spaced_of_notMem (h : sep ∉ l) : Spaced sep l := by
  induction l with
  | nil => exact .nil
  | cons x l ih =>
    rw [List.mem_cons, not_or] at h
    exact List.isChain_cons.mpr ⟨fun _ _ heq => absurd heq.symm h.1, ih h.2⟩

/-- What is left has no two separators in a row. -/
lemma spaced_collapse (hsep : keep sep = false) (l : List α) : Spaced sep (collapse keep sep l) := by
  have hfrom : ∀ (l : List α) inRun, Spaced sep (collapseFrom keep sep inRun l) ∧
      (inRun = true → ∀ b ∈ (collapseFrom keep sep inRun l).head?, b ≠ sep) := by
    intro l
    induction l with
    | nil =>
      intro inRun
      exact ⟨.nil, fun _ _ h => absurd h (by simp [collapseFrom])⟩
    | cons x l ih =>
      intro inRun
      rw [collapseFrom]
      split_ifs with hkeep hrun
      · -- an element that is kept is no separator
        have hne : x ≠ sep := by
          rintro rfl
          exact Bool.false_ne_true (hsep.symm.trans hkeep)
        refine ⟨List.isChain_cons.mpr ⟨fun _ _ heq => absurd heq hne, (ih false).1⟩, fun _ b hb => ?_⟩
        obtain rfl := Option.some.inj hb
        exact hne
      · exact ⟨(ih true).1, fun _ => (ih true).2 rfl⟩
      · exact ⟨List.isChain_cons.mpr ⟨fun b hb _ => (ih true).2 rfl b hb, (ih true).1⟩,
          fun h => absurd h hrun⟩
  exact (hfrom l false).1

/-- A text without two separators in a row stays as it is, when nothing else is replaced. -/
lemma collapse_of_spaced (hkeep : ∀ a, keep a = false ↔ a = sep) (hl : Spaced sep l) :
    collapse keep sep l = l := by
  have hfrom : ∀ (l : List α) inRun, Spaced sep l → (inRun = true → ∀ b ∈ l.head?, b ≠ sep) →
      collapseFrom keep sep inRun l = l := by
    intro l
    induction l with
    | nil => exact fun _ _ _ => rfl
    | cons x l ih =>
      intro inRun hl hrun
      obtain ⟨hnext, hl⟩ := List.isChain_cons.mp hl
      rw [collapseFrom]
      cases hx : keep x with
      | true =>
        rw [if_pos rfl, ih false hl fun h => absurd h Bool.false_ne_true]
      | false =>
        obtain rfl := (hkeep x).mp hx
        cases inRun with
        | true => exact absurd rfl (hrun rfl x rfl)
        | false =>
          rw [if_neg Bool.false_ne_true, if_neg Bool.false_ne_true,
            ih true hl fun _ b hb => hnext b hb rfl]
  exact hfrom l false hl fun h => absurd h Bool.false_ne_true

end Collapse

end Rewrite

end Lib
