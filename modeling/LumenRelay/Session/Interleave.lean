import LumenRelay.Session.HappyEyeballs

/-!
# The order in which addresses are tried

`_interleave_families` puts the addresses of a host in order, the route that was fastest last before
all others and the families in turn, and `_connection_schedule` takes the first of them.  As the
families take turns, the cut leaves none of them out.
-/

namespace Session.Upstream

open Dns

/-! ## Turns -/

section Turns

variable {α κ : Type} {kind : α → κ} {f g : κ} {a b : α} {l p q before after : List α}

/-- As long as another kind is left, an item of another kind is next. -/
def Turns (kind : α → κ) (l : List α) : Prop :=
  ∀ before a b after, l = before ++ a :: b :: after → (∃ c ∈ b :: after, kind c ≠ kind a) →
    kind b ≠ kind a

lemma turns_nil : Turns kind [] := by
  intro before a b after h
  simp at h

/-- The turns of a list are those of its tail, and one more. -/
lemma Turns.cons (h : Turns kind l)
    (hnext : ∀ b after, l = b :: after → (∃ c ∈ l, kind c ≠ kind a) → kind b ≠ kind a) :
    Turns kind (a :: l) := by
  intro before c d after hsplit hleft
  cases before with
  | nil =>
    obtain ⟨rfl, rfl⟩ := List.cons.inj hsplit
    exact hnext d after rfl hleft
  | cons x before =>
    obtain ⟨rfl, rfl⟩ := List.cons.inj hsplit
    exact h before c d after rfl hleft

/-- Items of one kind. -/
lemma turns_of_all (h : ∀ a ∈ l, kind a = f) : Turns kind l := by
  rintro before a b after rfl ⟨c, hmem, hne⟩
  have ha : kind a = f := h a (by simp)
  have hc : kind c = f := h c (List.mem_append_right before (List.mem_cons_of_mem a hmem))
  exact absurd (hc.trans ha.symm) hne

/-- Two queues take turns, the first one starting. -/
lemma turns_alternate (hne : f ≠ g) (hp : ∀ a ∈ p, kind a = f) (hq : ∀ b ∈ q, kind b = g) :
    Turns kind (alternate p q) := by
  induction p generalizing q with
  | nil => exact turns_of_all hq
  | cons a p ih =>
    have ha : kind a = f := hp a (by simp)
    have hp' : ∀ a ∈ p, kind a = f := fun a hmem => hp a (List.mem_cons_of_mem _ hmem)
    cases q with
    | nil => exact turns_of_all hp
    | cons b q =>
      have hb : kind b = g := hq b (by simp)
      have hq' : ∀ b ∈ q, kind b = g := fun b hmem => hq b (List.mem_cons_of_mem _ hmem)
      refine (Turns.cons (ih hp' hq') ?_).cons ?_
      · -- after `b` it is the turn of the first queue, unless that is empty
        intro c after hsplit ⟨d, hmem, hd⟩
        cases p with
        | nil =>
          have hall : kind d = g := hq' d hmem
          exact absurd (hall.trans hb.symm) hd
        | cons a' p =>
          have hc : c = a' := by
            cases q <;> exact (List.cons.inj hsplit).1.symm
          rw [hc, hp' a' (by simp), hb]
          exact hne
      · intro c after hsplit _
        obtain ⟨rfl, -⟩ := List.cons.inj hsplit
        rw [ha, hb]
        exact hne.symm

/-- What is first among items that take turns: one of each of two kinds. -/
lemma Turns.mem_take (h : Turns kind l) (htwo : ∀ x y z : α, kind y ≠ kind x → kind z ≠ kind x →
    kind y = kind z) {n : ℕ} (hn : 2 ≤ n) (ha : a ∈ l) : ∃ b ∈ l.take n, kind b = kind a := by
  obtain ⟨n, rfl⟩ := Nat.exists_eq_add_of_le' hn
  cases l with
  | nil => simp at ha
  | cons x l =>
    by_cases hx : kind x = kind a
    · exact ⟨x, by simp, hx⟩
    have hmem : a ∈ l := by
      rcases List.mem_cons.mp ha with rfl | hmem
      · exact absurd rfl hx
      · exact hmem
    cases l with
    | nil => simp at hmem
    | cons y l =>
      have hy : kind y ≠ kind x := h [] x y l rfl ⟨a, hmem, fun heq => hx heq.symm⟩
      exact ⟨y, by simp, htwo x y a hy fun heq => hx heq.symm⟩

/-- Each queue keeps its order. -/
lemma filter_alternate (P : α → Bool) (hp : ∀ a ∈ p, P a = true) (hq : ∀ b ∈ q, P b = false) :
    (alternate p q).filter P = p ∧ (alternate p q).filter (fun a => !P a) = q := by
  induction p generalizing q with
  | nil =>
    have hnone : q.filter P = [] := by simpa using hq
    have hall : q.filter (fun a => !P a) = q := by simpa using hq
    exact ⟨hnone, hall⟩
  | cons a p ih =>
    have ha : P a = true := hp a (by simp)
    have hp' : ∀ a ∈ p, P a = true := fun a hmem => hp a (List.mem_cons_of_mem _ hmem)
    cases q with
    | nil =>
      have hall : (a :: p).filter P = a :: p := List.filter_eq_self.mpr hp
      have hnone : (a :: p).filter (fun a => !P a) = [] := by simpa using hp
      exact ⟨hall, hnone⟩
    | cons b q =>
      have hb : P b = false := hq b (by simp)
      have hq' : ∀ b ∈ q, P b = false := fun b hmem => hq b (List.mem_cons_of_mem _ hmem)
      obtain ⟨hfirst, hsecond⟩ := ih hp' hq'
      simp [alternate, ha, hb, hfirst, hsecond]

end Turns

/-! ## Interleaving -/

/-- What an order of addresses keeps of them. -/
structure Interleaved (addresses : List Address) (preferred : Option Address)
    (ordered : List Address) : Prop where
  perm : ordered.Perm addresses
  head : ordered.head? = if ∃ route ∈ preferred, route ∈ addresses then preferred
    else addresses.head?
  /-- The addresses of a family, except the preferred one, keep their order. -/
  order : ∀ family, ordered.filter (fun item => item.1 = family ∧ some item ≠ preferred) =
    addresses.filter fun item => item.1 = family ∧ some item ≠ preferred
  turns : Turns Prod.fst ordered

lemma family_other {family first : Family} : family = first.other ↔ family ≠ first := by
  cases family <;> cases first <;> decide

lemma filter_erase {α : Type} [BEq α] [LawfulBEq α] {P : α → Bool} {a : α} (h : P a = false)
    (l : List α) : (l.erase a).filter P = l.filter P := by
  induction l with
  | nil => rfl
  | cons b l ih =>
    by_cases hb : b = a
    · subst hb
      rw [List.erase_cons_head, List.filter_cons_of_neg (by simp [h])]
    · rw [List.erase_cons_tail (by simpa using hb), List.filter_cons, List.filter_cons, ih]

lemma preferredFirst_head (addresses : List Address) (preferred : Option Address) :
    (preferredFirst addresses preferred).head? =
      if ∃ route ∈ preferred, route ∈ addresses then preferred else addresses.head? := by
  cases preferred with
  | none => simp [preferredFirst]
  | some route =>
    by_cases hmem : route ∈ addresses <;> simp [preferredFirst, hmem]

lemma preferredFirst_filter (addresses : List Address) (preferred : Option Address) :
    (preferredFirst addresses preferred).filter (fun item => some item ≠ preferred) =
      addresses.filter fun item => some item ≠ preferred := by
  cases preferred with
  | none => rfl
  | some route =>
    by_cases hmem : route ∈ addresses
    · have herase := filter_erase (P := fun item => some item ≠ some route) (a := route) (by simp)
        addresses
      simpa [preferredFirst, hmem] using herase
    · simp [preferredFirst, hmem]

variable {addresses : List Address} {preferred : Option Address} {cooldown : Address → ℚ} {now : ℚ}

/-- The order of addresses that there are, as two queues. -/
lemma interleaveFamilies_eq {first : Family} {sockaddr : Sockaddr} {rest : List Address}
    (h : preferredFirst addresses preferred = (first, sockaddr) :: rest) :
    interleaveFamilies addresses preferred =
      alternate ((preferredFirst addresses preferred).filter fun item => item.1 = first)
        ((preferredFirst addresses preferred).filter fun item => item.1 = first.other) := by
  unfold interleaveFamilies
  rw [h]

/-- Each family is in the order it had after the preferred address was put first. -/
lemma interleaveFamilies_filter (addresses : List Address) (preferred : Option Address)
    (family : Family) :
    (interleaveFamilies addresses preferred).filter (fun item => item.1 = family) =
      (preferredFirst addresses preferred).filter fun item => item.1 = family := by
  cases hunique : preferredFirst addresses preferred with
  | nil =>
    unfold interleaveFamilies
    rw [hunique]
  | cons item rest =>
    obtain ⟨first, sockaddr⟩ := item
    rw [interleaveFamilies_eq hunique, hunique]
    generalize (first, sockaddr) :: rest = unique
    obtain ⟨hfirst, hsecond⟩ := filter_alternate (fun item : Address => item.1 = first)
      (p := unique.filter fun item => item.1 = first)
      (q := unique.filter fun item => item.1 = first.other)
      (by simp) (by simp [family_other])
    by_cases hfamily : family = first
    · rw [hfamily]
      exact hfirst
    · have hother : family = first.other := family_other.mpr hfamily
      have hnot : (fun item : Address => decide (item.1 = first.other)) =
          fun item => !decide (item.1 = first) := by
        funext item
        simp [family_other]
      rw [hother, hnot]
      rw [hnot] at hsecond
      exact hsecond

lemma interleaveFamilies_head (addresses : List Address) (preferred : Option Address) :
    (interleaveFamilies addresses preferred).head? =
      (preferredFirst addresses preferred).head? := by
  cases hunique : preferredFirst addresses preferred with
  | nil =>
    unfold interleaveFamilies
    rw [hunique]
  | cons item rest =>
    obtain ⟨first, sockaddr⟩ := item
    rw [interleaveFamilies_eq hunique, hunique, List.filter_cons_of_pos (by simp)]
    cases List.filter (fun item : Address => decide (item.1 = first.other))
      ((first, sockaddr) :: rest) <;> rfl

lemma interleaveFamilies_turns (addresses : List Address) (preferred : Option Address) :
    Turns Prod.fst (interleaveFamilies addresses preferred) := by
  cases hunique : preferredFirst addresses preferred with
  | nil =>
    unfold interleaveFamilies
    rw [hunique]
    exact turns_nil
  | cons item rest =>
    obtain ⟨first, sockaddr⟩ := item
    have hne : first ≠ first.other := fun heq => family_other.mp heq rfl
    rw [interleaveFamilies_eq hunique]
    exact turns_alternate hne (by simp) (by simp)

/-- Interleaving keeps all that it should. -/
lemma interleaveFamilies_interleaved (addresses : List Address) (preferred : Option Address) :
    Interleaved addresses preferred (interleaveFamilies addresses preferred) := by
  constructor
  · exact interleaveFamilies_perm addresses preferred
  · rw [interleaveFamilies_head, preferredFirst_head]
  · intro family
    have hboth : ∀ l : List Address, l.filter (fun item => item.1 = family ∧ some item ≠ preferred) =
        (l.filter fun item => item.1 = family).filter fun item => some item ≠ preferred := by
      intro l
      rw [List.filter_filter]
      congr 1
      funext item
      rw [Bool.decide_and, Bool.and_comm]
    have hcomm : ∀ l : List Address, l.filter (fun item => item.1 = family ∧ some item ≠ preferred) =
        (l.filter fun item => some item ≠ preferred).filter fun item => item.1 = family := by
      intro l
      rw [List.filter_filter]
      congr 1
      funext item
      rw [Bool.decide_and]
    rw [hboth, interleaveFamilies_filter, ← hboth, hcomm, preferredFirst_filter, ← hcomm]
  · exact interleaveFamilies_turns addresses preferred

/-! ## The schedule -/

/-- What a schedule takes of an order of addresses. -/
structure Scheduled (cooldown : Address → ℚ) (now : ℚ) (ordered : List Address)
    (schedule : List (ℚ × Address)) : Prop where
  first : schedule.map Prod.snd <+: ordered
  /-- No family is left out. -/
  families : ∀ a ∈ ordered, ∃ candidate ∈ schedule, candidate.2.1 = a.1
  /-- The first candidate of a family is not delayed, unless it has failed lately. -/
  prompt : ∀ before delay a after, schedule = before ++ (delay, a) :: after →
    (∀ candidate ∈ before, candidate.2.1 ≠ a.1) → cooldown a ≤ now → delay = 0
  nodup : (schedule.map Prod.snd).Nodup

lemma delays_map (seen : List Family) (extra : ℕ) (ordered : List Address) :
    (delays cooldown now seen extra ordered).map Prod.snd = ordered := by
  induction ordered generalizing seen extra with
  | nil => rfl
  | cons a ordered ih =>
    unfold delays
    rw [List.map_cons, ih]

/-- An address of a family that has not been seen is not delayed. -/
lemma delays_prompt {seen : List Family} {extra : ℕ} {ordered : List Address} {delay : ℚ}
    {a : Address} {before after : List (ℚ × Address)}
    (hsplit : delays cooldown now seen extra ordered = before ++ (delay, a) :: after)
    (hbefore : ∀ candidate ∈ before, candidate.2.1 ≠ a.1) (hseen : a.1 ∉ seen)
    (hnow : cooldown a ≤ now) : delay = 0 := by
  induction ordered generalizing seen extra before with
  | nil => simp [delays] at hsplit
  | cons b ordered ih =>
    unfold delays at hsplit
    dsimp only at hsplit
    cases before with
    | nil =>
      obtain ⟨hhead, -⟩ := List.cons.inj hsplit
      obtain ⟨hdelay, rfl⟩ := Prod.mk.inj hhead
      rw [if_neg (not_lt.mpr hnow), if_neg hseen] at hdelay
      exact hdelay.symm
    | cons candidate before =>
      obtain ⟨hhead, htail⟩ := List.cons.inj hsplit
      have hb : b.1 ≠ a.1 := by
        have hne := hbefore candidate (by simp)
        rw [← hhead] at hne
        exact hne
      refine ih htail (fun c hmem => hbefore c (List.mem_cons_of_mem _ hmem)) ?_
      rw [List.mem_cons, not_or]
      exact ⟨hb.symm, hseen⟩

/-- The first addresses of families that take turns make a schedule. -/
lemma connectionSchedule_scheduled {ordered : List Address} (hnodup : ordered.Nodup)
    (hturns : Turns Prod.fst ordered) :
    Scheduled cooldown now ordered (connectionSchedule cooldown now ordered) := by
  have hmap : (connectionSchedule cooldown now ordered).map Prod.snd =
      ordered.take parallelConnect := delays_map _ _ _
  constructor
  · rw [hmap]
    exact List.take_prefix _ _
  · intro a ha
    have htwo : ∀ x y z : Address, y.1 ≠ x.1 → z.1 ≠ x.1 → y.1 = z.1 := by
      intro x y z hy hz
      rw [family_other.mpr hy, family_other.mpr hz]
    obtain ⟨b, hb, hfamily⟩ := hturns.mem_take htwo (n := parallelConnect) (by decide) ha
    rw [← hmap, List.mem_map] at hb
    obtain ⟨candidate, hmem, rfl⟩ := hb
    exact ⟨candidate, hmem, hfamily⟩
  · intro before delay a after hsplit hbefore hnow
    exact delays_prompt hsplit hbefore (by simp) hnow
  · rw [hmap]
    exact hnodup.sublist (List.take_sublist _ _)

/-- Addresses that are put in order are all there, the preferred one first and the families in turn,
and no family is left out of the schedule. -/
theorem interleave_loses_nothing (haddresses : addresses.Nodup) (preferred : Option Address)
    (cooldown : Address → ℚ) (now : ℚ) :
    Interleaved addresses preferred (interleaveFamilies addresses preferred) ∧
      Scheduled cooldown now (interleaveFamilies addresses preferred)
        (connectionSchedule cooldown now (interleaveFamilies addresses preferred)) := by
  have hordered := interleaveFamilies_interleaved addresses preferred
  exact ⟨hordered, connectionSchedule_scheduled (hordered.perm.nodup_iff.mpr haddresses)
    hordered.turns⟩

/-- Seven addresses of IPv6 and the one of IPv4 that was fastest last. -/
def manyAddresses : List Address :=
  (List.range 7).map (fun i => (.inet6, ⟨"2001:db8::", 443, 0, i⟩)) ++ [oldAddress]

theorem interleave_loses_nothing_many :
    manyAddresses.length = 8 ∧
      (interleaveFamilies manyAddresses (some oldAddress)).head? = some oldAddress ∧
      Interleaved manyAddresses (some oldAddress) (interleaveFamilies manyAddresses (some oldAddress)) ∧
      Scheduled (fun _ => 0) 1 (interleaveFamilies manyAddresses (some oldAddress))
        (connectionSchedule (fun _ => 0) 1 (interleaveFamilies manyAddresses (some oldAddress))) :=
  ⟨by decide, by decide +kernel, interleave_loses_nothing (by decide +kernel) (some oldAddress) _ 1⟩

end Session.Upstream
