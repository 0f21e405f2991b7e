import Mathlib.Data.List.Basic

/-!
# Streams that come in pieces

A reader has a buffer, and the pieces that come next are appended to it, one after the other, as
long as it does not hold what the reader wants.  What is read depends on the stream only, not on
the pieces in which it comes.
-/

namespace Lib

/-- What is buffered, and the pieces that are still to come. -/
structure Inbox (α : Type*) where
  buffer : List α
  segments : List (List α)

/-- Why nothing was read: the stream ends before, or the buffer is full. -/
inductive Unread
  | short
  | overrun
deriving DecidableEq

namespace Inbox

variable {α : Type*}

/-- Everything that was not read yet. -/
def stream (i : Inbox α) : List α := i.buffer ++ i.segments.flatten

/-- Wait until the buffer is as wanted. -/
def fill (wanted : List α → Bool) : List α → List (List α) → Option (Inbox α)
  | buffer, [] => if wanted buffer then some ⟨buffer, []⟩ else none
  | buffer, segment :: segments =>
    if wanted buffer then some ⟨buffer, segment :: segments⟩
    else fill wanted (buffer ++ segment) segments

/-- Read a number of elements. -/
def readExactly (n : ℕ) (i : Inbox α) : Except Unread (List α × Inbox α) :=
  match fill (fun buffer => n ≤ buffer.length) i.buffer i.segments with
  | none => .error .short
  | some i => .ok (i.buffer.take n, { i with buffer := i.buffer.drop n })

/-- The part of a list up to the end of the first separator, and the rest. -/
def cut [DecidableEq α] (sep : List α) : List α → Option (List α × List α)
  | [] => if sep = [] then some ([], []) else none
  | a :: l =>
    if sep <+: a :: l then some (sep, (a :: l).drop sep.length)
    else (cut sep l).map fun p => (a :: p.1, p.2)

/-- Read up to the end of the first separator; a buffer that is longer than the limit and has no
separator is an error, and so is a separator beyond the limit. -/
def readUntil [DecidableEq α] (sep : List α) (limit : ℕ) (i : Inbox α) :
    Except Unread (List α × Inbox α) :=
  let full := fun buffer : List α => limit + sep.length ≤ buffer.length
  match fill (fun buffer => (cut sep buffer).isSome || full buffer) i.buffer i.segments with
  | none => .error .short
  | some i =>
    match cut sep i.buffer with
    | none => .error .overrun
    | some (found, rest) =>
      if limit < found.length - sep.length then .error .overrun
      else .ok (found, { i with buffer := rest })

/-- Read what has come, up to a number of elements; at the end of the stream there is nothing. -/
def readSome (n : ℕ) (i : Inbox α) : List α × Inbox α :=
  match fill (fun buffer => !buffer.isEmpty) i.buffer i.segments with
  | none => ([], ⟨[], []⟩)
  | some i => (i.buffer.take n, { i with buffer := i.buffer.drop n })

/-- What is in the buffer when some of the pieces have come. -/
def arrived (i : Inbox α) (k : ℕ) : List α := i.buffer ++ (i.segments.take k).flatten

/-- No piece ends inside a part of the stream. -/
def Unbroken (i : Inbox α) (start stop : ℕ) : Prop :=
  ∀ k, ¬ (start < (i.arrived k).length ∧ (i.arrived k).length < stop)

/-! ## Waiting -/

variable {wanted : List α → Bool} {buffer : List α} {segments : List (List α)}

/-- Waiting loses nothing, and ends when the buffer is as wanted. -/
lemma fill_some {i : Inbox α} (h : fill wanted buffer segments = some i) :
    wanted i.buffer = true ∧ i.stream = buffer ++ segments.flatten := by
  induction segments generalizing buffer with
  | nil =>
    rw [fill] at h
    split_ifs at h with hwanted
    obtain rfl := Option.some.inj h
    exact ⟨hwanted, rfl⟩
  | cons segment segments ih =>
    rw [fill] at h
    split_ifs at h with hwanted
    · obtain rfl := Option.some.inj h
      exact ⟨hwanted, rfl⟩
    · obtain ⟨hi, hstream⟩ := ih h
      exact ⟨hi, by rw [hstream, List.append_assoc, List.flatten_cons]⟩

/-- Waiting ends if the whole stream is as wanted. -/
lemma fill_isSome (h : wanted (buffer ++ segments.flatten) = true) :
    ∃ i, fill wanted buffer segments = some i := by
  induction segments generalizing buffer with
  | nil => exact ⟨⟨buffer, []⟩, by rw [fill, if_pos (by simpa using h)]⟩
  | cons segment segments ih =>
    rw [fill]
    split_ifs with hwanted
    · exact ⟨_, rfl⟩
    · exact ih (by simpa using h)

variable {i i' : Inbox α} {bytes rest : List α}

lemma arrived_prefix (i : Inbox α) (k : ℕ) : i.arrived k <+: i.stream := by
  have hsplit := congrArg List.flatten (List.take_append_drop k i.segments)
  rw [List.flatten_append] at hsplit
  exact (List.prefix_append_right_inj i.buffer).mpr ⟨_, hsplit⟩

lemma arrived_mono (i : Inbox α) {j k : ℕ} (h : j ≤ k) :
    (i.arrived j).length ≤ (i.arrived k).length := by
  have htake : i.segments.take j <+: i.segments.take k := List.take_prefix_take_left h
  obtain ⟨more, hmore⟩ := htake
  simp only [arrived, List.length_append, ← hmore, List.flatten_append]
  omega

/-- Waiting ends with the first piece after which the buffer is as wanted. -/
lemma fill_arrived (h : fill wanted i.buffer i.segments = some i') :
    ∃ k, i' = ⟨i.arrived k, i.segments.drop k⟩ ∧ wanted (i.arrived k) = true ∧
      ∀ j < k, wanted (i.arrived j) = false := by
  obtain ⟨buffer, segments⟩ := i
  induction segments generalizing buffer with
  | nil =>
    rw [fill] at h
    split_ifs at h with hwanted
    exact ⟨0, by simpa [arrived] using h.symm, by simpa [arrived] using hwanted, by simp⟩
  | cons segment segments ih =>
    rw [fill] at h
    split_ifs at h with hwanted
    · exact ⟨0, by simpa [arrived] using h.symm, by simpa [arrived] using hwanted, by simp⟩
    · obtain ⟨k, hi, hk, hbefore⟩ := ih _ h
      have hshift : ∀ j, arrived ⟨buffer, segment :: segments⟩ (j + 1) =
          arrived ⟨buffer ++ segment, segments⟩ j := by simp [arrived]
      refine ⟨k + 1, by rw [hshift]; exact hi, by rw [hshift]; exact hk, ?_⟩
      intro j hj
      cases j with
      | zero => simpa [arrived] using hwanted
      | succ j =>
        rw [hshift]
        exact hbefore j (by omega)

/-- The stream may end before the buffer is as wanted. -/
lemma fill_none (h : ∀ l, l <+: i.stream → wanted l = false) :
    fill wanted i.buffer i.segments = none := by
  cases hfill : fill wanted i.buffer i.segments with
  | none => rfl
  | some j =>
    obtain ⟨k, -, hk, -⟩ := fill_arrived hfill
    rw [h _ (i.arrived_prefix k)] at hk
    cases hk

/-! ## Reading a number of elements -/

lemma readExactly_short {n : ℕ} (h : i.stream.length < n) : i.readExactly n = .error .short := by
  rw [readExactly, fill_none]
  intro l hl
  have := hl.length_le
  exact decide_eq_false (by omega)

lemma readSome_prefix (n : ℕ) (i : Inbox α) : (i.readSome n).1 <+: i.stream := by
  unfold readSome
  split
  · exact List.nil_prefix
  · rename_i j hfill
    obtain ⟨k, rfl, -, -⟩ := fill_arrived hfill
    exact (List.take_prefix n _).trans (i.arrived_prefix k)

/-- What has come is the whole stream exactly when no piece ends inside it. -/
lemma readSome_eq_stream {n : ℕ} (hn : i.stream.length ≤ n) :
    (i.readSome n).1 = i.stream ↔ i.Unbroken 0 i.stream.length := by
  unfold readSome
  cases hfill : fill (fun buffer => !buffer.isEmpty) i.buffer i.segments with
  | none =>
    have hnil : i.stream = [] := by
      by_contra hne
      obtain ⟨j, hj⟩ : ∃ j, fill (fun buffer => !buffer.isEmpty) i.buffer i.segments = some j := by
        refine fill_isSome ?_
        rw [Bool.not_eq_true', List.isEmpty_eq_false_iff]
        exact hne
      rw [hj] at hfill
      cases hfill
    rw [hnil]
    exact iff_of_true rfl fun k hk => absurd hk.2 (Nat.not_lt_zero _)
  | some j =>
    obtain ⟨k, rfl, hk, hbefore⟩ := fill_arrived hfill
    have hprefix := i.arrived_prefix k
    have hle := hprefix.length_le
    rw [Bool.not_eq_true', List.isEmpty_eq_false_iff, ← List.length_pos_iff] at hk
    dsimp only
    rw [List.take_of_length_le (by omega)]
    constructor
    · intro hwhole m hm
      rcases Nat.lt_or_ge m k with hmk | hmk
      · -- nothing had come before
        have hempty := hbefore m hmk
        rw [Bool.not_eq_false', List.isEmpty_iff] at hempty
        rw [hempty] at hm
        exact absurd hm.1 (Nat.lt_irrefl 0)
      · have hmono := i.arrived_mono hmk
        rw [hwhole] at hmono
        omega
    · intro hunbroken
      refine hprefix.eq_of_length_le ?_
      by_contra hlt
      exact hunbroken k ⟨hk, by omega⟩

lemma readExactly_ok {n : ℕ} (h : i.readExactly n = .ok (bytes, i')) :
    bytes.length = n ∧ i.stream = bytes ++ i'.stream := by
  unfold readExactly at h
  split at h
  · cases h
  · rename_i j hfill
    obtain ⟨hlength, hstream⟩ := fill_some hfill
    cases h
    refine ⟨List.length_take_of_le (of_decide_eq_true hlength), ?_⟩
    rw [stream, ← hstream, stream, stream, ← List.append_assoc, List.take_append_drop]

lemma readExactly_of_stream {n : ℕ} (hn : bytes.length = n) (h : i.stream = bytes ++ rest) :
    ∃ i', i.readExactly n = .ok (bytes, i') ∧ i'.stream = rest := by
  obtain ⟨j, hfill⟩ : ∃ j, fill (fun buffer => n ≤ buffer.length) i.buffer i.segments = some j := by
    refine fill_isSome (decide_eq_true ?_)
    have hlength := congrArg List.length h
    rw [stream] at hlength
    rw [hlength, List.length_append]
    omega
  have hread : i.readExactly n = .ok (j.buffer.take n, { j with buffer := j.buffer.drop n }) := by
    rw [readExactly, hfill]
  obtain ⟨hlength, hsplit⟩ := readExactly_ok hread
  rw [h] at hsplit
  obtain ⟨hbytes, hrest⟩ := List.append_inj hsplit (hn.trans hlength.symm)
  exact ⟨_, by rw [hread, hbytes], hrest.symm⟩

/-! ## Reading up to a separator -/

section Until

variable [DecidableEq α] {sep found : List α}

/-- What is found ends with the separator. -/
lemma cut_some {l : List α} (h : cut sep l = some (found, rest)) :
    l = found ++ rest ∧ sep <:+ found := by
  induction l generalizing found with
  | nil =>
    rw [cut] at h
    split_ifs at h with hnil
    cases h
    exact ⟨rfl, hnil ▸ List.suffix_refl _⟩
  | cons a l ih =>
    rw [cut] at h
    split_ifs at h with hprefix
    · cases h
      exact ⟨List.prefix_iff_eq_append.mp hprefix |>.symm, List.suffix_refl _⟩
    · obtain ⟨⟨found', rest'⟩, hcut, heq⟩ := Option.map_eq_some_iff.mp h
      cases heq
      obtain ⟨rfl, hsuffix⟩ := ih hcut
      exact ⟨rfl, hsuffix.trans (List.suffix_cons a found')⟩

lemma cut_append {l : List α} (h : cut sep l = some (found, rest)) (more : List α) :
    cut sep (l ++ more) = some (found, rest ++ more) := by
  induction l generalizing found with
  | nil =>
    rw [cut] at h
    split_ifs at h with hnil
    cases h
    subst hnil
    cases more with
    | nil => rfl
    | cons a more => simp [cut]
  | cons a l ih =>
    rw [cut] at h
    rw [List.cons_append, cut]
    split_ifs at h with hprefix
    · cases h
      have hlength := hprefix.length_le
      have hmore : sep <+: a :: (l ++ more) := hprefix.trans (List.prefix_append (a :: l) more)
      rw [if_pos hmore, ← List.cons_append, List.drop_append_of_le_length hlength]
    · obtain ⟨⟨found', rest'⟩, hcut, heq⟩ := Option.map_eq_some_iff.mp h
      cases heq
      -- a separator that starts here would end before the one that was found does
      rw [if_neg, ih hcut]
      · rfl
      · intro hmore
        obtain ⟨hl, hsuffix⟩ := cut_some hcut
        have hle : sep.length ≤ (a :: l).length := by
          have := hsuffix.length_le
          rw [hl, List.length_cons, List.length_append]
          omega
        exact hprefix (List.prefix_of_prefix_length_le hmore (List.prefix_append (a :: l) more) hle)

lemma cut_self {l : List α} (h : cut sep l = some (found, rest)) :
    cut sep found = some (found, []) := by
  induction l generalizing found with
  | nil =>
    rw [cut] at h
    split_ifs at h with hnil
    cases h
    rw [cut, if_pos hnil]
  | cons a l ih =>
    rw [cut] at h
    split_ifs at h with hprefix
    · cases h
      cases sep with
      | nil => rfl
      | cons b sep => simp [cut]
    · obtain ⟨⟨found', rest'⟩, hcut, heq⟩ := Option.map_eq_some_iff.mp h
      cases heq
      rw [cut, if_neg, ih hcut]
      · rfl
      · intro hfound
        rw [(cut_some hcut).1] at hprefix
        exact hprefix (hfound.trans (List.prefix_append (a :: found') rest'))

/-- Where no separator starts, none is found. -/
lemma cut_skip {before l : List α}
    (h : ∀ b, b <:+ before → b ≠ [] → ¬ sep <+: b ++ l) :
    cut sep (before ++ l) = (cut sep l).map fun p => (before ++ p.1, p.2) := by
  induction before with
  | nil => simp
  | cons a before ih =>
    have hhere : ¬ sep <+: a :: (before ++ l) := h (a :: before) (List.suffix_refl _) (by simp)
    have hlater : ∀ b, b <:+ before → b ≠ [] → ¬ sep <+: b ++ l :=
      fun b hb => h b (hb.trans (List.suffix_cons a before))
    rw [List.cons_append, cut, if_neg hhere, ih hlater, Option.map_map]
    rfl

/-- Before the end of the first separator has come, none is found. -/
lemma cut_short {l part : List α} (h : cut sep l = some (found, rest)) (hpart : part <+: l)
    (hshort : part.length < found.length) : cut sep part = none := by
  cases hcut : cut sep part with
  | none => rfl
  | some p =>
    obtain ⟨more, rfl⟩ := hpart
    rw [cut_append hcut] at h
    obtain ⟨rfl, -⟩ := Prod.mk.inj (Option.some.inj h)
    have hlength := congrArg List.length (cut_some hcut).1
    rw [List.length_append] at hlength
    omega

lemma readUntil_ok {limit : ℕ} (h : i.readUntil sep limit = .ok (found, i')) :
    cut sep i.stream = some (found, i'.stream) := by
  unfold readUntil at h
  dsimp only at h
  split at h
  · cases h
  · rename_i j hfill
    have hstream := (fill_some hfill).2
    split at h
    · cases h
    · rename_i found' rest' hcut
      split_ifs at h
      cases h
      rw [stream, ← hstream]
      exact cut_append hcut _

/-- What is left after a separator is broken where the whole was. -/
lemma readUntil_unbroken {limit n : ℕ} (h : i.readUntil sep limit = .ok (found, i')) :
    i.Unbroken found.length (found.length + n) ↔ i'.Unbroken 0 n := by
  have hwhole := readUntil_ok h
  unfold readUntil at h
  dsimp only at h
  split at h
  · cases h
  · rename_i j hfill
    obtain ⟨k, rfl, -, hbefore⟩ := fill_arrived hfill
    split at h
    · cases h
    · rename_i found' rest hcut
      split_ifs at h
      cases h
      have hk := (cut_some hcut).1
      have hshift : ∀ m, i.arrived (k + m) = found ++ arrived ⟨rest, i.segments.drop k⟩ m := by
        intro m
        have htake : i.segments.take (k + m) = i.segments.take k ++ (i.segments.drop k).take m :=
          List.take_add
        change i.buffer ++ (i.segments.take (k + m)).flatten =
          found ++ (rest ++ ((i.segments.drop k).take m).flatten)
        rw [htake, List.flatten_append, ← List.append_assoc, ← List.append_assoc, ← hk]
        rfl
      constructor
      · intro hi m hm
        refine hi (k + m) ?_
        rw [hshift, List.length_append]
        change 0 < (arrived ⟨rest, i.segments.drop k⟩ m).length ∧
          (arrived ⟨rest, i.segments.drop k⟩ m).length < n at hm
        omega
      · intro hi m hm
        rcases Nat.lt_or_ge m k with hmk | hmk
        · -- the separator had not come yet
          have hnot := hbefore m hmk
          rw [Bool.or_eq_false_iff] at hnot
          have hprefix : found <+: i.arrived m := by
            refine List.prefix_of_prefix_length_le ?_ (i.arrived_prefix m) (by omega)
            exact ⟨_, (cut_some hwhole).1.symm⟩
          obtain ⟨more, hmore⟩ := hprefix
          rw [← hmore, cut_append (cut_self hcut)] at hnot
          cases hnot.1
        · obtain ⟨m, rfl⟩ := Nat.exists_eq_add_of_le hmk
          rw [hshift, List.length_append] at hm
          refine hi m ?_
          change 0 < (arrived ⟨rest, i.segments.drop k⟩ m).length ∧
            (arrived ⟨rest, i.segments.drop k⟩ m).length < n
          omega

lemma readUntil_ne_short {limit : ℕ} (h : cut sep i.stream = some (found, rest)) :
    i.readUntil sep limit ≠ .error .short := by
  obtain ⟨j, hfill⟩ : ∃ j, fill (fun buffer =>
      (cut sep buffer).isSome || decide (limit + sep.length ≤ buffer.length))
      i.buffer i.segments = some j := by
    refine fill_isSome ?_
    rw [stream] at h
    rw [h]
    rfl
  rw [readUntil, hfill]
  dsimp only
  split
  · exact nofun
  · split_ifs
    · exact nofun
    · exact nofun

lemma readUntil_short {limit : ℕ} (h : cut sep i.stream = none)
    (hlimit : i.stream.length < limit + sep.length) : i.readUntil sep limit = .error .short := by
  rw [readUntil, fill_none]
  intro l hl
  have hle := hl.length_le
  have hnone : cut sep l = none := by
    obtain ⟨more, hmore⟩ := hl
    cases hcut : cut sep l with
    | none => rfl
    | some p =>
      rw [← hmore, cut_append hcut] at h
      cases h
  rw [hnone, Option.isSome_none, Bool.false_or]
  exact decide_eq_false (by omega)

lemma readUntil_of_stream {limit : ℕ} (h : cut sep i.stream = some (found, rest))
    (hlimit : found.length ≤ limit) :
    ∃ i', i.readUntil sep limit = .ok (found, i') ∧ i'.stream = rest := by
  obtain ⟨j, hfill⟩ : ∃ j, fill (fun buffer =>
      (cut sep buffer).isSome || decide (limit + sep.length ≤ buffer.length))
      i.buffer i.segments = some j := by
    refine fill_isSome ?_
    rw [stream] at h
    rw [h]
    rfl
  obtain ⟨hwanted, hstream⟩ := fill_some hfill
  have hsplit : j.buffer ++ j.segments.flatten = found ++ rest := by
    rw [← (cut_some h).1]
    exact hstream
  cases hcut : cut sep j.buffer with
  | some p =>
    obtain ⟨found', rest'⟩ := p
    have happend := cut_append hcut j.segments.flatten
    rw [hsplit, ← (cut_some h).1, h] at happend
    cases happend
    refine ⟨{ j with buffer := rest' }, ?_, rfl⟩
    unfold readUntil
    dsimp only
    rw [hfill]
    dsimp only
    rw [hcut]
    dsimp only
    rw [if_neg (by omega)]
  | none =>
    -- the buffer would be longer than what was found, and have it
    exfalso
    rw [hcut, Option.isSome_none, Bool.false_or, decide_eq_true_eq] at hwanted
    have hprefix : found <+: j.buffer := by
      refine List.prefix_of_prefix_length_le ?_ (List.prefix_append j.buffer j.segments.flatten)
        (by omega)
      rw [hsplit]
      exact List.prefix_append found rest
    obtain ⟨more, hmore⟩ := hprefix
    rw [← hmore, cut_append (cut_self h)] at hcut
    cases hcut

end Until

end Inbox

end Lib
