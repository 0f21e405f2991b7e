import LumenRelay.Installer.Provision

/-!
# Tokens are not told

The messages of Railway are shown to the user, and its token may be in them.  It is replaced, and what
is cut and joined afterwards does not bring it back.
-/

namespace Installation

open Lib Installer Py

/-- A token that stands out: it has the length of a token, no blanks, and nothing of the brackets of
the mark. -/
structure StandsOut (token : String) : Prop where
  long : 20 ≤ unitLength token.toList
  plain : ∀ c ∈ token.toList, c ≠ ' ' ∧ c ≠ '[' ∧ c ≠ ']'

variable {token : String} {l p : List Char}

/-! ## Texts without the token -/

lemma unitLength_append (l l' : List Char) :
    unitLength (l ++ l') = unitLength l + unitLength l' := by
  simp [unitLength]

lemma unitLength_le_of_infix (h : p <:+: l) : unitLength p ≤ unitLength l := by
  obtain ⟨s, t, rfl⟩ := h
  rw [unitLength_append, unitLength_append]
  omega

lemma isPrefix_takeUnits (n : ℕ) (l : List Char) : takeUnits n l <+: l := by
  induction l generalizing n with
  | nil => exact List.prefix_rfl
  | cons c l ih =>
    rw [takeUnits]
    split_ifs
    all_goals
      first
      | exact List.cons_prefix_cons.mpr ⟨rfl, ih _⟩
      | exact List.nil_prefix

lemma StandsOut.ne_nil (h : StandsOut token) : token.toList ≠ [] := by
  intro hnil
  have hlong := h.long
  rw [hnil] at hlong
  exact absurd hlong (by decide)

lemma StandsOut.no_blank (h : StandsOut token) : ' ' ∉ token.toList :=
  fun hmem => (h.plain _ hmem).1 rfl

lemma StandsOut.apart (h : StandsOut token) : Rewrite.Apart token.toList redacted where
  ne_nil := h.ne_nil
  first a ha hmem := by
    have hfirst : redacted.head? = some '[' := by decide +kernel
    obtain rfl := Option.some.inj (ha.symm.trans hfirst)
    exact (h.plain _ hmem).2.1 rfl
  last b hb hmem := by
    have hlast : redacted.getLast? = some ']' := by decide +kernel
    obtain rfl := Option.some.inj (hb.symm.trans hlast)
    exact (h.plain _ hmem).2.2 rfl
  mark := by decide +kernel
  inside hin := by
    have hlength : unitLength redacted = 10 := by decide +kernel
    have hle := unitLength_le_of_infix hin
    have hlong := h.long
    omega

/-- **What is told of the messages of Railway** does not have the token. -/
theorem not_infix_tellable (h : StandsOut token) (messages : List String) :
    ¬ token.toList <:+: (tellable token messages).toList := by
  intro hin
  unfold tellable at hin
  dsimp only at hin
  rw [String.toList_ofList] at hin
  have hcollapsed := hin.trans (isPrefix_takeUnits _ _).isInfix
  have hredacted := Rewrite.infix_of_infix_collapse h.no_blank hcollapsed
  rw [redact, if_neg h.ne_nil] at hredacted
  exact Rewrite.not_infix_replaceAll h.apart _ hredacted

lemma not_infix_slice (n : ℕ) {s : String} (h : ¬ token.toList <:+: s.toList) :
    ¬ token.toList <:+: (slice n s).toList := by
  intro hin
  rw [slice, String.toList_ofList] at hin
  exact h (hin.trans (isPrefix_takeUnits _ _).isInfix)

/-- A token without blanks is on one side of a blank. -/
lemma StandsOut.infix_cases (h : StandsOut token) {l l' : List Char}
    (hin : token.toList <:+: l ++ ' ' :: l') : token.toList <:+: l ∨ token.toList <:+: l' := by
  rcases List.infix_append_iff.mp hin with hin | hin | ⟨p, q, hpq, hp, hq⟩
  · exact .inl hin
  · rcases List.infix_cons_iff.mp hin with hin | hin
    · obtain ⟨c, rest, hcons⟩ := List.exists_cons_of_ne_nil h.ne_nil
      rw [hcons, List.cons_prefix_cons] at hin
      exact absurd (by rw [hcons, hin.1]; exact List.mem_cons_self) h.no_blank
    · exact .inr hin
  · cases q with
    | nil =>
      rw [List.append_nil] at hpq
      exact .inl (hpq ▸ hp.isInfix)
    | cons c q =>
      have hc := (List.cons_prefix_cons.mp hq).1
      exact absurd (by rw [hpq, hc]; simp) h.no_blank

/-- Each word has fewer than twenty units; so many are those of the word that has begun. -/
def shortFrom (n : ℕ) : List Char → Bool
  | [] => true
  | c :: l => if c = ' ' then shortFrom 0 l
    else n + unitLength [c] < 20 && shortFrom (n + unitLength [c]) l

lemma short_of_prefix {n : ℕ} (hn : n < 20) (h : shortFrom n l = true) (hp : p <+: l)
    (hblank : ' ' ∉ p) : n + unitLength p < 20 := by
  induction l generalizing n p with
  | nil =>
    rw [List.prefix_nil.mp hp]
    exact hn
  | cons c l ih =>
    cases p with
    | nil => exact hn
    | cons d p =>
      obtain ⟨rfl, hrest⟩ := List.cons_prefix_cons.mp hp
      have hne : d ≠ ' ' := fun heq => hblank (heq ▸ List.mem_cons_self)
      rw [shortFrom, if_neg hne, Bool.and_eq_true, decide_eq_true_eq] at h
      have hlt := ih h.1 h.2 hrest fun hmem => hblank (List.mem_cons_of_mem _ hmem)
      have hsum : unitLength (d :: p) = unitLength [d] + unitLength p := unitLength_append [d] p
      omega

/-- A text with short words only does not have the token. -/
lemma StandsOut.not_infix_short (h : StandsOut token) {n : ℕ} (hn : n < 20)
    (hl : shortFrom n l = true) : ¬ token.toList <:+: l := by
  have hstart : ∀ {n} {l : List Char}, n < 20 → shortFrom n l = true → ¬ token.toList <+: l := by
    intro n l hn hl hp
    have hlt := short_of_prefix hn hl hp h.no_blank
    have hlong := h.long
    omega
  induction l generalizing n with
  | nil => exact fun hin => h.ne_nil (List.infix_nil.mp hin)
  | cons c l ih =>
    intro hin
    rcases List.infix_cons_iff.mp hin with hp | hin
    · exact hstart hn hl hp
    · rw [shortFrom] at hl
      split_ifs at hl with hc
      · exact ih (by omega) hl hin
      · rw [Bool.and_eq_true, decide_eq_true_eq] at hl
        exact ih hl.1 hl.2 hin

/-! ## Errors without the token -/

/-- The details of an error do not have the token. -/
def Discreet (token : String) : Failure → Prop
  | .install e => ¬ token.toList <:+: (e.safeDetails.getD "").toList
  | .other => True

/-- Neither do its details nor its message. -/
def Silent (token : String) : Failure → Prop
  | .install e => ¬ token.toList <:+: (e.safeDetails.getD "").toList ∧
      ¬ token.toList <:+: e.messageEn.toList
  | .other => True

lemma Silent.discreet {e : Failure} (h : Silent token e) : Discreet token e := by
  cases e with
  | install e => exact h.1
  | other => trivial

/-- What a computation throws has a property. -/
def Throws {α : Type} (P : Failure → Prop) (x : Except Failure α) : Prop := ∀ e, x = .error e → P e

section Throws

variable {α β : Type} {P : Failure → Prop} {sc : Script}

lemma throws_ok (a : α) : Throws P (.ok a : Except Failure α) := by
  rintro e ⟨⟩

lemma throws_error {e : Failure} (he : P e) : Throws P (.error e : Except Failure α) := by
  rintro _ ⟨⟩
  exact he

lemma Throws.bind {x : Except Failure α} {f : α → Except Failure β} (hx : Throws P x)
    (hf : ∀ a, x = .ok a → Throws P (f a)) : Throws P (x >>= f) := by
  cases x with
  | ok a => exact hf a rfl
  | error e =>
    rintro _ ⟨⟩
    exact hx e rfl

/-! What is made of values throws exceptions of the language only. -/

lemma throws_text (hother : P .other) (v : Value) : Throws P (text sc v) := by
  intro e he
  cases v with
  | none => cases he
  | some v =>
    rw [text] at he
    split at he
    · cases he
    · cases he
      exact hother

lemma throws_textOrEmpty (hother : P .other) (v : Value) : Throws P (textOrEmpty sc v) := by
  unfold textOrEmpty
  split_ifs
  · exact throws_text hother _
  · exact throws_ok _

lemma throws_attr (hother : P .other) (v : Value) (key : String) : Throws P (attr v key) := by
  intro e he
  unfold attr at he
  split at he
  · cases he
    exact hother
  · cases he
    exact hother
  · cases he

lemma throws_isFork (hother : P .other) (repo : Json) : Throws P (isFork sc repo) := by
  unfold isFork
  exact (throws_textOrEmpty hother _).bind fun parent _ => throws_ok _

lemma throws_nameOr (hother : P .other) (name : Value) (default : String) :
    Throws P (nameOr sc name default) :=
  throws_text hother _

lemma throws_findNamed (hother : P .other) (name : String) (l : List (String × Value)) :
    Throws P (findNamed sc name l) := by
  induction l with
  | nil => exact throws_ok _
  | cons w l ih =>
    rw [findNamed]
    refine (throws_text hother _).bind fun found _ => ?_
    split_ifs
    · exact throws_ok _
    · exact ih

lemma throws_readStatus (hother : P .other) (checked : Json) : Throws P (readStatus sc checked) := by
  unfold readStatus
  dsimp only
  split_ifs
  · exact (throws_text hother _).bind fun status _ => throws_ok _
  · exact throws_ok _

lemma throws_messagesOf (hother : P .other) (items : List Json) :
    Throws P (messagesOf sc items) := by
  induction items with
  | nil => exact throws_ok _
  | cons item items ih =>
    rw [messagesOf]
    exact (throws_text hother _).bind fun _ _ => ih.bind fun _ _ => throws_ok _

lemma throws_readLogin (hother : P .other) (hfault : ∀ code step messageEn messageFa status hs,
    P (fault code step messageEn messageFa status hs)) (identity : Json) :
    Throws P (readLogin sc identity) := by
  unfold readLogin
  refine (throws_textOrEmpty hother _).bind fun login _ => ?_
  split_ifs
  · exact throws_ok _
  · exact throws_error (hfault ..)

lemma throws_readSha (hother : P .other) (hfault : ∀ code step messageEn messageFa status hs,
    P (fault code step messageEn messageFa status hs)) (commit : Json) :
    Throws P (readSha sc commit) := by
  unfold readSha
  refine (throws_text hother _).bind fun sha _ => ?_
  split_ifs
  · exact throws_ok _
  · exact throws_error (hfault ..)

lemma throws_readGithub (hfault : ∀ code step messageEn messageFa status hs,
    P (fault code step messageEn messageFa status hs)) (allow404 : Bool) (step : String) (r : Reply) :
    Throws P (readGithub allow404 step r) := by
  have herror : ∀ status, P (githubError status step) := by
    intro status
    unfold githubError
    split_ifs
    all_goals exact hfault ..
  unfold readGithub
  by_cases hmissing : allow404 = true ∧ r.status = 404
  · rw [if_pos hmissing]
    exact throws_ok _
  rw [if_neg hmissing]
  by_cases hok : isOk r.status = true
  · rw [if_neg (not_not_intro hok)]
    split
    · exact throws_ok _
    · split
      · exact throws_ok _
      · exact throws_error (hfault ..)
  · rw [if_pos hok]
    exact throws_error (herror _)

/-- What a query throws is an exception of the language, an error without details, or what is told of
the messages. -/
lemma throws_readRailway {step : String} (hother : P .other) (herror : ∀ status, P (railwayError status))
    (hunreadable : P (fault "RAILWAY_RESPONSE" step "Railway returned an unreadable response."
      "پاسخ Railway قابل خواندن نبود." 502 error_502))
    (hquery : ∀ messages, P (queryError sc step (tellable token messages))) (r : Reply) :
    Throws P (readRailway sc token step r) := by
  have hresult : ∀ result, Throws P (readResult sc token step result) := by
    intro result
    unfold readResult
    refine (throws_attr hother _ _).bind fun errors _ => ?_
    split_ifs
    · exact throws_ok _
    · exact (throws_messagesOf hother _).bind fun messages _ => throws_error (hquery messages)
  unfold readRailway
  by_cases hok : isOk r.status = true
  · rw [if_neg (not_not_intro hok)]
    split
    · exact throws_error hunreadable
    · exact hresult _
  · rw [if_pos hok]
    exact throws_error (herror _)

end Throws

/-! ## What is thrown does not have the token -/

/-- What a computation throws is discreet. -/
abbrev Tactful {α : Type} (token : String) : Except Failure α → Prop := Throws (Discreet token)

variable {sc : Script}

/-- An error without details is discreet. -/
lemma StandsOut.discreet (h : StandsOut token) (code step messageEn messageFa : String) (status : ℕ)
    (hs : 400 ≤ status ∧ status < 600) :
    Discreet token (fault code step messageEn messageFa status hs) :=
  fun hin => h.ne_nil (List.infix_nil.mp hin)

/-- An error without details whose message has short words only is silent. -/
lemma StandsOut.silent (h : StandsOut token) {code step messageEn messageFa : String} {status : ℕ}
    {hs : 400 ≤ status ∧ status < 600} (hshort : shortFrom 0 messageEn.toList = true) :
    Silent token (fault code step messageEn messageFa status hs) :=
  ⟨h.discreet _ _ _ _ _ _, h.not_infix_short (by decide) hshort⟩

/-- **Railway's errors are discreet.** -/
lemma tactful_readRailway (h : StandsOut token) (step : String) (r : Reply) :
    Tactful token (readRailway sc token step r) := by
  refine throws_readRailway trivial (fun status => ?_) (h.discreet _ _ _ _ _ _) (fun messages => ?_) r
  · unfold railwayError
    split_ifs
    all_goals exact h.discreet _ _ _ _ _ _
  · unfold queryError
    dsimp only
    split_ifs
    all_goals exact not_infix_tellable h messages

/-- The errors of a check of a deployment do not tell the token in their messages either. -/
lemma silent_readRailway (h : StandsOut token) (r : Reply) :
    Throws (Silent token) (readRailway sc token "deployment-status" r) := by
  refine throws_readRailway trivial (fun status => ?_) (h.silent (by decide +kernel))
    (fun messages => ?_) r
  · unfold railwayError
    split_ifs
    all_goals exact h.silent (by decide +kernel)
  · have htold := not_infix_tellable h messages
    unfold queryError
    dsimp only
    split_ifs
    all_goals
      refine ⟨htold, h.not_infix_short (show 0 < 20 by decide) ?_⟩
      dsimp only
      decide +kernel

end Installation
