import LumenRelay.Py.Runtime
import Mathlib.Data.List.Induction

/-!
# JSON texts

The texts of `json.dumps(value, ensure_ascii=False)`, in both styles, and a parser that reads
them back.  A value has a text unless a text in it holds a character that cannot be encoded, or
an integer has too many digits.
-/

namespace Py.JsonText

/-! ## Writing -/

/-- A hexadecimal digit. -/
def hexDigit (n : ℕ) : Char := if n < 10 then Char.ofNat (48 + n) else Char.ofNat (87 + n)

/-- A character in a string literal. -/
def escape (c : Char) : List Char :=
  if c = Char.ofNat 34 ∨ c = Char.ofNat 92 then [Char.ofNat 92, c]
  else if c = '\n' then [Char.ofNat 92, 'n']
  else if c = '\r' then [Char.ofNat 92, 'r']
  else if c = '\t' then [Char.ofNat 92, 't']
  else if c = Char.ofNat 8 then [Char.ofNat 92, 'b']
  else if c = Char.ofNat 12 then [Char.ofNat 92, 'f']
  else if c.toNat < 32 then
    [Char.ofNat 92, 'u', '0', '0', hexDigit (c.toNat / 16), hexDigit (c.toNat % 16)]
  else [c]

/-- A string literal. -/
def renderText (s : List Char) : List Char :=
  Char.ofNat 34 :: (s.flatMap escape ++ [Char.ofNat 34])

/-- An integer literal. -/
def renderInt : ℤ → List Char
  | .ofNat n => Nat.toDigits 10 n
  | .negSucc n => '-' :: Nat.toDigits 10 (n + 1)

/-- A new line at a depth. -/
def newline : JsonStyle → ℕ → List Char
  | .compact, _ => []
  | .indented, depth => '\n' :: List.replicate (2 * depth) ' '

/-- What stands between a key and its value. -/
def colon : JsonStyle → List Char
  | .compact => [':']
  | .indented => [':', ' ']

mutual

/-- The text of a value; floats are left out. -/
def render (style : JsonStyle) (depth : ℕ) : Json → List Char
  | .null => "null".toList
  | .bool true => "true".toList
  | .bool false => "false".toList
  | .int n => renderInt n
  | .float _ => []
  | .str s => renderText s.toList
  | .arr [] => "[]".toList
  | .arr (v :: l) =>
    '[' :: (newline style (depth + 1) ++ render style (depth + 1) v ++ renderItems style depth l)
  | .obj [] => [Char.ofNat 123, Char.ofNat 125]
  | .obj ((key, v) :: o) =>
    Char.ofNat 123 :: (newline style (depth + 1) ++ renderText key.toList ++ colon style ++
      render style (depth + 1) v ++ renderFields style depth o)

/-- The rest of a list after an element. -/
def renderItems (style : JsonStyle) (depth : ℕ) : List Json → List Char
  | [] => newline style depth ++ [']']
  | v :: l =>
    ',' :: (newline style (depth + 1) ++ render style (depth + 1) v ++ renderItems style depth l)

/-- The rest of an object after a field. -/
def renderFields (style : JsonStyle) (depth : ℕ) : List (String × Json) → List Char
  | [] => newline style depth ++ [Char.ofNat 125]
  | (key, v) :: o =>
    ',' :: (newline style (depth + 1) ++ renderText key.toList ++ colon style ++
      render style (depth + 1) v ++ renderFields style depth o)

end

/-! ## Reading -/

/-- The blanks of JSON. -/
def isBlank (c : Char) : Bool := c = ' ' || c = '\n' || c = '\r' || c = '\t'

/-- The text after its blanks. -/
def skip (s : List Char) : List Char := s.dropWhile isBlank

/-- The value of a hexadecimal digit. -/
def hexValue (c : Char) : Option ℕ :=
  if c.isDigit then some (c.toNat - 48)
  else if 'a' ≤ c ∧ c ≤ 'f' then some (c.toNat - 87)
  else if 'A' ≤ c ∧ c ≤ 'F' then some (c.toNat - 55)
  else none

/-- What an escaped character stands for. -/
def unescape (c : Char) : Option Char :=
  if c = Char.ofNat 34 ∨ c = Char.ofNat 92 ∨ c = '/' then some c
  else if c = 'n' then some '\n'
  else if c = 'r' then some '\r'
  else if c = 't' then some '\t'
  else if c = 'b' then some (Char.ofNat 8)
  else if c = 'f' then some (Char.ofNat 12)
  else none

/-- The characters of a string literal after its first quotation mark, and what follows it. -/
def readText : List Char → Option (List Char × List Char)
  | [] => none
  | c :: s =>
    if c = Char.ofNat 34 then some ([], s)
    else if c = Char.ofNat 92 then
      match s with
      | 'u' :: h₁ :: h₂ :: h₃ :: h₄ :: s => do
        let n₁ ← hexValue h₁
        let n₂ ← hexValue h₂
        let n₃ ← hexValue h₃
        let n₄ ← hexValue h₄
        let (rest, s) ← readText s
        return (Char.ofNat (((n₁ * 16 + n₂) * 16 + n₃) * 16 + n₄) :: rest, s)
      | d :: s => do
        let d ← unescape d
        let (rest, s) ← readText s
        return (d :: rest, s)
      | [] => none
    else do
      let (rest, s) ← readText s
      return (c :: rest, s)

/-- The digits at the start of a text. -/
def readDigits (s : List Char) : Option (ℕ × List Char) :=
  match s.takeWhile Char.isDigit with
  | [] => none
  | digits => some (Nat.ofDigitChars 10 digits 0, s.dropWhile Char.isDigit)

/-- A literal name or number at the start of a text. -/
def readWord : List Char → Option (Json × List Char)
  | 'n' :: 'u' :: 'l' :: 'l' :: s => some (.null, s)
  | 't' :: 'r' :: 'u' :: 'e' :: s => some (.bool true, s)
  | 'f' :: 'a' :: 'l' :: 's' :: 'e' :: s => some (.bool false, s)
  | '-' :: s => (readDigits s).map fun r => (.int (-(r.1 : ℤ)), r.2)
  | s => (readDigits s).map fun r => (.int r.1, r.2)

mutual

/-- A value at the start of a text. -/
def read : ℕ → List Char → Option (Json × List Char)
  | 0, _ => none
  | fuel + 1, s =>
    match skip s with
    | [] => none
    | c :: s =>
      if c = Char.ofNat 34 then
        (readText s).map fun r => (.str (String.ofList r.1), r.2)
      else if c = '[' then
        match skip s with
        | [] => none
        | d :: s =>
          if d = ']' then some (.arr [], s)
          else do
            let (v, s) ← read fuel (d :: s)
            let (l, s) ← readItems fuel s
            return (.arr (v :: l), s)
      else if c = Char.ofNat 123 then
        match skip s with
        | [] => none
        | d :: s =>
          if d = Char.ofNat 125 then some (.obj [], s)
          else do
            let (field, s) ← readField fuel (d :: s)
            let (o, s) ← readFields fuel s
            return (.obj (field :: o), s)
      else readWord (c :: s)

/-- The rest of a list after an element. -/
def readItems : ℕ → List Char → Option (List Json × List Char)
  | 0, _ => none
  | fuel + 1, s =>
    match skip s with
    | [] => none
    | c :: s =>
      if c = ']' then some ([], s)
      else if c = ',' then do
        let (v, s) ← read fuel s
        let (l, s) ← readItems fuel s
        return (v :: l, s)
      else none

/-- A field of an object. -/
def readField : ℕ → List Char → Option ((String × Json) × List Char)
  | 0, _ => none
  | fuel + 1, s =>
    match skip s with
    | [] => none
    | c :: s =>
      if c = Char.ofNat 34 then do
        let (key, s) ← readText s
        match skip s with
        | [] => none
        | d :: s =>
          if d = ':' then do
            let (v, s) ← read fuel s
            return ((String.ofList key, v), s)
          else none
      else none

/-- The rest of an object after a field. -/
def readFields : ℕ → List Char → Option (List (String × Json) × List Char)
  | 0, _ => none
  | fuel + 1, s =>
    match skip s with
    | [] => none
    | c :: s =>
      if c = Char.ofNat 125 then some ([], s)
      else if c = ',' then do
        let (field, s) ← readField fuel s
        let (o, s) ← readFields fuel s
        return (field :: o, s)
      else none

end

/-! ## What is read back -/

mutual

/-- A value that has a text: it has no floats, its integers are not too long, and its texts have
only characters that can be encoded. -/
def writable (encodable : Char → Bool) : Json → Bool
  | .null => true
  | .bool _ => true
  | .int n => (Nat.toDigits 10 n.natAbs).length ≤ 4300
  | .float _ => false
  | .str s => s.toList.all encodable
  | .arr l => writableItems encodable l
  | .obj o => writableFields encodable o

/-- The elements of a list have texts. -/
def writableItems (encodable : Char → Bool) : List Json → Bool
  | [] => true
  | v :: l => writable encodable v && writableItems encodable l

/-- The fields of an object have texts. -/
def writableFields (encodable : Char → Bool) : List (String × Json) → Bool
  | [] => true
  | (key, v) :: o =>
    key.toList.all encodable && writable encodable v && writableFields encodable o

end

variable {encodable : Char → Bool} {style : JsonStyle}

lemma skip_of_not_blank {c : Char} (h : isBlank c = false) (s : List Char) : skip (c :: s) = c :: s := by
  simp [skip, h]

lemma skip_newline (style : JsonStyle) (depth : ℕ) (s : List Char) :
    skip (newline style depth ++ s) = skip s := by
  cases style with
  | compact => rfl
  | indented =>
    have hblank : ∀ n, skip (List.replicate n ' ' ++ s) = skip s := by
      intro n
      induction n with
      | zero => rfl
      | succ n ih => simpa [List.replicate_succ, skip, isBlank] using ih
    simpa [newline, skip, isBlank] using hblank (2 * depth)

lemma hexValue_hexDigit : ∀ n < 16, hexValue (hexDigit n) = some n := by decide

/-- A character of a string literal is read back. -/
lemma readText_escape (c : Char) (s : List Char) :
    readText (escape c ++ s) = (readText s).map fun r => (c :: r.1, r.2) := by
  unfold escape
  split_ifs with hquote hn hr ht hb hf hcontrol
  · rcases hquote with rfl | rfl
    · cases hs : readText s <;> simp [readText, unescape, hs]
    · cases hs : readText s <;> simp [readText, unescape, hs]
  · subst hn
    cases hs : readText s <;> simp [readText, unescape, hs]
  · subst hr
    cases hs : readText s <;> simp [readText, unescape, hs]
  · subst ht
    cases hs : readText s <;> simp [readText, unescape, hs]
  · subst hb
    cases hs : readText s <;> simp [readText, unescape, hs]
  · subst hf
    cases hs : readText s <;> simp [readText, unescape, hs]
  · -- the number of a control character has two digits
    have h₁ := hexValue_hexDigit (c.toNat / 16) (by omega)
    have h₂ := hexValue_hexDigit (c.toNat % 16) (by omega)
    have hzero : hexValue '0' = some 0 := by decide
    have hvalue : ((0 * 16 + 0) * 16 + c.toNat / 16) * 16 + c.toNat % 16 = c.toNat := by omega
    have hchar : Char.ofNat (((0 * 16 + 0) * 16 + c.toNat / 16) * 16 + c.toNat % 16) = c := by
      rw [hvalue, Char.ofNat_toNat]
    change readText (Char.ofNat 92 :: 'u' :: '0' :: '0' :: hexDigit (c.toNat / 16) ::
      hexDigit (c.toNat % 16) :: s) = _
    rw [readText.eq_def]
    dsimp only
    rw [if_neg (by decide), if_pos rfl]
    simp only [hzero, h₁, h₂, Option.bind_eq_bind, Option.bind_some, hchar]
    cases readText s <;> rfl
  · rw [not_or] at hquote
    change readText (c :: s) = _
    rw [readText.eq_def]
    dsimp only
    rw [if_neg hquote.1, if_neg hquote.2]
    cases readText s <;> rfl

/-- A string literal is read back. -/
lemma readText_body (s rest : List Char) :
    readText (s.flatMap escape ++ Char.ofNat 34 :: rest) = some (s, rest) := by
  induction s with
  | nil =>
    rw [List.flatMap_nil, List.nil_append, readText.eq_def]
    exact if_pos rfl
  | cons c s ih =>
    rw [List.flatMap_cons, List.append_assoc, readText_escape, ih]
    rfl

/-- A text does not go on with a digit. -/
def EndsNumber (s : List Char) : Prop := ∀ c rest, s = c :: rest → c.isDigit = false

lemma readDigits_toDigits (n : ℕ) {rest : List Char} (h : EndsNumber rest) :
    readDigits (Nat.toDigits 10 n ++ rest) = some (n, rest) := by
  have hdigits : ∀ c ∈ Nat.toDigits 10 n, c.isDigit = true :=
    fun c hc => Nat.isDigit_of_mem_toDigits (by decide) (by decide) hc
  have htake : rest.takeWhile Char.isDigit = [] ∧ rest.dropWhile Char.isDigit = rest := by
    cases rest with
    | nil => exact ⟨rfl, rfl⟩
    | cons c rest => simp [h c rest rfl]
  unfold readDigits
  rw [List.takeWhile_append_of_pos hdigits, List.dropWhile_append_of_pos hdigits, htake.1, htake.2,
    List.append_nil]
  cases hn : Nat.toDigits 10 n with
  | nil => exact absurd hn Nat.toDigits_ne_nil
  | cons c l =>
    dsimp only
    rw [← hn, Nat.ofDigitChars_ten_toDigits]

lemma endsNumber_cons {c : Char} (h : c.isDigit = false) (rest : List Char) : EndsNumber (c :: rest) := by
  intro c' rest' heq
  rw [← (List.cons.inj heq).1]
  exact h

/-- What follows a number must end it. -/
def EndsValue : Json → List Char → Prop
  | .int _, rest => EndsNumber rest
  | _, _ => True

lemma EndsValue.of_endsNumber {rest : List Char} (h : EndsNumber rest) (v : Json) : EndsValue v rest := by
  cases v <;> first | exact h | trivial

/-- A digit is none of the characters that the other values start with. -/
lemma digit_ne {c : Char} (h : c.isDigit = true) :
    isBlank c = false ∧ c ≠ ']' ∧ c ≠ Char.ofNat 34 ∧ c ≠ '[' ∧ c ≠ Char.ofNat 123 ∧ c ≠ 'n' ∧
      c ≠ 't' ∧ c ≠ 'f' ∧ c ≠ '-' := by
  refine ⟨?_, ?_, ?_, ?_, ?_, ?_, ?_, ?_, ?_⟩
  · rw [Bool.eq_false_iff]
    intro hblank
    simp only [isBlank, Bool.or_eq_true, decide_eq_true_eq] at hblank
    rcases hblank with ((rfl | rfl) | rfl) | rfl <;> exact absurd h (by decide)
  all_goals
    rintro rfl
    exact absurd h (by decide)

lemma renderInt_head (n : ℤ) : ∃ c t, renderInt n = c :: t ∧ (c.isDigit = true ∨ c = '-') := by
  cases n with
  | ofNat n =>
    cases hn : Nat.toDigits 10 n with
    | nil => exact absurd hn Nat.toDigits_ne_nil
    | cons c t =>
      refine ⟨c, t, hn, .inl ?_⟩
      exact Nat.isDigit_of_mem_toDigits (by decide) (by decide) (hn ▸ List.mem_cons_self)
  | negSucc n => exact ⟨'-', _, rfl, .inr rfl⟩

/-- The text of a value starts with a character that is no blank and does not close a list. -/
lemma render_head (style : JsonStyle) {v : Json} (h : writable encodable v = true) (depth : ℕ) :
    ∃ c t, render style depth v = c :: t ∧ isBlank c = false ∧ c ≠ ']' := by
  cases v with
  | null => exact ⟨'n', _, rfl, by decide⟩
  | bool b => cases b <;> exact ⟨_, _, rfl, by decide⟩
  | int n =>
    obtain ⟨c, t, hrender, hc⟩ := renderInt_head n
    refine ⟨c, t, by rw [render, hrender], ?_⟩
    rcases hc with hdigit | rfl
    · exact ⟨(digit_ne hdigit).1, (digit_ne hdigit).2.1⟩
    · decide
  | float x => cases h
  | str s => exact ⟨_, _, rfl, by decide⟩
  | arr l => cases l <;> exact ⟨'[', _, rfl, by decide⟩
  | obj o =>
    rcases o with - | ⟨⟨key, v⟩, o⟩
    · exact ⟨_, _, rfl, by decide⟩
    · exact ⟨Char.ofNat 123, _, rfl, by decide⟩

lemma readWord_renderInt (n : ℤ) {rest : List Char} (h : EndsNumber rest) :
    readWord (renderInt n ++ rest) = some (.int n, rest) := by
  cases n with
  | ofNat n =>
    have hread := readDigits_toDigits n h
    cases hn : Nat.toDigits 10 n with
    | nil => exact absurd hn Nat.toDigits_ne_nil
    | cons c t =>
      have hdigit : c.isDigit = true :=
        Nat.isDigit_of_mem_toDigits (by decide) (by decide) (hn ▸ List.mem_cons_self)
      obtain ⟨-, -, -, -, -, hnull, htrue, hfalse, hminus⟩ := digit_ne hdigit
      rw [hn] at hread
      rw [renderInt, hn]
      unfold readWord
      split
      · exact absurd (List.cons.inj ‹_›).1 hnull
      · exact absurd (List.cons.inj ‹_›).1 htrue
      · exact absurd (List.cons.inj ‹_›).1 hfalse
      · exact absurd (List.cons.inj ‹_›).1 hminus
      · rw [hread]
        rfl
  | negSucc n =>
    change (readDigits (Nat.toDigits 10 (n + 1) ++ rest)).map _ = _
    rw [readDigits_toDigits (n + 1) h]
    rfl

lemma read_newline (fuel depth : ℕ) (s : List Char) :
    read fuel (newline style depth ++ s) = read fuel s := by
  cases fuel with
  | zero => rfl
  | succ fuel => simp only [read, skip_newline]

lemma readField_newline (fuel depth : ℕ) (s : List Char) :
    readField fuel (newline style depth ++ s) = readField fuel s := by
  cases fuel with
  | zero => rfl
  | succ fuel => simp only [readField, skip_newline]

/-- The blanks between the colon and a value. -/
def afterColon : JsonStyle → List Char
  | .compact => []
  | .indented => [' ']

lemma colon_eq (style : JsonStyle) : colon style = ':' :: afterColon style := by cases style <;> rfl

lemma read_afterColon (fuel : ℕ) (s : List Char) : read fuel (afterColon style ++ s) = read fuel s := by
  cases style with
  | compact => rfl
  | indented =>
    cases fuel with
    | zero => rfl
    | succ fuel =>
      have hskip : skip (' ' :: s) = skip s := rfl
      simp only [afterColon, List.cons_append, List.nil_append, read, hskip]

lemma renderText_append (key rest : List Char) :
    renderText key ++ rest = Char.ofNat 34 :: (key.flatMap escape ++ Char.ofNat 34 :: rest) := by
  simp [renderText]

/-- A field whose value is read back is read back. -/
lemma readField_render (key : String) {v : Json} {fuel depth : ℕ} {rest : List Char}
    (hread : read fuel (render style depth v ++ rest) = some (v, rest)) :
    readField (fuel + 1) (renderText key.toList ++
      (colon style ++ (render style depth v ++ rest))) = some ((key, v), rest) := by
  rw [readField, renderText_append, skip_of_not_blank (by decide)]
  dsimp only
  rw [if_pos rfl, readText_body, colon_eq]
  dsimp only [Option.bind_eq_bind, Option.bind_some]
  rw [List.cons_append, skip_of_not_blank (by decide)]
  dsimp only
  rw [if_pos rfl, read_afterColon, hread, Option.bind_some, String.ofList_toList]
  rfl

lemma endsNumber_renderItems (style : JsonStyle) (depth : ℕ) (l : List Json) (rest : List Char) :
    EndsNumber (renderItems style depth l ++ rest) := by
  cases l with
  | nil => cases style <;> exact endsNumber_cons (by decide) _
  | cons v l => exact endsNumber_cons (by decide) _

lemma endsNumber_renderFields (style : JsonStyle) (depth : ℕ) (o : List (String × Json)) (rest : List Char) :
    EndsNumber (renderFields style depth o ++ rest) := by
  rcases o with - | ⟨⟨key, v⟩, o⟩
  · cases style <;> exact endsNumber_cons (by decide) _
  · exact endsNumber_cons (by decide) _

mutual

/-- The text of a value is read back, whatever follows it. -/
theorem read_render {v : Json} (h : writable encodable v = true) (depth fuel : ℕ) {rest : List Char}
    (hfuel : (render style depth v).length < fuel) (hrest : EndsValue v rest) :
    read fuel (render style depth v ++ rest) = some (v, rest) := by
  obtain ⟨fuel, rfl⟩ := Nat.exists_eq_succ_of_ne_zero (Nat.ne_zero_of_lt hfuel)
  cases v with
  | null => rfl
  | bool b => cases b <;> rfl
  | int n =>
    obtain ⟨c, t, hrender, hc⟩ := renderInt_head n
    have hword := readWord_renderInt n hrest
    rw [hrender] at hword
    rw [render, hrender, Nat.succ_eq_add_one, read, List.cons_append]
    have hne : isBlank c = false ∧ c ≠ Char.ofNat 34 ∧ c ≠ '[' ∧ c ≠ Char.ofNat 123 := by
      rcases hc with hdigit | rfl
      · obtain ⟨hblank, -, hquote, hlist, hobj, -⟩ := digit_ne hdigit
        exact ⟨hblank, hquote, hlist, hobj⟩
      · decide
    rw [skip_of_not_blank hne.1]
    dsimp only
    rw [if_neg hne.2.1, if_neg hne.2.2.1, if_neg hne.2.2.2]
    exact hword
  | float x => cases h
  | str s =>
    rw [render, renderText_append, Nat.succ_eq_add_one, read, skip_of_not_blank (by decide)]
    dsimp only
    rw [if_pos rfl, readText_body, Option.map_some, String.ofList_toList]
  | arr l =>
    cases l with
    | nil => rfl
    | cons v l =>
      rw [writable, writableItems, Bool.and_eq_true] at h
      obtain ⟨c, t, hrender, hblank, hc⟩ := render_head style h.1 (depth + 1)
      simp only [render, List.length_cons, List.length_append] at hfuel
      have hv := read_render h.1 (depth + 1) fuel (by omega)
        (.of_endsNumber (endsNumber_renderItems style depth l rest) v)
      have hl := readItems_render h.2 depth fuel rest
        (by omega)
      rw [render, List.cons_append, List.append_assoc, List.append_assoc, Nat.succ_eq_add_one, read,
        skip_of_not_blank (by decide)]
      dsimp only
      rw [if_neg (by decide), if_pos rfl, skip_newline]
      rw [hrender, List.cons_append] at hv ⊢
      rw [skip_of_not_blank hblank]
      dsimp only
      rw [if_neg hc, hv, Option.bind_eq_bind, Option.bind_some]
      dsimp only
      rw [hl]
      rfl
  | obj o =>
    rcases o with - | ⟨⟨key, v⟩, o⟩
    · rfl
    · rw [writable, writableFields, Bool.and_eq_true, Bool.and_eq_true] at h
      simp only [render, List.length_cons, List.length_append, renderText] at hfuel
      have hv := read_render h.1.2 (depth + 1) (fuel - 1) (by omega)
        (.of_endsNumber (endsNumber_renderFields style depth o rest) v)
      have ho := readFields_render h.2 depth fuel rest (by omega)
      have hfield := readField_render key hv
      rw [Nat.sub_add_cancel (by omega)] at hfield
      rw [render, List.cons_append, List.append_assoc, List.append_assoc, List.append_assoc,
        List.append_assoc, Nat.succ_eq_add_one, read, skip_of_not_blank (by decide)]
      dsimp only
      rw [if_neg (by decide), if_neg (by decide), if_pos rfl, skip_newline]
      rw [renderText_append] at hfield ⊢
      rw [skip_of_not_blank (by decide)]
      dsimp only
      rw [if_neg (by decide), hfield, Option.bind_eq_bind, Option.bind_some]
      dsimp only
      rw [ho]
      rfl

/-- The rest of a list is read back. -/
theorem readItems_render {l : List Json} (h : writableItems encodable l = true) (depth fuel : ℕ)
    (rest : List Char) (hfuel : (renderItems style depth l).length < fuel) :
    readItems fuel (renderItems style depth l ++ rest) = some (l, rest) := by
  obtain ⟨fuel, rfl⟩ := Nat.exists_eq_succ_of_ne_zero (Nat.ne_zero_of_lt hfuel)
  cases l with
  | nil =>
    rw [renderItems, Nat.succ_eq_add_one, readItems, List.append_assoc, skip_newline]
    rfl
  | cons v l =>
    rw [writableItems, Bool.and_eq_true] at h
    simp only [renderItems, List.length_cons, List.length_append] at hfuel
    have hv := read_render h.1 (depth + 1) fuel (by omega)
      (.of_endsNumber (endsNumber_renderItems style depth l rest) v)
    have hl := readItems_render h.2 depth fuel rest (by omega)
    rw [renderItems, List.cons_append, List.append_assoc, List.append_assoc, Nat.succ_eq_add_one,
      readItems, skip_of_not_blank (by decide)]
    dsimp only
    rw [if_neg (by decide), if_pos rfl, read_newline, hv, Option.bind_eq_bind, Option.bind_some]
    dsimp only
    rw [hl]
    rfl

/-- The rest of an object is read back. -/
theorem readFields_render {o : List (String × Json)} (h : writableFields encodable o = true)
    (depth fuel : ℕ) (rest : List Char) (hfuel : (renderFields style depth o).length < fuel) :
    readFields fuel (renderFields style depth o ++ rest) = some (o, rest) := by
  obtain ⟨fuel, rfl⟩ := Nat.exists_eq_succ_of_ne_zero (Nat.ne_zero_of_lt hfuel)
  rcases o with - | ⟨⟨key, v⟩, o⟩
  · rw [renderFields, Nat.succ_eq_add_one, readFields, List.append_assoc, skip_newline]
    rfl
  · rw [writableFields, Bool.and_eq_true, Bool.and_eq_true] at h
    simp only [renderFields, List.length_cons, List.length_append, renderText] at hfuel
    have hv := read_render h.1.2 (depth + 1) (fuel - 1) (by omega)
      (.of_endsNumber (endsNumber_renderFields style depth o rest) v)
    have ho := readFields_render h.2 depth fuel rest (by omega)
    have hfield := readField_render key hv
    rw [Nat.sub_add_cancel (by omega)] at hfield
    rw [renderFields, List.cons_append, List.append_assoc, List.append_assoc, List.append_assoc,
      List.append_assoc, Nat.succ_eq_add_one, readFields, skip_of_not_blank (by decide)]
    dsimp only
    rw [if_neg (by decide), if_pos rfl, readField_newline, hfield, Option.bind_eq_bind, Option.bind_some]
    dsimp only
    rw [ho]
    rfl

end

end Py.JsonText
