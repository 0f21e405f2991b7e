import Mathlib.Data.String.Basic
import Mathlib.Data.List.Basic

/-!
# Percent encoding and query strings

A text is quoted by writing the bytes of its unsafe characters as `%XX`, and a query is a list
of `name=value` fields between ampersands.  Texts are lists of characters here.  The decoder
of bytes is a parameter; all that the results need of it is that it decodes what the encoder
of characters yields.
-/

namespace Lib.Percent

/-! ## Quoting -/

/-- A hexadecimal digit, in upper case. -/
def hexDigit (n : ℕ) : Char := if n < 10 then Char.ofNat (48 + n) else Char.ofNat (55 + n)

/-- The value of a hexadecimal digit, in either case. -/
def hexValue (c : Char) : Option ℕ :=
  let n := c.toNat
  if 48 ≤ n ∧ n ≤ 57 then some (n - 48)
  else if 65 ≤ n ∧ n ≤ 70 then some (n - 55)
  else if 97 ≤ n ∧ n ≤ 102 then some (n - 87)
  else none

/-- A byte as `%XX`. -/
def encodeByte (b : UInt8) : List Char := ['%', hexDigit (b.toNat / 16), hexDigit (b.toNat % 16)]

/-- The bytes of a text. -/
def utf8 (s : List Char) : List UInt8 := s.flatMap String.utf8EncodeChar

/-- Write the unsafe characters of a text as bytes. -/
def quote (safe : Char → Bool) (s : List Char) : List Char :=
  s.flatMap fun c => if safe c then [c] else (String.utf8EncodeChar c).flatMap encodeByte

/-- The bytes of a quoted text; a `%` that does not start an encoded byte stands for itself. -/
def decodeBytes : List Char → List UInt8
  | [] => []
  | [c] => String.utf8EncodeChar c
  | [c, d] => String.utf8EncodeChar c ++ String.utf8EncodeChar d
  | c :: a :: b :: l =>
    if c = '%' then
      match hexValue a, hexValue b with
      | some x, some y => UInt8.ofNat (16 * x + y) :: decodeBytes l
      | _, _ => String.utf8EncodeChar c ++ decodeBytes (a :: b :: l)
    else String.utf8EncodeChar c ++ decodeBytes (a :: b :: l)

lemma hexValue_hexDigit {n : ℕ} (h : n < 16) : hexValue (hexDigit n) = some n := by
  have : ∀ m < 16, hexValue (hexDigit m) = some m := by decide
  exact this n h

lemma decodeBytes_cons {c : Char} (h : c ≠ '%') (l : List Char) :
    decodeBytes (c :: l) = String.utf8EncodeChar c ++ decodeBytes l := by
  match l with
  | [] => simp [decodeBytes]
  | [d] => simp [decodeBytes]
  | a :: b :: l => rw [decodeBytes, if_neg h]

lemma decodeBytes_encodeByte (b : UInt8) (l : List Char) :
    decodeBytes (encodeByte b ++ l) = b :: decodeBytes l := by
  have hb : b.toNat < 256 := b.toNat_lt
  have hhi : hexValue (hexDigit (b.toNat / 16)) = some (b.toNat / 16) :=
    hexValue_hexDigit (by omega)
  have hlo : hexValue (hexDigit (b.toNat % 16)) = some (b.toNat % 16) :=
    hexValue_hexDigit (by omega)
  have hval : UInt8.ofNat (16 * (b.toNat / 16) + b.toNat % 16) = b := by
    rw [Nat.div_add_mod]
    exact UInt8.ofNat_toNat
  simp [encodeByte, decodeBytes, hhi, hlo, hval]

lemma decodeBytes_encodeBytes (bs : List UInt8) (l : List Char) :
    decodeBytes (bs.flatMap encodeByte ++ l) = bs ++ decodeBytes l := by
  induction bs with
  | nil => rfl
  | cons b bs ih =>
    rw [List.flatMap_cons, List.append_assoc, decodeBytes_encodeByte, ih, List.cons_append]

@[simp] lemma utf8_nil : utf8 [] = [] := rfl

lemma utf8_cons (c : Char) (s : List Char) : utf8 (c :: s) = String.utf8EncodeChar c ++ utf8 s := rfl

@[simp] lemma utf8_append (s t : List Char) : utf8 (s ++ t) = utf8 s ++ utf8 t := List.flatMap_append

/-- An ASCII character is one byte. -/
lemma utf8EncodeChar_ascii {c : Char} (h : c.toNat < 128) :
    String.utf8EncodeChar c = [UInt8.ofNat c.toNat] := by
  unfold String.utf8EncodeChar
  rw [if_pos (show c.val.toNat ≤ 0x7f from Nat.le_of_lt_succ h)]
  rfl

/-- The bytes of other characters are not those of ASCII characters. -/
lemma le_of_mem_utf8EncodeChar {c : Char} (h : 128 ≤ c.toNat) {b : UInt8}
    (hb : b ∈ String.utf8EncodeChar c) : 128 ≤ b.toNat := by
  have hc : 128 ≤ c.val.toNat := h
  have hmax : c.val.toNat < 1114112 := by
    rcases c.valid with hv | hv
    · omega
    · exact hv.2
  unfold String.utf8EncodeChar at hb
  dsimp only at hb
  split_ifs at hb
  all_goals
    simp only [List.mem_cons, List.not_mem_nil, or_false] at hb
  · omega
  · rcases hb with rfl | rfl <;> rw [UInt8.toNat_ofNat'] <;> omega
  · rcases hb with rfl | rfl | rfl <;> rw [UInt8.toNat_ofNat'] <;> omega
  · rcases hb with rfl | rfl | rfl | rfl <;> rw [UInt8.toNat_ofNat'] <;> omega

/-- An ASCII byte of a text is one of its characters. -/
lemma exists_of_mem_utf8 {s : List Char} {b : UInt8} (hb : b ∈ utf8 s) (h : b.toNat < 128) :
    ∃ c ∈ s, c.toNat = b.toNat := by
  obtain ⟨c, hc, hb⟩ := List.mem_flatMap.mp hb
  refine ⟨c, hc, ?_⟩
  by_cases hascii : c.toNat < 128
  · rw [utf8EncodeChar_ascii hascii, List.mem_singleton] at hb
    rw [hb, UInt8.toNat_ofNat']
    omega
  · have := le_of_mem_utf8EncodeChar (not_lt.mp hascii) hb
    omega

/-- An ASCII character of a text is one of its bytes. -/
lemma mem_utf8_of_mem {s : List Char} {c : Char} (hc : c ∈ s) (h : c.toNat < 128) :
    UInt8.ofNat c.toNat ∈ utf8 s :=
  List.mem_flatMap.mpr ⟨c, hc, by rw [utf8EncodeChar_ascii h]; exact List.mem_singleton_self _⟩

/-- A text without a percent sign is its own quotation. -/
lemma decodeBytes_plain {s : List Char} (h : '%' ∉ s) : decodeBytes s = utf8 s := by
  induction s with
  | nil => rfl
  | cons c s ih =>
    rw [List.mem_cons, not_or] at h
    rw [decodeBytes_cons (Ne.symm h.1), ih h.2]
    rfl

/-- Decoding undoes quoting, when the percent sign is quoted. -/
lemma decodeBytes_quote {safe : Char → Bool} (h : safe '%' = false) (s : List Char) :
    decodeBytes (quote safe s) = utf8 s := by
  suffices ∀ l, decodeBytes (quote safe s ++ l) = utf8 s ++ decodeBytes l by
    simpa [decodeBytes] using this []
  intro l
  induction s with
  | nil => rfl
  | cons c s ih =>
    have hquote : quote safe (c :: s) = (if safe c then [c]
        else (String.utf8EncodeChar c).flatMap encodeByte) ++ quote safe s := rfl
    have hutf8 : utf8 (c :: s) = String.utf8EncodeChar c ++ utf8 s := rfl
    rw [hquote, hutf8, List.append_assoc, List.append_assoc]
    cases hc : safe c with
    | true =>
      have hne : c ≠ '%' := by
        rintro rfl
        simp [h] at hc
      rw [if_pos rfl, List.singleton_append, decodeBytes_cons hne, ih]
    | false => rw [if_neg (by simp), decodeBytes_encodeBytes, ih]

/-- A character that is neither safe nor used to write bytes does not occur in a quotation. -/
lemma notMem_quote {safe : Char → Bool} {c : Char} (hc : safe c = false) (hpercent : c ≠ '%')
    (hhex : ∀ n < 16, c ≠ hexDigit n) (s : List Char) : c ∉ quote safe s := by
  intro hmem
  obtain ⟨d, -, hd⟩ := List.mem_flatMap.mp hmem
  cases hsafe : safe d with
  | true =>
    rw [hsafe, if_pos rfl, List.mem_singleton] at hd
    simp [hd, hsafe] at hc
  | false =>
    rw [hsafe, if_neg (by simp)] at hd
    obtain ⟨b, -, hb⟩ := List.mem_flatMap.mp hd
    have hlt : b.toNat < 256 := b.toNat_lt
    simp only [encodeByte, List.mem_cons, List.not_mem_nil, or_false] at hb
    rcases hb with hb | hb | hb
    · exact hpercent hb
    · exact hhex _ (by omega) hb
    · exact hhex _ (by omega) hb

/-! ## Queries -/

section Query

variable (dec : List UInt8 → String)

/-- The text that a quotation stands for. -/
def unquote (s : List Char) : String := dec (decodeBytes s)

/-- The same in a query, where a plus sign stands for a space. -/
def unquotePlus (s : List Char) : String := unquote dec (s.map fun c => if c = '+' then ' ' else c)

/-- A field, split at its first equals sign. -/
def splitField (s : List Char) : List Char × List Char :=
  (s.takeWhile (· ≠ '='), (s.dropWhile (· ≠ '=')).tail)

/-- The fields of a query. -/
def parseQuery (q : List Char) : List (String × String) :=
  ((q.splitOn '&').filter fun s => s ≠ []).map fun s =>
    (unquotePlus dec (splitField s).1, unquotePlus dec (splitField s).2)

/-- A query of fields whose values are quoted already. -/
def joinFields (fields : List (List Char × List Char)) : List Char :=
  ['&'].intercalate (fields.map fun f => f.1 ++ '=' :: f.2)

/-- A character of a name. -/
def isPlain (c : Char) : Bool := c ≠ '%' && c ≠ '+' && c ≠ '&' && c ≠ '='

/-- `safe` quotes the characters that mean something in a query. -/
def Quotes (safe : Char → Bool) : Prop :=
  safe '%' = false ∧ safe '+' = false ∧ safe '&' = false

variable {dec} (hdec : ∀ s : String, dec (utf8 s.toList) = s)

include hdec

lemma unquotePlus_plain {s : List Char} (h : ∀ c ∈ s, isPlain c = true) :
    unquotePlus dec s = String.ofList s := by
  have hplus : (s.map fun c => if c = '+' then ' ' else c) = s := by
    conv_rhs => rw [← List.map_id s]
    refine List.map_congr_left fun c hc => if_neg ?_
    rintro rfl
    simpa [isPlain] using h _ hc
  have hpercent : '%' ∉ s := fun hc => by simpa [isPlain] using h _ hc
  rw [unquotePlus, hplus, unquote, decodeBytes_plain hpercent]
  simpa using hdec (String.ofList s)

lemma unquotePlus_quote {safe : Char → Bool} (h : Quotes safe) (s : List Char) :
    unquotePlus dec (quote safe s) = String.ofList s := by
  have hnot : '+' ∉ quote safe s := notMem_quote h.2.1 (by decide) (by decide) s
  have hplus : ((quote safe s).map fun c => if c = '+' then ' ' else c) = quote safe s := by
    conv_rhs => rw [← List.map_id (quote safe s)]
    refine List.map_congr_left fun c hc => if_neg ?_
    rintro rfl
    exact hnot hc
  rw [unquotePlus, hplus, unquote, decodeBytes_quote h.1]
  simpa using hdec (String.ofList s)

omit hdec in
lemma splitField_join {name value : List Char} (h : '=' ∉ name) :
    splitField (name ++ '=' :: value) = (name, value) := by
  have hname : ∀ c ∈ name, (decide (c ≠ '=')) = true := by
    intro c hc
    simp only [decide_eq_true_eq]
    rintro rfl
    exact h hc
  rw [splitField, List.takeWhile_append_of_pos hname, List.dropWhile_append_of_pos hname]
  simp

/-- Parsing a query gives its fields, when the names are plain and no value has a bare
ampersand. -/
lemma parseQuery_joinFields {fields : List (List Char × List Char)}
    (hname : ∀ f ∈ fields, ∀ c ∈ f.1, isPlain c = true) (hvalue : ∀ f ∈ fields, '&' ∉ f.2) :
    parseQuery dec (joinFields fields) =
      fields.map fun f => (String.ofList f.1, unquotePlus dec f.2) := by
  have hpieces : ((joinFields fields).splitOn '&').filter (fun s => s ≠ []) =
      fields.map fun f => f.1 ++ '=' :: f.2 := by
    cases fields with
    | nil => simp [joinFields, List.splitOn_nil]
    | cons f fields =>
      rw [joinFields, List.splitOn_intercalate]
      · rw [List.filter_eq_self]
        intro s hs
        obtain ⟨g, -, rfl⟩ := List.mem_map.mp hs
        simp
      · intro s hs
        obtain ⟨g, hg, rfl⟩ := List.mem_map.mp hs
        rw [List.mem_append, List.mem_cons]
        rintro (hmem | hmem | hmem)
        · simpa [isPlain] using hname g hg _ hmem
        · simp at hmem
        · exact hvalue g hg hmem
      · simp
  rw [parseQuery, hpieces, List.map_map]
  refine List.map_congr_left fun f hf => ?_
  have heq : '=' ∉ f.1 := fun hmem => by simpa [isPlain] using hname f hf _ hmem
  simp only [Function.comp_apply, splitField_join heq]
  rw [unquotePlus_plain hdec (hname f hf)]

end Query

end Lib.Percent
