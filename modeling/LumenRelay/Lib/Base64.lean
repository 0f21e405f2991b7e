import Mathlib.Data.List.Basic

/-!
# Base64

The URL-safe alphabet, with and without padding.  Three bytes are written as four digits; what
is left at the end is written as two or three, and a padded text goes on with equals signs up
to a multiple of four.  Decoding gives the bytes back.
-/

namespace Lib.Base64

/-- The digit of a value below 64. -/
def digit (n : ℕ) : Char :=
  if n < 26 then Char.ofNat (n + 65)
  else if n < 52 then Char.ofNat (n + 71)
  else if n < 62 then Char.ofNat (n - 4)
  else if n = 62 then '-' else '_'

/-- The value of a digit. -/
def value (c : Char) : Option ℕ :=
  let n := c.toNat
  if 65 ≤ n ∧ n < 91 then some (n - 65)
  else if 97 ≤ n ∧ n < 123 then some (n - 71)
  else if 48 ≤ n ∧ n < 58 then some (n + 4)
  else if c = '-' then some 62
  else if c = '_' then some 63 else none

lemma value_digit {n : ℕ} (h : n < 64) : value (digit n) = some n := by
  have hall : ∀ n : Fin 64, value (digit n) = some n.val := by decide
  exact hall ⟨n, h⟩

/-- A digit is a letter, a decimal digit, a hyphen or an underscore. -/
def isDigit (c : Char) : Bool := c.isAlphanum || c == '-' || c == '_'

lemma isDigit_digit (n : ℕ) : isDigit (digit n) = true := by
  have hall : ∀ n : Fin 63, isDigit (digit n) = true := by decide
  by_cases h : n < 63
  · exact hall ⟨n, h⟩
  · have hlast : digit n = '_' := by
      unfold digit
      rw [if_neg (by omega), if_neg (by omega), if_neg (by omega), if_neg (by omega)]
    rw [hlast]
    decide

/-- The digits of bytes, without padding. -/
def unpadded : List UInt8 → List Char
  | a :: b :: c :: rest =>
    digit (a.toNat / 4) :: digit (a.toNat % 4 * 16 + b.toNat / 16) ::
      digit (b.toNat % 16 * 4 + c.toNat / 64) :: digit (c.toNat % 64) :: unpadded rest
  | [a, b] =>
    [digit (a.toNat / 4), digit (a.toNat % 4 * 16 + b.toNat / 16), digit (b.toNat % 16 * 4)]
  | [a] => [digit (a.toNat / 4), digit (a.toNat % 4 * 16)]
  | [] => []

/-- Three bytes need four digits; the rest of one or two bytes needs one more than it has. -/
lemma length_unpadded (bytes : List UInt8) :
    (unpadded bytes).length = (bytes.length * 4 + 2) / 3 := by
  induction bytes using unpadded.induct with
  | case1 a b c rest ih =>
    simp only [unpadded, List.length_cons, ih]
    omega
  | case2 a b => simp [unpadded]
  | case3 a => simp [unpadded]
  | case4 => simp [unpadded]

/-- The equals signs that a number of digits needs. -/
def padding (length : ℕ) : List Char := List.replicate ((4 - length % 4) % 4) '='

/-- The text of bytes, with padding. -/
def encode (bytes : List UInt8) : List Char := unpadded bytes ++ padding (unpadded bytes).length

/-- The bytes of values of digits. -/
def ofValues : List ℕ → List UInt8
  | a :: b :: c :: d :: rest =>
    UInt8.ofNat (a * 4 + b / 16) :: UInt8.ofNat (b % 16 * 16 + c / 4) ::
      UInt8.ofNat (c % 4 * 64 + d) :: ofValues rest
  | [a, b, c] => [UInt8.ofNat (a * 4 + b / 16), UInt8.ofNat (b % 16 * 16 + c / 4)]
  | [a, b] => [UInt8.ofNat (a * 4 + b / 16)]
  | _ => []

/-- The bytes of a text; the padding is not needed. -/
def decode (s : List Char) : Option (List UInt8) :=
  ((s.filter (· ≠ '=')).mapM value).map ofValues

lemma isDigit_of_mem {bytes : List UInt8} {c : Char} (h : c ∈ unpadded bytes) :
    isDigit c = true := by
  induction bytes using unpadded.induct with
  | case1 a b c' rest ih =>
    simp only [unpadded, List.mem_cons] at h
    rcases h with rfl | rfl | rfl | rfl | h
    · exact isDigit_digit _
    · exact isDigit_digit _
    · exact isDigit_digit _
    · exact isDigit_digit _
    · exact ih h
  | case2 a b =>
    simp only [unpadded, List.mem_cons, List.not_mem_nil, or_false] at h
    rcases h with rfl | rfl | rfl <;> exact isDigit_digit _
  | case3 a =>
    simp only [unpadded, List.mem_cons, List.not_mem_nil, or_false] at h
    rcases h with rfl | rfl <;> exact isDigit_digit _
  | case4 => simp [unpadded] at h

lemma ofNat_of_eq {n : ℕ} {a : UInt8} (h : n = a.toNat) : UInt8.ofNat n = a := by
  rw [h]
  exact UInt8.ofNat_toNat

lemma mapM_unpadded (bytes : List UInt8) :
    ((unpadded bytes).mapM value).map ofValues = some bytes := by
  induction bytes using unpadded.induct with
  | case1 a b c rest ih =>
    have ha : a.toNat < 256 := a.toNat_lt
    have hb : b.toNat < 256 := b.toNat_lt
    have hc : c.toNat < 256 := c.toNat_lt
    obtain ⟨values, hvalues, hrest⟩ := Option.map_eq_some_iff.mp ih
    have hquad : (unpadded (a :: b :: c :: rest)).mapM value =
        some (a.toNat / 4 :: (a.toNat % 4 * 16 + b.toNat / 16) ::
          (b.toNat % 16 * 4 + c.toNat / 64) :: c.toNat % 64 :: values) := by
      simp only [unpadded, List.mapM_cons]
      rw [value_digit (by omega), value_digit (by omega), value_digit (by omega),
        value_digit (by omega), hvalues]
      rfl
    rw [hquad, Option.map_some, ofValues, hrest]
    rw [ofNat_of_eq (a := a) (by omega), ofNat_of_eq (a := b) (by omega),
      ofNat_of_eq (a := c) (by omega)]
  | case2 a b =>
    have ha : a.toNat < 256 := a.toNat_lt
    have hb : b.toNat < 256 := b.toNat_lt
    simp only [unpadded, List.mapM_cons, List.mapM_nil]
    rw [value_digit (by omega), value_digit (by omega), value_digit (by omega)]
    show some (ofValues [_, _, _]) = _
    rw [ofValues, ofNat_of_eq (a := a) (by omega), ofNat_of_eq (a := b) (by omega)]
  | case3 a =>
    have ha : a.toNat < 256 := a.toNat_lt
    simp only [unpadded, List.mapM_cons, List.mapM_nil]
    rw [value_digit (by omega), value_digit (by omega)]
    show some (ofValues [_, _]) = _
    rw [ofValues, ofNat_of_eq (a := a) (by omega)]
  | case4 => rfl

lemma filter_encode (bytes : List UInt8) : (encode bytes).filter (· ≠ '=') = unpadded bytes := by
  have hdigits : (unpadded bytes).filter (· ≠ '=') = unpadded bytes := by
    refine List.filter_eq_self.mpr fun c hc => ?_
    have hdigit := isDigit_of_mem hc
    simp only [ne_eq, decide_not, Bool.not_eq_eq_eq_not, Bool.not_true, decide_eq_false_iff_not]
    rintro rfl
    exact absurd hdigit (by decide)
  have hpadding : (padding (unpadded bytes).length).filter (· ≠ '=') = [] := by
    simp [padding]
  rw [encode, List.filter_append, hdigits, hpadding, List.append_nil]

/-- Decoding gives the bytes back. -/
theorem decode_encode (bytes : List UInt8) : decode (encode bytes) = some bytes := by
  rw [decode, filter_encode, mapM_unpadded]

end Lib.Base64
