import LumenRelay.Lib.Http
import LumenRelay.Lib.Inbox
import Mathlib.Data.List.TakeWhile

/-!
# Responses of HTTP/1.1 as they are sent

A head is a status line and some fields, with an empty line after them.  A body in chunks is a
sequence of chunks, each with its size in hexadecimal digits before it, a line with the size zero,
and some more lines.  The structures have only what may be sent, so that a reader can be compared
with what was meant.
-/

namespace Lib.Message

open Http

/-- CR LF. -/
def crlf : List UInt8 := [13, 10]

/-- The end of a head. -/
def blankLine : List UInt8 := [13, 10, 13, 10]

/-- The bytes of an ASCII text. -/
def ascii (s : String) : List UInt8 := s.toList.map fun c => UInt8.ofNat c.toNat

/-- A part of a line. -/
def IsPlain (l : List UInt8) : Prop := ∀ b ∈ l, b ≠ 13 ∧ b ≠ 10

instance (l : List UInt8) : Decidable (IsPlain l) := inferInstanceAs (Decidable (∀ b ∈ l, _))

lemma IsPlain.append {l l' : List UInt8} (h : IsPlain l) (h' : IsPlain l') : IsPlain (l ++ l') := by
  intro b hb
  rcases List.mem_append.mp hb with hb | hb
  · exact h b hb
  · exact h' b hb

/-- A strict prefix of two parts ends in one of them. -/
lemma prefix_append_cases {α : Type*} {p l l' : List α} (h : p <+: l ++ l') :
    (p <+: l ∧ p.length < l.length) ∨ ∃ q, p = l ++ q ∧ q <+: l' := by
  rcases Nat.lt_or_ge p.length l.length with hlt | hge
  · exact .inl ⟨List.prefix_of_prefix_length_le h (List.prefix_append l l') hlt.le, hlt⟩
  · obtain ⟨q, rfl⟩ := List.prefix_of_prefix_length_le (List.prefix_append l l') h hge
    exact .inr ⟨q, rfl, (List.prefix_append_right_inj l).mp h⟩

/-! ## Texts -/

/-- What is left without the white space at both ends. -/
def strip (isSpace : UInt8 → Bool) (l : List UInt8) : List UInt8 :=
  ((l.dropWhile isSpace).reverse.dropWhile isSpace).reverse

section Strip

variable {isSpace : UInt8 → Bool} {before l after : List UInt8}

lemma strip_infix : strip isSpace l <:+: l := by
  have hinner : ((l.dropWhile isSpace).reverse.dropWhile isSpace).reverse <+: l.dropWhile isSpace := by
    rw [← List.reverse_suffix, List.reverse_reverse]
    exact List.dropWhile_suffix _
  exact hinner.isInfix.trans (List.dropWhile_suffix _).isInfix

lemma strip_self (h : ∀ b ∈ l, isSpace b = false) : strip isSpace l = l := by
  have hkeep : ∀ m : List UInt8, (∀ b ∈ m, isSpace b = false) → m.dropWhile isSpace = m := by
    intro m hm
    cases m with
    | nil => rfl
    | cons b m => exact List.dropWhile_cons_of_neg (by simp [hm b List.mem_cons_self])
  unfold strip
  rw [hkeep l h, hkeep l.reverse fun b hb => h b (List.mem_reverse.mp hb), List.reverse_reverse]

/-- White space around a text is not left. -/
lemma strip_pad (hbefore : ∀ b ∈ before, isSpace b = true) (hafter : ∀ b ∈ after, isSpace b = true) :
    strip isSpace (before ++ l ++ after) = strip isSpace l := by
  have hreverse : ∀ b ∈ after.reverse, isSpace b = true := fun b hb =>
    hafter b (List.mem_reverse.mp hb)
  unfold strip
  rw [List.append_assoc, List.dropWhile_append_of_pos hbefore, List.dropWhile_append]
  split
  · -- the text is white space itself
    rename_i hempty
    have hl : l.dropWhile isSpace = [] := List.isEmpty_iff.mp hempty
    have hend : after.dropWhile isSpace = [] := List.dropWhile_eq_nil_iff.mpr hafter
    rw [hl, hend]
  · rw [List.reverse_append, List.dropWhile_append_of_pos hreverse]

end Strip

/-! ## Numbers -/

/-- The value of a decimal digit. -/
def decimalValue (b : UInt8) : Option ℕ := if 48 ≤ b ∧ b ≤ 57 then some (b.toNat - 48) else none

/-- The value of a hexadecimal digit. -/
def hexValue (b : UInt8) : Option ℕ :=
  if 48 ≤ b ∧ b ≤ 57 then some (b.toNat - 48)
  else if 65 ≤ b ∧ b ≤ 70 then some (b.toNat - 55)
  else if 97 ≤ b ∧ b ≤ 102 then some (b.toNat - 87)
  else none

/-- The number that some digits stand for. -/
def valueOf (base : ℕ) (value : UInt8 → Option ℕ) (digits : List UInt8) : ℕ :=
  digits.foldl (fun n b => base * n + (value b).getD 0) 0

lemma hexValue_of_decimal {b : UInt8} (h : (decimalValue b).isSome = true) :
    (hexValue b).isSome = true := by
  unfold decimalValue at h
  unfold hexValue
  split at h
  · rename_i hrange
    rw [if_pos hrange]
    rfl
  · cases h

/-- A hexadecimal digit is a visible byte of ASCII, and no separator. -/
lemma hexValue_range {b : UInt8} (h : (hexValue b).isSome = true) :
    48 ≤ b.toNat ∧ b.toNat ≤ 102 ∧ b ≠ 59 := by
  unfold hexValue at h
  simp only [UInt8.le_iff_toNat_le, UInt8.reduceToNat] at h
  have hne : b.toNat ≠ 59 → b ≠ 59 := by
    rintro hne rfl
    exact hne rfl
  split_ifs at h with hdecimal hupper hlower
  · exact ⟨by omega, by omega, hne (by omega)⟩
  · exact ⟨by omega, by omega, hne (by omega)⟩
  · exact ⟨by omega, by omega, hne (by omega)⟩
  · cases h

/-! ## Heads -/

/-- A letter in lower case. -/
def lowerByte (b : UInt8) : UInt8 := if 65 ≤ b ∧ b ≤ 90 then b + 32 else b

/-- A field. -/
structure Field where
  name : List UInt8
  before : List UInt8
  value : List UInt8
  after : List UInt8
  name_ne : name ≠ []
  name_token : ∀ b ∈ name, 33 ≤ b.toNat ∧ b.toNat ≤ 126 ∧ b ≠ 58
  before_blank : ∀ b ∈ before, isBlank b = true
  after_blank : ∀ b ∈ after, isBlank b = true
  value_plain : IsPlain value

namespace Field

/-- The name in lower case. -/
def key (f : Field) : List UInt8 := f.name.map lowerByte

def line (f : Field) : List UInt8 := f.name ++ 58 :: (f.before ++ f.value ++ f.after)

lemma isPlain_of_blank {l : List UInt8} (h : ∀ b ∈ l, isBlank b = true) : IsPlain l := by
  intro b hb
  have hblank := h b hb
  simp only [isBlank, Bool.or_eq_true, decide_eq_true_eq] at hblank
  rcases hblank with rfl | rfl <;> decide

lemma line_plain (f : Field) : IsPlain f.line := by
  have hname : IsPlain f.name := by
    intro b hb
    have htoken := f.name_token b hb
    constructor
    · rintro rfl
      exact absurd htoken.1 (by decide)
    · rintro rfl
      exact absurd htoken.1 (by decide)
  have hcolon : IsPlain [58] := by
    intro b hb
    rw [List.mem_singleton.mp hb]
    decide
  exact hname.append (hcolon.append
    (((isPlain_of_blank f.before_blank).append f.value_plain).append (isPlain_of_blank f.after_blank)))

end Field

/-- A status line and some fields. -/
structure Head where
  status : List UInt8
  fields : List Field
  status_ne : status ≠ []
  status_plain : IsPlain status

namespace Head

def lines (h : Head) : List (List UInt8) := h.status :: h.fields.map Field.line

def bytes (h : Head) : List UInt8 := unlines h.lines ++ crlf

/-- The only field of a name has a value. -/
def Only (h : Head) (name value : List UInt8) : Prop :=
  ∃ before f after, h.fields = before ++ f :: after ∧ f.key = name ∧ f.value = value ∧
    ∀ g ∈ before ++ after, g.key ≠ name

/-- There is no field of a name. -/
def Without (h : Head) (name : List UInt8) : Prop := ∀ f ∈ h.fields, f.key ≠ name

lemma lines_plain (h : Head) : ∀ l ∈ h.lines, l ≠ [] ∧ IsPlain l := by
  intro l hl
  rcases List.mem_cons.mp hl with rfl | hl
  · exact ⟨h.status_ne, h.status_plain⟩
  · obtain ⟨f, -, rfl⟩ := List.mem_map.mp hl
    exact ⟨by simp [Field.line], f.line_plain⟩

end Head

/-- The first empty line ends the lines before it. -/
lemma cut_unlines {ls : List (List UInt8)} (hne : ls ≠ []) (h : ∀ l ∈ ls, l ≠ [] ∧ IsPlain l)
    (rest : List UInt8) :
    Inbox.cut blankLine (unlines ls ++ crlf ++ rest) = some (unlines ls ++ crlf, rest) := by
  induction ls with
  | nil => exact absurd rfl hne
  | cons l ls ih =>
    rw [List.forall_mem_cons] at h
    obtain ⟨⟨-, hplain⟩, hls⟩ := h
    have hcons : unlines (l :: ls) = l ++ crlf ++ unlines ls := by simp [unlines, crlf]
    -- nothing starts in a line
    have hline : ∀ after : List UInt8, ∀ b, b <:+ l → b ≠ [] → ¬ blankLine <+: b ++ after := by
      intro after b hsuffix hb hprefix
      cases b with
      | nil => exact hb rfl
      | cons x b =>
        have hx := (hplain x (hsuffix.subset List.mem_cons_self)).1
        exact hx (List.cons_prefix_cons.mp hprefix).1.symm
    rw [hcons]
    simp only [List.append_assoc]
    rw [Inbox.cut_skip (hline _)]
    cases ls with
    | nil =>
      have hhere : Inbox.cut blankLine (crlf ++ (crlf ++ rest)) = some (crlf ++ crlf, rest) := by
        change Inbox.cut blankLine (13 :: 10 :: 13 :: 10 :: rest) = _
        rw [Inbox.cut, if_pos ⟨rest, rfl⟩]
        rfl
      have hnil : unlines [] = [] := rfl
      rw [hnil, List.nil_append, List.nil_append, hhere]
      rfl
    | cons l' ls =>
      -- the next line is not empty, so its end is looked at
      obtain ⟨⟨hne', hplain'⟩, -⟩ := List.forall_mem_cons.mp hls
      obtain ⟨x, l', rfl⟩ := List.exists_cons_of_ne_nil hne'
      have hx := (hplain' x List.mem_cons_self).1
      have hend : ∀ b, b <:+ crlf → b ≠ [] →
          ¬ blankLine <+: b ++ (unlines ((x :: l') :: ls) ++ (crlf ++ rest)) := by
        intro b hsuffix hb hprefix
        have hunlines : unlines ((x :: l') :: ls) = x :: (l' ++ crlf ++ unlines ls) := by
          simp [unlines, crlf]
        rw [hunlines] at hprefix
        rcases List.suffix_cons_iff.mp hsuffix with rfl | hsuffix
        · simp [crlf, blankLine, List.cons_prefix_cons, hx.symm] at hprefix
        · rcases List.suffix_cons_iff.mp hsuffix with rfl | hsuffix
          · simp [blankLine, List.cons_prefix_cons] at hprefix
          · exact hb (List.suffix_nil.mp hsuffix)
      rw [Inbox.cut_skip hend, ← List.append_assoc (unlines _), ih (by simp) hls]
      rfl

lemma Head.cut_bytes (h : Head) (rest : List UInt8) :
    Inbox.cut blankLine (h.bytes ++ rest) = some (h.bytes, rest) :=
  cut_unlines (by simp [Head.lines]) h.lines_plain rest

/-! ## Chunks -/

/-- The line before a chunk: the digits of a number, blanks, and perhaps an extension. -/
structure SizeLine where
  digits : List UInt8
  blanks : List UInt8
  extension : List UInt8
  digits_ne : digits ≠ []
  digits_hex : ∀ b ∈ digits, (hexValue b).isSome = true
  blanks_blank : ∀ b ∈ blanks, isBlank b = true
  extension_plain : IsPlain extension
  extension_start : ∀ b ∈ extension.head?, b = 59

namespace SizeLine

def bytes (s : SizeLine) : List UInt8 := s.digits ++ s.blanks ++ s.extension

/-- The size of the chunk. -/
def size (s : SizeLine) : ℕ := valueOf 16 hexValue s.digits

lemma plain (s : SizeLine) : IsPlain s.bytes := by
  have hdigits : IsPlain s.digits := by
    intro b hb
    have hrange := hexValue_range (s.digits_hex b hb)
    constructor
    · rintro rfl
      exact absurd hrange.1 (by decide)
    · rintro rfl
      exact absurd hrange.1 (by decide)
  exact (hdigits.append (Field.isPlain_of_blank s.blanks_blank)).append s.extension_plain

/-- What is before the extension. -/
lemma takeWhile_bytes (s : SizeLine) (rest : List UInt8) (h : ∀ b ∈ rest.head?, b = 59) :
    (s.digits ++ s.blanks ++ rest).takeWhile (· ≠ 59) = s.digits ++ s.blanks := by
  have hne : ∀ b ∈ s.digits ++ s.blanks, decide (b ≠ 59) = true := by
    intro b hb
    rw [decide_eq_true_eq]
    rcases List.mem_append.mp hb with hb | hb
    · exact (hexValue_range (s.digits_hex b hb)).2.2
    · rintro rfl
      exact absurd (s.blanks_blank _ hb) (by decide)
  rw [List.takeWhile_append_of_pos hne]
  cases rest with
  | nil => simp
  | cons b rest => simp [h b rfl]

end SizeLine

/-- A chunk with its line. -/
structure Chunk where
  line : SizeLine
  data : List UInt8
  data_ne : data ≠ []
  sized : line.size = data.length

/-- A chunk as it is sent. -/
def Chunk.bytes (c : Chunk) : List UInt8 := c.line.bytes ++ crlf ++ (c.data ++ crlf)

/-- Some chunks, and the line with the size zero. -/
def framed (chunks : List Chunk) (last : SizeLine) : List UInt8 :=
  chunks.flatMap Chunk.bytes ++ (last.bytes ++ crlf)

/-- What the chunks hold. -/
def content (chunks : List Chunk) : List UInt8 := chunks.flatMap Chunk.data

@[simp] lemma framed_nil (last : SizeLine) : framed [] last = last.bytes ++ crlf := rfl

lemma framed_cons (c : Chunk) (chunks : List Chunk) (last : SizeLine) :
    framed (c :: chunks) last = c.line.bytes ++ crlf ++ (c.data ++ (crlf ++ framed chunks last)) := by
  simp [framed, Chunk.bytes]

@[simp] lemma content_nil : content [] = [] := rfl

@[simp] lemma content_cons (c : Chunk) (chunks : List Chunk) :
    content (c :: chunks) = c.data ++ content chunks := rfl

/-- A line ends where its end is. -/
lemma cut_crlf {l : List UInt8} (h : IsPlain l) (rest : List UInt8) :
    Inbox.cut crlf (l ++ crlf ++ rest) = some (l ++ crlf, rest) := by
  have hline : ∀ b, b <:+ l → b ≠ [] → ¬ crlf <+: b ++ (crlf ++ rest) := by
    intro b hsuffix hb hprefix
    cases b with
    | nil => exact hb rfl
    | cons x b =>
      have hx := (h x (hsuffix.subset List.mem_cons_self)).1
      exact hx (List.cons_prefix_cons.mp hprefix).1.symm
  have hhere : Inbox.cut crlf (crlf ++ rest) = some (crlf, rest) := by
    change Inbox.cut crlf (13 :: 10 :: rest) = _
    rw [Inbox.cut, if_pos ⟨rest, rfl⟩]
    rfl
  rw [List.append_assoc, Inbox.cut_skip hline, hhere]
  rfl

end Lib.Message
