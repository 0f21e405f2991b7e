import LumenRelay.Lib.Message
import Mathlib.Algebra.Order.Ring.Int
import Mathlib.Data.List.Infix

/-!
# Responses that the installer reads from a proxy

The installer collects the bytes of a response and asks after each piece whether it is complete.  A
chunked body is decoded from its start each time, and some of the errors of the decoder mean that
the rest is still to come.
-/

namespace Installer

open Lib Lib.Message

/-- `MAX_UPSTREAM_BYTES`. -/
def maxUpstreamBytes : ℕ := 4 * 1024 * 1024

/-- How long a head may be. -/
def maxHeadBytes : ℕ := 64 * 1024

/-- What the reader of a response throws. -/
inductive ReadError
  | invalidChunkHeader
  | invalidChunkSize
  | truncatedChunk
  | responseTooLarge
  | invalidChunkEnding
  | missingFinalChunk
  | headersTooLarge
deriving DecidableEq

def ReadError.message : ReadError → String
  | invalidChunkHeader => "invalid chunk header"
  | invalidChunkSize => "invalid chunk size"
  | truncatedChunk => "truncated chunk"
  | responseTooLarge => "response too large"
  | invalidChunkEnding => "invalid chunk ending"
  | missingFinalChunk => "missing final chunk"
  | headersTooLarge => "HTTP headers too large"

/-! ## Texts -/

/-- The white space of Latin-1. -/
def isSpace (b : UInt8) : Bool := (9 ≤ b && b ≤ 13) || b = 32 || b = 160

/-- `trim`. -/
def trim (l : List UInt8) : List UInt8 := strip isSpace l

/-- `toString("ascii")`, which clears the highest bit of each byte. -/
def toAscii (l : List UInt8) : List UInt8 := l.map fun b => b &&& 127

/-- The bytes of a length in front of which a name stands, in any case. -/
def dropName (name l : List UInt8) : Option (List UInt8) :=
  if (l.take name.length).map lowerByte = name then some (l.drop name.length) else none

/-! ## Chunks -/

/-- The loop of `decodeChunked`, of which no more than some rounds are run; `body` is what is left
from the offset on, and `decoded` the chunks before it. -/
def decodeLoop : ℕ → List UInt8 → List UInt8 → Option (Except ReadError (List UInt8))
  | 0, _, _ => none
  | fuel + 1, body, decoded =>
    if body = [] then some (.error .missingFinalChunk)
    else
      match Inbox.cut crlf body with
      | none => some (.error .invalidChunkHeader)
      | some (found, rest) =>
        let header := found.take (found.length - 2)
        if 32 < header.length then some (.error .invalidChunkHeader)
        else
          let line := trim ((toAscii header).takeWhile (· ≠ 59))
          if line = [] ∨ ¬ line.all fun b => (hexValue b).isSome then
            some (.error .invalidChunkSize)
          else
            let length := valueOf 16 hexValue line
            if length = 0 then some (.ok decoded)
            -- a number from 2 ^ 53 on is no safe integer
            else if 2 ^ 53 ≤ length ∨ rest.length < length + 2 then some (.error .truncatedChunk)
            else
              let decoded := decoded ++ rest.take length
              if maxUpstreamBytes < decoded.length then some (.error .responseTooLarge)
              else if rest[length]? ≠ some 13 ∨ rest[length + 1]? ≠ some 10 then
                some (.error .invalidChunkEnding)
              else decodeLoop fuel (rest.drop (length + 2)) decoded

/-- `decodeChunked`; a round takes more than one byte. -/
def decodeChunked (body : List UInt8) : Except ReadError (List UInt8) :=
  (decodeLoop (body.length + 1) body []).getD (.error .missingFinalChunk)

/-! ## Heads -/

/-- A match of `/\r\ncontent-length:\s*(\d+)/i` at the start of a text. -/
def lengthAt (l : List UInt8) : Option ℕ := do
  let rest ← dropName (crlf ++ ascii "content-length:") l
  let digits := (rest.dropWhile isSpace).takeWhile fun b => (decimalValue b).isSome
  if digits = [] then none else some (valueOf 10 decimalValue digits)

/-- A match of `/\r\ntransfer-encoding:[^\r\n]*chunked/i` at the start of a text. -/
def chunkedAt (l : List UInt8) : Bool :=
  match dropName (crlf ++ ascii "transfer-encoding:") l with
  | some rest =>
    ascii "chunked" <:+: (rest.takeWhile fun b => b ≠ 13 && b ≠ 10).map lowerByte
  | none => false

/-- `responseIsComplete`. -/
def responseIsComplete (raw : List UInt8) : Except ReadError Bool :=
  match Inbox.cut blankLine raw with
  | none => .ok false
  | some (found, body) =>
    let boundary := found.length - 4
    if maxHeadBytes < boundary then .error .headersTooLarge
    else
      let head := found.take boundary
      match head.tails.findSome? lengthAt with
      | some length => .ok (boundary + 4 + length ≤ raw.length)
      | none =>
        if head.tails.any chunkedAt then
          match decodeChunked body with
          | .ok _ => .ok true
          | .error e =>
            if e.message ∈ ["truncated chunk", "missing final chunk", "invalid chunk header"] then
              .ok false
            else .error e
        else .ok false

/-! ## Lines of sizes -/

lemma toAscii_self {l : List UInt8} (h : ∀ b ∈ l, b.toNat < 128) : toAscii l = l := by
  have hmask : ∀ b ∈ l, b &&& 127 = b := by
    intro b hb
    refine UInt8.toNat_inj.mp ?_
    rw [UInt8.toNat_and]
    change b.toNat &&& (2 ^ 7 - 1) = b.toNat
    rw [Nat.and_two_pow_sub_one_eq_mod, Nat.mod_eq_of_lt (h b hb)]
  unfold toAscii
  rw [List.map_congr_left hmask, List.map_id']

lemma isSpace_of_isBlank {b : UInt8} (h : Http.isBlank b = true) :
    isSpace b = true ∧ b.toNat < 128 := by
  simp only [Http.isBlank, Bool.or_eq_true, decide_eq_true_eq] at h
  rcases h with rfl | rfl <;> decide

lemma not_isSpace_of_hex {b : UInt8} (h : (hexValue b).isSome = true) : isSpace b = false := by
  have hrange := hexValue_range h
  unfold isSpace
  simp only [Bool.or_eq_false_iff, Bool.and_eq_false_iff, decide_eq_false_iff_not,
    UInt8.le_iff_toNat_le, UInt8.reduceToNat]
  refine ⟨⟨.inr (by omega), ?_⟩, ?_⟩
  · rintro rfl
    exact absurd hrange.1 (by decide)
  · rintro rfl
    exact absurd hrange.2.1 (by decide)

/-- The digits of a size are read. -/
lemma size_digits (s : SizeLine) : trim ((toAscii s.bytes).takeWhile (· ≠ 59)) = s.digits := by
  have hdigits : toAscii s.digits = s.digits :=
    toAscii_self fun b hb => by
      have hrange := hexValue_range (s.digits_hex b hb)
      omega
  have hblanks : toAscii s.blanks = s.blanks :=
    toAscii_self fun b hb => (isSpace_of_isBlank (s.blanks_blank b hb)).2
  have hstart : ∀ b ∈ (toAscii s.extension).head?, b = 59 := by
    intro b hb
    unfold toAscii at hb
    rw [List.head?_map, Option.mem_def, Option.map_eq_some_iff] at hb
    obtain ⟨c, hc, rfl⟩ := hb
    rw [s.extension_start c hc]
    decide
  have hsplit : toAscii s.bytes = s.digits ++ s.blanks ++ toAscii s.extension := by
    have hmap : toAscii s.bytes = toAscii s.digits ++ toAscii s.blanks ++ toAscii s.extension := by
      simp [toAscii, SizeLine.bytes]
    rw [hmap, hdigits, hblanks]
  have hpad : strip isSpace ([] ++ s.digits ++ s.blanks) = strip isSpace s.digits :=
    strip_pad (by simp) fun b hb => (isSpace_of_isBlank (s.blanks_blank b hb)).1
  rw [hsplit, s.takeWhile_bytes _ hstart]
  exact hpad.trans (strip_self fun b hb => not_isSpace_of_hex (s.digits_hex b hb))

/-! ## Chunks that are decoded -/

/-- The errors after which more bytes are awaited. -/
def ReadError.IsShort (e : ReadError) : Prop :=
  e.message ∈ ["truncated chunk", "missing final chunk", "invalid chunk header"]

instance (e : ReadError) : Decidable e.IsShort := inferInstanceAs (Decidable (_ ∈ _))

variable {fuel : ℕ} {body decoded rest p : List UInt8} {c : Chunk} {chunks : List Chunk}
  {last line : SizeLine}

/-- The loop ends on any bytes: a round takes more than one of them. -/
lemma decodeLoop_ends (h : body.length < fuel) : ∃ r, decodeLoop fuel body decoded = some r := by
  induction fuel generalizing body decoded with
  | zero => omega
  | succ fuel ih =>
    unfold decodeLoop
    split_ifs with hnil
    · exact ⟨_, rfl⟩
    · split
      · exact ⟨_, rfl⟩
      · rename_i found rest hcut
        dsimp only
        split_ifs
        · exact ⟨_, rfl⟩
        · exact ⟨_, rfl⟩
        · exact ⟨_, rfl⟩
        · exact ⟨_, rfl⟩
        · exact ⟨_, rfl⟩
        · exact ⟨_, rfl⟩
        · refine ih ?_
          have hlength := congrArg List.length (Inbox.cut_some hcut).1
          have hfound := (Inbox.cut_some hcut).2.length_le
          rw [List.length_append] at hlength
          rw [List.length_drop]
          simp only [crlf, List.length_cons, List.length_nil] at hfound
          omega

/-- The line of a size is read. -/
lemma decodeLoop_line (hline : line.bytes.length ≤ 32) :
    decodeLoop (fuel + 1) (line.bytes ++ crlf ++ rest) decoded =
      if line.size = 0 then some (.ok decoded)
      else if 2 ^ 53 ≤ line.size ∨ rest.length < line.size + 2 then some (.error .truncatedChunk)
      else if maxUpstreamBytes < (decoded ++ rest.take line.size).length then
        some (.error .responseTooLarge)
      else if rest[line.size]? ≠ some 13 ∨ rest[line.size + 1]? ≠ some 10 then
        some (.error .invalidChunkEnding)
      else decodeLoop fuel (rest.drop (line.size + 2)) (decoded ++ rest.take line.size) := by
  have hne : line.bytes ++ crlf ++ rest ≠ [] := by simp [crlf]
  have hheader : (line.bytes ++ crlf).take ((line.bytes ++ crlf).length - 2) = line.bytes := by
    simp [crlf]
  have hdigits : ¬ (line.digits = [] ∨ ¬ line.digits.all fun b => (hexValue b).isSome) := by
    rw [not_or, not_not]
    exact ⟨line.digits_ne, List.all_eq_true.mpr line.digits_hex⟩
  rw [decodeLoop, if_neg hne, cut_crlf line.plain]
  dsimp only
  rw [hheader, if_neg (by omega), size_digits, if_neg hdigits]
  rfl

/-- A chunk is taken as it is, whatever its bytes are. -/
lemma decodeLoop_chunk (hline : c.line.bytes.length ≤ 32)
    (hsize : (decoded ++ c.data).length ≤ maxUpstreamBytes) :
    decodeLoop (fuel + 1) (c.line.bytes ++ crlf ++ (c.data ++ (crlf ++ rest))) decoded =
      decodeLoop fuel rest (decoded ++ c.data) := by
  have hpos : 0 < c.data.length := List.length_pos_iff.mpr c.data_ne
  have hmax : c.data.length < 2 ^ 53 := by
    rw [List.length_append] at hsize
    have : maxUpstreamBytes < 2 ^ 53 := by decide
    omega
  have htake : (c.data ++ (crlf ++ rest)).take c.data.length = c.data := List.take_left
  have hcr : (c.data ++ (crlf ++ rest))[c.data.length]? = some 13 := by simp [crlf]
  have hlf : (c.data ++ (crlf ++ rest))[c.data.length + 1]? = some 10 := by
    rw [List.getElem?_append_right (by omega)]
    simp [crlf]
  have hdrop : (c.data ++ (crlf ++ rest)).drop (c.data.length + 2) = rest := by
    rw [List.drop_append]
    simp [crlf]
  rw [decodeLoop_line hline, c.sized, if_neg (by omega), if_neg, htake, if_neg (by omega),
    if_neg (by simp [hcr, hlf]), hdrop]
  rw [not_or, not_le, not_lt]
  exact ⟨hmax, by simp [crlf]⟩

/-- The chunks are within the limits of the decoder, which has decoded some bytes before. -/
structure Fits (chunks : List Chunk) (last : SizeLine) (decoded : List UInt8) : Prop where
  lines : ∀ c ∈ chunks, c.line.bytes.length ≤ 32
  last : last.bytes.length ≤ 32
  size : (decoded ++ content chunks).length ≤ maxUpstreamBytes

lemma Fits.head (h : Fits (c :: chunks) last decoded) :
    c.line.bytes.length ≤ 32 ∧ (decoded ++ c.data).length ≤ maxUpstreamBytes := by
  have hsize := h.size
  simp only [content_cons, List.length_append] at hsize ⊢
  exact ⟨h.lines c List.mem_cons_self, by omega⟩

lemma Fits.tail (h : Fits (c :: chunks) last decoded) : Fits chunks last (decoded ++ c.data) where
  lines c hc := h.lines c (List.mem_cons_of_mem _ hc)
  last := h.last
  size := by
    rw [List.append_assoc]
    exact h.size

/-- All chunks are decoded, and what follows the line of the size zero is not looked at. -/
lemma decodeLoop_framed (h : Fits chunks last decoded) (hzero : last.size = 0)
    (hfuel : chunks.length < fuel) :
    decodeLoop fuel (framed chunks last ++ rest) decoded = some (.ok (decoded ++ content chunks)) := by
  induction chunks generalizing fuel decoded with
  | nil =>
    obtain ⟨fuel, rfl⟩ := Nat.exists_eq_add_of_le' (Nat.zero_lt_of_lt hfuel)
    rw [framed_nil, decodeLoop_line h.last, if_pos hzero, content_nil, List.append_nil]
  | cons c chunks ih =>
    obtain ⟨fuel, rfl⟩ := Nat.exists_eq_add_of_le' (Nat.zero_lt_of_lt hfuel)
    obtain ⟨hline, hsize⟩ := h.head
    have hbody : framed (c :: chunks) last ++ rest =
        c.line.bytes ++ crlf ++ (c.data ++ (crlf ++ (framed chunks last ++ rest))) := by
      rw [framed_cons]
      simp only [List.append_assoc]
    have hfuel' : chunks.length < fuel := by
      rw [List.length_cons] at hfuel
      omega
    rw [hbody, decodeLoop_chunk hline hsize, ih h.tail hfuel', content_cons, List.append_assoc]

/-- A part of a line has no end of a line. -/
lemma decodeLoop_part (hp : p <+: line.bytes ++ crlf)
    (hshort : p.length < (line.bytes ++ crlf).length) :
    ∃ e : ReadError, e.IsShort ∧ decodeLoop (fuel + 1) p decoded = some (.error e) := by
  have hcut : Inbox.cut crlf p = none := by
    have hwhole := cut_crlf line.plain []
    rw [List.append_nil] at hwhole
    exact Inbox.cut_short hwhole hp hshort
  unfold decodeLoop
  split_ifs
  · exact ⟨.missingFinalChunk, by decide, rfl⟩
  · rw [hcut]
    exact ⟨.invalidChunkHeader, by decide, rfl⟩

/-- As long as the line of the size zero has not come, the decoder asks for more. -/
lemma decodeLoop_short (h : Fits chunks last decoded) (hp : p <+: framed chunks last)
    (hshort : p.length < (framed chunks last).length) (hfuel : p.length < fuel) :
    ∃ e : ReadError, e.IsShort ∧ decodeLoop fuel p decoded = some (.error e) := by
  induction chunks generalizing fuel decoded p with
  | nil =>
    obtain ⟨fuel, rfl⟩ := Nat.exists_eq_add_of_le' (Nat.zero_lt_of_lt hfuel)
    exact decodeLoop_part hp hshort
  | cons c chunks ih =>
    obtain ⟨fuel, rfl⟩ := Nat.exists_eq_add_of_le' (Nat.zero_lt_of_lt hfuel)
    obtain ⟨hline, hsize⟩ := h.head
    rw [framed_cons] at hp hshort
    rcases prefix_append_cases hp with ⟨hp, hshort⟩ | ⟨q, rfl, hq⟩
    · exact decodeLoop_part hp hshort
    · rw [← List.append_assoc c.data] at hq
      rcases prefix_append_cases hq with ⟨-, hshort⟩ | ⟨q, rfl, hrest⟩
      · -- the chunk has not come whole
        refine ⟨.truncatedChunk, by decide, ?_⟩
        have hpos : 0 < c.data.length := List.length_pos_iff.mpr c.data_ne
        have hlength : q.length < c.data.length + 2 := by simpa [crlf] using hshort
        rw [decodeLoop_line hline, c.sized, if_neg (by omega), if_pos (.inr hlength)]
      · rw [List.append_assoc c.data, decodeLoop_chunk hline hsize]
        refine ih h.tail hrest ?_ ?_
        · simp only [List.length_append] at hshort
          omega
        · simp only [List.length_append] at hfuel
          have : 0 < c.data.length := List.length_pos_iff.mpr c.data_ne
          omega

/-! ## Heads that are searched -/

/-- A search that starts at a CR passes over a part of a line. -/
lemma tails_plain {β : Type} {find : List UInt8 → Option β} {x y : List UInt8}
    (hfind : ∀ t, t.head? ≠ some 13 → find t = none) (hx : IsPlain x) :
    (x ++ y).tails.findSome? find = y.tails.findSome? find := by
  induction x with
  | nil => rfl
  | cons b x ih =>
    have hb : find (b :: (x ++ y)) = none :=
      hfind _ (by simpa using (hx b List.mem_cons_self).1)
    rw [List.cons_append, List.tails_cons, List.findSome?_cons, hb]
    exact ih fun b hb => hx b (List.mem_cons_of_mem _ hb)

/-- The fields of a head, each after the end of the line before it. -/
def fieldsText (fields : List Field) : List UInt8 := fields.flatMap fun f => crlf ++ f.line

lemma fieldsText_cons (f : Field) (fields : List Field) :
    fieldsText (f :: fields) = crlf ++ (f.line ++ fieldsText fields) := by
  simp [fieldsText]

lemma head_bytes (h : Head) : h.bytes = h.status ++ fieldsText h.fields ++ blankLine := by
  have hlines : ∀ (l : List UInt8) (fields : List Field),
      Http.unlines (l :: fields.map Field.line) ++ crlf = l ++ fieldsText fields ++ blankLine := by
    intro l fields
    induction fields generalizing l with
    | nil => simp [Http.unlines, fieldsText, crlf, blankLine]
    | cons f fields ih =>
      have hcons : Http.unlines (l :: (f :: fields).map Field.line) =
          l ++ crlf ++ Http.unlines (f.line :: fields.map Field.line) := by
        simp [Http.unlines, crlf]
      rw [hcons, fieldsText_cons, List.append_assoc, ih]
      simp only [List.append_assoc]
  exact hlines h.status h.fields

/-- The head without the empty line. -/
lemma take_bytes (h : Head) : h.bytes.take (h.bytes.length - 4) = h.status ++ fieldsText h.fields := by
  rw [head_bytes, List.length_append]
  exact List.take_left

/-- The search in the fields looks at the start of each of them. -/
lemma tails_fields {β : Type} {find : List UInt8 → Option β}
    (hfind : ∀ t, t.head? ≠ some 13 → find t = none) (f : Field) (fields : List Field) :
    (fieldsText (f :: fields)).tails.findSome? find =
      (find (crlf ++ (f.line ++ fieldsText fields))).or ((fieldsText fields).tails.findSome? find) := by
  have hlf : find (10 :: (f.line ++ fieldsText fields)) = none := hfind _ (by simp)
  rw [fieldsText_cons]
  change (13 :: 10 :: (f.line ++ fieldsText fields)).tails.findSome? find =
    (find (13 :: 10 :: (f.line ++ fieldsText fields))).or _
  rw [List.tails_cons, List.tails_cons, List.findSome?_cons, List.findSome?_cons, hlf,
    tails_plain hfind f.line_plain]
  cases find (13 :: 10 :: (f.line ++ fieldsText fields)) <;> rfl

lemma lowerByte_eq {b c : UInt8} (hc : c.toNat < 65) : lowerByte b = c ↔ b = c := by
  unfold lowerByte
  split
  · rename_i hupper
    simp only [UInt8.le_iff_toNat_le, UInt8.reduceToNat] at hupper
    constructor
    · rintro rfl
      rw [UInt8.toNat_add] at hc
      simp only [UInt8.reduceToNat] at hc
      omega
    · rintro rfl
      omega
  · rfl

lemma value_length_le (f : Field) : f.value.length ≤ f.line.length := by
  simp only [Field.line, List.length_append, List.length_cons]
  omega

/-- A name stands at the start of a field if it is the name of the field. -/
lemma dropName_line {name : List UInt8} (hname : 58 ∉ name) (f : Field) (rest : List UInt8) :
    dropName (name ++ [58]) (f.line ++ rest) =
      if f.key = name then some (f.before ++ f.value ++ f.after ++ rest) else none := by
  have hcolon : 58 ∉ f.name := fun hmem => (f.name_token 58 hmem).2.2 rfl
  have hgeneral : ∀ (x y tail : List UInt8), 58 ∉ x → 58 ∉ y →
      (((y ++ 58 :: tail).take (x.length + 1)).map lowerByte = x ++ [58] ↔ y.map lowerByte = x) := by
    intro x
    induction x with
    | nil =>
      intro y tail _ hy
      cases y with
      | nil => simp [lowerByte]
      | cons b y =>
        have hb : lowerByte b ≠ 58 := by
          rw [ne_eq, lowerByte_eq (by decide)]
          rintro rfl
          exact hy List.mem_cons_self
        simp [hb]
    | cons a x ih =>
      intro y tail hx hy
      rw [List.mem_cons, not_or] at hx
      cases y with
      | nil =>
        have ha : lowerByte 58 ≠ a := by
          change (58 : UInt8) ≠ a
          exact hx.1
        simp [ha]
      | cons b y =>
        rw [List.mem_cons, not_or] at hy
        have htail := ih y tail hx.2 hy.2
        simp only [List.cons_append, List.length_cons, List.take_succ_cons, List.map_cons,
          List.cons.injEq, htail]
  have hline : f.line ++ rest = f.name ++ 58 :: (f.before ++ f.value ++ f.after ++ rest) := by
    simp [Field.line]
  unfold dropName
  rw [hline, List.length_append, List.length_singleton]
  by_cases hkey : f.key = name
  · have hlength : f.name.length = name.length := by
      rw [← hkey, Field.key, List.length_map]
    rw [if_pos ((hgeneral name f.name _ hname hcolon).mpr hkey), if_pos hkey, ← hlength]
    simp
  · rw [if_neg fun h => hkey ((hgeneral name f.name _ hname hcolon).mp h), if_neg hkey]

lemma dropName_crlf (name l : List UInt8) : dropName (crlf ++ name) (crlf ++ l) = dropName name l := by
  unfold dropName crlf
  simp [lowerByte]

/-- A match starts at the end of a line. -/
lemma dropName_start {name l : List UInt8} (h : l.head? ≠ some 13) :
    dropName (crlf ++ name) l = none := by
  unfold dropName
  rw [if_neg]
  intro heq
  cases l with
  | nil => cases heq
  | cons b l =>
    have hb : lowerByte b = 13 := (List.cons.inj heq).1
    rw [lowerByte_eq (by decide)] at hb
    exact h (by rw [hb]; rfl)

/-! ## The fields of the framing -/

lemma lengthName_eq : ascii "content-length:" = ascii "content-length" ++ [58] := by decide +kernel

lemma lengthAt_start {l : List UInt8} (h : l.head? ≠ some 13) : lengthAt l = none := by
  rw [lengthAt, lengthName_eq, dropName_start h]
  rfl

/-- The length of a field that holds digits. -/
lemma lengthAt_digits {f : Field} (hkey : f.key = ascii "content-length") (hne : f.value ≠ [])
    (hdigits : ∀ b ∈ f.value, (decimalValue b).isSome = true) (fields : List Field) :
    lengthAt (crlf ++ (f.line ++ fieldsText fields)) = some (valueOf 10 decimalValue f.value) := by
  obtain ⟨first, value, hvalue⟩ := List.exists_cons_of_ne_nil hne
  have hfirst : isSpace first = false := by
    refine not_isSpace_of_hex (hexValue_of_decimal (hdigits first ?_))
    rw [hvalue]
    exact List.mem_cons_self
  have hbefore : ∀ b ∈ f.before, isSpace b = true := fun b hb =>
    (isSpace_of_isBlank (f.before_blank b hb)).1
  have hdrop : (f.before ++ f.value ++ f.after ++ fieldsText fields).dropWhile isSpace =
      f.value ++ (f.after ++ fieldsText fields) := by
    simp only [List.append_assoc]
    rw [List.dropWhile_append_of_pos hbefore, hvalue]
    exact List.dropWhile_cons_of_neg (by simp [hfirst])
  -- a blank or the end of the line is after the digits
  have hend : ∀ b ∈ (f.after ++ fieldsText fields).head?, (decimalValue b).isSome = false := by
    intro b hb
    cases hafter : f.after with
    | nil =>
      rw [hafter, List.nil_append] at hb
      cases fields with
      | nil => cases hb
      | cons g fields =>
        rw [fieldsText_cons] at hb
        obtain rfl : 13 = b := Option.some.inj hb
        decide
    | cons c after =>
      rw [hafter] at hb
      obtain rfl : c = b := Option.some.inj hb
      have hblank := f.after_blank c (by rw [hafter]; exact List.mem_cons_self)
      simp only [Http.isBlank, Bool.or_eq_true, decide_eq_true_eq] at hblank
      rcases hblank with rfl | rfl <;> decide
  have htake : (f.value ++ (f.after ++ fieldsText fields)).takeWhile
      (fun b => (decimalValue b).isSome) = f.value := by
    rw [List.takeWhile_append_of_pos hdigits]
    cases hrest : f.after ++ fieldsText fields with
    | nil => simp
    | cons b rest =>
      rw [List.takeWhile_cons_of_neg (by simp [hend b (by rw [hrest]; rfl)]), List.append_nil]
  rw [lengthAt, lengthName_eq, dropName_crlf, dropName_line (by decide +kernel), if_pos hkey]
  simp only [Option.bind_eq_bind, Option.bind_some, hdrop, htake, if_neg hne]

lemma lengthAt_other {f : Field} (hkey : f.key ≠ ascii "content-length") (rest : List UInt8) :
    lengthAt (crlf ++ (f.line ++ rest)) = none := by
  rw [lengthAt, lengthName_eq, dropName_crlf, dropName_line (by decide +kernel), if_neg hkey]
  rfl

/-- The search passes over the fields with another name. -/
lemma findLength_skip {before : List Field} (h : ∀ f ∈ before, f.key ≠ ascii "content-length")
    (fields : List Field) :
    (fieldsText (before ++ fields)).tails.findSome? lengthAt =
      (fieldsText fields).tails.findSome? lengthAt := by
  induction before with
  | nil => rfl
  | cons f before ih =>
    rw [List.forall_mem_cons] at h
    rw [List.cons_append, tails_fields (fun _ => lengthAt_start), lengthAt_other h.1, Option.none_or,
      ih h.2]

/-- The fields of a head as the reader of its length sees them. -/
lemma findLength_head (h : Head) :
    (h.bytes.take (h.bytes.length - 4)).tails.findSome? lengthAt =
      (fieldsText h.fields).tails.findSome? lengthAt := by
  rw [take_bytes, tails_plain (fun _ => lengthAt_start) h.status_plain]

/-- A field says that the body is in chunks. -/
def SaysChunked (f : Field) : Prop :=
  f.key = ascii "transfer-encoding" ∧ ascii "chunked" <:+ f.value.map lowerByte

lemma chunkedAt_field {f : Field} (h : SaysChunked f) (fields : List Field) :
    chunkedAt (crlf ++ (f.line ++ fieldsText fields)) = true := by
  have hplain : ∀ b ∈ f.before ++ f.value ++ f.after, (b ≠ 13 && b ≠ 10) = true := by
    intro b hb
    have hparts := ((Field.isPlain_of_blank f.before_blank).append f.value_plain).append
      (Field.isPlain_of_blank f.after_blank)
    simpa using hparts b hb
  have htake : (f.before ++ f.value ++ f.after ++ fieldsText fields).takeWhile
      (fun b => b ≠ 13 && b ≠ 10) = f.before ++ f.value ++ f.after := by
    rw [List.takeWhile_append_of_pos hplain]
    cases fields with
    | nil => simp [fieldsText]
    | cons g fields => simp [fieldsText_cons, crlf]
  obtain ⟨coding, hcoding⟩ := h.2
  rw [chunkedAt, show ascii "transfer-encoding:" = ascii "transfer-encoding" ++ [58] by decide +kernel,
    dropName_crlf, dropName_line (by decide +kernel), if_pos h.1]
  simp only [htake, decide_eq_true_eq, List.map_append, ← hcoding]
  exact ⟨f.before.map lowerByte ++ coding, f.after.map lowerByte, by simp⟩

/-- The search finds the field. -/
lemma any_chunkedAt {h : Head} {f : Field} (hf : f ∈ h.fields) (hchunked : SaysChunked f) :
    (h.bytes.take (h.bytes.length - 4)).tails.any chunkedAt = true := by
  obtain ⟨before, after, hfields⟩ := List.append_of_mem hf
  have htake : h.bytes.take (h.bytes.length - 4) =
      (h.status ++ fieldsText before) ++ (crlf ++ (f.line ++ fieldsText after)) := by
    rw [take_bytes, hfields]
    simp [fieldsText]
  rw [htake, List.any_eq_true]
  exact ⟨_, (List.mem_tails _ _).mpr (List.suffix_append _ _), chunkedAt_field hchunked after⟩

/-! ## Responses that come -/

/-- The head tells the length of the body. -/
def SaysLength (head : Head) (length : ℕ) : Prop :=
  ∃ digits, head.Only (ascii "content-length") digits ∧ digits ≠ [] ∧
    (∀ b ∈ digits, (decimalValue b).isSome = true) ∧ valueOf 10 decimalValue digits = length

/-- The head tells that the body is in chunks, and no length. -/
def SaysChunks (head : Head) : Prop :=
  head.Without (ascii "content-length") ∧ ∃ f ∈ head.fields, SaysChunked f

/-- The head is not longer than the reader takes it. -/
def IsSmall (head : Head) : Prop := head.bytes.length ≤ maxHeadBytes + 4

variable {head : Head} {length : ℕ}

lemma SaysLength.find (h : SaysLength head length) :
    (head.bytes.take (head.bytes.length - 4)).tails.findSome? lengthAt = some length := by
  obtain ⟨digits, ⟨before, f, after, hfields, hkey, rfl, hothers⟩, hne, hdigits, rfl⟩ := h
  have hbefore : ∀ g ∈ before, g.key ≠ ascii "content-length" := fun g hg =>
    hothers g (List.mem_append_left after hg)
  rw [findLength_head, hfields, findLength_skip hbefore, tails_fields (fun _ => lengthAt_start),
    lengthAt_digits hkey hne hdigits, Option.some_or]

lemma SaysChunks.find (h : SaysChunks head) :
    (head.bytes.take (head.bytes.length - 4)).tails.findSome? lengthAt = none := by
  have hskip := findLength_skip h.1 []
  rw [List.append_nil] at hskip
  have hnil : lengthAt [] = none := lengthAt_start (by simp)
  rw [findLength_head, hskip]
  change [[]].findSome? lengthAt = none
  rw [List.findSome?_cons, hnil]
  rfl

/-- A part of a head is not complete. -/
lemma responseIsComplete_part (hp : p <+: head.bytes) (hshort : p.length < head.bytes.length) :
    responseIsComplete p = .ok false := by
  have hcut := head.cut_bytes []
  rw [List.append_nil] at hcut
  rw [responseIsComplete, Inbox.cut_short hcut hp hshort]

/-- A head that is too long is refused as soon as it has come. -/
lemma responseIsComplete_large (h : ¬ IsSmall head) (q : List UInt8) :
    responseIsComplete (head.bytes ++ q) = .error .headersTooLarge := by
  rw [IsSmall, not_le] at h
  rw [responseIsComplete, head.cut_bytes]
  exact if_pos (by omega)

lemma responseIsComplete_length (hsmall : IsSmall head) (h : SaysLength head length)
    (q : List UInt8) : responseIsComplete (head.bytes ++ q) = .ok (decide (length ≤ q.length)) := by
  rw [IsSmall] at hsmall
  have hfour : 4 ≤ head.bytes.length := by
    rw [head_bytes, List.length_append]
    exact Nat.le_add_left 4 _
  rw [responseIsComplete, head.cut_bytes]
  dsimp only
  rw [if_neg (by omega), h.find]
  dsimp only
  rw [List.length_append]
  congr 2
  rw [eq_iff_iff]
  omega

lemma responseIsComplete_chunks (hsmall : IsSmall head) (h : SaysChunks head) (q : List UInt8) :
    responseIsComplete (head.bytes ++ q) =
      match decodeChunked q with
      | .ok _ => .ok true
      | .error e => if e.IsShort then .ok false else .error e := by
  rw [IsSmall] at hsmall
  obtain ⟨f, hf, hsays⟩ := h.2
  rw [responseIsComplete, head.cut_bytes]
  dsimp only
  rw [if_neg (by omega), h.find]
  dsimp only
  rw [any_chunkedAt hf hsays]
  rfl

/-- The whole of the chunks is decoded. -/
lemma decodeChunked_framed (h : Fits chunks last []) (hzero : last.size = 0) (rest : List UInt8) :
    decodeChunked (framed chunks last ++ rest) = .ok (content chunks) := by
  have hchunks : chunks.length ≤ (framed chunks last).length := by
    clear h
    induction chunks with
    | nil => simp
    | cons c chunks ih =>
      rw [framed_cons]
      simp only [List.length_append, List.length_cons, crlf, List.length_nil]
      omega
  rw [decodeChunked, decodeLoop_framed h hzero]
  · rfl
  · rw [List.length_append]
    omega

/-- A part of the chunks is an error that asks for more. -/
lemma decodeChunked_short (h : Fits chunks last []) (hp : p <+: framed chunks last)
    (hshort : p.length < (framed chunks last).length) :
    ∃ e : ReadError, e.IsShort ∧ decodeChunked p = .error e := by
  obtain ⟨e, he, hdecode⟩ := decodeLoop_short h hp hshort (Nat.lt_succ_self p.length)
  exact ⟨e, he, by rw [decodeChunked, hdecode]; rfl⟩

/-- A response with a small head is complete exactly when its body has come: for a length, when that
many bytes have; for chunks, when the line of the size zero has, and then the decoder gives what the
chunks hold.  Before that the reader does not throw, and the decoder throws; it ends on any bytes. -/
theorem response_is_decoded :
    (∀ body : List UInt8, ∃ result, decodeLoop (body.length + 1) body [] = some result) ∧
    (∀ (head : Head) (body p : List UInt8), IsSmall head → SaysLength head body.length →
      p <+: head.bytes ++ body →
        responseIsComplete p = .ok (decide (head.bytes.length + body.length ≤ p.length))) ∧
    ∀ (chunks : List Chunk) (last : SizeLine), Fits chunks last [] → last.size = 0 →
      (∀ rest, decodeChunked (framed chunks last ++ rest) = .ok (content chunks)) ∧
      (∀ p, p <+: framed chunks last → p.length < (framed chunks last).length →
        ∃ e, decodeChunked p = .error e) ∧
      ∀ (head : Head) (rest p : List UInt8), IsSmall head → SaysChunks head →
        p <+: head.bytes ++ (framed chunks last ++ rest) →
          responseIsComplete p =
            .ok (decide (head.bytes.length + (framed chunks last).length ≤ p.length)) := by
  refine ⟨fun body => decodeLoop_ends (Nat.lt_succ_self _), ?_, ?_⟩
  · intro head body p hsmall hlength hp
    rcases prefix_append_cases hp with ⟨hp, hshort⟩ | ⟨q, rfl, -⟩
    · rw [responseIsComplete_part hp hshort, decide_eq_false (by omega)]
    · rw [responseIsComplete_length hsmall hlength, List.length_append]
      congr 2
      rw [eq_iff_iff]
      omega
  · intro chunks last h hzero
    refine ⟨decodeChunked_framed h hzero, ?_, ?_⟩
    · intro p hp hshort
      obtain ⟨e, -, hdecode⟩ := decodeChunked_short h hp hshort
      exact ⟨e, hdecode⟩
    · intro head rest p hsmall hchunks hp
      rcases prefix_append_cases hp with ⟨hp, hshort⟩ | ⟨q, rfl, hq⟩
      · rw [responseIsComplete_part hp hshort, decide_eq_false (by omega)]
      · rw [responseIsComplete_chunks hsmall hchunks, List.length_append]
        rcases prefix_append_cases hq with ⟨hq, hshort⟩ | ⟨r, rfl, -⟩
        · obtain ⟨e, he, hdecode⟩ := decodeChunked_short h hq hshort
          rw [hdecode]
          dsimp only
          rw [if_pos he, decide_eq_false (by omega)]
        · rw [decodeChunked_framed h hzero, List.length_append, decide_eq_true (by omega)]

/-- `Transfer-Encoding: chunked`. -/
def chunkedField : Field where
  name := ascii "Transfer-Encoding"
  before := ascii " "
  value := ascii "chunked"
  after := []
  name_ne := by decide +kernel
  name_token := by decide +kernel
  before_blank := by decide +kernel
  after_blank := by decide +kernel
  value_plain := by decide +kernel

lemma statusLine_ne : ascii "HTTP/1.1 200 OK" ≠ [] := by decide +kernel

lemma statusLine_plain : IsPlain (ascii "HTTP/1.1 200 OK") := by decide +kernel

def chunkedHead : Head where
  status := ascii "HTTP/1.1 200 OK"
  fields := [chunkedField]
  status_ne := statusLine_ne
  status_plain := statusLine_plain

/-- A line with an extension. -/
def fiveLine : SizeLine where
  digits := ascii "05"
  blanks := ascii " "
  extension := ascii ";a=b"
  digits_ne := by decide +kernel
  digits_hex := by decide +kernel
  blanks_blank := by decide +kernel
  extension_plain := by decide +kernel
  extension_start := by decide +kernel

def zeroLine : SizeLine where
  digits := ascii "0"
  blanks := []
  extension := []
  digits_ne := by decide +kernel
  digits_hex := by decide +kernel
  blanks_blank := by decide +kernel
  extension_plain := by decide +kernel
  extension_start := by decide +kernel

/-- A chunk that holds what looks like the end of the chunks. -/
def endChunk : Chunk where
  line := fiveLine
  data := ascii "0\r\n\r\n"
  data_ne := by decide +kernel
  sized := by decide +kernel

theorem response_is_decoded_end :
    decodeChunked (framed [endChunk] zeroLine ++ crlf) = .ok (ascii "0\r\n\r\n") ∧
    ∀ p, p <+: chunkedHead.bytes ++ (framed [endChunk] zeroLine ++ crlf) →
      responseIsComplete p =
        .ok (decide (chunkedHead.bytes.length + (framed [endChunk] zeroLine).length ≤ p.length)) := by
  have hfits : Fits [endChunk] zeroLine [] := ⟨by decide +kernel, by decide +kernel, by decide +kernel⟩
  have hsmall : IsSmall chunkedHead := by
    unfold IsSmall
    decide +kernel
  have hchunks : SaysChunks chunkedHead := by
    refine ⟨?_, chunkedField, List.mem_cons_self, ?_⟩
    · intro f hf
      obtain rfl := List.mem_singleton.mp hf
      decide +kernel
    · exact ⟨by decide +kernel, [], by decide +kernel⟩
  obtain ⟨-, -, h⟩ := response_is_decoded
  obtain ⟨hdecode, -, hcomplete⟩ := h [endChunk] zeroLine hfits (by decide +kernel)
  exact ⟨hdecode crlf, fun p => hcomplete chunkedHead crlf p hsmall hchunks⟩

/-- `Content-Length: 0`. -/
def emptyField : Field where
  name := ascii "Content-Length"
  before := ascii " "
  value := ascii "0"
  after := []
  name_ne := by decide +kernel
  name_token := by decide +kernel
  before_blank := by decide +kernel
  after_blank := by decide +kernel
  value_plain := by decide +kernel

/-- A field that is longer than a head may be. -/
def longField : Field where
  name := ascii "X"
  before := []
  value := List.replicate maxHeadBytes 97
  after := []
  name_ne := by decide +kernel
  name_token := by decide +kernel
  before_blank := by decide +kernel
  after_blank := by decide +kernel
  value_plain := by
    intro b hb
    rw [List.eq_of_mem_replicate hb]
    decide

def longHead : Head where
  status := ascii "HTTP/1.1 200 OK"
  fields := [emptyField, longField]
  status_ne := by decide +kernel
  status_plain := by decide +kernel

/-- A whole response with an empty body is refused for its long head. -/
theorem long_head_throws :
    SaysLength longHead 0 ∧ responseIsComplete longHead.bytes = .error .headersTooLarge := by
  constructor
  · refine ⟨ascii "0", ⟨[], emptyField, [longField], rfl, by decide +kernel, rfl, ?_⟩,
      by decide +kernel, by decide +kernel, by decide +kernel⟩
    intro g hg
    obtain rfl := List.mem_singleton.mp hg
    decide +kernel
  · have hlarge : ¬ IsSmall longHead := by
      have hvalue : longField.value.length = maxHeadBytes := List.length_replicate
      have hlong := value_length_le longField
      rw [hvalue] at hlong
      rw [IsSmall, head_bytes, show longHead.fields = [emptyField, longField] from rfl,
        fieldsText_cons, fieldsText_cons]
      simp only [List.length_append]
      have hempty : 5 ≤ emptyField.line.length := by decide +kernel
      omega
    have hthrows := responseIsComplete_large hlarge []
    rw [List.append_nil] at hthrows
    exact hthrows

end Installer
