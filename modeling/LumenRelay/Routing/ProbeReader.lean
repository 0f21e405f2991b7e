import LumenRelay.Lib.Message
import LumenRelay.Routing.Handshake

/-!
# Responses that a probe reads

A probe reads one response from a target, over a proxy that is not trusted: a header, and then as
many bytes as the header says, chunks, or what comes before the end of the stream.  A loop gets a
number of rounds, which the length of the stream bounds.
-/

namespace Routing.Probe

open Lib Lib.Message Py

/-- `CONNECT_HEADER_MAX`. -/
def connectHeaderMax : ℕ := 32 * 1024

/-- `PROBE_BODY_MAX`. -/
def probeBodyMax : ℕ := 64 * 1024

/-! ## The reader -/

/-- The exception of a read that gives nothing. -/
def ofUnread : Unread → PyErr
  | .short => .osError "incomplete read"
  | .overrun => .valueError "limit overrun"

/-- `reader.readexactly`. -/
def readExactly (n : ℕ) (i : Inbox UInt8) : Except PyErr (List UInt8 × Inbox UInt8) :=
  (i.readExactly n).mapError ofUnread

/-- `reader.readline`; at the end of the stream it gives what is left. -/
def readLine (i : Inbox UInt8) : Except PyErr (List UInt8 × Inbox UInt8) :=
  match i.readUntil [10] streamLimit with
  | .ok found => .ok found
  | .error .short => .ok (i.stream, ⟨[], []⟩)
  | .error .overrun => .error (.valueError "limit overrun")

/-! ## Numbers -/

/-- Digits between which there may be underscores. -/
def joinDigits (value : UInt8 → Option ℕ) : List UInt8 → Option (List UInt8)
  | [] => none
  | [b] => if (value b).isSome then some [b] else none
  | b :: c :: rest =>
    if ¬ (value b).isSome then none
    else if c = 95 then (joinDigits value rest).map (b :: ·)
    else (joinDigits value (c :: rest)).map (b :: ·)

/-- A sign, and what follows it. -/
def splitSign : List UInt8 → Bool × List UInt8
  | 43 :: l => (false, l)
  | 45 :: l => (true, l)
  | l => (false, l)

/-- What follows the prefix of a hexadecimal number. -/
def dropPrefix : List UInt8 → List UInt8
  | 48 :: x :: l =>
    if x = 120 ∨ x = 88 then
      match l with
      | 95 :: l => l
      | l => l
    else 48 :: x :: l
  | l => l

def signed (negative : Bool) (n : ℕ) : ℤ := if negative then -n else n

/-- `int(text)`, of a text without white space around it; the number of digits is limited. -/
def decimalInt (text : List UInt8) : Option ℤ := do
  let digits ← joinDigits decimalValue (splitSign text).2
  if 4300 < digits.length then none
  else some (signed (splitSign text).1 (valueOf 10 decimalValue digits))

/-- `int(text, 16)`, of a text without white space around it. -/
def hexInt (text : List UInt8) : Option ℤ := do
  let digits ← joinDigits hexValue (dropPrefix (splitSign text).2)
  some (signed (splitSign text).1 (valueOf 16 hexValue digits))

/-! ## The header -/

/-- The white space of Latin-1. -/
def isTextSpace (b : UInt8) : Bool :=
  (9 ≤ b && b ≤ 13) || (28 ≤ b && b ≤ 32) || b = 133 || b = 160

/-- A character of Latin-1 in lower case. -/
def lowerText (b : UInt8) : UInt8 :=
  if (65 ≤ b ∧ b ≤ 90) ∨ (192 ≤ b ∧ b ≤ 222 ∧ b ≠ 215) then b + 32 else b

/-- The status of a status line, 0 if it has none. -/
def readStatus (line : List UInt8) : Except PyErr ℤ :=
  match (line.splitOnP isBlank).filter (· ≠ []) with
  | _ :: word :: _ =>
    if word.all fun b => (decimalValue b).isSome then
      match decimalInt word with
      | some status => .ok status
      | none => .error (.valueError "too many digits")
    else .ok 0
  | _ => .ok 0

/-- The texts of the fields under their names, the last one of each name. -/
def readFields (lines : List (List UInt8)) : Dict (List UInt8) (List UInt8) :=
  lines.foldl (fun headers line =>
    match line.dropWhile (· ≠ 58) with
    | _ :: value =>
      headers.set ((strip isTextSpace (line.takeWhile (· ≠ 58))).map lowerText)
        (strip isTextSpace value)
    | [] => headers) Dict.empty

/-- The status and the fields of a response, and what comes after them. -/
def readHeader (i : Inbox UInt8) :
    Except PyErr (ℤ × Dict (List UInt8) (List UInt8) × Inbox UInt8) := do
  let (header, i) ← (i.readUntil Message.blankLine streamLimit).mapError ofUnread
  if connectHeaderMax < header.length then throw (.osError "HTTPS response header too long")
  let status ← readStatus ((Http.lines header).headD [])
  return (status, readFields (Http.lines header).tail, i)

/-! ## The body -/

/-- A body of the length that a text says. -/
def readSized (length : List UInt8) (i : Inbox UInt8) : Except PyErr (List UInt8) :=
  match decimalInt length with
  | none => .error (.osError "invalid HTTPS response content length")
  | some n =>
    if n < 0 ∨ (probeBodyMax : ℤ) < n then .error (.osError "HTTPS probe response body too large")
    else (readExactly n.toNat i).map Prod.fst

/-- The size that a line before a chunk says. -/
def chunkSize (line : List UInt8) : Option ℤ :=
  hexInt (strip isBlank (line.takeWhile (· ≠ 59)))

/-- A round of the loop over the chunks: a chunk, or nothing after the last line. -/
def readChunk (total : ℕ) (i : Inbox UInt8) : Except PyErr (Option (List UInt8) × Inbox UInt8) := do
  let (line, i) ← readLine i
  if line = [] ∨ 128 < line.length then throw (.osError "invalid HTTPS chunk header")
  match chunkSize line with
  | none => throw (.osError "invalid HTTPS chunk size")
  | some size =>
    if size < 0 ∨ (probeBodyMax : ℤ) < total + size then
      throw (.osError "HTTPS probe response body too large")
    else if size = 0 then return (none, i)
    else
      let (chunk, i) ← readExactly size.toNat i
      let (ending, i) ← readExactly 2 i
      if ending ≠ crlf then throw (.osError "invalid HTTPS chunk terminator")
      return (some chunk, i)

/-- The loop over the trailers, of which some bytes were read. -/
def readTrailers : ℕ → ℕ → Inbox UInt8 → Option (Except PyErr Unit)
  | 0, _, _ => none
  | fuel + 1, trailerBytes, i =>
    match readLine i with
    | .error e => some (.error e)
    | .ok (trailer, i) =>
      let trailerBytes := trailerBytes + trailer.length
      if connectHeaderMax < trailerBytes then
        some (.error (.osError "HTTPS response trailers too long"))
      else if trailer = [] ∨ trailer = crlf then some (.ok ())
      else readTrailers fuel trailerBytes i

/-- The loop over the chunks. -/
def readChunks : ℕ → List UInt8 → ℕ → Inbox UInt8 → Option (Except PyErr (List UInt8))
  | 0, _, _, _ => none
  | fuel + 1, chunks, total, i =>
    match readChunk total i with
    | .error e => some (.error e)
    | .ok (none, i) => (readTrailers (i.stream.length + 1) 0 i).map fun r => r.map fun _ => chunks
    | .ok (some chunk, i) => readChunks fuel (chunks ++ chunk) (total + chunk.length) i

/-- A body that the end of the stream ends. -/
def readClosing (i : Inbox UInt8) : Except PyErr (List UInt8) :=
  let body := (i.readSome (probeBodyMax + 1)).1
  if probeBodyMax < body.length then .error (.osError "HTTPS probe response body too large")
  else .ok body

/-- The body, in the way that the fields say. -/
def readBody (headers : Dict (List UInt8) (List UInt8)) (i : Inbox UInt8) :
    Option (Except PyErr (List UInt8)) :=
  match headers.get? (ascii "content-length") with
  | some length => some (readSized length i)
  | none =>
    if ((headers.get? (ascii "transfer-encoding")).getD []).map lowerText = ascii "chunked" then
      readChunks (i.stream.length + 1) [] 0 i
    else some (readClosing i)

/-- What `_read_http_response` returns. -/
structure Response where
  status : ℤ
  headers : Dict (List UInt8) (List UInt8)
  body : List UInt8

/-- `_read_http_response`. -/
def readHttpResponse (includeBody : Bool) (i : Inbox UInt8) : Option (Except PyErr Response) :=
  match readHeader i with
  | .error e => some (.error e)
  | .ok (status, headers, i) =>
    if ¬ includeBody then some (.ok ⟨status, headers, []⟩)
    else (readBody headers i).map fun r => r.map fun body => ⟨status, headers, body⟩

/-! ## Lines -/

section Lines

variable {i i' : Inbox UInt8} {l x rest : List UInt8}

lemma cut_lf (h : 10 ∉ l) (rest : List UInt8) :
    Inbox.cut [10] (l ++ 10 :: rest) = some (l ++ [10], rest) := by
  have hskip : ∀ b, b <:+ l → b ≠ [] → ¬ [10] <+: b ++ 10 :: rest := by
    intro b hsuffix hb hprefix
    cases b with
    | nil => exact hb rfl
    | cons c b =>
      obtain rfl := (List.cons_prefix_cons.mp hprefix).1
      exact h (hsuffix.subset List.mem_cons_self)
  rw [Inbox.cut_skip hskip, Inbox.cut, if_pos ⟨rest, rfl⟩]
  rfl

lemma cut_lf_none (h : 10 ∉ l) : Inbox.cut [10] l = none := by
  cases hcut : Inbox.cut [10] l with
  | none => rfl
  | some p =>
    obtain ⟨hl, hsuffix⟩ := Inbox.cut_some hcut
    refine absurd ?_ h
    rw [hl]
    exact List.mem_append_left _ (hsuffix.subset List.mem_cons_self)

/-- A part of a line and its end has no line feed. -/
lemma lf_notMem_part (hl : IsPlain l) (hpart : x <+: l ++ crlf)
    (hshort : x.length < (l ++ crlf).length) : 10 ∉ x := by
  intro hmem
  have hcr : 10 ∉ l ++ [13] := by
    rw [List.mem_append, not_or]
    exact ⟨fun h => (hl 10 h).2 rfl, by decide⟩
  have hsplit : l ++ crlf = (l ++ [13]) ++ [10] := by simp [crlf]
  rw [hsplit] at hpart hshort
  have hwithin : x <+: l ++ [13] := by
    refine List.prefix_of_prefix_length_le hpart (List.prefix_append _ _) ?_
    have hone : ((l ++ [13]) ++ [10]).length = (l ++ [13]).length + 1 := List.length_append
    omega
  exact hcr (hwithin.subset hmem)

/-- A read takes a part of the stream, and nothing only at its end. -/
lemma readLine_split (h : readLine i = .ok (x, i')) :
    i.stream = x ++ i'.stream ∧ (x = [] → i.stream = []) := by
  unfold readLine at h
  split at h
  · rename_i found hread
    cases h
    obtain ⟨hstream, hsuffix⟩ := Inbox.cut_some (Inbox.readUntil_ok hread)
    refine ⟨hstream, fun hnil => ?_⟩
    rw [hnil] at hsuffix
    cases List.suffix_nil.mp hsuffix
  · cases h
    exact ⟨by simp [Inbox.stream], fun hnil => hnil⟩
  · cases h

/-- A line that has an end is read with it. -/
lemma readLine_ok (hl : 10 ∉ l) (hstream : i.stream = l ++ 10 :: rest)
    (h : readLine i = .ok (x, i')) : x = l ++ [10] ∧ i'.stream = rest := by
  have hcut := cut_lf hl rest
  rw [← hstream] at hcut
  unfold readLine at h
  split at h
  · rename_i found hread
    cases h
    have hread := Inbox.readUntil_ok hread
    rw [hcut] at hread
    cases hread
    exact ⟨rfl, rfl⟩
  · rename_i hread
    exact absurd hread (Inbox.readUntil_ne_short hcut)
  · cases h

lemma readLine_of_stream (hl : 10 ∉ l) (hstream : i.stream = l ++ 10 :: rest)
    (hlimit : l.length < streamLimit) : ∃ i', readLine i = .ok (l ++ [10], i') ∧ i'.stream = rest := by
  have hcut := cut_lf hl rest
  rw [← hstream] at hcut
  have hlength : (l ++ [10]).length ≤ streamLimit := by
    rw [List.length_append]
    exact hlimit
  obtain ⟨i', hread, hrest⟩ := Inbox.readUntil_of_stream hcut hlength
  exact ⟨i', by rw [readLine, hread], hrest⟩

/-- At the end of the stream, a line without an end is read. -/
lemma readLine_last (hl : 10 ∉ i.stream) (h : readLine i = .ok (x, i')) :
    x = i.stream ∧ i'.stream = [] := by
  unfold readLine at h
  split at h
  · rename_i found hread
    have hcut := Inbox.readUntil_ok hread
    rw [cut_lf_none hl] at hcut
    cases hcut
  · cases h
    exact ⟨rfl, rfl⟩
  · cases h

lemma readLine_of_last (hl : 10 ∉ i.stream) (hlimit : i.stream.length ≤ streamLimit) :
    readLine i = .ok (i.stream, ⟨[], []⟩) := by
  rw [readLine, Inbox.readUntil_short (cut_lf_none hl) (Nat.lt_succ_of_le hlimit)]

end Lines

/-! ## Rounds -/

lemma readTrailers_ends {fuel count : ℕ} {i : Inbox UInt8} (h : i.stream.length < fuel) :
    ∃ r, readTrailers fuel count i = some r := by
  induction fuel generalizing count i with
  | zero => omega
  | succ fuel ih =>
    rw [readTrailers]
    split
    · exact ⟨_, rfl⟩
    · rename_i trailer i' hread
      obtain ⟨hstream, -⟩ := readLine_split hread
      dsimp only
      split_ifs with hlong hend
      · exact ⟨_, rfl⟩
      · exact ⟨_, rfl⟩
      · refine ih ?_
        rw [not_or] at hend
        have hpos := List.length_pos_iff.mpr hend.1
        rw [hstream, List.length_append] at h
        omega

lemma readExactly_of_stream {n : ℕ} {i : Inbox UInt8} {bytes rest : List UInt8} (hn : bytes.length = n)
    (h : i.stream = bytes ++ rest) : ∃ i', readExactly n i = .ok (bytes, i') ∧ i'.stream = rest := by
  obtain ⟨i', hread, hrest⟩ := Inbox.readExactly_of_stream hn h
  exact ⟨i', by rw [readExactly, hread]; rfl, hrest⟩

lemma readExactly_short {n : ℕ} {i : Inbox UInt8} (h : i.stream.length < n) :
    ∃ e, readExactly n i = .error e :=
  ⟨_, by rw [readExactly, Inbox.readExactly_short h]; rfl⟩

lemma readExactly_ok {n : ℕ} {i i' : Inbox UInt8} {bytes : List UInt8}
    (h : readExactly n i = .ok (bytes, i')) : bytes.length = n ∧ i.stream = bytes ++ i'.stream := by
  unfold readExactly at h
  cases hread : i.readExactly n with
  | error e =>
    rw [hread] at h
    cases h
  | ok r =>
    rw [hread] at h
    cases h
    exact Inbox.readExactly_ok hread

section Chunk

variable {total : ℕ} {i i' j : Inbox UInt8} {line chunk : List UInt8} {r : Option (List UInt8)}

/-- What a round has read when it returns. -/
lemma readChunk_ok (h : readChunk total i = .ok (r, i')) :
    ∃ line j, readLine i = .ok (line, j) ∧ line ≠ [] ∧ line.length ≤ 128 ∧
      ((chunkSize line = some 0 ∧ r = none ∧ i' = j) ∨
        ∃ (size : ℕ) (chunk : List UInt8) (k : Inbox UInt8), chunkSize line = some (size : ℤ) ∧
          0 < size ∧ total + size ≤ probeBodyMax ∧ readExactly size j = .ok (chunk, k) ∧
          readExactly 2 k = .ok (crlf, i') ∧ r = some chunk) := by
  unfold readChunk at h
  cases hline : readLine i with
  | error e =>
    rw [hline] at h
    cases h
  | ok p =>
    obtain ⟨line, j⟩ := p
    rw [hline] at h
    simp only [ok_bind] at h
    split_ifs at h with hbad
    · cases h
    · rw [not_or, not_lt] at hbad
      refine ⟨line, j, rfl, hbad.1, hbad.2, ?_⟩
      cases hsize : chunkSize line with
      | none =>
        rw [hsize] at h
        cases h
      | some size =>
        rw [hsize] at h
        simp only at h
        split_ifs at h with hlarge hzero
        · cases h
          exact .inl ⟨by rw [hzero], rfl, rfl⟩
        · rw [not_or, not_lt, not_lt] at hlarge
          obtain ⟨n, rfl⟩ := Int.eq_ofNat_of_zero_le hlarge.1
          rw [Int.toNat_natCast] at h
          cases hchunk : readExactly n j with
          | error e =>
            rw [hchunk] at h
            cases h
          | ok p =>
            obtain ⟨chunk, k⟩ := p
            rw [hchunk] at h
            simp only [ok_bind] at h
            cases hending : readExactly 2 k with
            | error e =>
              rw [hending] at h
              cases h
            | ok p =>
              obtain ⟨ending, k'⟩ := p
              rw [hending] at h
              simp only [ok_bind] at h
              split_ifs at h with hcrlf
              · cases h
              · rw [not_not] at hcrlf
                cases h
                subst hcrlf
                exact .inr ⟨n, chunk, k, rfl, by omega, by omega, hchunk, hending, rfl⟩

lemma readChunk_last (hline : readLine i = .ok (line, j)) (hne : line ≠ [])
    (hlength : line.length ≤ 128) (hsize : chunkSize line = some 0) (htotal : total ≤ probeBodyMax) :
    readChunk total i = .ok (none, j) := by
  have hbad : ¬ (line = [] ∨ 128 < line.length) := by
    rw [not_or, not_lt]
    exact ⟨hne, hlength⟩
  have hlarge : ¬ ((0 : ℤ) < 0 ∨ (probeBodyMax : ℤ) < total + 0) := by omega
  rw [readChunk, hline]
  simp only [ok_bind, if_neg hbad, hsize, if_neg hlarge, if_true]
  rfl

lemma readChunk_chunk {size : ℕ} {k : Inbox UInt8} (hline : readLine i = .ok (line, j))
    (hne : line ≠ []) (hlength : line.length ≤ 128) (hsize : chunkSize line = some (size : ℤ)) (hpos : 0 < size)
    (htotal : total + size ≤ probeBodyMax) (hchunk : readExactly size j = .ok (chunk, k))
    (hending : readExactly 2 k = .ok (crlf, i')) : readChunk total i = .ok (some chunk, i') := by
  have hbad : ¬ (line = [] ∨ 128 < line.length) := by
    rw [not_or, not_lt]
    exact ⟨hne, hlength⟩
  have hlarge : ¬ ((size : ℤ) < 0 ∨ (probeBodyMax : ℤ) < total + size) := by omega
  have hzero : ¬ (size : ℤ) = 0 := by omega
  rw [readChunk, hline]
  simp only [ok_bind, if_neg hbad, hsize, if_neg hlarge, if_neg hzero, Int.toNat_natCast,
    hchunk, hending, ne_eq, not_true, if_false]
  rfl

end Chunk

/-- A round takes its line at least. -/
lemma readChunk_less {total : ℕ} {i i' : Inbox UInt8} {r : Option (List UInt8)}
    (h : readChunk total i = .ok (r, i')) : i'.stream.length < i.stream.length := by
  obtain ⟨line, j, hline, hne, -, hrest⟩ := readChunk_ok h
  have hpos := List.length_pos_iff.mpr hne
  have hj := congrArg List.length (readLine_split hline).1
  rw [List.length_append] at hj
  obtain ⟨-, -, rfl⟩ | ⟨size, chunk, k, -, -, -, hchunk, hending, -⟩ := hrest
  · omega
  · have hk := congrArg List.length (readExactly_ok hchunk).2
    have hi := congrArg List.length (readExactly_ok hending).2
    rw [List.length_append] at hk hi
    omega

lemma readChunks_ends {fuel total : ℕ} {chunks : List UInt8} {i : Inbox UInt8}
    (h : i.stream.length < fuel) : ∃ r, readChunks fuel chunks total i = some r := by
  induction fuel generalizing chunks total i with
  | zero => omega
  | succ fuel ih =>
    rw [readChunks]
    split
    · exact ⟨_, rfl⟩
    · rename_i j hchunk
      obtain ⟨r, hr⟩ := @readTrailers_ends _ 0 _ (Nat.lt_succ_self j.stream.length)
      rw [hr]
      exact ⟨_, rfl⟩
    · rename_i chunk j hchunk
      have hless := readChunk_less hchunk
      exact ih (by omega)

/-- Every finite stream is read to an end. -/
lemma readHttpResponse_ends (includeBody : Bool) (i : Inbox UInt8) :
    ∃ r, readHttpResponse includeBody i = some r := by
  unfold readHttpResponse
  split
  · exact ⟨_, rfl⟩
  · rename_i status headers j hheader
    have hread : ∃ r, readBody headers j = some r := by
      unfold readBody
      split
      · exact ⟨_, rfl⟩
      · split_ifs
        · exact readChunks_ends (Nat.lt_succ_self _)
        · exact ⟨_, rfl⟩
    obtain ⟨r, hr⟩ := hread
    rw [hr]
    split_ifs
    · exact ⟨_, rfl⟩
    · exact ⟨_, rfl⟩

/-! ## Numbers that are read -/

lemma joinDigits_digits {value : UInt8 → Option ℕ} (hunderscore : value 95 = none) {l : List UInt8}
    (hne : l ≠ []) (h : ∀ b ∈ l, (value b).isSome = true) : joinDigits value l = some l := by
  induction l with
  | nil => exact absurd rfl hne
  | cons b l ih =>
    rw [List.forall_mem_cons] at h
    cases l with
    | nil => rw [joinDigits, if_pos h.1]
    | cons c l =>
      have hc : c ≠ 95 := by
        rintro rfl
        have hsome := h.2 95 List.mem_cons_self
        rw [hunderscore] at hsome
        cases hsome
      rw [joinDigits, if_neg (by simp [h.1]), if_neg hc, ih (by simp) h.2]
      rfl

/-- Digits have no sign. -/
lemma splitSign_digits {l : List UInt8} (h : ∀ b ∈ l, (hexValue b).isSome = true) :
    splitSign l = (false, l) := by
  unfold splitSign
  split
  · exact absurd (h 43 List.mem_cons_self) (by decide)
  · exact absurd (h 45 List.mem_cons_self) (by decide)
  · rfl

/-- Digits have no prefix. -/
lemma dropPrefix_digits {l : List UInt8} (h : ∀ b ∈ l, (hexValue b).isSome = true) :
    dropPrefix l = l := by
  unfold dropPrefix
  split
  · rename_i x l
    have hx : ¬ (x = 120 ∨ x = 88) := by
      have hhex := h x (List.mem_cons_of_mem _ List.mem_cons_self)
      rintro (rfl | rfl)
      · exact absurd hhex (by decide)
      · exact absurd hhex (by decide)
    rw [if_neg hx]
  · rfl

lemma decimalInt_digits {l : List UInt8} (hne : l ≠ [])
    (h : ∀ b ∈ l, (decimalValue b).isSome = true) :
    decimalInt l = if 4300 < l.length then none else some (valueOf 10 decimalValue l : ℤ) := by
  have hhex : ∀ b ∈ l, (hexValue b).isSome = true := fun b hb => hexValue_of_decimal (h b hb)
  unfold decimalInt
  rw [splitSign_digits hhex]
  simp only [joinDigits_digits (by decide) hne h, Option.bind_eq_bind,
    Option.bind_some]
  rfl

lemma hexInt_digits {l : List UInt8} (hne : l ≠ []) (h : ∀ b ∈ l, (hexValue b).isSome = true) :
    hexInt l = some (valueOf 16 hexValue l : ℤ) := by
  unfold hexInt
  rw [splitSign_digits h]
  simp only [dropPrefix_digits h, joinDigits_digits (by decide) hne h, Option.bind_eq_bind,
    Option.bind_some]
  rfl

lemma not_isBlank_of_hex {b : UInt8} (h : (hexValue b).isSome = true) : isBlank b = false := by
  have hrange := hexValue_range h
  unfold isBlank
  simp only [Bool.or_eq_false_iff, Bool.and_eq_false_iff, decide_eq_false_iff_not,
    UInt8.le_iff_toNat_le, UInt8.reduceToNat]
  refine ⟨?_, .inr (by omega)⟩
  rintro rfl
  exact absurd hrange.1 (by decide)

end Routing.Probe
