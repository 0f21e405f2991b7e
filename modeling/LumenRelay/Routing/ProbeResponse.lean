import LumenRelay.Routing.ProbeChunks

/-!
# Responses that a probe gets

A target sends a response of which the body is framed by a length, by chunks, or by the end of the
stream.  The theorem says of each of them when the probe gets what was sent.
-/

namespace Routing.Probe

open Lib Lib.Message Py

/-! ## Headers that are read -/

/-- A status line of HTTP/1.x. -/
def IsStatus (line : List UInt8) (status : ℕ) : Prop :=
  ∃ minor code reason, line = ascii "HTTP/1." ++ minor :: 32 :: (code ++ reason) ∧
    (decimalValue minor).isSome = true ∧ code.length = 3 ∧
    (∀ b ∈ code, (decimalValue b).isSome = true) ∧ (∀ b ∈ reason.head?, b = 32) ∧
    valueOf 10 decimalValue code = status

lemma readStatus_line {line : List UInt8} {status : ℕ} (h : IsStatus line status) :
    readStatus line = .ok (status : ℤ) := by
  obtain ⟨minor, code, reason, rfl, hminor, hlength, hcode, hreason, rfl⟩ := h
  have hne : code ≠ [] := by
    rintro rfl
    cases hlength
  have hhttp : ∀ b ∈ ascii "HTTP/1.", isBlank b = false := by decide +kernel
  have hversion : ∀ b ∈ ascii "HTTP/1." ++ [minor], isBlank b = false := by
    intro b hb
    rcases List.mem_append.mp hb with hb | hb
    · exact hhttp b hb
    · rw [List.mem_singleton.mp hb]
      exact not_isBlank_of_hex (hexValue_of_decimal hminor)
  have hblank : ∀ b ∈ code, isBlank b = false := fun b hb =>
    not_isBlank_of_hex (hexValue_of_decimal (hcode b hb))
  have hsplit : ∃ others, (code ++ reason).splitOnP isBlank = code :: others := by
    cases reason with
    | nil =>
      rw [List.append_nil]
      exact ⟨[], List.splitOnP_eq_singleton fun b hb => by simp [hblank b hb]⟩
    | cons b reason =>
      obtain rfl := hreason b rfl
      exact ⟨_, List.splitOnP_append_cons_of_forall_mem hblank 32 rfl reason⟩
  obtain ⟨others, hothers⟩ := hsplit
  have hwords : (ascii "HTTP/1." ++ minor :: 32 :: (code ++ reason)).splitOnP isBlank =
      (ascii "HTTP/1." ++ [minor]) :: code :: others := by
    have hfirst := List.splitOnP_append_cons_of_forall_mem hversion 32 rfl (code ++ reason)
    rw [hothers] at hfirst
    simpa using hfirst
  have hint := decimalInt_digits hne hcode
  rw [if_neg (by omega)] at hint
  unfold readStatus
  rw [hwords]
  simp only [List.filter_cons, ne_eq, decide_not, hne, decide_false, Bool.not_false, if_true,
    List.append_eq_nil_iff, List.cons_ne_nil, and_false, List.all_eq_true.mpr hcode, hint]

/-- Visible characters of ASCII are no white space. -/
lemma not_isTextSpace {b : UInt8} (hlow : 33 ≤ b.toNat) (hhigh : b.toNat ≤ 126) :
    isTextSpace b = false := by
  have hne : b ≠ 133 ∧ b ≠ 160 := by
    constructor
    · rintro rfl
      exact absurd hhigh (by decide)
    · rintro rfl
      exact absurd hhigh (by decide)
  simp only [isTextSpace, Bool.or_eq_false_iff, Bool.and_eq_false_iff, decide_eq_false_iff_not,
    UInt8.le_iff_toNat_le, UInt8.reduceToNat]
  exact ⟨⟨⟨.inr (by omega), .inr (by omega)⟩, hne.1⟩, hne.2⟩

/-- A name is kept as it is, but for the case. -/
lemma strip_name (f : Field) : (strip isTextSpace f.name).map lowerText = f.key := by
  have hspace : ∀ b ∈ f.name, isTextSpace b = false := by
    intro b hb
    have htoken := f.name_token b hb
    exact not_isTextSpace (by omega) (by omega)
  rw [strip_self hspace, Field.key]
  refine List.map_congr_left fun b hb => ?_
  have htoken := f.name_token b hb
  have hlatin : ¬ (192 ≤ b ∧ b ≤ 222 ∧ b ≠ 215) := by
    rw [UInt8.le_iff_toNat_le]
    simp only [UInt8.reduceToNat]
    omega
  unfold lowerText lowerByte
  simp only [hlatin, or_false]

lemma isTextSpace_of_isBlank {b : UInt8} (h : Http.isBlank b = true) : isTextSpace b = true := by
  simp only [Http.isBlank, Bool.or_eq_true, decide_eq_true_eq] at h
  rcases h with rfl | rfl <;> decide

/-- The headers with a field. -/
def withField (headers : Dict (List UInt8) (List UInt8)) (f : Field) :
    Dict (List UInt8) (List UInt8) := headers.set f.key (strip isTextSpace f.value)

/-- The headers of a head. -/
def headersOf (h : Head) : Dict (List UInt8) (List UInt8) := h.fields.foldl withField Dict.empty

lemma readFields_lines (fields : List Field) :
    readFields (fields.map Field.line ++ [[], []]) = fields.foldl withField Dict.empty := by
  have hline : ∀ f : Field, f.line.takeWhile (· ≠ 58) = f.name ∧
      f.line.dropWhile (· ≠ 58) = 58 :: (f.before ++ f.value ++ f.after) := fun f =>
    Http.pass_over (fun hmem => (f.name_token 58 hmem).2.2 rfl) _
  have hvalue : ∀ f : Field, strip isTextSpace (f.before ++ f.value ++ f.after) =
      strip isTextSpace f.value := fun f =>
    strip_pad (fun b hb => isTextSpace_of_isBlank (f.before_blank b hb))
      fun b hb => isTextSpace_of_isBlank (f.after_blank b hb)
  unfold readFields
  rw [List.foldl_append, List.foldl_map]
  change List.foldl _ Dict.empty fields = _
  congr 1
  funext headers f
  rw [(hline f).1, (hline f).2]
  dsimp only
  rw [strip_name, hvalue]
  rfl

section Headers

variable {headers : Dict (List UInt8) (List UInt8)} {fields : List Field} {name value : List UInt8}
  {head : Head}

lemma get?_skip (h : ∀ f ∈ fields, f.key ≠ name) :
    (fields.foldl withField headers).get? name = headers.get? name := by
  induction fields generalizing headers with
  | nil => rfl
  | cons f fields ih =>
    rw [List.forall_mem_cons] at h
    rw [List.foldl_cons, ih h.2]
    exact Dict.get?_set_ne h.1.symm headers _

lemma get?_only (h : head.Only name value) :
    (headersOf head).get? name = some (strip isTextSpace value) := by
  obtain ⟨before, f, after, hfields, rfl, rfl, hothers⟩ := h
  unfold headersOf
  rw [hfields, List.foldl_append, List.foldl_cons,
    get?_skip fun g hg => hothers g (List.mem_append_right before hg)]
  exact Dict.get?_set_self _ _ _

lemma get?_without (h : head.Without name) : (headersOf head).get? name = none := get?_skip h

/-- A text that is found is the one of some field. -/
lemma get?_mem (h : (fields.foldl withField headers).get? name = some value) :
    headers.get? name = some value ∨
      ∃ f ∈ fields, f.key = name ∧ strip isTextSpace f.value = value := by
  induction fields generalizing headers with
  | nil => exact .inl h
  | cons f fields ih =>
    rcases ih h with hset | ⟨g, hg, hkey, hvalue⟩
    · unfold withField at hset
      rw [Dict.get?_set] at hset
      split_ifs at hset with hname
      · exact .inr ⟨f, List.mem_cons_self, hname.symm, Option.some.inj hset⟩
      · exact .inl hset
    · exact .inr ⟨g, List.mem_cons_of_mem f hg, hkey, hvalue⟩

/-- The header of a response is read, whatever comes after it. -/
lemma readHeader_head {status : ℕ} {i : Inbox UInt8} {rest : List UInt8}
    (hstatus : IsStatus head.status status) (hlength : head.bytes.length ≤ connectHeaderMax)
    (h : i.stream = head.bytes ++ rest) :
    ∃ i', readHeader i = .ok ((status : ℤ), headersOf head, i') ∧ i'.stream = rest ∧
      i.readUntil Message.blankLine streamLimit = .ok (head.bytes, i') := by
  have hcut := head.cut_bytes rest
  rw [← h] at hcut
  have hlimit : head.bytes.length ≤ streamLimit := hlength.trans (by decide)
  obtain ⟨i', hread, hrest⟩ := Inbox.readUntil_of_stream hcut hlimit
  have hlines : Http.lines head.bytes = head.status :: (head.fields.map Field.line ++ [[], []]) := by
    have hbytes : head.bytes = Http.unlines (head.lines ++ [[]]) := by
      simp [Head.bytes, Http.unlines, crlf]
    have hplain : ∀ l ∈ head.lines ++ [[]], (13 : UInt8) ∉ l := by
      intro l hl hmem
      rcases List.mem_append.mp hl with hl | hl
      · exact ((head.lines_plain l hl).2 13 hmem).1 rfl
      · rw [List.mem_singleton.mp hl] at hmem
        cases hmem
    rw [hbytes, Http.lines_unlines hplain]
    simp [Head.lines]
  refine ⟨i', ?_, hrest, hread⟩
  unfold readHeader
  rw [hread]
  simp only [Except.mapError, ok_bind, if_neg (Nat.not_lt.mpr hlength), hlines, List.headD_cons,
    readStatus_line hstatus, List.tail_cons, readFields_lines]
  rfl

end Headers

/-! ## Responses that are read -/

/-- The probe gets a status and a body. -/
def Gets (i : Inbox UInt8) (status : ℕ) (body : List UInt8) : Prop :=
  ∃ headers, readHttpResponse true i = some (.ok ⟨status, headers, body⟩)

/-- The probe raises an exception. -/
def Raises (i : Inbox UInt8) : Prop := ∃ e, readHttpResponse true i = some (.error e)

/-- A head of HTTP/1.x within the limit, with its status. -/
structure Opens (head : Head) (status : ℕ) : Prop where
  status : IsStatus head.status status
  length : head.bytes.length ≤ connectHeaderMax

/-- The head says the length of the body in digits. -/
structure SaysLength (head : Head) (digits : List UInt8) : Prop where
  only : head.Only (ascii "content-length") digits
  digits_ne : digits ≠ []
  digits_decimal : ∀ b ∈ digits, (decimalValue b).isSome = true

/-- The head says that the body is in chunks. -/
def SaysChunks (head : Head) : Prop :=
  head.Without (ascii "content-length") ∧
    ∃ value, head.Only (ascii "transfer-encoding") value ∧ value.map lowerByte = ascii "chunked"

/-- The head says neither. -/
def SaysNothing (head : Head) : Prop :=
  head.Without (ascii "content-length") ∧
    ∀ f ∈ head.fields, f.key = ascii "transfer-encoding" →
      ¬ ascii "chunked" <:+: f.value.map lowerByte

/-- The letters of a word. -/
lemma lower_letter : ∀ b : UInt8, lowerByte b ∈ ascii "chunked" ∨ lowerText b ∈ ascii "chunked" →
    lowerText b = lowerByte b ∧ isTextSpace b = false := by
  have hall : ∀ n : Fin 256, let b := UInt8.ofFin n
      lowerByte b ∈ ascii "chunked" ∨ lowerText b ∈ ascii "chunked" →
        lowerText b = lowerByte b ∧ isTextSpace b = false := by
    decide +kernel
  exact fun b => hall b.toFin

section Responses

variable {head : Head} {status : ℕ} {digits : List UInt8} {i j : Inbox UInt8}
  {headers : Dict (List UInt8) (List UInt8)}

lemma readHttpResponse_header (h : readHeader i = .ok ((status : ℤ), headers, j)) :
    readHttpResponse true i =
      (readBody headers j).map fun r => r.map fun body => ⟨(status : ℤ), headers, body⟩ := by
  rw [readHttpResponse, h]
  rfl

lemma gets_iff (h : readHeader i = .ok ((status : ℤ), headers, j)) (body : List UInt8) :
    Gets i status body ↔ readBody headers j = some (.ok body) := by
  unfold Gets
  rw [readHttpResponse_header h]
  cases hbody : readBody headers j with
  | none => exact iff_of_false (by simp) (by simp)
  | some r =>
    cases r with
    | error e => exact iff_of_false (by simp [Except.map]) (by simp)
    | ok b =>
      constructor
      · rintro ⟨headers', h⟩
        cases h
        rfl
      · intro h
        cases h
        exact ⟨headers, rfl⟩

lemma raises_iff (h : readHeader i = .ok ((status : ℤ), headers, j)) :
    Raises i ↔ ∃ e, readBody headers j = some (.error e) := by
  unfold Raises
  rw [readHttpResponse_header h]
  cases hbody : readBody headers j with
  | none => exact iff_of_false (by simp) (by simp)
  | some r =>
    cases r with
    | error e => exact iff_of_true ⟨e, rfl⟩ ⟨e, rfl⟩
    | ok b => exact iff_of_false (by simp [Except.map]) (by simp)

lemma SaysLength.readBody (h : SaysLength head digits) (j : Inbox UInt8) :
    readBody (headersOf head) j = some (readSized digits j) := by
  have hspace : ∀ b ∈ digits, isTextSpace b = false := by
    intro b hb
    have hrange := hexValue_range (hexValue_of_decimal (h.digits_decimal b hb))
    exact not_isTextSpace (by omega) (by omega)
  rw [Probe.readBody, get?_only h.only, strip_self hspace]

lemma SaysChunks.readBody (h : SaysChunks head) (j : Inbox UInt8) :
    readBody (headersOf head) j = readChunks (j.stream.length + 1) [] 0 j := by
  obtain ⟨hlength, value, honly, hvalue⟩ := h
  have hletter : ∀ b ∈ value, lowerText b = lowerByte b ∧ isTextSpace b = false := fun b hb =>
    lower_letter b (.inl (hvalue ▸ List.mem_map_of_mem hb))
  have hcoding : (strip isTextSpace value).map lowerText = ascii "chunked" := by
    rw [strip_self fun b hb => (hletter b hb).2, List.map_congr_left fun b hb => (hletter b hb).1,
      hvalue]
  rw [Probe.readBody, get?_without hlength, get?_only honly]
  exact if_pos hcoding

lemma SaysNothing.readBody (h : SaysNothing head) (j : Inbox UInt8) :
    readBody (headersOf head) j = some (readClosing j) := by
  rw [Probe.readBody, get?_without h.1]
  refine if_neg fun hcoding => ?_
  cases hvalue : (headersOf head).get? (ascii "transfer-encoding") with
  | none =>
    rw [hvalue] at hcoding
    exact absurd hcoding (by decide +kernel)
  | some text =>
    rw [hvalue] at hcoding
    rcases get?_mem hvalue with hnone | ⟨f, hf, hkey, rfl⟩
    · cases hnone
    · -- the letters of the text are letters of the field
      refine h.2 f hf hkey ?_
      have hletter : ∀ b ∈ strip isTextSpace f.value, lowerText b = lowerByte b := fun b hb =>
        (lower_letter b (.inr (hcoding ▸ List.mem_map_of_mem hb))).1
      rw [← hcoding]
      change (strip isTextSpace f.value).map lowerText <:+: _
      rw [List.map_congr_left hletter]
      exact strip_infix.map lowerByte

/-! ### A length -/

lemma length_whole (hopens : Opens head status) (h : SaysLength head digits) {body rest : List UInt8}
    (hstream : i.stream = head.bytes ++ (body ++ rest))
    (hbody : body.length = valueOf 10 decimalValue digits) (hmax : body.length ≤ probeBodyMax) :
    Gets i status body ↔ digits.length ≤ 4300 := by
  obtain ⟨j, hheader, hj, -⟩ := readHeader_head hopens.status hopens.length hstream
  obtain ⟨k, hread, -⟩ := readExactly_of_stream hbody hj
  rw [gets_iff hheader, h.readBody, readSized, decimalInt_digits h.digits_ne h.digits_decimal]
  split_ifs with hlong
  · exact iff_of_false nofun (by omega)
  · have hlimit : ¬ (((valueOf 10 decimalValue digits : ℕ) : ℤ) < 0 ∨
        (probeBodyMax : ℤ) < (valueOf 10 decimalValue digits : ℕ)) := by omega
    dsimp only
    rw [if_neg hlimit, Int.toNat_natCast, hread]
    exact iff_of_true rfl (by omega)

lemma length_cut (hopens : Opens head status) (h : SaysLength head digits) {part : List UInt8}
    (hstream : i.stream = head.bytes ++ part)
    (hcut : part.length < valueOf 10 decimalValue digits ∨
      probeBodyMax < valueOf 10 decimalValue digits) : Raises i := by
  obtain ⟨j, hheader, rfl, -⟩ := readHeader_head hopens.status hopens.length hstream
  rw [raises_iff hheader, h.readBody, readSized, decimalInt_digits h.digits_ne h.digits_decimal]
  split_ifs with hlong
  · exact ⟨_, rfl⟩
  · dsimp only
    split_ifs with hlimit
    · exact ⟨_, rfl⟩
    · rw [Int.toNat_natCast]
      have hshort : j.stream.length < valueOf 10 decimalValue digits := by omega
      obtain ⟨e, he⟩ := readExactly_short hshort
      rw [he]
      exact ⟨e, rfl⟩

/-! ### Chunks -/

/-- What is sent of a body in chunks. -/
def message (chunks : List Chunk) (last : SizeLine) (trailers : List Field) : List UInt8 :=
  framed chunks last ++ (Http.unlines (trailers.map Field.line) ++ crlf)

variable {chunks : List Chunk} {last : SizeLine} {trailers : List Field}

lemma trailer_lines (trailers : List Field) : ∀ l ∈ trailers.map Field.line, l ≠ [] ∧ IsPlain l := by
  intro l hl
  obtain ⟨f, -, rfl⟩ := List.mem_map.mp hl
  exact ⟨by simp [Field.line], f.line_plain⟩

/-- The reader raises unless the loop gives something. -/
lemma raises_chunks_iff (h : SaysChunks head)
    (hheader : readHeader i = .ok ((status : ℤ), headersOf head, j)) :
    Raises i ↔ ¬ ∃ b, readChunks (j.stream.length + 1) [] 0 j = some (.ok b) := by
  rw [raises_iff hheader, h.readBody]
  obtain ⟨r, hr⟩ := @readChunks_ends _ 0 [] j (Nat.lt_succ_self _)
  rw [hr]
  cases r with
  | error e => exact iff_of_true ⟨e, rfl⟩ (by simp)
  | ok b => exact iff_of_false (by simp) (not_not.mpr ⟨b, rfl⟩)

lemma chunks_read {rest : List UInt8} (hzero : last.size = 0)
    (hj : j.stream = message chunks last trailers ++ rest) (b : List UInt8) :
    readChunks (j.stream.length + 1) [] 0 j = some (.ok b) ↔
      b = content chunks ∧ (content chunks).length ≤ probeBodyMax ∧
        LinesFit chunks last (trailers.map Field.line) := by
  have hsplit : j.stream =
      framed chunks last ++ (Http.unlines (trailers.map Field.line) ++ crlf ++ rest) := by
    rw [hj, message]
    simp only [List.append_assoc]
  rw [readChunks_whole (trailer_lines trailers) hzero hsplit (Nat.lt_succ_self _) (Nat.zero_le _),
    List.nil_append, Nat.zero_add]

lemma chunks_whole (hopens : Opens head status) (h : SaysChunks head) {rest : List UInt8}
    (hzero : last.size = 0) (hstream : i.stream = head.bytes ++ (message chunks last trailers ++ rest))
    (hmax : (content chunks).length ≤ probeBodyMax) :
    Gets i status (content chunks) ↔ LinesFit chunks last (trailers.map Field.line) := by
  obtain ⟨j, hheader, hj, -⟩ := readHeader_head hopens.status hopens.length hstream
  rw [gets_iff hheader, h.readBody, chunks_read hzero hj]
  simp only [hmax, true_and]

lemma chunks_large (hopens : Opens head status) (h : SaysChunks head) {rest : List UInt8}
    (hzero : last.size = 0) (hstream : i.stream = head.bytes ++ (message chunks last trailers ++ rest))
    (hmax : probeBodyMax < (content chunks).length) : Raises i := by
  obtain ⟨j, hheader, hj, -⟩ := readHeader_head hopens.status hopens.length hstream
  rw [raises_chunks_iff h hheader]
  rintro ⟨b, hb⟩
  have hle := ((chunks_read hzero hj b).mp hb).2.1
  omega

lemma chunks_cut (hopens : Opens head status) (h : SaysChunks head) {part : List UInt8}
    (hzero : last.size = 0) (hstream : i.stream = head.bytes ++ part)
    (hpart : part <+: message chunks last trailers)
    (hshort : part.length < (message chunks last trailers).length) :
    Raises i ↔ ¬ TakenForWhole last 0 chunks part := by
  obtain ⟨j, hheader, rfl, -⟩ := readHeader_head hopens.status hopens.length hstream
  rw [raises_chunks_iff h hheader, readChunks_part (trailer_lines trailers) hzero hpart hshort
    (Nat.lt_succ_self _) (Nat.zero_le _)]

/-! ### The end of the stream -/

lemma closing_whole (hopens : Opens head status) (h : SaysNothing head) {body : List UInt8}
    (hstream : i.stream = head.bytes ++ body) (hmax : body.length ≤ probeBodyMax) :
    Gets i status body ↔ i.Unbroken head.bytes.length (head.bytes.length + body.length) := by
  obtain ⟨j, hheader, rfl, hread⟩ := readHeader_head hopens.status hopens.length hstream
  have hle := (Inbox.readSome_prefix (probeBodyMax + 1) j).length_le
  have hsome : (j.readSome (probeBodyMax + 1)).1 = j.stream ↔ j.Unbroken 0 j.stream.length :=
    Inbox.readSome_eq_stream (by omega)
  rw [gets_iff hheader, h.readBody, readClosing, if_neg (by omega), Inbox.readUntil_unbroken hread,
    ← hsome, Option.some.injEq, Except.ok.injEq]

/-- What a probe gets.  It ends on every stream.  A body of a known length is read as it is when the
number has no more than 4300 digits, and a part of it, or a length beyond the limit, is an error.
Chunks are read as they are when their lines and the trailers are within the limits, chunks beyond
the limit are an error, and a part of them is one unless it is taken for the whole.  A body that the
end of the stream ends is read as it is when no piece of the stream ends inside it. -/
theorem response_is_read_iff (i : Inbox UInt8) :
    (∃ r, readHttpResponse true i = some r) ∧
    ∀ (head : Head) (status : ℕ), Opens head status →
      (∀ digits, SaysLength head digits →
        (∀ body rest : List UInt8, i.stream = head.bytes ++ (body ++ rest) →
          body.length = valueOf 10 decimalValue digits → body.length ≤ probeBodyMax →
            (Gets i status body ↔ digits.length ≤ 4300)) ∧
        ∀ part : List UInt8, i.stream = head.bytes ++ part →
          part.length < valueOf 10 decimalValue digits ∨
            probeBodyMax < valueOf 10 decimalValue digits → Raises i) ∧
      (SaysChunks head → ∀ (chunks : List Chunk) (last : SizeLine) (trailers : List Field),
        last.size = 0 →
        (∀ rest : List UInt8, i.stream = head.bytes ++ (message chunks last trailers ++ rest) →
          ((content chunks).length ≤ probeBodyMax →
            (Gets i status (content chunks) ↔ LinesFit chunks last (trailers.map Field.line))) ∧
          (probeBodyMax < (content chunks).length → Raises i)) ∧
        ∀ part : List UInt8, i.stream = head.bytes ++ part →
          part <+: message chunks last trailers → part.length < (message chunks last trailers).length →
            (Raises i ↔ ¬ TakenForWhole last 0 chunks part)) ∧
      (SaysNothing head → ∀ body : List UInt8, i.stream = head.bytes ++ body →
        body.length ≤ probeBodyMax →
          (Gets i status body ↔ i.Unbroken head.bytes.length (head.bytes.length + body.length))) := by
  refine ⟨readHttpResponse_ends true i, fun head status hopens => ⟨?_, ?_, ?_⟩⟩
  · intro digits h
    exact ⟨fun body rest hstream => length_whole hopens h hstream,
      fun part hstream => length_cut hopens h hstream⟩
  · intro h chunks last trailers hzero
    constructor
    · intro rest hstream
      exact ⟨chunks_whole hopens h hzero hstream, chunks_large hopens h hzero hstream⟩
    · intro part hstream
      exact chunks_cut hopens h hzero hstream
  · intro h body hstream
    exact closing_whole hopens h hstream

end Responses

lemma okLine_ne : ascii "HTTP/1.1 200 OK" ≠ [] := by decide +kernel

lemma okLine_plain : IsPlain (ascii "HTTP/1.1 200 OK") := by decide +kernel

/-- A head without fields. -/
def plainHead : Head where
  status := ascii "HTTP/1.1 200 OK"
  fields := []
  status_ne := okLine_ne
  status_plain := okLine_plain

lemma plainHead_opens : Opens plainHead 200 where
  status := ⟨49, ascii "200", ascii " OK", by decide +kernel, by decide, by decide +kernel,
    by decide +kernel, by decide +kernel, by decide +kernel⟩
  length := by decide +kernel

lemma plainHead_saysNothing : SaysNothing plainHead := ⟨nofun, nofun⟩

/-- An address that comes in two pieces, the first one with the head. -/
def broken : Inbox UInt8 := ⟨[], [plainHead.bytes ++ ascii "192.0.", ascii "2.7"]⟩

/-- An address that comes in one piece. -/
def unbroken : Inbox UInt8 := ⟨[], [plainHead.bytes, ascii "192.0.2.7"]⟩

theorem response_is_read_unbroken : Gets unbroken 200 (ascii "192.0.2.7") := by
  have hstream : unbroken.stream = plainHead.bytes ++ ascii "192.0.2.7" := by decide +kernel
  have hiff := ((response_is_read_iff unbroken).2 plainHead 200 plainHead_opens).2.2
    plainHead_saysNothing (ascii "192.0.2.7") hstream (by decide +kernel)
  refine hiff.mpr ?_
  rintro k ⟨hstart, hstop⟩
  rcases Nat.lt_or_ge k 2 with hk | hk
  · have hle := unbroken.arrived_mono (show k ≤ 1 by omega)
    have hone : (unbroken.arrived 1).length = plainHead.bytes.length := by decide +kernel
    omega
  · have hle := unbroken.arrived_mono hk
    have htwo : (unbroken.arrived 2).length = plainHead.bytes.length + (ascii "192.0.2.7").length := by
      decide +kernel
    omega

/-- The second piece of a body is lost. -/
theorem response_is_broken : broken.stream = plainHead.bytes ++ ascii "192.0.2.7" ∧
    Gets broken 200 (ascii "192.0.") ∧ ¬ Gets broken 200 (ascii "192.0.2.7") := by
  have hread : readHttpResponse true broken = some (.ok ⟨200, Dict.empty, ascii "192.0."⟩) := by
    rfl
  refine ⟨by decide +kernel, ⟨Dict.empty, hread⟩, ?_⟩
  rintro ⟨headers, h⟩
  rw [hread] at h
  simp only [Option.some.injEq, Except.ok.injEq, Response.mk.injEq] at h
  exact absurd h.2.2 (by decide +kernel)

end Routing.Probe
