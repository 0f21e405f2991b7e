import LumenRelay.Routing.ProbeReader

/-!
# Chunks that a probe reads

A body in chunks, which a target has sent whole or in part, is in the rest of the stream.
-/

namespace Routing.Probe

open Lib Lib.Message Py

/-! ## Trailers that are read -/

section Trailers

variable {fuel count : ℕ} {i : Inbox UInt8} {l rest : List UInt8} {ls : List (List UInt8)}

lemma readTrailers_nil (hstream : i.stream = []) :
    readTrailers (fuel + 1) count i = some (.ok ()) ↔ count ≤ connectHeaderMax := by
  have hread := readLine_of_last (i := i) (by simp [hstream]) (by simp [hstream])
  rw [readTrailers, hread, hstream]
  dsimp only
  rw [List.length_nil, Nat.add_zero]
  split_ifs with hlong
  · exact iff_of_false (by rintro ⟨⟩) (by omega)
  · exact iff_of_true rfl (by omega)
  · rename_i hend
    exact absurd (.inl rfl) hend

/-- The stream ends in a line, which is taken for the last one. -/
lemma readTrailers_last (hl : 10 ∉ i.stream) (hfuel : i.stream.length < fuel) :
    readTrailers fuel count i = some (.ok ()) ↔ count + i.stream.length ≤ connectHeaderMax := by
  obtain ⟨fuel, rfl⟩ := Nat.exists_eq_add_of_le' (Nat.zero_lt_of_lt hfuel)
  by_cases hnil : i.stream = []
  · rw [readTrailers_nil hnil, hnil]
    rfl
  · have hpos := List.length_pos_iff.mpr hnil
    obtain ⟨fuel, rfl⟩ := Nat.exists_eq_add_of_le' (show 1 ≤ fuel by omega)
    rw [readTrailers]
    cases hread : readLine i with
    | error e =>
      -- only a line that is too long is not read
      refine iff_of_false (by rintro ⟨⟩) fun hle => ?_
      have hlimit : connectHeaderMax ≤ streamLimit := by decide
      rw [readLine_of_last hl (by omega)] at hread
      cases hread
    | ok p =>
      obtain ⟨x, j⟩ := p
      obtain ⟨rfl, hj⟩ := readLine_last hl hread
      have hcrlf : ¬ (i.stream = [] ∨ i.stream = crlf) := by
        rintro (h | h)
        · exact hnil h
        · rw [h] at hl
          exact hl (by decide)
      dsimp only
      split_ifs with hlong
      · exact iff_of_false (by rintro ⟨⟩) (by omega)
      · exact readTrailers_nil hj

/-- The end of the trailers. -/
lemma readTrailers_end (hstream : i.stream = crlf ++ rest) :
    readTrailers (fuel + 1) count i = some (.ok ()) ↔ count + 2 ≤ connectHeaderMax := by
  have hlf : (10 : UInt8) ∉ [13] := by decide
  obtain ⟨j, hread, -⟩ := readLine_of_stream hlf hstream (by decide)
  rw [readTrailers, hread]
  dsimp only
  have htwo : ([13] ++ [10] : List UInt8).length = 2 := rfl
  rw [htwo]
  split_ifs with hlong hend
  · exact iff_of_false (by rintro ⟨⟩) (by omega)
  · exact iff_of_true rfl (by omega)
  · exact absurd (.inr rfl) hend

/-- A line of the trailers. -/
lemma readTrailers_line (hne : l ≠ []) (hl : IsPlain l) (hstream : i.stream = l ++ crlf ++ rest)
    {P : Prop} (hP : P → count + l.length + 2 ≤ connectHeaderMax)
    (hrest : ∀ j : Inbox UInt8, j.stream = rest →
      (readTrailers fuel (count + l.length + 2) j = some (.ok ()) ↔ P)) :
    readTrailers (fuel + 1) count i = some (.ok ()) ↔ P := by
  have hlf : 10 ∉ l ++ [13] := by
    rw [List.mem_append, not_or]
    exact ⟨fun h => (hl 10 h).2 rfl, by decide⟩
  have hsplit : i.stream = (l ++ [13]) ++ 10 :: rest := by
    rw [hstream]
    simp [crlf]
  rw [readTrailers]
  cases hread : readLine i with
  | error e =>
    refine iff_of_false (by rintro ⟨⟩) fun h => ?_
    have hlimit : connectHeaderMax < streamLimit := by decide
    have hshort : (l ++ [13]).length < streamLimit := by
      rw [List.length_append, List.length_singleton]
      have := hP h
      omega
    obtain ⟨j, hok, -⟩ := readLine_of_stream hlf hsplit hshort
    rw [hok] at hread
    cases hread
  | ok p =>
    obtain ⟨x, j⟩ := p
    obtain ⟨rfl, hj⟩ := readLine_ok hlf hsplit hread
    have hlength : (l ++ [13] ++ [10]).length = l.length + 2 := by simp
    have hend : ¬ (l ++ [13] ++ [10] = [] ∨ l ++ [13] ++ [10] = crlf) := by
      rintro (h | h)
      · simp at h
      · have hzero := congrArg List.length h
        rw [hlength] at hzero
        exact hne (List.length_eq_zero_iff.mp (Nat.add_right_cancel hzero))
    dsimp only
    rw [hlength, ← Nat.add_assoc]
    split_ifs with hlong
    · refine iff_of_false (by rintro ⟨⟩) fun h => ?_
      have := hP h
      omega
    · exact hrest j hj

/-- Trailers that have come are within the limit. -/
lemma readTrailers_whole (hls : ∀ l ∈ ls, l ≠ [] ∧ IsPlain l)
    (hstream : i.stream = Http.unlines ls ++ crlf ++ rest) (hfuel : i.stream.length < fuel) :
    readTrailers fuel count i = some (.ok ()) ↔
      count + (Http.unlines ls ++ crlf).length ≤ connectHeaderMax := by
  induction ls generalizing fuel count i with
  | nil =>
    obtain ⟨fuel, rfl⟩ := Nat.exists_eq_add_of_le' (Nat.zero_lt_of_lt hfuel)
    exact readTrailers_end hstream
  | cons l ls ih =>
    rw [List.forall_mem_cons] at hls
    obtain ⟨fuel, rfl⟩ := Nat.exists_eq_add_of_le' (Nat.zero_lt_of_lt hfuel)
    have hunlines : Http.unlines (l :: ls) = l ++ crlf ++ Http.unlines ls := by
      simp [Http.unlines, crlf]
    rw [hunlines] at hstream ⊢
    simp only [List.append_assoc] at hstream
    rw [← List.append_assoc, ← List.append_assoc (Http.unlines ls)] at hstream
    have hlength := congrArg List.length hstream
    simp only [List.length_append] at hlength ⊢
    have htwo : crlf.length = 2 := rfl
    refine readTrailers_line hls.1.1 hls.1.2 hstream (by omega) fun j hj => ?_
    have hj' := congrArg List.length hj
    simp only [List.length_append] at hj'
    rw [ih hls.2 hj (by omega), List.length_append]
    omega

/-- Where the stream ends in the trailers, they are taken for whole. -/
lemma readTrailers_part (hls : ∀ l ∈ ls, l ≠ [] ∧ IsPlain l)
    (hpart : i.stream <+: Http.unlines ls ++ crlf)
    (hshort : i.stream.length < (Http.unlines ls ++ crlf).length) (hfuel : i.stream.length < fuel) :
    readTrailers fuel count i = some (.ok ()) ↔ count + i.stream.length ≤ connectHeaderMax := by
  induction ls generalizing fuel count i with
  | nil =>
    have hplain : IsPlain [] := fun _ hb => absurd hb List.not_mem_nil
    exact readTrailers_last (lf_notMem_part hplain hpart hshort) hfuel
  | cons l ls ih =>
    rw [List.forall_mem_cons] at hls
    have hunlines : Http.unlines (l :: ls) = l ++ crlf ++ Http.unlines ls := by
      simp [Http.unlines, crlf]
    rw [hunlines, List.append_assoc] at hpart hshort
    rcases prefix_append_cases hpart with ⟨hpart, hshort⟩ | ⟨q, hq, hpart⟩
    · exact readTrailers_last (lf_notMem_part hls.1.2 hpart hshort) hfuel
    · obtain ⟨fuel, rfl⟩ := Nat.exists_eq_add_of_le' (Nat.zero_lt_of_lt hfuel)
      have hlength := congrArg List.length hq
      have htwo : crlf.length = 2 := rfl
      simp only [List.length_append] at hlength hshort
      refine readTrailers_line hls.1.1 hls.1.2 hq (by omega) fun j hj => ?_
      have hj' := congrArg List.length hj
      rw [ih hls.2 (hj ▸ hpart) (by rw [List.length_append]; omega) (by omega)]
      omega

end Trailers

/-! ## Chunks that are read -/

lemma chunkSize_line (s : SizeLine) : chunkSize (s.bytes ++ crlf) = some (s.size : ℤ) := by
  have hdigits : ∀ b ∈ s.digits, isBlank b = false := fun b hb =>
    not_isBlank_of_hex (s.digits_hex b hb)
  have hblanks : ∀ b ∈ s.blanks, isBlank b = true := by
    intro b hb
    have hblank := s.blanks_blank b hb
    simp only [Http.isBlank, Bool.or_eq_true, decide_eq_true_eq] at hblank
    rcases hblank with rfl | rfl <;> decide
  have hstrip : ∀ after : List UInt8, (∀ b ∈ after, isBlank b = true) →
      strip isBlank (s.digits ++ after) = s.digits := fun after hafter => by
    have hpad : strip isBlank ([] ++ s.digits ++ after) = strip isBlank s.digits :=
      strip_pad (by simp) hafter
    rw [strip_self hdigits] at hpad
    exact hpad
  unfold chunkSize
  cases hextension : s.extension with
  | nil =>
    -- the end of the line is white space too
    have hwhole := s.takeWhile_bytes [] (by simp)
    rw [List.append_nil] at hwhole
    have htake : (s.bytes ++ crlf).takeWhile (· ≠ 59) = s.digits ++ (s.blanks ++ crlf) := by
      rw [SizeLine.bytes, hextension, List.append_nil, List.takeWhile_append, if_pos (by rw [hwhole]),
        List.append_assoc]
      rfl
    have hcrlf : crlf.all isBlank = true := by decide
    have hafter : ∀ b ∈ s.blanks ++ crlf, isBlank b = true := by
      intro b hb
      rcases List.mem_append.mp hb with hb | hb
      · exact hblanks b hb
      · exact List.all_eq_true.mp hcrlf b hb
    rw [htake, hstrip _ hafter, hexInt_digits s.digits_ne s.digits_hex]
    rfl
  | cons b extension =>
    have hstart : b = 59 := s.extension_start b (by rw [hextension]; rfl)
    have hbytes : s.bytes ++ crlf = s.digits ++ s.blanks ++ (59 :: extension ++ crlf) := by
      rw [SizeLine.bytes, hextension, hstart, List.append_assoc]
    rw [hbytes, s.takeWhile_bytes _ (by simp), hstrip _ hblanks,
      hexInt_digits s.digits_ne s.digits_hex]
    rfl

/-- A line before a chunk is not longer than it may be. -/
def LineFits (s : SizeLine) : Prop := s.bytes.length + 2 ≤ 128

instance (s : SizeLine) : Decidable (LineFits s) := inferInstanceAs (Decidable (_ ≤ _))

/-- A part of a line that reads as the size zero. -/
def ReadsAsZero (p : List UInt8) : Prop := p ≠ [] ∧ p.length ≤ 128 ∧ chunkSize p = some 0

section Chunks

variable {fuel total : ℕ} {i i' : Inbox UInt8} {line last : SizeLine} {c : Chunk} {chunks : List Chunk}
  {decoded q rest : List UInt8} {r : Option (List UInt8)} {ls : List (List UInt8)}

lemma lf_notMem_line (line : SizeLine) : 10 ∉ line.bytes ++ [13] := by
  rw [List.mem_append, not_or]
  exact ⟨fun h => (line.plain 10 h).2 rfl, by decide⟩

lemma line_split (h : i.stream = line.bytes ++ crlf ++ rest) :
    i.stream = (line.bytes ++ [13]) ++ 10 :: rest := by
  rw [h]
  simp [crlf]

lemma line_end (line : SizeLine) : line.bytes ++ [13] ++ [10] = line.bytes ++ crlf := by simp [crlf]

lemma readLine_line (h : i.stream = line.bytes ++ crlf ++ rest) (hfits : LineFits line) :
    ∃ j, readLine i = .ok (line.bytes ++ crlf, j) ∧ j.stream = rest := by
  have hlimit : (line.bytes ++ [13]).length < streamLimit := by
    have hmax : 128 < streamLimit := by decide
    unfold LineFits at hfits
    rw [List.length_append, List.length_singleton]
    omega
  have hread := readLine_of_stream (lf_notMem_line line) (line_split h) hlimit
  rw [line_end] at hread
  exact hread

lemma lineFits_iff (line : SizeLine) : (line.bytes ++ crlf).length ≤ 128 ↔ LineFits line := by
  rw [List.length_append]
  rfl

/-- A round that returns has read a line of the limit. -/
lemma readChunk_line (h : i.stream = line.bytes ++ crlf ++ rest)
    (hread : readChunk total i = .ok (r, i')) :
    LineFits line ∧ ∃ j : Inbox UInt8, j.stream = rest ∧
      ((line.size = 0 ∧ r = none ∧ i' = j) ∨
        ∃ chunk k, 0 < line.size ∧ total + line.size ≤ probeBodyMax ∧
          readExactly line.size j = .ok (chunk, k) ∧ readExactly 2 k = .ok (crlf, i') ∧
            r = some chunk) := by
  obtain ⟨x, j, hline, -, hlength, hround⟩ := readChunk_ok hread
  obtain ⟨rfl, hj⟩ := readLine_ok (lf_notMem_line line) (line_split h) hline
  rw [line_end] at hlength hround
  refine ⟨(lineFits_iff line).mp hlength, j, hj, ?_⟩
  rw [chunkSize_line] at hround
  rcases hround with ⟨hsize, hr, hi⟩ | ⟨size, chunk, k, hsize, hpos, htotal, hchunk, hending, hr⟩
  · exact .inl ⟨by simpa using hsize, hr, hi⟩
  · obtain rfl : line.size = size := by simpa using hsize
    exact .inr ⟨chunk, k, hpos, htotal, hchunk, hending, hr⟩

/-- A round that returns has read a chunk of the size, and the end after it. -/
lemma readChunk_chunk_ok (h : i.stream = c.line.bytes ++ crlf ++ q)
    (hread : readChunk total i = .ok (r, i')) :
    LineFits c.line ∧ total + c.data.length ≤ probeBodyMax ∧
      ∃ chunk, r = some chunk ∧ chunk.length = c.data.length ∧ q = chunk ++ (crlf ++ i'.stream) := by
  have hpos := List.length_pos_iff.mpr c.data_ne
  obtain ⟨hfits, j, rfl, hround⟩ := readChunk_line h hread
  rw [c.sized] at hround
  rcases hround with ⟨hzero, -, -⟩ | ⟨chunk, k, -, htotal, hchunk, hending, hr⟩
  · omega
  · obtain ⟨hlength, hj⟩ := readExactly_ok hchunk
    rw [(readExactly_ok hending).2] at hj
    exact ⟨hfits, htotal, chunk, hr, hlength, hj⟩

lemma readChunk_chunk_of (h : i.stream = c.line.bytes ++ crlf ++ (c.data ++ (crlf ++ rest)))
    (hfits : LineFits c.line) (htotal : total + c.data.length ≤ probeBodyMax) :
    ∃ i', readChunk total i = .ok (some c.data, i') ∧ i'.stream = rest := by
  obtain ⟨j, hline, hj⟩ := readLine_line h hfits
  obtain ⟨k, hchunk, hk⟩ := readExactly_of_stream c.sized.symm hj
  obtain ⟨i', hending, hi⟩ := readExactly_of_stream (n := 2) rfl hk
  have hpos : 0 < c.line.size := by
    rw [c.sized]
    exact List.length_pos_iff.mpr c.data_ne
  rw [← c.sized] at htotal
  exact ⟨i', readChunk_chunk hline (by simp [crlf]) ((lineFits_iff _).mpr hfits) (chunkSize_line _) hpos
    htotal hchunk hending, hi⟩

lemma readChunk_last_of (h : i.stream = last.bytes ++ crlf ++ rest) (hfits : LineFits last)
    (hzero : last.size = 0) (htotal : total ≤ probeBodyMax) :
    ∃ j, readChunk total i = .ok (none, j) ∧ j.stream = rest := by
  obtain ⟨j, hline, hj⟩ := readLine_line h hfits
  have hsize := chunkSize_line last
  rw [hzero] at hsize
  exact ⟨j, readChunk_last hline (by simp [crlf]) ((lineFits_iff _).mpr hfits) hsize htotal, hj⟩

lemma readChunk_last_ok (h : i.stream = last.bytes ++ crlf ++ rest) (hzero : last.size = 0)
    (hread : readChunk total i = .ok (r, i')) : LineFits last ∧ r = none ∧ i'.stream = rest := by
  obtain ⟨hfits, j, hj, ⟨-, hr, rfl⟩ | ⟨chunk, k, hpos, -⟩⟩ := readChunk_line h hread
  · exact ⟨hfits, hr, hj⟩
  · omega

/-- The lines of the chunks and of the trailers are within the limits of the reader. -/
structure LinesFit (chunks : List Chunk) (last : SizeLine) (trailers : List (List UInt8)) : Prop where
  chunks : ∀ c ∈ chunks, LineFits c.line
  last : LineFits last
  trailers : (Http.unlines trailers ++ crlf).length ≤ connectHeaderMax

lemma linesFit_cons : LinesFit (c :: chunks) last ls ↔ LineFits c.line ∧ LinesFit chunks last ls := by
  constructor
  · intro h
    exact ⟨h.chunks c List.mem_cons_self, fun d hd => h.chunks d (List.mem_cons_of_mem c hd), h.last,
      h.trailers⟩
  · rintro ⟨hc, h⟩
    exact ⟨List.forall_mem_cons.mpr ⟨hc, h.chunks⟩, h.last, h.trailers⟩

/-- After the last line the chunks are given when the trailers end well. -/
lemma map_trailers {x : Option (Except PyErr Unit)} {b : List UInt8} :
    (x.map fun r => r.map fun _ => decoded) = some (.ok b) ↔ x = some (.ok ()) ∧ b = decoded := by
  rcases x with _ | _ | _
  · exact iff_of_false (by simp) (by simp)
  · exact iff_of_false (by simp [Except.map]) (by simp)
  · constructor
    · intro h
      cases h
      exact ⟨rfl, rfl⟩
    · rintro ⟨-, rfl⟩
      rfl

/-- Chunks that have come whole are read exactly when they are within the limits. -/
lemma readChunks_whole (hls : ∀ l ∈ ls, l ≠ [] ∧ IsPlain l) (hzero : last.size = 0)
    (hstream : i.stream = framed chunks last ++ (Http.unlines ls ++ crlf ++ rest))
    (hfuel : i.stream.length < fuel) (htotal : total ≤ probeBodyMax) (b : List UInt8) :
    readChunks fuel decoded total i = some (.ok b) ↔
      b = decoded ++ content chunks ∧ total + (content chunks).length ≤ probeBodyMax ∧
        LinesFit chunks last ls := by
  induction chunks generalizing fuel decoded total i with
  | nil =>
    obtain ⟨fuel, rfl⟩ := Nat.exists_eq_add_of_le' (Nat.zero_lt_of_lt hfuel)
    rw [framed_nil] at hstream
    rw [readChunks, content_nil, List.append_nil, List.length_nil]
    cases hread : readChunk total i with
    | error e =>
      refine iff_of_false (by rintro ⟨⟩) fun h => ?_
      obtain ⟨j, hok, -⟩ := readChunk_last_of hstream h.2.2.last hzero htotal
      rw [hok] at hread
      cases hread
    | ok p =>
      obtain ⟨r, j⟩ := p
      obtain ⟨hfits, rfl, hj⟩ := readChunk_last_ok hstream hzero hread
      dsimp only
      rw [map_trailers, readTrailers_whole hls hj (Nat.lt_succ_self _)]
      constructor
      · rintro ⟨htrailers, rfl⟩
        exact ⟨rfl, htotal, List.forall_mem_nil _, hfits, by omega⟩
      · rintro ⟨rfl, -, hlines⟩
        have := hlines.trailers
        exact ⟨by omega, rfl⟩
  | cons c chunks ih =>
    obtain ⟨fuel, rfl⟩ := Nat.exists_eq_add_of_le' (Nat.zero_lt_of_lt hfuel)
    rw [framed_cons] at hstream
    simp only [List.append_assoc] at hstream
    have hsplit : i.stream = c.line.bytes ++ crlf ++
        (c.data ++ (crlf ++ (framed chunks last ++ (Http.unlines ls ++ crlf ++ rest)))) := by
      rw [hstream]
      simp only [List.append_assoc]
    rw [readChunks, content_cons, List.length_append, linesFit_cons]
    cases hread : readChunk total i with
    | error e =>
      refine iff_of_false (by rintro ⟨⟩) fun h => ?_
      have htotal' : total + c.data.length ≤ probeBodyMax := by omega
      obtain ⟨j, hok, -⟩ := readChunk_chunk_of hsplit h.2.2.1 htotal'
      rw [hok] at hread
      cases hread
    | ok p =>
      obtain ⟨r, j⟩ := p
      have hless := readChunk_less hread
      obtain ⟨hfits, htotal', chunk, rfl, hlength, hrest⟩ := readChunk_chunk_ok hsplit hread
      obtain ⟨rfl, hend⟩ := List.append_inj hrest hlength.symm
      have hj : j.stream = framed chunks last ++ (Http.unlines ls ++ crlf ++ rest) :=
        (List.append_cancel_left hend).symm
      dsimp only
      rw [ih hj (by omega) htotal', List.append_assoc, Nat.add_assoc]
      tauto

/-- What has come of chunks is taken for the whole of them: it ends in a line of which the part that
has come reads as the size zero, or after the last line. -/
def TakenForWhole (last : SizeLine) : ℕ → List Chunk → List UInt8 → Prop
  | _, [], p =>
    (p.length < last.bytes.length + 2 ∧ ReadsAsZero p) ∨
      ∃ t, p = last.bytes ++ crlf ++ t ∧ LineFits last ∧ t.length ≤ connectHeaderMax
  | total, c :: chunks, p =>
    (p.length < c.line.bytes.length + 2 ∧ ReadsAsZero p) ∨
      ∃ q, p = c.bytes ++ q ∧ LineFits c.line ∧ total + c.data.length ≤ probeBodyMax ∧
        TakenForWhole last (total + c.data.length) chunks q

section Taken

variable {p t : List UInt8}

lemma taken_lastLine (h : p.length < last.bytes.length + 2) :
    TakenForWhole last total [] p ↔ ReadsAsZero p := by
  constructor
  · rintro (⟨-, hzero⟩ | ⟨t, ht, -⟩)
    · exact hzero
    · have hlength := congrArg List.length ht
      simp only [List.length_append, crlf, List.length_cons, List.length_nil] at hlength
      omega
  · intro hzero
    exact .inl ⟨h, hzero⟩

lemma taken_trailers : TakenForWhole last total [] (last.bytes ++ crlf ++ t) ↔
    LineFits last ∧ t.length ≤ connectHeaderMax := by
  constructor
  · rintro (⟨hless, -⟩ | ⟨t', ht, h⟩)
    · simp only [List.length_append, crlf, List.length_cons, List.length_nil] at hless
      omega
    · obtain rfl := List.append_cancel_left ht
      exact h
  · intro h
    exact .inr ⟨t, rfl, h⟩

lemma length_chunk (c : Chunk) : c.bytes.length = c.line.bytes.length + 2 + (c.data.length + 2) := by
  simp [Chunk.bytes, crlf]
  omega

lemma taken_line (h : p.length < c.line.bytes.length + 2) :
    TakenForWhole last total (c :: chunks) p ↔ ReadsAsZero p := by
  constructor
  · rintro (⟨-, hzero⟩ | ⟨t, ht, -⟩)
    · exact hzero
    · have hlength := congrArg List.length ht
      rw [List.length_append, length_chunk] at hlength
      omega
  · intro hzero
    exact .inl ⟨h, hzero⟩

lemma not_taken_data (hline : c.line.bytes.length + 2 ≤ p.length) (h : p.length < c.bytes.length) :
    ¬ TakenForWhole last total (c :: chunks) p := by
  rintro (⟨hless, -⟩ | ⟨t, ht, -⟩)
  · omega
  · have hlength := congrArg List.length ht
    rw [List.length_append] at hlength
    omega

lemma taken_chunk : TakenForWhole last total (c :: chunks) (c.bytes ++ t) ↔
    LineFits c.line ∧ total + c.data.length ≤ probeBodyMax ∧
      TakenForWhole last (total + c.data.length) chunks t := by
  constructor
  · rintro (⟨hless, -⟩ | ⟨t', ht, h⟩)
    · rw [List.length_append, length_chunk] at hless
      omega
    · obtain rfl := List.append_cancel_left ht
      exact h
  · intro h
    exact .inr ⟨t, rfl, h⟩

end Taken

/-- The stream ends in a line before a chunk. -/
lemma readChunks_line (hl : 10 ∉ i.stream) (htotal : total ≤ probeBodyMax) :
    (∃ b, readChunks (fuel + 1) decoded total i = some (.ok b)) ↔ ReadsAsZero i.stream := by
  rw [readChunks]
  cases hread : readChunk total i with
  | error e =>
    refine iff_of_false (by rintro ⟨_, ⟨⟩⟩) fun h => ?_
    have hlimit : 128 ≤ streamLimit := by decide
    have hline := readLine_of_last hl (h.2.1.trans hlimit)
    rw [readChunk_last hline h.1 h.2.1 h.2.2 htotal] at hread
    cases hread
  | ok p =>
    obtain ⟨r, j⟩ := p
    obtain ⟨x, k, hline, hne, hlength, hround⟩ := readChunk_ok hread
    obtain ⟨rfl, hk⟩ := readLine_last hl hline
    rcases hround with ⟨hsize, rfl, rfl⟩ | ⟨size, chunk, m, -, hpos, -, hchunk, -⟩
    · refine iff_of_true ⟨decoded, ?_⟩ ⟨hne, hlength, hsize⟩
      dsimp only
      rw [map_trailers]
      exact ⟨(readTrailers_nil hk).mpr (Nat.zero_le _), rfl⟩
    · -- there is nothing after the line
      obtain ⟨hsize, hsplit⟩ := readExactly_ok hchunk
      have hnil := congrArg List.length hsplit
      rw [hk, List.length_nil, List.length_append] at hnil
      omega

/-- The stream ends after the last line. -/
lemma readChunks_trailers (hls : ∀ l ∈ ls, l ≠ [] ∧ IsPlain l) (hzero : last.size = 0)
    (h : i.stream = last.bytes ++ crlf ++ rest) (hpart : rest <+: Http.unlines ls ++ crlf)
    (hshort : rest.length < (Http.unlines ls ++ crlf).length) (htotal : total ≤ probeBodyMax) :
    (∃ b, readChunks (fuel + 1) decoded total i = some (.ok b)) ↔
      LineFits last ∧ rest.length ≤ connectHeaderMax := by
  rw [readChunks]
  cases hread : readChunk total i with
  | error e =>
    refine iff_of_false (by rintro ⟨_, ⟨⟩⟩) fun hfits => ?_
    obtain ⟨j, hok, -⟩ := readChunk_last_of h hfits.1 hzero htotal
    rw [hok] at hread
    cases hread
  | ok p =>
    obtain ⟨r, j⟩ := p
    obtain ⟨hfits, rfl, rfl⟩ := readChunk_last_ok h hzero hread
    have htrailers := @readTrailers_part _ 0 j ls hls hpart hshort (Nat.lt_succ_self _)
    dsimp only
    simp only [map_trailers, htrailers, Nat.zero_add, exists_and_left, exists_eq, and_true, hfits,
      true_and]

/-- The stream ends in a chunk. -/
lemma readChunks_data (h : i.stream = c.line.bytes ++ crlf ++ q)
    (hshort : q.length < c.data.length + 2) :
    ¬ ∃ b, readChunks (fuel + 1) decoded total i = some (.ok b) := by
  rintro ⟨b, hb⟩
  rw [readChunks] at hb
  cases hread : readChunk total i with
  | error e =>
    rw [hread] at hb
    cases hb
  | ok p =>
    obtain ⟨r, j⟩ := p
    obtain ⟨-, -, chunk, -, hchunk, hrest⟩ := readChunk_chunk_ok h hread
    have hlength := congrArg List.length hrest
    simp only [List.length_append, crlf, List.length_cons, List.length_nil] at hlength
    omega

/-- A chunk that has come whole is read when it is within the limits. -/
lemma readChunks_chunk (h : i.stream = c.line.bytes ++ crlf ++ (c.data ++ (crlf ++ rest))) {P : Prop}
    (hrest : ∀ j : Inbox UInt8, j.stream = rest → total + c.data.length ≤ probeBodyMax →
      ((∃ b, readChunks fuel (decoded ++ c.data) (total + c.data.length) j = some (.ok b)) ↔ P)) :
    (∃ b, readChunks (fuel + 1) decoded total i = some (.ok b)) ↔
      LineFits c.line ∧ total + c.data.length ≤ probeBodyMax ∧ P := by
  rw [readChunks]
  cases hread : readChunk total i with
  | error e =>
    refine iff_of_false (by rintro ⟨_, ⟨⟩⟩) fun hfits => ?_
    obtain ⟨j, hok, -⟩ := readChunk_chunk_of h hfits.1 hfits.2.1
    rw [hok] at hread
    cases hread
  | ok p =>
    obtain ⟨r, j⟩ := p
    obtain ⟨hfits, htotal, chunk, rfl, hchunk, hsplit⟩ := readChunk_chunk_ok h hread
    obtain ⟨rfl, hend⟩ := List.append_inj hsplit hchunk.symm
    dsimp only
    rw [hrest j (List.append_cancel_left hend).symm htotal]
    simp only [hfits, htotal, true_and]

/-- Chunks that are cut are read without an error exactly when they are taken for the whole. -/
lemma readChunks_part (hls : ∀ l ∈ ls, l ≠ [] ∧ IsPlain l) (hzero : last.size = 0)
    (hpart : i.stream <+: framed chunks last ++ (Http.unlines ls ++ crlf))
    (hshort : i.stream.length < (framed chunks last ++ (Http.unlines ls ++ crlf)).length)
    (hfuel : i.stream.length < fuel) (htotal : total ≤ probeBodyMax) :
    (∃ b, readChunks fuel decoded total i = some (.ok b)) ↔
      TakenForWhole last total chunks i.stream := by
  have htwo : crlf.length = 2 := rfl
  induction chunks generalizing fuel decoded total i with
  | nil =>
    obtain ⟨fuel, rfl⟩ := Nat.exists_eq_add_of_le' (Nat.zero_lt_of_lt hfuel)
    rw [framed_nil] at hpart hshort
    rcases prefix_append_cases hpart with ⟨hpart, hless⟩ | ⟨q, hq, hpart⟩
    · rw [readChunks_line (lf_notMem_part last.plain hpart hless) htotal]
      rw [List.length_append, htwo] at hless
      exact (taken_lastLine hless).symm
    · have hless : q.length < (Http.unlines ls ++ crlf).length := by
        have hlength := congrArg List.length hq
        simp only [List.length_append] at hlength hshort ⊢
        omega
      rw [readChunks_trailers hls hzero hq hpart hless htotal, hq, taken_trailers]
  | cons c chunks ih =>
    obtain ⟨fuel, rfl⟩ := Nat.exists_eq_add_of_le' (Nat.zero_lt_of_lt hfuel)
    have hmessage : framed (c :: chunks) last ++ (Http.unlines ls ++ crlf) =
        (c.line.bytes ++ crlf) ++
          ((c.data ++ crlf) ++ (framed chunks last ++ (Http.unlines ls ++ crlf))) := by
      rw [framed_cons]
      simp only [List.append_assoc]
    rw [hmessage] at hpart hshort
    rcases prefix_append_cases hpart with ⟨hpart, hless⟩ | ⟨q, hq, hpart⟩
    · rw [readChunks_line (lf_notMem_part c.line.plain hpart hless) htotal]
      rw [List.length_append, htwo] at hless
      exact (taken_line hless).symm
    · have hlength := congrArg List.length hq
      simp only [List.length_append, htwo] at hlength hshort
      rcases prefix_append_cases hpart with ⟨-, hless⟩ | ⟨t, rfl, hend⟩
      · rw [List.length_append, htwo] at hless
        have hbytes : i.stream.length < c.bytes.length := by
          rw [length_chunk]
          omega
        exact iff_of_false (readChunks_data hq hless) (not_taken_data (by omega) hbytes)
      · have hchunk : i.stream = c.bytes ++ t := by
          rw [hq]
          simp [Chunk.bytes]
        have hsplit : i.stream = c.line.bytes ++ crlf ++ (c.data ++ (crlf ++ t)) := by
          rw [hq, List.append_assoc c.data]
        rw [hchunk, taken_chunk]
        refine readChunks_chunk hsplit fun j hj htotal' => ?_
        subst hj
        simp only [List.length_append, htwo] at hlength
        refine ih hend ?_ (by omega) htotal'
        simp only [List.length_append, htwo]
        omega

end Chunks

end Routing.Probe
