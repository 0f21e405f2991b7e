import LumenRelay.Lib.Percent

/-!
# Requests of HTTP/1.1

A reader of a stream of requests without bodies.  A line ends with CR LF.  A CR or LF alone is
refused like any other control character, so that a reader that takes it for the end of a line
finds nothing else in what is accepted.  Blanks around the value of a field do not belong to it.
-/

namespace Lib.Http

/-! ## Reading -/

/-- A request; the fields are in the order in which they were sent. -/
structure Request where
  method : List UInt8
  target : List UInt8
  version : List UInt8
  fields : List (List UInt8 × List UInt8)
deriving DecidableEq

/-- A byte of a word: no control character and no space. -/
def isVisible (b : UInt8) : Bool := 32 < b && b ≠ 127

/-- A space or a tab. -/
def isBlank (b : UInt8) : Bool := b = 32 || b = 9

/-- A word: some visible bytes. -/
def isWord (l : List UInt8) : Bool := l ≠ [] && l.all isVisible

/-- The parts of a stream between its line ends. -/
def lines : List UInt8 → List (List UInt8)
  | [] => [[]]
  | [b] => [[b]]
  | a :: b :: rest =>
    if a = 13 ∧ b = 10 then [] :: lines rest else (lines (b :: rest)).modifyHead (a :: ·)

/-- A request line: a method, a target and a version, one space apart. -/
def readRequestLine (line : List UInt8) : Option Request :=
  match line.splitOn 32 with
  | [method, target, version] =>
    if isWord method ∧ isWord target ∧ isWord version then some ⟨method, target, version, []⟩
    else none
  | _ => none

/-- The value of a field without the blanks around it. -/
def trim (l : List UInt8) : List UInt8 :=
  ((l.dropWhile isBlank).reverse.dropWhile isBlank).reverse

/-- A field: a name up to the first colon, and a value. -/
def readField (line : List UInt8) : Option (List UInt8 × List UInt8) :=
  match line.dropWhile (· ≠ 58) with
  | _ :: value =>
    if isWord (line.takeWhile (· ≠ 58)) ∧ (trim value).all fun b => isVisible b || isBlank b then
      some (line.takeWhile (· ≠ 58), trim value)
    else none
  | [] => none

/-- The requests of some lines, of which the last one is not ended; `current` is a request whose
fields are being read. -/
def readAll : Option Request → List (List UInt8) → Option (List Request)
  | _, [] => none
  | none, [last] => if last = [] then some [] else none
  | some _, [_] => none
  | none, line :: lines => do readAll (← readRequestLine line) lines
  | some r, line :: lines =>
    if line = [] then do return r :: (← readAll none lines)
    else do
      let field ← readField line
      readAll (some { r with fields := r.fields ++ [field] }) lines

/-- The requests of a stream, if it is made of whole requests. -/
def readRequests (stream : List UInt8) : Option (List Request) := readAll none (lines stream)

/-! ## Lines -/

/-- Bytes other than a given one are passed over. -/
lemma pass_over {stop : UInt8} {before : List UInt8} (h : stop ∉ before) (after : List UInt8) :
    (before ++ stop :: after).takeWhile (· ≠ stop) = before ∧
      (before ++ stop :: after).dropWhile (· ≠ stop) = stop :: after := by
  have hne : ∀ b ∈ before, decide (b ≠ stop) = true := by
    intro b hb
    rw [decide_eq_true_eq]
    rintro rfl
    exact h hb
  constructor
  · rw [List.takeWhile_append_of_pos hne, List.takeWhile_cons_of_neg (by simp), List.append_nil]
  · rw [List.dropWhile_append_of_pos hne, List.dropWhile_cons_of_neg (by simp)]

lemma lines_cons {a : UInt8} (h : a ≠ 13) (l : List UInt8) :
    lines (a :: l) = (lines l).modifyHead (a :: ·) := by
  cases l with
  | nil => rfl
  | cons b l => rw [lines, if_neg fun hab => h hab.1]

/-- A line without a CR is split off. -/
lemma lines_append {l : List UInt8} (h : 13 ∉ l) (rest : List UInt8) :
    lines (l ++ 13 :: 10 :: rest) = l :: lines rest := by
  induction l with
  | nil => rfl
  | cons a l ih =>
    rw [List.mem_cons, not_or] at h
    rw [List.cons_append, lines_cons (Ne.symm h.1), ih h.2]
    rfl

/-- Some lines, each with its end. -/
def unlines (ls : List (List UInt8)) : List UInt8 := ls.flatMap fun l => l ++ [13, 10]

lemma lines_unlines {ls : List (List UInt8)} (h : ∀ l ∈ ls, 13 ∉ l) : lines (unlines ls) = ls ++ [[]] := by
  induction ls with
  | nil => rfl
  | cons l ls ih =>
    rw [List.forall_mem_cons] at h
    have hcons : unlines (l :: ls) = l ++ 13 :: 10 :: unlines ls := by
      simp [unlines]
    rw [hcons, lines_append h.1, ih h.2, List.cons_append]

/-! ## Words -/

lemma isWord_iff {l : List UInt8} : isWord l = true ↔ l ≠ [] ∧ ∀ b ∈ l, isVisible b = true := by
  simp [isWord]

lemma not_mem_of_isWord {l : List UInt8} (h : isWord l = true) {b : UInt8}
    (hb : isVisible b = false) : b ∉ l := by
  intro hmem
  rw [(isWord_iff.mp h).2 b hmem] at hb
  cases hb

/-- Three words with a space between them are a request line. -/
lemma readRequestLine_words {method target version : List UInt8} (hm : isWord method = true)
    (ht : isWord target = true) (hv : isWord version = true) :
    readRequestLine (method ++ 32 :: (target ++ 32 :: version)) =
      some ⟨method, target, version, []⟩ := by
  unfold readRequestLine
  rw [List.splitOn_append_cons_self_of_not_mem (not_mem_of_isWord hm (by decide)),
    List.splitOn_append_cons_self_of_not_mem (not_mem_of_isWord ht (by decide)),
    List.splitOn_eq_singleton (not_mem_of_isWord hv (by decide))]
  exact if_pos ⟨hm, ht, hv⟩

lemma readRequestLine_target {line : List UInt8} {r : Request} (h : readRequestLine line = some r) :
    isWord r.target = true := by
  unfold readRequestLine at h
  split at h
  · split at h
    next hwords =>
      obtain rfl := Option.some.inj h
      exact hwords.2.1
    next => cases h
  · cases h

/-! ## Fields -/

/-- A value that neither starts nor ends with a blank and has no control characters. -/
structure IsValue (value : List UInt8) : Prop where
  plain : ∀ b ∈ value, isVisible b = true ∨ isBlank b = true
  head : ∀ b ∈ value.head?, isBlank b = false
  last : ∀ b ∈ value.getLast?, isBlank b = false

lemma isBlank_of_isVisible {b : UInt8} (h : isVisible b = true) : isBlank b = false := by
  unfold isVisible at h
  unfold isBlank
  rw [Bool.and_eq_true, decide_eq_true_eq] at h
  have h32 : b ≠ 32 := fun hb => by simp [hb] at h
  have h9 : b ≠ 9 := fun hb => by rw [hb] at h; exact absurd h.1 (by decide)
  simp [h32, h9]

lemma isValue_of_visible {value : List UInt8} (h : ∀ b ∈ value, isVisible b = true) :
    IsValue value where
  plain b hb := .inl (h b hb)
  head b hb := isBlank_of_isVisible (h b (List.mem_of_head? hb))
  last b hb := isBlank_of_isVisible (h b (List.mem_of_getLast? hb))

lemma dropWhile_isBlank {l : List UInt8} (h : ∀ b ∈ l.head?, isBlank b = false) :
    l.dropWhile isBlank = l := by
  cases l with
  | nil => rfl
  | cons b l => exact List.dropWhile_cons_of_neg (by simp [h b rfl])

lemma trim_value {value : List UInt8} (h : IsValue value) : trim (32 :: value) = value := by
  have hlast : ∀ b ∈ value.reverse.head?, isBlank b = false := by
    rw [List.head?_reverse]
    exact h.last
  unfold trim
  rw [List.dropWhile_cons_of_pos (by decide), dropWhile_isBlank h.head, dropWhile_isBlank hlast,
    List.reverse_reverse]

/-- A field is read as it was written. -/
lemma readField_field {name value : List UInt8} (hname : isWord name = true) (hcolon : 58 ∉ name)
    (hvalue : IsValue value) : readField (name ++ 58 :: 32 :: value) = some (name, value) := by
  obtain ⟨htake, hdrop⟩ := pass_over hcolon (32 :: value)
  unfold readField
  rw [hdrop, htake]
  dsimp only
  rw [trim_value hvalue, if_pos]
  refine ⟨hname, List.all_eq_true.mpr fun b hb => ?_⟩
  rw [Bool.or_eq_true]
  exact hvalue.plain b hb

/-! ## Requests -/

/-- The fields of a request, and the empty line after them. -/
lemma readAll_fields (r : Request) {ls : List (List UInt8)} {fields : List (List UInt8 × List UInt8)}
    (h : List.Forall₂ (fun l field => l ≠ [] ∧ readField l = some field) ls fields) :
    readAll (some r) (ls ++ [[], []]) = some [{ r with fields := r.fields ++ fields }] := by
  induction h generalizing r with
  | nil => simp [readAll]
  | @cons l field ls fields hl _ ih =>
    have hstep : readAll (some r) (l :: (ls ++ [[], []])) =
        readAll (some { r with fields := r.fields ++ [field] }) (ls ++ [[], []]) := by
      cases hrest : ls ++ [[], []] with
      | nil => simp at hrest
      | cons l' ls' =>
        rw [readAll, if_neg hl.1, hl.2]
        · rfl
        · simp
    rw [List.cons_append, hstep, ih]
    simp

/-- A request line, some fields and an empty line are one request. -/
lemma readRequests_unlines {line : List UInt8} {ls : List (List UInt8)} {r : Request}
    {fields : List (List UInt8 × List UInt8)} (hline : readRequestLine line = some r)
    (hfields : List.Forall₂ (fun l field => l ≠ [] ∧ readField l = some field) ls fields)
    (hcr : ∀ l ∈ line :: ls, 13 ∉ l) :
    readRequests (unlines (line :: (ls ++ [[]]))) =
      some [{ r with fields := r.fields ++ fields }] := by
  have hlines : lines (unlines (line :: (ls ++ [[]]))) = line :: (ls ++ [[], []]) := by
    rw [lines_unlines]
    · simp
    · intro l hl
      rcases List.mem_cons.mp hl with rfl | hl
      · exact hcr _ (.head _)
      · rcases List.mem_append.mp hl with hl | hl
        · exact hcr l (.tail _ hl)
        · simp [List.mem_singleton.mp hl]
  unfold readRequests
  rw [hlines]
  cases hrest : ls ++ [[], []] with
  | nil => simp at hrest
  | cons l' ls' =>
    rw [readAll, hline, ← hrest]
    · exact readAll_fields r hfields
    · simp

/-- The targets that are read are words. -/
lemma readAll_targets {current : Option Request} {ls : List (List UInt8)} {rs : List Request}
    (h : readAll current ls = some rs) (hcurrent : ∀ r ∈ current, isWord r.target = true) :
    ∀ r ∈ rs, isWord r.target = true := by
  fun_induction readAll current ls generalizing rs with
  | case1 => cases h
  | case2 =>
    obtain rfl := Option.some.inj h
    simp
  | case3 => cases h
  | case4 => cases h
  | case5 line lines _ ih =>
    obtain ⟨r, hr, h⟩ := Option.bind_eq_some_iff.mp h
    refine ih r h ?_
    rintro _ ⟨rfl⟩
    exact readRequestLine_target hr
  | case6 r lines _ ih =>
    obtain ⟨rest, hrest, h⟩ := Option.bind_eq_some_iff.mp h
    obtain rfl := Option.some.inj h
    intro r' hr'
    rcases List.mem_cons.mp hr' with rfl | hr'
    · exact hcurrent r' rfl
    · exact ih hrest (by simp) r' hr'
  | case7 r line lines _ _ ih =>
    obtain ⟨field, -, h⟩ := Option.bind_eq_some_iff.mp h
    refine ih field h ?_
    rintro _ ⟨rfl⟩
    exact hcurrent r rfl

lemma readRequests_targets {stream : List UInt8} {rs : List Request}
    (h : readRequests stream = some rs) {r : Request} (hr : r ∈ rs) : isWord r.target = true :=
  readAll_targets h (by simp) r hr

/-! ## Targets -/

/-- The bytes of a number. -/
def decimal (n : ℕ) : List UInt8 := Percent.utf8 (Nat.toDigits 10 n)

/-- The number that some digits stand for. -/
def readNat (digits : List UInt8) : Option ℕ :=
  if digits ≠ [] ∧ digits.all fun b => 48 ≤ b && b ≤ 57 then
    some (Nat.ofDigitChars 10 (digits.map fun b => Char.ofNat b.toNat) 0)
  else none

/-- The host of a target, and what follows it: a literal in brackets, or a name up to the first
colon. -/
def cutHost : List UInt8 → List UInt8 × List UInt8
  | 91 :: rest => (rest.takeWhile (· ≠ 93), (rest.dropWhile (· ≠ 93)).drop 1)
  | target => (target.takeWhile (· ≠ 58), target.dropWhile (· ≠ 58))

/-- The host and the port of a target. -/
def readAuthority (target : List UInt8) : Option (List UInt8 × ℕ) :=
  match (cutHost target).2 with
  | 58 :: digits => (readNat digits).map fun port => ((cutHost target).1, port)
  | _ => none

lemma utf8_digits {digits : List Char} (h : ∀ c ∈ digits, c.isDigit = true) :
    Percent.utf8 digits = digits.map fun c => UInt8.ofNat c.toNat := by
  induction digits with
  | nil => rfl
  | cons c digits ih =>
    rw [List.forall_mem_cons] at h
    have hc : 48 ≤ c.toNat ∧ c.toNat ≤ 57 := Char.isDigit_iff_toNat.mp h.1
    rw [Percent.utf8_cons, ih h.2, Percent.utf8EncodeChar_ascii (by omega)]
    rfl

lemma decimal_eq (n : ℕ) : decimal n = (Nat.toDigits 10 n).map fun c => UInt8.ofNat c.toNat :=
  utf8_digits fun _ hc => Nat.isDigit_of_mem_toDigits (by decide) (by decide) hc

/-- The bytes of a number are decimal digits. -/
lemma mem_decimal {n : ℕ} {b : UInt8} (hb : b ∈ decimal n) : 48 ≤ b.toNat ∧ b.toNat ≤ 57 := by
  rw [decimal_eq] at hb
  obtain ⟨c, hc, rfl⟩ := List.mem_map.mp hb
  have hdigit : 48 ≤ c.toNat ∧ c.toNat ≤ 57 := Char.isDigit_iff_toNat.mp
    (Nat.isDigit_of_mem_toDigits (b := 10) (by decide) (by decide) hc)
  rw [UInt8.toNat_ofNat']
  omega

lemma readNat_decimal (n : ℕ) : readNat (decimal n) = some n := by
  have hback : (decimal n).map (fun b => Char.ofNat b.toNat) = Nat.toDigits 10 n := by
    rw [decimal_eq, List.map_map]
    refine (List.map_congr_left fun c hc => ?_).trans (List.map_id _)
    have hdigit : 48 ≤ c.toNat ∧ c.toNat ≤ 57 := Char.isDigit_iff_toNat.mp
      (Nat.isDigit_of_mem_toDigits (b := 10) (by decide) (by decide) hc)
    rw [Function.comp_apply, UInt8.toNat_ofNat', Nat.mod_eq_of_lt (by omega), Char.ofNat_toNat]
    rfl
  have hne : decimal n ≠ [] := by
    intro hnil
    rw [hnil] at hback
    exact Nat.toDigits_ne_nil hback.symm
  unfold readNat
  rw [if_pos, hback, Nat.ofDigitChars_ten_toDigits]
  refine ⟨hne, List.all_eq_true.mpr fun b hb => ?_⟩
  have := mem_decimal hb
  rw [Bool.and_eq_true, decide_eq_true_eq, decide_eq_true_eq, UInt8.le_iff_toNat_le,
    UInt8.le_iff_toNat_le]
  exact this

lemma readAuthority_of_cut {target host : List UInt8} {port : ℕ}
    (h : cutHost target = (host, 58 :: decimal port)) : readAuthority target = some (host, port) := by
  unfold readAuthority
  rw [h]
  show (readNat (decimal port)).map _ = _
  rw [readNat_decimal]
  rfl

lemma cutHost_of_readAuthority {target host : List UInt8} {port : ℕ}
    (h : readAuthority target = some (host, port)) : (cutHost target).1 = host := by
  unfold readAuthority at h
  split at h
  · obtain ⟨n, -, heq⟩ := Option.map_eq_some_iff.mp h
    exact (Prod.mk.inj heq).1
  · cases h

/-- A literal in brackets is read up to the first closing bracket. -/
lemma readAuthority_literal {host : List UInt8} (h : 93 ∉ host) (port : ℕ) :
    readAuthority (91 :: (host ++ 93 :: 58 :: decimal port)) = some (host, port) := by
  obtain ⟨htake, hdrop⟩ := pass_over h (58 :: decimal port)
  apply readAuthority_of_cut
  rw [cutHost, htake, hdrop]
  rfl

lemma cutHost_name {target : List UInt8} (h : target.head? ≠ some 91) :
    cutHost target = (target.takeWhile (· ≠ 58), target.dropWhile (· ≠ 58)) := by
  unfold cutHost
  split
  · exact absurd rfl h
  · rfl

/-- A name is read up to the first colon. -/
lemma readAuthority_name {host : List UInt8} (hcolon : 58 ∉ host) (hfirst : host.head? ≠ some 91)
    (port : ℕ) : readAuthority (host ++ 58 :: decimal port) = some (host, port) := by
  have hhead : (host ++ 58 :: decimal port).head? ≠ some 91 := by
    cases host with
    | nil => simp
    | cons b host => exact hfirst
  obtain ⟨htake, hdrop⟩ := pass_over hcolon (decimal port)
  apply readAuthority_of_cut
  rw [cutHost_name hhead, htake, hdrop]

/-- The host is a part of the target. -/
lemma mem_of_readAuthority {target host : List UInt8} {port : ℕ}
    (h : readAuthority target = some (host, port)) {b : UInt8} (hb : b ∈ host) : b ∈ target := by
  rw [← cutHost_of_readAuthority h] at hb
  unfold cutHost at hb
  split at hb
  · exact List.mem_cons_of_mem _ ((List.takeWhile_sublist _).subset hb)
  · exact (List.takeWhile_sublist _).subset hb

/-- A literal with a closing bracket is cut. -/
lemma length_lt_of_readAuthority {literal rest host : List UInt8} {port : ℕ} (hmem : 93 ∈ literal)
    (h : readAuthority (91 :: (literal ++ rest)) = some (host, port)) :
    host.length < literal.length := by
  obtain ⟨before, after, rfl, hbefore⟩ := List.eq_append_cons_of_mem hmem
  have hhost := cutHost_of_readAuthority h
  rw [List.append_assoc, List.cons_append, cutHost, (pass_over hbefore (after ++ rest)).1] at hhost
  dsimp only at hhost
  rw [← hhost]
  simp

end Lib.Http
