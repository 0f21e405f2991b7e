import LumenRelay.Session.Header
import LumenRelay.Routing.Outbound
import LumenRelay.Lib.Http

/-!
# The request to an HTTP proxy

The host that a client has sent is written into the request for the proxy.  The proxy reads one
request for that host and port exactly when the host has no control characters, no blanks and no
brackets that would be cut off or close a literal too early.
-/

namespace Session

open Lib Py Routing

/-! ## What the proxy should read -/

/-- The fields of the request. -/
def connectFields (rt : Runtime) (host : String) (port : ℕ) (params : ProxyParams) :
    List (String × String) :=
  let token := rt.b64encode (utf8Bytes (params.username ++ ":" ++ params.password))
  [("Host", connectAuthority host port), ("User-Agent", "Mozilla/5.0"),
    ("Proxy-Connection", "keep-alive"), ("Connection", "keep-alive")] ++
    if params.username ≠ "" ∨ params.password ≠ "" then
      [("Proxy-Authorization", "Basic " ++ token)] else []

/-- A field as bytes. -/
def fieldBytes (field : String × String) : List UInt8 × List UInt8 :=
  (utf8Bytes field.1, utf8Bytes field.2)

/-- The stream is one request for this host and port, with these fields. -/
def IsConnect (stream : List UInt8) (host : String) (port : ℕ) (fields : List (String × String)) :
    Prop :=
  ∃ r, Http.readRequests stream = some [r] ∧ r.method = utf8Bytes "CONNECT" ∧
    r.version = utf8Bytes "HTTP/1.1" ∧
    Http.readAuthority r.target = some (utf8Bytes host, port) ∧ r.fields = fields.map fieldBytes

/-- A host that can be written into a request. -/
structure Plain (host : String) : Prop where
  visible : ∀ c ∈ host.toList, 32 < c.toNat ∧ c.toNat ≠ 127
  head : ∀ c ∈ host.toList.head?, c ≠ '[' ∧ c ≠ ']'
  last : ∀ c ∈ host.toList.getLast?, c ≠ '[' ∧ c ≠ ']'
  literal : ':' ∈ host.toList → ']' ∉ host.toList

/-- `b64encode` returns letters, digits, plus signs, slashes and equals signs, and nothing only
for no bytes. -/
structure Base64Text (rt : Runtime) : Prop where
  chars : ∀ bytes, ∀ c ∈ (rt.b64encode bytes).toList, c.isAlphanum ∨ c ∈ "+/=".toList
  ne_empty : ∀ bytes, bytes ≠ [] → rt.b64encode bytes ≠ ""

/-! ## Bytes of texts -/

lemma utf8Bytes_append (s t : String) : utf8Bytes (s ++ t) = utf8Bytes s ++ utf8Bytes t := by
  unfold utf8Bytes
  rw [String.toList_append, Percent.utf8_append]

lemma utf8Bytes_inj (rt : Runtime) {s t : String} (h : utf8Bytes s = utf8Bytes t) : s = t := by
  have hs := rt.replaceUtf8_encode s
  rw [show s.toList.flatMap String.utf8EncodeChar = _ from h] at hs
  exact hs.symm.trans (rt.replaceUtf8_encode t)

/-- The characters of a text are neither control characters nor blanks. -/
def Visible (s : String) : Prop := ∀ c ∈ s.toList, 32 < c.toNat ∧ c.toNat ≠ 127

instance : DecidablePred Visible := fun s => List.decidableBAll _ s.toList

lemma isVisible_iff {b : UInt8} : Http.isVisible b = true ↔ 32 < b.toNat ∧ b.toNat ≠ 127 := by
  unfold Http.isVisible
  rw [Bool.and_eq_true, decide_eq_true_eq, decide_eq_true_eq, UInt8.lt_iff_toNat_lt, Ne, Ne,
    ← UInt8.toNat_inj]
  rfl

/-- A text is visible when its bytes are. -/
lemma visible_iff {s : String} :
    Visible s ↔ ∀ b ∈ utf8Bytes s, Http.isVisible b = true := by
  constructor
  · intro h b hb
    rw [isVisible_iff]
    by_cases hascii : b.toNat < 128
    · obtain ⟨c, hc, heq⟩ := Percent.exists_of_mem_utf8 hb hascii
      rw [← heq]
      exact h c hc
    · omega
  · intro h c hc
    by_cases hascii : c.toNat < 128
    · have hb := h _ (Percent.mem_utf8_of_mem hc hascii)
      rw [isVisible_iff, UInt8.toNat_ofNat', Nat.mod_eq_of_lt (by omega)] at hb
      exact hb
    · omega

lemma Visible.append {s t : String} (hs : Visible s) (ht : Visible t) : Visible (s ++ t) := by
  intro c hc
  rw [String.toList_append] at hc
  exact (List.mem_append.mp hc).elim (hs c) (ht c)

lemma isWord_utf8Bytes {s : String} (h : Visible s) (hne : s ≠ "") :
    Http.isWord (utf8Bytes s) = true := by
  refine Http.isWord_iff.mpr ⟨fun hnil => hne ?_, visible_iff.mp h⟩
  cases hs : s.toList with
  | nil => exact String.toList_eq_nil_iff.mp hs
  | cons c l =>
    rw [utf8Bytes, hs, Percent.utf8_cons, List.append_eq_nil_iff] at hnil
    exact absurd hnil.1 String.utf8EncodeChar_ne_nil

/-- An ASCII character stands in a text where its byte does. -/
lemma mem_utf8Bytes_iff {s : String} {c : Char} (h : c.toNat < 128) :
    UInt8.ofNat c.toNat ∈ utf8Bytes s ↔ c ∈ s.toList := by
  refine ⟨fun hb => ?_, fun hc => Percent.mem_utf8_of_mem hc h⟩
  have hnat : (UInt8.ofNat c.toNat).toNat = c.toNat := by
    rw [UInt8.toNat_ofNat']
    omega
  obtain ⟨d, hd, heq⟩ := Percent.exists_of_mem_utf8 hb (by omega)
  rw [hnat] at heq
  rwa [← Char.toNat_inj.mp heq]

lemma utf8Bytes_port (port : ℕ) : utf8Bytes (toString (port : ℤ)) = Http.decimal port := by
  have hdigits : (toString (Int.ofNat port)).toList = Nat.toDigits 10 port := by
    rw [Int.toString_eq_repr]
    simp [Int.repr]
  exact congrArg Percent.utf8 hdigits

lemma visible_port (port : ℕ) : Visible (toString (port : ℤ)) := by
  rw [visible_iff, utf8Bytes_port]
  intro b hb
  have hdigit := Http.mem_decimal hb
  rw [isVisible_iff]
  omega

/-! ## Brackets -/

/-- Stripping takes characters from the ends only. -/
lemma stripBrackets_sublist (s : String) : (stripBrackets s).toList.Sublist s.toList := by
  unfold stripBrackets
  rw [String.toList_ofList]
  refine List.reverse_sublist.mp ?_
  rw [List.reverse_reverse]
  exact (List.dropWhile_sublist _).trans (List.reverse_sublist.mpr (List.dropWhile_sublist _))

lemma stripBrackets_eq_self {s : String} (hhead : ∀ c ∈ s.toList.head?, c ≠ '[' ∧ c ≠ ']')
    (hlast : ∀ c ∈ s.toList.getLast?, c ≠ '[' ∧ c ≠ ']') : stripBrackets s = s := by
  have hkeep : ∀ l : List Char, (∀ c ∈ l.head?, c ≠ '[' ∧ c ≠ ']') →
      l.dropWhile (fun c => c = '[' ∨ c = ']') = l := by
    intro l hl
    cases l with
    | nil => rfl
    | cons c l => exact List.dropWhile_cons_of_neg (by simpa using hl c rfl)
  unfold stripBrackets
  dsimp only
  rw [hkeep _ hhead, hkeep _ (by rwa [List.head?_reverse]), List.reverse_reverse, String.ofList_toList]

lemma head_dropWhile {p : Char → Bool} {l : List Char} {c : Char} (h : c ∈ (l.dropWhile p).head?) :
    p c = false := by
  have hnot := List.head?_dropWhile_not p l
  rw [Option.mem_def.mp h] at hnot
  exact hnot

/-- What is left does not begin with a bracket. -/
lemma head_stripBrackets {s : String} {c : Char} (h : c ∈ (stripBrackets s).toList.head?) :
    c ≠ '[' ∧ c ≠ ']' := by
  let bracket : Char → Bool := fun c => c = '[' ∨ c = ']'
  have hprefix : (stripBrackets s).toList <+: s.toList.dropWhile bracket := by
    unfold stripBrackets
    rw [String.toList_ofList, ← List.reverse_suffix, List.reverse_reverse]
    exact List.dropWhile_suffix _
  obtain ⟨rest, hrest⟩ := hprefix
  have hhead : c ∈ (s.toList.dropWhile bracket).head? := by
    rw [← hrest, List.head?_append, Option.mem_def.mp h]
    rfl
  simpa [bracket] using head_dropWhile hhead

/-- What is left does not end with a bracket. -/
lemma last_stripBrackets {s : String} {c : Char} (h : c ∈ (stripBrackets s).toList.getLast?) :
    c ≠ '[' ∧ c ≠ ']' := by
  unfold stripBrackets at h
  rw [String.toList_ofList, List.getLast?_reverse] at h
  simpa using head_dropWhile h

/-! ## The request -/

/-- The bytes of lines that are joined, with the empty line at the end. -/
lemma utf8Bytes_intercalate {ls : List String} (h : ls ≠ []) :
    utf8Bytes ("\r\n".intercalate ls ++ "\r\n\r\n") =
      Http.unlines (ls.map utf8Bytes ++ [[]]) := by
  have hends : utf8Bytes "\r\n" = [13, 10] ∧ utf8Bytes "\r\n\r\n" = [13, 10, 13, 10] := by decide
  induction ls with
  | nil => exact absurd rfl h
  | cons l ls ih =>
    by_cases hls : ls = []
    · subst hls
      rw [String.intercalate_singleton, utf8Bytes_append, hends.2]
      simp only [Http.unlines, List.map_cons, List.map_nil, List.nil_append, List.cons_append,
        List.flatMap_cons, List.flatMap_nil, List.append_assoc]
    · rw [String.intercalate_cons_of_ne_nil hls, String.append_assoc, utf8Bytes_append,
        utf8Bytes_append, ih hls, hends.1]
      simp only [Http.unlines, List.map_cons, List.cons_append, List.flatMap_cons,
        List.append_assoc]

variable {rt : Runtime} {host : String} {port : ℕ} {params : ProxyParams}

lemma visible_connectAuthority (h : Visible host) : Visible (connectAuthority host port) := by
  have hbare : Visible (stripBrackets host) := fun c hc =>
    h c ((stripBrackets_sublist host).subset hc)
  have hfixed : Visible "[" ∧ Visible "]" ∧ Visible ":" := by
    decide
  unfold connectAuthority
  refine Visible.append (Visible.append ?_ hfixed.2.2) (visible_port port)
  split
  · exact (hfixed.1.append hbare).append hfixed.2.1
  · exact hbare

/-- The line of a field. -/
def fieldLine (field : String × String) : List UInt8 :=
  (fieldBytes field).1 ++ 58 :: 32 :: (fieldBytes field).2

/-- The request is made of lines. -/
lemma connectRequest_eq : connectRequest rt host port params =
    Http.unlines (utf8Bytes ("CONNECT " ++ connectAuthority host port ++ " HTTP/1.1") ::
      ((connectFields rt host port params).map fieldLine ++ [[]])) := by
  have hline : ∀ name value : String, utf8Bytes (name ++ ": " ++ value) = fieldLine (name, value) := by
    intro name value
    rw [utf8Bytes_append, utf8Bytes_append, List.append_assoc]
    rfl
  have hlines : (connectFields rt host port params).map fieldLine =
      ((connectFields rt host port params).map fun f => f.1 ++ ": " ++ f.2).map utf8Bytes := by
    rw [List.map_map]
    exact List.map_congr_left fun f _ => (hline f.1 f.2).symm
  have hnames : "Host" ++ ": " = "Host: " ∧
      "User-Agent" ++ ": " ++ "Mozilla/5.0" = "User-Agent: Mozilla/5.0" ∧
      "Proxy-Connection" ++ ": " ++ "keep-alive" = "Proxy-Connection: keep-alive" ∧
      "Connection" ++ ": " ++ "keep-alive" = "Connection: keep-alive" ∧
      "Proxy-Authorization" ++ ": " ++ "Basic " = "Proxy-Authorization: Basic " := by
    decide
  obtain ⟨hhost, hagent, hproxy, hconnection, hauthorization⟩ := hnames
  rw [hlines, ← List.cons_append, ← List.map_cons, ← utf8Bytes_intercalate (by simp)]
  unfold connectRequest connectFields
  dsimp only
  split_ifs
  · simp only [List.map_cons, List.map_nil, List.cons_append, List.nil_append, hhost, hagent,
      hproxy, hconnection, ← hauthorization]
    simp only [String.append_assoc]
  · simp only [List.map_cons, List.map_nil, hhost, hagent, hproxy, hconnection, List.append_nil]

lemma Base64Text.visible (h : Base64Text rt) (bytes : List UInt8) : Visible (rt.b64encode bytes) := by
  intro c hc
  rcases h.chars bytes c hc with halnum | hsign
  · have hrange := alphanum_range halnum
    omega
  · have hsigns : Visible "+/=" := by decide
    exact hsigns c hsign

lemma isValue_of_visibleText {s : String} (h : Visible s) : Http.IsValue (utf8Bytes s) :=
  Http.isValue_of_visible (visible_iff.mp h)

/-- The value of the field with the credentials. -/
lemma isValue_basic {token : String} (h : Visible token) (hne : token ≠ "") :
    Http.IsValue (utf8Bytes ("Basic " ++ token)) := by
  have hvisible := visible_iff.mp h
  have hword := Http.isWord_iff.mp (isWord_utf8Bytes h hne)
  rw [utf8Bytes_append]
  refine ⟨?_, ?_, ?_⟩
  · intro b hb
    rcases List.mem_append.mp hb with hb | hb
    · have hfixed : (utf8Bytes "Basic ").all (fun b => Http.isVisible b || Http.isBlank b) = true := by
        decide
      exact Bool.or_eq_true_iff.mp (List.all_eq_true.mp hfixed b hb)
    · exact .inl (hvisible b hb)
  · rintro b hb
    obtain rfl : b = 66 := (Option.some.inj hb).symm
    decide
  · intro b hb
    rw [List.getLast?_append_of_ne_nil _ hword.1] at hb
    exact Http.isBlank_of_isVisible (hvisible b (List.mem_of_getLast? hb))

/-- The fields can be read. -/
lemma connectFields_sound (hb64 : Base64Text rt) (hhost : Visible host) {f : String × String}
    (hf : f ∈ connectFields rt host port params) :
    (Visible f.1 ∧ f.1 ≠ "" ∧ ':' ∉ f.1.toList) ∧ Http.IsValue (utf8Bytes f.2) := by
  unfold connectFields at hf
  rcases List.mem_append.mp hf with hf | hf
  · have hnames : ∀ name ∈ ["Host", "User-Agent", "Proxy-Connection", "Connection"],
        Visible name ∧ name ≠ "" ∧ ':' ∉ name.toList := by
      decide
    have hvalues : ∀ value ∈ ["Mozilla/5.0", "keep-alive"], Visible value := by
      decide
    simp only [List.mem_cons, List.not_mem_nil, or_false] at hf
    rcases hf with rfl | rfl | rfl | rfl
    · exact ⟨hnames _ (by simp), isValue_of_visibleText (visible_connectAuthority hhost)⟩
    · exact ⟨hnames _ (by simp), isValue_of_visibleText (hvalues _ (by simp))⟩
    · exact ⟨hnames _ (by simp), isValue_of_visibleText (hvalues _ (by simp))⟩
    · exact ⟨hnames _ (by simp), isValue_of_visibleText (hvalues _ (by simp))⟩
  · split at hf
    · obtain rfl := List.mem_singleton.mp hf
      have hname : Visible "Proxy-Authorization" ∧ "Proxy-Authorization" ≠ "" ∧
          ':' ∉ "Proxy-Authorization".toList := by
        decide
      have hcredentials : utf8Bytes (params.username ++ ":" ++ params.password) ≠ [] := by
        rw [utf8Bytes_append, utf8Bytes_append]
        simp [utf8Bytes, Percent.utf8_cons, String.utf8EncodeChar_ne_nil]
      exact ⟨hname, isValue_basic (hb64.visible _) (hb64.ne_empty _ hcredentials)⟩
    · simp at hf

/-- The fields are read as they are listed. -/
lemma readField_fieldLine (hb64 : Base64Text rt) (hhost : Visible host) :
    List.Forall₂ (fun l field => l ≠ [] ∧ Http.readField l = some field)
      ((connectFields rt host port params).map fieldLine)
      ((connectFields rt host port params).map fieldBytes) := by
  rw [List.forall₂_map_left_iff, List.forall₂_map_right_iff, List.forall₂_same]
  intro f hf
  obtain ⟨⟨hname, hne, hcolon⟩, hvalue⟩ := connectFields_sound hb64 hhost hf
  refine ⟨by simp [fieldLine], Http.readField_field (isWord_utf8Bytes hname hne) ?_ hvalue⟩
  exact fun hmem => hcolon ((mem_utf8Bytes_iff (c := ':') (by decide)).mp hmem)

/-- A line of a field has no line end in it. -/
lemma notMem_fieldLine {f : String × String} (hname : Visible f.1)
    (hvalue : Http.IsValue (utf8Bytes f.2)) : 13 ∉ fieldLine f := by
  intro hmem
  rcases List.mem_append.mp hmem with hmem | hmem
  · exact absurd (visible_iff.mp hname 13 hmem) (by decide)
  · simp only [List.mem_cons] at hmem
    rcases hmem with h | h | hmem
    · exact absurd h (by decide)
    · exact absurd h (by decide)
    · exact absurd (hvalue.plain 13 hmem) (by decide)

/-- The first line of the request. -/
lemma readRequestLine_connect (hhost : Visible host) :
    Http.readRequestLine (utf8Bytes ("CONNECT " ++ connectAuthority host port ++ " HTTP/1.1")) =
      some ⟨utf8Bytes "CONNECT", utf8Bytes (connectAuthority host port), utf8Bytes "HTTP/1.1", []⟩ ∧
    13 ∉ utf8Bytes ("CONNECT " ++ connectAuthority host port ++ " HTTP/1.1") := by
  have hfixed : Visible "CONNECT" ∧ Visible "HTTP/1.1" := by
    decide
  have hauthority : connectAuthority host port ≠ "" := by
    intro hempty
    have hlength := congrArg String.length hempty
    simp [connectAuthority] at hlength
  have hline : utf8Bytes ("CONNECT " ++ connectAuthority host port ++ " HTTP/1.1") =
      utf8Bytes "CONNECT" ++ 32 :: (utf8Bytes (connectAuthority host port) ++
        32 :: utf8Bytes "HTTP/1.1") := by
    have hspaces : utf8Bytes "CONNECT " = utf8Bytes "CONNECT" ++ [32] ∧
        utf8Bytes " HTTP/1.1" = 32 :: utf8Bytes "HTTP/1.1" := by decide
    rw [utf8Bytes_append, utf8Bytes_append, hspaces.1, hspaces.2, List.append_assoc,
      List.append_assoc, List.singleton_append]
  have hmethod := isWord_utf8Bytes hfixed.1 (by decide)
  have htarget := isWord_utf8Bytes (@visible_connectAuthority host port hhost) hauthority
  have hversion := isWord_utf8Bytes hfixed.2 (by decide)
  rw [hline]
  refine ⟨Http.readRequestLine_words hmethod htarget hversion, fun hmem => ?_⟩
  rcases List.mem_append.mp hmem with hmem | hmem
  · exact Http.not_mem_of_isWord hmethod (by decide) hmem
  · rcases List.mem_cons.mp hmem with h | hmem
    · exact absurd h (by decide)
    · rcases List.mem_append.mp hmem with hmem | hmem
      · exact Http.not_mem_of_isWord htarget (by decide) hmem
      · rcases List.mem_cons.mp hmem with h | hmem
        · exact absurd h (by decide)
        · exact Http.not_mem_of_isWord hversion (by decide) hmem

/-- A host without control characters and blanks gives one request. -/
lemma readRequests_connectRequest (hb64 : Base64Text rt) (hhost : Visible host) :
    Http.readRequests (connectRequest rt host port params) =
      some [⟨utf8Bytes "CONNECT", utf8Bytes (connectAuthority host port), utf8Bytes "HTTP/1.1",
        (connectFields rt host port params).map fieldBytes⟩] := by
  obtain ⟨hline, hcr⟩ := @readRequestLine_connect host port hhost
  have hends : ∀ l ∈ utf8Bytes ("CONNECT " ++ connectAuthority host port ++ " HTTP/1.1") ::
      (connectFields rt host port params).map fieldLine, 13 ∉ l := by
    intro l hl
    rcases List.mem_cons.mp hl with h | hl
    · rw [h]
      exact hcr
    · obtain ⟨f, hf, hl⟩ := List.mem_map.mp hl
      obtain ⟨⟨hname, -, -⟩, hvalue⟩ := connectFields_sound hb64 hhost hf
      rw [← hl]
      exact notMem_fieldLine hname hvalue
  have hread := Http.readRequests_unlines hline (readField_fieldLine hb64 hhost) hends
  rw [connectRequest_eq, hread, List.nil_append]

/-! ## The target -/

/-- The target of a host with a colon is a literal, that of another host is a name. -/
lemma utf8Bytes_connectAuthority (host : String) (port : ℕ) :
    utf8Bytes (connectAuthority host port) =
      if ':' ∈ (stripBrackets host).toList then
        91 :: (utf8Bytes (stripBrackets host) ++ 93 :: 58 :: Http.decimal port)
      else utf8Bytes (stripBrackets host) ++ 58 :: Http.decimal port := by
  unfold connectAuthority
  have hfixed : utf8Bytes "[" = [91] ∧ utf8Bytes "]" = [93] ∧ utf8Bytes ":" = [58] := by decide
  obtain ⟨hopen, hclose, hcolon⟩ := hfixed
  rw [utf8Bytes_append, utf8Bytes_append, utf8Bytes_port, hcolon]
  split_ifs
  · rw [utf8Bytes_append, utf8Bytes_append, hopen, hclose]
    simp only [List.append_assoc, List.cons_append, List.nil_append]
  · simp only [List.append_assoc, List.cons_append, List.nil_append]

/-- A name that does not begin with a bracket. -/
lemma head_utf8Bytes {s : String} (h : ∀ c ∈ s.toList.head?, c ≠ '[' ∧ c ≠ ']') :
    (utf8Bytes s).head? ≠ some 91 := by
  cases hs : s.toList with
  | nil => simp [utf8Bytes, hs]
  | cons c l =>
    have hc : c ≠ '[' := (h c (by rw [hs]; rfl)).1
    intro hhead
    have hmem : 91 ∈ String.utf8EncodeChar c := by
      rw [utf8Bytes, hs, Percent.utf8_cons, List.head?_append_of_ne_nil _
        String.utf8EncodeChar_ne_nil] at hhead
      exact List.mem_of_head? hhead
    have hone : (91 : UInt8) ∈ utf8Bytes (String.singleton c) := by
      simpa [utf8Bytes, Percent.utf8_cons] using hmem
    have hchar := (mem_utf8Bytes_iff (c := '[') (by decide)).mp hone
    rw [String.toList_singleton, List.mem_singleton] at hchar
    exact hc hchar.symm

/-- The stripped host is read back, unless a literal has a closing bracket in it. -/
lemma readAuthority_connect (hliteral : ':' ∈ (stripBrackets host).toList →
    ']' ∉ (stripBrackets host).toList) :
    Http.readAuthority (utf8Bytes (connectAuthority host port)) =
      some (utf8Bytes (stripBrackets host), port) := by
  rw [utf8Bytes_connectAuthority]
  split_ifs with hcolon
  · refine Http.readAuthority_literal (fun hmem => hliteral hcolon ?_) port
    exact (mem_utf8Bytes_iff (c := ']') (by decide)).mp hmem
  · refine Http.readAuthority_name (fun hmem => hcolon ?_)
      (head_utf8Bytes fun c => head_stripBrackets) port
    exact (mem_utf8Bytes_iff (c := ':') (by decide)).mp hmem

/-- A host that is read back has not been changed. -/
lemma plain_of_readAuthority (hvisible : Visible host)
    (h : Http.readAuthority (utf8Bytes (connectAuthority host port)) = some (utf8Bytes host, port)) :
    Plain host := by
  have hliteral : ':' ∈ (stripBrackets host).toList → ']' ∉ (stripBrackets host).toList := by
    intro hcolon hclose
    rw [utf8Bytes_connectAuthority, if_pos hcolon] at h
    have hlt := Http.length_lt_of_readAuthority
      ((mem_utf8Bytes_iff (c := ']') (by decide)).mpr hclose) h
    have hle : (utf8Bytes (stripBrackets host)).length ≤ (utf8Bytes host).length :=
      ((stripBrackets_sublist host).flatMap String.utf8EncodeChar).length_le
    omega
  rw [readAuthority_connect hliteral] at h
  have hsame : stripBrackets host = host :=
    utf8Bytes_inj .ascii (Prod.mk.inj (Option.some.inj h)).1
  rw [hsame] at hliteral
  refine ⟨hvisible, fun c hc => ?_, fun c hc => ?_, hliteral⟩
  · rw [← hsame] at hc
    exact head_stripBrackets hc
  · rw [← hsame] at hc
    exact last_stripBrackets hc

/-- The proxy reads exactly one request, for the host and the port that the client asked for and
with the fields that are listed, when the host can be written into a request, and only then. -/
theorem connect_request_iff (rt : Runtime) (hb64 : Base64Text rt) (params : ProxyParams)
    (bytes : List UInt8) : ∀ header, parseVlessHeader rt bytes = .ok header →
      (IsConnect (connectRequest rt header.address header.port params) header.address header.port
        (connectFields rt header.address header.port params) ↔ Plain header.address) := by
  intro header _
  constructor
  · rintro ⟨r, hread, -, -, hauthority, -⟩
    -- what is read as the host is made of visible bytes, so nothing has been cut before
    have hvisible : Visible header.address := by
      rw [visible_iff]
      intro b hb
      exact (Http.isWord_iff.mp (Http.readRequests_targets hread (.head _))).2 b
        (Http.mem_of_readAuthority hauthority hb)
    rw [readRequests_connectRequest hb64 hvisible, Option.some.injEq, List.cons.injEq] at hread
    rw [← hread.1] at hauthority
    dsimp only at hauthority
    exact plain_of_readAuthority hvisible hauthority
  · intro hplain
    have hsame := stripBrackets_eq_self hplain.head hplain.last
    refine ⟨_, readRequests_connectRequest hb64 hplain.visible, rfl, rfl, ?_, rfl⟩
    have hliteral : ':' ∈ (stripBrackets header.address).toList →
        ']' ∉ (stripBrackets header.address).toList := by
      rw [hsame]
      exact hplain.literal
    dsimp only
    rw [readAuthority_connect hliteral, hsame]

/-! ## A request and an injected line -/

/-- A library with the standard alphabet of base64. -/
def connectRuntime : Runtime :=
  { Runtime.ascii with
    b64encode := fun bytes => String.ofList ((Base64.encode bytes).map fun c =>
      if c = '-' then '+' else if c = '_' then '/' else c) }

lemma connectRuntime_base64 : Base64Text connectRuntime := by
  constructor
  · intro bytes c hc
    have hmem : c ∈ (Base64.encode bytes).map fun c =>
        if c = '-' then '+' else if c = '_' then '/' else c := by
      have htext : (connectRuntime.b64encode bytes).toList = _ := String.toList_ofList
      rwa [htext] at hc
    obtain ⟨d, hd, rfl⟩ := List.mem_map.mp hmem
    have hdigit : d.isAlphanum = true ∨ d = '-' ∨ d = '_' ∨ d = '=' := by
      rcases List.mem_append.mp hd with hd | hd
      · have hd := Base64.isDigit_of_mem hd
        simp only [Base64.isDigit, Bool.or_eq_true, beq_iff_eq] at hd
        tauto
      · exact .inr (.inr (.inr (List.eq_of_mem_replicate hd)))
    split_ifs with hhyphen hline
    · simp
    · simp
    · rcases hdigit with h | h | h | h
      · exact .inl h
      · exact absurd h hhyphen
      · exact absurd h hline
      · simp [h]
  · intro bytes hne hempty
    have htext : (connectRuntime.b64encode bytes).toList = _ := String.toList_ofList
    rw [hempty] at htext
    have hlength := congrArg List.length htext
    rw [List.length_map, Base64.encode, List.length_append, Base64.length_unpadded] at hlength
    have hpos := List.length_pos_iff.mpr hne
    simp at hlength
    omega

/-- The header of a session for port 443 of a domain. -/
def domainHeader (domain : String) : List UInt8 :=
  0 :: List.replicate 16 7 ++ [0, 1, 1, 187, 2, UInt8.ofNat domain.length] ++ utf8Bytes domain

/-- A request with credentials for a domain. -/
theorem connect_request_domain :
    parseVlessHeader connectRuntime (domainHeader "relay.example") =
        .ok ⟨1, "relay.example", 443, []⟩ ∧
      IsConnect
        (connectRequest connectRuntime "relay.example" 443 ⟨"http", none, none, "user", "secret"⟩)
        "relay.example" 443
        (connectFields connectRuntime "relay.example" 443 ⟨"http", none, none, "user", "secret"⟩) := by
  have hparse : parseVlessHeader connectRuntime (domainHeader "relay.example") =
      .ok ⟨1, "relay.example", 443, []⟩ := by decide +kernel
  have hvisible : Visible "relay.example" := by decide
  have hends : "relay.example".toList.head? = some 'r' ∧ "relay.example".toList.getLast? = some 'e' := by
    decide
  have hplain : Plain "relay.example" := by
    refine ⟨hvisible, fun c hc => ?_, fun c hc => ?_, by decide⟩
    · obtain rfl := Option.some.inj (hends.1.symm.trans hc)
      decide
    · obtain rfl := Option.some.inj (hends.2.symm.trans hc)
      decide
  exact ⟨hparse, (connect_request_iff connectRuntime connectRuntime_base64 _ _ _ hparse).mpr hplain⟩

/-- A domain with a line end in it makes the proxy read another host and one more field. -/
theorem connect_request_injected :
    parseVlessHeader connectRuntime (domainHeader "a HTTP/1.1\r\nX-Injected") =
        .ok ⟨1, "a HTTP/1.1\r\nX-Injected", 443, []⟩ ∧
      ¬ IsConnect
        (connectRequest connectRuntime "a HTTP/1.1\r\nX-Injected" 443 ⟨"http", none, none, "", ""⟩)
        "a HTTP/1.1\r\nX-Injected" 443
        (connectFields connectRuntime "a HTTP/1.1\r\nX-Injected" 443
          ⟨"http", none, none, "", ""⟩) := by
  refine ⟨by decide +kernel, ?_⟩
  rintro ⟨r, hread, -, -, hauthority, -⟩
  have hword := Http.isWord_iff.mp (Http.readRequests_targets hread (.head _))
  have hcr := hword.2 13 (Http.mem_of_readAuthority hauthority (by decide))
  exact absurd hcr (by decide)

end Session
