import LumenRelay.Py.Dynamic

/-!
# Lines, parts of a text and addresses

How a text is cut into lines and at the last occurrence of a character, what is documented of
`urlsplit`, and the text of an exception.
-/

namespace Py

/-- `str(exc)`, of the exceptions that carry a text. -/
def errorText : PyErr → String
  | .valueError message => message
  | .osError message => message
  | .runtimeError message => message
  | .proxyUnavailable message => message
  | .http _ detail => detail
  | _ => ""

/-! ## Lines -/

/-- The characters that end a line. -/
def isLineBreak (c : Char) : Bool :=
  let n := c.toNat
  (10 ≤ n && n ≤ 13) || (28 ≤ n && n ≤ 30) || n == 0x85 || n == 0x2028 || n == 0x2029

/-- The lines of a text of which the start `line` of the first one has been read, backwards. -/
def linesFrom (line : List Char) : List Char → List (List Char)
  | [] => if line = [] then [] else [line.reverse]
  | '\r' :: '\n' :: cs => line.reverse :: linesFrom [] cs
  | c :: cs => if isLineBreak c then line.reverse :: linesFrom [] cs else linesFrom (c :: line) cs

/-- `text.splitlines()`. -/
def splitlines (text : String) : List String := (linesFrom [] text.toList).map String.ofList

/-- `s.rsplit(c, 1)`, for the two parts. -/
def rsplitOnce (c : Char) (s : String) : Option (String × String) :=
  match s.toList.reverse.dropWhile (· ≠ c) with
  | [] => none
  | _ :: front =>
    some (String.ofList front.reverse, String.ofList (s.toList.reverse.takeWhile (· ≠ c)).reverse)

/-- `s.startswith(t)`. -/
def startsWith (t s : String) : Bool := t.toList.isPrefixOf s.toList

lemma linesFrom_of_no_break {l : List Char} (h : ∀ c ∈ l, isLineBreak c = false) (line : List Char) :
    linesFrom line l = if line.reverse ++ l = [] then [] else [line.reverse ++ l] := by
  fun_induction linesFrom line l with
  | case1 => simp
  | case2 line hline => simp [hline]
  | case3 line cs ih => exact absurd (h '\r' List.mem_cons_self) (by decide)
  | case4 line c cs _ hc => exact absurd hc (by simp [h c List.mem_cons_self])
  | case5 line c cs _ hc ih =>
    rw [ih fun d hd => h d (List.mem_cons_of_mem c hd)]
    simp

/-- No line contains the end of one. -/
lemma no_break_of_mem_linesFrom {text line l : List Char} (hline : ∀ c ∈ line, isLineBreak c = false)
    (h : l ∈ linesFrom line text) : ∀ c ∈ l, isLineBreak c = false := by
  have hrev : ∀ {line : List Char}, (∀ c ∈ line, isLineBreak c = false) →
      ∀ c ∈ line.reverse, isLineBreak c = false := fun h c hc => h c (List.mem_reverse.mp hc)
  fun_induction linesFrom line text with
  | case1 => cases h
  | case2 line _ =>
    rw [List.mem_singleton.mp h]
    exact hrev hline
  | case3 line cs ih =>
    rcases List.mem_cons.mp h with rfl | h
    · exact hrev hline
    · exact ih (by simp) h
  | case4 line c cs _ hc ih =>
    rcases List.mem_cons.mp h with rfl | h
    · exact hrev hline
    · exact ih (by simp) h
  | case5 line c cs _ hc ih =>
    refine ih ?_ h
    intro d hd
    rcases List.mem_cons.mp hd with rfl | hd
    · simpa using hc
    · exact hline d hd

lemma no_break_of_mem_splitlines {text line : String} (h : line ∈ splitlines text) :
    ∀ c ∈ line.toList, isLineBreak c = false := by
  obtain ⟨l, hl, rfl⟩ := List.mem_map.mp h
  rw [String.toList_ofList]
  exact no_break_of_mem_linesFrom (by simp) hl

/-- A text without the end of a line is one line, or none if it is empty. -/
lemma splitlines_of_no_break {text : String} (h : ∀ c ∈ text.toList, isLineBreak c = false) :
    splitlines text = if text = "" then [] else [text] := by
  rw [splitlines, linesFrom_of_no_break h]
  by_cases hempty : text = ""
  · simp [hempty]
  · have hne : text.toList ≠ [] := fun hnil => hempty (String.toList_eq_nil_iff.mp hnil)
    simp [hempty, hne]

/-! ## Blanks at the ends -/

/-- A text that neither starts nor ends with a blank is not changed by `strip`. -/
lemma strip_of_ends {s : String} {c d : Char} (hc : s.toList.head? = some c)
    (hd : s.toList.getLast? = some d) (hcs : isSpace c = false) (hds : isSpace d = false) :
    strip s = s := by
  have hdrop : ∀ {l : List Char} {x : Char}, l.head? = some x → isSpace x = false →
      l.dropWhile isSpace = l := by
    intro l x hx hspace
    cases l with
    | nil => cases hx
    | cons y l =>
      obtain rfl := Option.some.inj hx
      rw [List.dropWhile_cons, if_neg (by simp [hspace])]
  rw [strip, stripList, hdrop hc hcs, hdrop (by rw [List.head?_reverse]; exact hd) hds,
    List.reverse_reverse, String.ofList_toList]

/-! ## Addresses -/

/-- What is documented of `urlsplit`: the scheme is in lower case, the network location ends at the
first delimiter, the port is written at its end, and an address that `urlunsplit` puts together
again from a scheme and a location is split as before. -/
structure UrlsplitSpec (rt : Runtime) : Prop where
  scheme : ∀ url p, rt.urlsplit url = some p → rt.lower p.scheme = p.scheme
  netloc : ∀ url p, rt.urlsplit url = some p → ∀ c ∈ p.netloc.toList, c ∉ "/?#".toList
  port : ∀ url p n, rt.urlsplit url = some p → p.port = some (some n) →
    ∃ c, p.netloc.toList.getLast? = some c ∧ c.isDigit = true
  resplit : ∀ url p, rt.urlsplit url = some p → p.scheme ≠ "" → p.netloc ≠ "" →
    rt.urlsplit (p.scheme ++ "://" ++ p.netloc) = some { p with path := "", query := "" }

/-- What is documented of addresses and names: the compressed text of an address is an address and
its own compressed text, an IPv4 address is written in one way, and the `idna` codec and `lower`
leave an ASCII name alone but for its case. -/
structure NameSpec (rt : Runtime) : Prop where
  again : ∀ s v t, rt.ipAddress s = some (v, t) → rt.ipAddress t = some (v, t)
  plain : ∀ s v t, rt.ipAddress s = some (v, t) → '%' ∉ s.toList →
    t ≠ "" ∧ t.length ≤ 45 ∧ ∀ c ∈ t.toList, c.isAlphanum ∨ c = ':' ∨ c = '.'
  dotted : ∀ s v t, rt.ipAddress s = some (v, t) → ':' ∉ s.toList → t = s
  idna_ascii : ∀ s t, rt.idna s = some t → ∀ c ∈ t.toList, c.toNat < 128
  idna_self : ∀ s, (∀ c ∈ s.toList, c.toNat < 128) →
    (∀ l ∈ splitChar '.' s, l ≠ "" ∧ l.length < 64) → rt.idna s = some s
  lower_ascii : ∀ s, (∀ c ∈ s.toList, c.toNat < 128) →
    rt.lower s = String.ofList (s.toList.map Char.toLower)
  digit_ascii : ∀ c, c.toNat < 128 → (rt.digitValue c).isSome = c.isDigit

lemma toLower_toLower (c : Char) : c.toLower.toLower = c.toLower := by
  delta Char.toLower
  split
  · rename_i hupper
    split
    · rename_i hagain
      simp only [UInt32.le_iff_toNat_le, UInt32.toNat_add, seval] at hupper hagain
      omega
    · rfl
  · rfl

/-- The lower case of an ASCII text has no capital left. -/
lemma NameSpec.lower_lower {rt : Runtime} (spec : NameSpec rt) {s : String}
    (hs : ∀ c ∈ s.toList, c.toNat < 128) (ht : ∀ c ∈ (rt.lower s).toList, c.toNat < 128) :
    rt.lower (rt.lower s) = rt.lower s := by
  rw [spec.lower_ascii _ ht, spec.lower_ascii s hs, String.toList_ofList, List.map_map]
  congr 1
  exact List.map_congr_left fun c _ => toLower_toLower c

/-- A text without letters is its own lower case. -/
lemma NameSpec.lower_eq_self {rt : Runtime} (spec : NameSpec rt) {s : String}
    (hs : ∀ c ∈ s.toList, c.toNat < 128) (hlow : ∀ c ∈ s.toList, c.toLower = c) :
    rt.lower s = s := by
  rw [spec.lower_ascii s hs, List.map_congr_left hlow, List.map_id', String.ofList_toList]

end Py
