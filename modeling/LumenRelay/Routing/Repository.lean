import LumenRelay.Py.Text
import LumenRelay.Routing.Catalog
import LumenRelay.Lib.Machine
import Mathlib.Data.List.TakeWhile

/-!
# The proxy repository

The list of proxies is fetched as a text with one proxy a line.  Lines that cannot be read are
passed over, and a fetch that gives no proxy at all leaves the last list in place.
-/

namespace Routing

open Lib Py

variable (rt : Runtime)

/-! ## Reading the list -/

/-- `\s*-\s*(\d{1,3})\s*%\s*$`, with the number. -/
def percentTail (s : List Char) : Option ℤ :=
  match s.dropWhile isSpace with
  | '-' :: s =>
    let digits := (s.dropWhile isSpace).takeWhile fun c => (rt.digitValue c).isSome
    if digits = [] ∨ 3 < digits.length then none
    else
      match ((s.dropWhile isSpace).drop digits.length).dropWhile isSpace with
      | '%' :: s =>
        if s.all isSpace then
          some (((digits.filterMap rt.digitValue).foldl (fun n d => 10 * n + d) 0 : ℕ) : ℤ)
        else none
      | _ => none
  | _ => none

/-- `^(.+?)\s*-\s*(\d{1,3})\s*%\s*$`, with the two groups; the first one is as short as it can be.
A line has no line feed, which `.` would not match. -/
def metadata (suffix : String) : Option (String × ℤ) :=
  (List.range' 1 suffix.length).findSome? fun i =>
    (percentTail rt (suffix.toList.drop i)).map fun n => (sliceTo i suffix, n)

/-- What a line says of a proxy. -/
structure Listing where
  endpoint : String
  country : String
  health : ℤ

/-- What the loop of `parse_text` reads off a line; `none` where the line is passed over. -/
def parseLine (sourceLine : String) : Option Listing :=
  let line := strip sourceLine
  if line = "" ∨ startsWith ";" line ∨ startsWith "//" line then none
  else
    match rsplitOnce '#' line with
    | none => none
    | some (raw, suffix) =>
      match metadata rt (strip suffix) with
      | none => none
      | some (country, percentage) =>
        match validateUrl rt (.str raw) with
        | .error _ => none
        | .ok endpoint => some ⟨endpoint, country, max 0 (min 100 percentage)⟩

/-- The record of a proxy that is listed for the first time. -/
def recordOf (entry : Listing) : Except PyErr Record :=
  match rt.urlsplit entry.endpoint with
  | none => .error (.valueError "invalid URL")
  | some url =>
    let (country, code) := normalizeCountry rt (.str entry.country)
    .ok ⟨proxyIdentity rt entry.endpoint, entry.endpoint, url.scheme, country, code, flagFor rt code,
      entry.health⟩

/-- `MAX_PROXIES`. -/
def maxProxies : ℕ := 1000

/-- The loop of `parse_text`; the ids that it has seen are those of the rows. -/
def parseLines : List String → List Record → Except PyErr (List Record)
  | [], rows => .ok rows
  | line :: lines, rows =>
    match parseLine rt line with
    | none => parseLines lines rows
    | some entry =>
      if proxyIdentity rt entry.endpoint ∈ rows.map Record.id then parseLines lines rows
      else do
        let record ← recordOf rt entry
        if maxProxies ≤ (rows ++ [record]).length then return rows ++ [record]
        parseLines lines (rows ++ [record])

/-- `parse_text`. -/
def parseText (text : String) : Except PyErr (List Record) := parseLines rt (splitlines text) []

/-! ## Fetching it -/

/-- How the request of `_fetch` ends: it fails, or it has a body. -/
inductive Response
  | failed (message : String)
  | body (bytes : List UInt8)

/-- `MAX_BYTES`. -/
def maxBytes : ℕ := 512 * 1024

/-- `data.decode("utf-8-sig")`. -/
def decodeUtf8Sig (data : List UInt8) : Option String :=
  rt.decodeUtf8 (if [0xEF, 0xBB, 0xBF].isPrefixOf data then data.drop 3 else data)

/-- `_fetch`. -/
def fetch : Response → Except PyErr String
  | .failed message => .error (.osError message)
  | .body bytes =>
    let data := bytes.take (maxBytes + 1)
    if maxBytes < data.length then .error (.runtimeError "repository file is too large")
    else
      match decodeUtf8Sig rt data with
      | none => .error (.valueError "'utf-8' codec can't decode the file")
      | some text => .ok text

/-- `_records`, `_last` and `_error`. -/
structure Repository where
  records : Dict String Record
  last : ℤ
  error : String

/-- The repository before the first fetch. -/
def Repository.fresh : Repository := ⟨.empty, 0, "not loaded"⟩

/-- `REFRESH_SECONDS`. -/
def refreshSeconds : ℤ := 2 * 60 * 60

/-- `{row.id: row for row in rows}`. -/
def recordTable (rows : List Record) : Dict String Record :=
  Dict.ofList (rows.map fun row => (row.id, row))

/-- One call of `refresh`: the clock when it looks at the age of the records and when it has
fetched, and what the network answers. -/
structure RefreshCall where
  force : Bool
  checkedAt : ℤ
  fetchedAt : ℤ
  response : Response

/-- `refresh`, and the text that it has fetched. -/
def refresh (s : Repository) (call : RefreshCall) : Repository × List String :=
  if !call.force ∧ s.records.entries ≠ [] ∧ call.checkedAt - s.last < refreshSeconds then (s, [])
  else
    match fetch rt call.response with
    | .error e => ({ s with error := sliceTo 200 (errorText e) }, [])
    | .ok text =>
      match parseText rt text with
      | .error e => ({ s with error := sliceTo 200 (errorText e) }, [text])
      | .ok [] => ({ s with error := "repository has no valid proxies" }, [text])
      | .ok rows => (⟨recordTable rows, call.fetchedAt, ""⟩, [text])

/-- The repository as a machine; it tells the texts that were fetched. -/
def repository : Machine Repository RefreshCall String := ⟨fun s call => some (refresh rt s call)⟩

/-! ## What the list gives -/

/-- A line more among the lines of a text. -/
def Inserts (line text text' : String) : Prop :=
  ∃ before after, splitlines text = before ++ after ∧ splitlines text' = before ++ line :: after

/-- What is known of the rows of a text. -/
structure Sound (rows : List Record) : Prop where
  length : rows.length ≤ maxProxies
  nodup : (rows.map Record.id).Nodup
  canonical : ∀ row ∈ rows, validateUrl rt (.str row.endpoint) = .ok row.endpoint

/-- The rows of the last of some texts that has any. -/
def lastGood (texts : List String) : List Record :=
  (texts.filterMap fun text =>
    match parseText rt text with
    | .ok [] | .error _ => none
    | .ok rows => some rows).getLast?.getD []

/-- A fetch that fails, or whose text has no valid row. -/
def Fails (response : Response) : Prop :=
  ∀ row rows, (fetch rt response >>= parseText rt) ≠ .ok (row :: rows)

variable {rt}

lemma urlRefusal_none {p : Url} (h : urlRefusal rt p = none) :
    rt.lower p.scheme ∈ ["http", "https", "socks5"] ∧ ∃ n, p.port = some (some n) ∧ n ≠ 0 := by
  unfold urlRefusal at h
  split at h
  · cases h
  · rename_i hscheme
    refine ⟨not_not.mp hscheme, ?_⟩
    split at h
    · cases h
    · split at h
      · cases h
      · rename_i port hport
        split at h
        · cases h
        · rename_i hrange
          rw [hport]
          cases port with
          | none => exact absurd (.inl rfl) hrange
          | some n => exact ⟨n, rfl, fun h0 => hrange (.inl h0)⟩

/-- The scheme of a proxy starts with a letter and has no number sign. -/
lemma scheme_chars {scheme : String} (h : scheme ∈ ["http", "https", "socks5"]) :
    (∃ c, scheme.toList.head? = some c ∧ isSpace c = false) ∧ '#' ∉ scheme.toList := by
  simp only [List.mem_cons, List.not_mem_nil, or_false] at h
  rcases h with rfl | rfl | rfl
  · exact ⟨⟨'h', rfl, by decide⟩, by decide⟩
  · exact ⟨⟨'h', rfl, by decide⟩, by decide⟩
  · exact ⟨⟨'s', rfl, by decide⟩, by decide⟩

/-- Neither the cut at a number sign nor `strip` changes a canonical address. -/
lemma cut_canonical {scheme netloc : String} (hscheme : scheme ∈ ["http", "https", "socks5"])
    (hnetloc : ∀ c ∈ netloc.toList, c ∉ "/?#".toList) {d : Char}
    (hlast : netloc.toList.getLast? = some d) (hdigit : d.isDigit = true) :
    strip (String.ofList ((scheme ++ "://" ++ netloc).toList.takeWhile (· ≠ '#'))) =
      scheme ++ "://" ++ netloc := by
  obtain ⟨⟨c, hhead, hspace⟩, hno⟩ := scheme_chars hscheme
  have hlist : (scheme ++ "://" ++ netloc).toList =
      scheme.toList ++ ([':', '/', '/'] ++ netloc.toList) := by simp
  have hkeep : ∀ x ∈ (scheme ++ "://" ++ netloc).toList, decide (x ≠ '#') = true := by
    intro x hx
    rw [hlist] at hx
    refine decide_eq_true ?_
    rintro rfl
    rcases List.mem_append.mp hx with hx | hx
    · exact hno hx
    · rcases List.mem_append.mp hx with hx | hx
      · exact absurd hx (by decide)
      · exact hnetloc '#' hx (by decide)
  rw [List.takeWhile_eq_self_iff.mpr hkeep, String.ofList_toList]
  refine strip_of_ends (c := c) (d := d) ?_ ?_ hspace ?_
  · rw [hlist, List.head?_append, hhead]
    rfl
  · rw [hlist, ← List.append_assoc, List.getLast?_append, hlast]
    rfl
  · refine alphanum_not_space d ?_
    simp [Char.isAlphanum, hdigit]

/-- What `validate_url` returns is canonical. -/
lemma validateUrl_canonical (hspec : UrlsplitSpec rt) {value : Json} {endpoint : String}
    (h : validateUrl rt value = .ok endpoint) :
    validateUrl rt (.str endpoint) = .ok endpoint ∧ ∃ p, rt.urlsplit endpoint = some p := by
  unfold validateUrl at h
  generalize hurl : strip (String.ofList ((value.text rt).toList.takeWhile (· ≠ '#'))) = url at h
  split at h
  · cases h
  · rename_i p hp
    split at h
    · cases h
    · rename_i hrefusal
      obtain rfl := Except.ok.inj h
      obtain ⟨hscheme, n, hport, -⟩ := urlRefusal_none hrefusal
      obtain ⟨d, hlast, hdigit⟩ := hspec.port url p n hp hport
      have hne : p.netloc ≠ "" := by
        rintro hempty
        rw [hempty] at hlast
        cases hlast
      have hscheme' : p.scheme ∈ ["http", "https", "socks5"] := by
        rw [← hspec.scheme url p hp]
        exact hscheme
      have hsplit := hspec.resplit url p hp (fun hempty => by simp [hempty] at hscheme') hne
      have hagain : urlRefusal rt { p with path := "", query := "" } = none := by
        unfold urlRefusal at hrefusal ⊢
        split at hrefusal
        · cases hrefusal
        · rename_i h₁
          rw [if_neg h₁]
          split at hrefusal
          · cases hrefusal
          · rename_i h₂
            rw [if_neg h₂]
            simp only [hport] at hrefusal ⊢
            split at hrefusal
            · cases hrefusal
            · rename_i h₃
              rw [if_neg h₃, if_neg (by simp)]
      rw [hspec.scheme url p hp]
      refine ⟨?_, _, hsplit⟩
      unfold validateUrl
      rw [Json.text_str, cut_canonical hscheme' (hspec.netloc url p hp) hlast hdigit, hsplit]
      dsimp only
      rw [hagain, hspec.scheme url p hp]

/-! ## The rows of a text -/

lemma parseLine_canonical (hspec : UrlsplitSpec rt) {line : String} {entry : Listing}
    (h : parseLine rt line = some entry) :
    validateUrl rt (.str entry.endpoint) = .ok entry.endpoint ∧
      ∃ p, rt.urlsplit entry.endpoint = some p := by
  unfold parseLine at h
  dsimp only at h
  split at h
  · cases h
  · split at h
    · cases h
    · split at h
      · cases h
      · split at h
        · cases h
        · rename_i hvalid
          obtain rfl := Option.some.inj h
          exact validateUrl_canonical hspec hvalid

/-- The loop goes on to the end, and keeps what is known of the rows. -/
lemma parseLines_sound (hspec : UrlsplitSpec rt) (lines : List String) {rows : List Record}
    (hrows : Sound rt rows) (hroom : rows.length < maxProxies) :
    ∃ rows', parseLines rt lines rows = .ok rows' ∧ Sound rt rows' := by
  induction lines generalizing rows with
  | nil => exact ⟨rows, rfl, hrows⟩
  | cons line lines ih =>
    rw [parseLines]
    cases hline : parseLine rt line with
    | none => exact ih hrows hroom
    | some entry =>
      dsimp only
      split
      · exact ih hrows hroom
      · rename_i hnew
        obtain ⟨hcanonical, p, hp⟩ := parseLine_canonical hspec hline
        unfold recordOf
        rw [hp]
        dsimp only
        rw [ok_bind]
        generalize hrecord : Record.mk _ _ _ _ _ _ _ = record
        have hid : record.id = proxyIdentity rt entry.endpoint := by rw [← hrecord]
        have hendpoint : record.endpoint = entry.endpoint := by rw [← hrecord]
        have hsound : Sound rt (rows ++ [record]) := by
          refine ⟨?_, ?_, ?_⟩
          · rw [List.length_append, List.length_singleton]
            omega
          · rw [List.map_append, List.map_singleton, hid]
            refine List.nodup_append.mpr ⟨hrows.nodup, List.nodup_singleton _, ?_⟩
            rintro x hx y hy rfl
            exact hnew (List.mem_singleton.mp hy ▸ hx)
          · intro row hrow
            rcases List.mem_append.mp hrow with hrow | hrow
            · exact hrows.canonical row hrow
            · rw [List.mem_singleton.mp hrow, hendpoint]
              exact hcanonical
        split
        · exact ⟨_, rfl, hsound⟩
        · exact ih hsound (by omega)

/-- A line that is passed over may stand anywhere. -/
lemma parseLines_insert {line : String} (h : parseLine rt line = none) (before after : List String)
    (rows : List Record) :
    parseLines rt (before ++ line :: after) rows = parseLines rt (before ++ after) rows := by
  induction before generalizing rows with
  | nil => rw [List.nil_append, parseLines, h, List.nil_append]
  | cons first before ih =>
    rw [List.cons_append, List.cons_append, parseLines, parseLines]
    cases hfirst : parseLine rt first with
    | none => exact ih rows
    | some entry =>
      dsimp only
      split
      · exact ih rows
      · cases hrecord : recordOf rt entry with
        | error e => rfl
        | ok record =>
          rw [ok_bind, ok_bind]
          split
          · rfl
          · exact ih _

/-- A line whose own text has no row is passed over. -/
lemma parseLine_of_no_row {line : String} (hline : ∀ c ∈ line.toList, isLineBreak c = false)
    (h : parseText rt line = .ok []) : parseLine rt line = none := by
  unfold parseText at h
  rw [splitlines_of_no_break hline] at h
  split at h
  · rename_i hempty
    subst hempty
    rfl
  · rw [parseLines] at h
    cases hentry : parseLine rt line with
    | none => rfl
    | some entry =>
      rw [hentry] at h
      dsimp only at h
      rw [if_neg (by simp)] at h
      obtain ⟨record, -, h⟩ := bind_eq_ok h
      split at h
      · cases h
      · cases h

/-! ## The table -/

lemma recordTable_entries {rows : List Record} (hnd : (rows.map Record.id).Nodup) :
    (recordTable rows).entries = rows.map fun row => (row.id, row) :=
  Dict.entries_ofList (by rw [List.map_map]; exact hnd)

lemma recordTable_values {rows : List Record} (hnd : (rows.map Record.id).Nodup) :
    (recordTable rows).values = rows := by
  rw [Dict.values, recordTable_entries hnd, List.map_map]
  exact List.map_id rows

lemma recordTable_get? {rows : List Record} (hnd : (rows.map Record.id).Nodup) {row : Record}
    (h : row ∈ rows) : (recordTable rows).get? row.id = some row := by
  refine Dict.mem_entries_iff.mp ?_
  rw [recordTable_entries hnd]
  exact List.mem_map_of_mem h

/-! ## All refreshes -/

lemma lastGood_concat (texts : List String) (text : String) :
    lastGood rt (texts ++ [text]) =
      match parseText rt text with
      | .ok [] | .error _ => lastGood rt texts
      | .ok rows => rows := by
  unfold lastGood
  rw [List.filterMap_append, List.getLast?_append]
  rcases hparse : parseText rt text with e | (- | ⟨row, rows⟩) <;> simp [hparse]

/-- One refresh: the records are what they were, or the rows of the text that was fetched. -/
lemma refresh_records (s : Repository) (call : RefreshCall) {texts : List String}
    (h : s.records = recordTable (lastGood rt texts)) :
    (refresh rt s call).1.records = recordTable (lastGood rt (texts ++ (refresh rt s call).2)) := by
  unfold refresh
  split
  · rw [List.append_nil]
    exact h
  · split
    · rw [List.append_nil]
      exact h
    · rename_i text hfetch
      rcases hparse : parseText rt text with e | (- | ⟨row, rows⟩)
      · rw [lastGood_concat, hparse]
        exact h
      · rw [lastGood_concat, hparse]
        exact h
      · rw [lastGood_concat, hparse]

lemma refresh_of_fails (s : Repository) {call : RefreshCall} (h : Fails rt call.response) :
    (refresh rt s call).1.records = s.records := by
  unfold refresh
  split
  · rfl
  · split
    · rfl
    · rename_i text hfetch
      rcases hparse : parseText rt text with e | (- | ⟨row, rows⟩)
      · rfl
      · rfl
      · refine absurd ?_ (h row rows)
        rw [hfetch, ok_bind, hparse]

lemma sound_nil : Sound rt [] := ⟨by simp, by simp, by simp⟩

/-- A text has rows, and they are sound. -/
lemma parseText_sound (hspec : UrlsplitSpec rt) (text : String) :
    ∃ rows, parseText rt text = .ok rows ∧ Sound rt rows :=
  parseLines_sound hspec (splitlines text) sound_nil (by decide)

lemma lastGood_sound (hspec : UrlsplitSpec rt) (texts : List String) : Sound rt (lastGood rt texts) := by
  unfold lastGood
  cases hlast : (texts.filterMap fun text =>
    match parseText rt text with
    | .ok [] | .error _ => none
    | .ok rows => some rows).getLast? with
  | none => exact sound_nil
  | some rows =>
    obtain ⟨text, -, htext⟩ := List.mem_filterMap.mp (List.mem_of_getLast? hlast)
    obtain ⟨rows', hparse, hsound⟩ := parseText_sound hspec text
    rw [hparse] at htext
    split at htext
    · cases htext
    · cases htext
    · rename_i heq
      obtain rfl := Except.ok.inj heq
      obtain rfl := Option.some.inj htext
      exact hsound

/-- The repository has the rows of the last text that had any, whatever the later fetches give; and
the rows of a text are sound and do not depend on lines that cannot be read. -/
theorem last_known_good (hspec : UrlsplitSpec rt) :
    (∀ visited texts s, (repository rt).Run .fresh visited texts s →
      s.records.values = lastGood rt texts ∧
        ∀ row ∈ lastGood rt texts, s.records.get? row.id = some row) ∧
    (∀ s call, Fails rt call.response → (refresh rt s call).1.records = s.records) ∧
    ∀ text, ∃ rows, parseText rt text = .ok rows ∧ Sound rt rows ∧
      ∀ line text', Inserts line text text' → parseText rt line = .ok [] →
        parseText rt text' = .ok rows := by
  refine ⟨fun visited texts s hrun => ?_, fun s call => refresh_of_fails s, fun text => ?_⟩
  · have hrecords : s.records = recordTable (lastGood rt texts) := by
      refine hrun.invariant_events (I := fun texts s => s.records = recordTable (lastGood rt texts))
        rfl ?_
      intro texts s call s' es hs hstep
      obtain ⟨rfl, rfl⟩ := Prod.mk.inj (Option.some.inj hstep)
      exact refresh_records s call hs
    have hnd := (lastGood_sound hspec texts).nodup
    rw [hrecords]
    exact ⟨recordTable_values hnd, fun row hrow => recordTable_get? hnd hrow⟩
  · obtain ⟨rows, hparse, hsound⟩ := parseText_sound hspec text
    refine ⟨rows, hparse, hsound, ?_⟩
    rintro line text' ⟨before, after, htext, htext'⟩ hline
    have hmem : line ∈ splitlines text' := by
      rw [htext']
      simp
    have hbreak := no_break_of_mem_splitlines hmem
    rw [parseText, htext', parseLines_insert (parseLine_of_no_row hbreak hline), ← htext]
    exact hparse

/-! ## A list of one proxy -/

/-- The parts of an address of a proxy. -/
def exampleParts (path : String) : Url :=
  ⟨"http", "10.0.0.1:8080", path, "", none, none, some "10.0.0.1", some (some 8080)⟩

/-- The library with two addresses that it can split. -/
def listRuntime : Runtime :=
  { Runtime.ascii with
    sha256 := fun text => String.ofList text.toList.reverse
    urlsplit := fun url =>
      if url = "http://10.0.0.1:8080" then some (exampleParts "")
      else if url = "http://10.0.0.1:8080/" then some (exampleParts "/")
      else none }

lemma listRuntime_spec : UrlsplitSpec listRuntime := by
  have hurl : ∀ url p, listRuntime.urlsplit url = some p → ∃ path, p = exampleParts path := by
    intro url p h
    change (if url = "http://10.0.0.1:8080" then _ else if _ then _ else none) = some p at h
    split at h
    · exact ⟨_, (Option.some.inj h).symm⟩
    · split at h
      · exact ⟨_, (Option.some.inj h).symm⟩
      · cases h
  have hlast : (exampleParts "").netloc.toList.getLast? = some '0' := by decide +kernel
  constructor
  · intro url p h
    obtain ⟨path, rfl⟩ := hurl url p h
    exact (show listRuntime.lower "http" = "http" by decide +kernel)
  · intro url p h
    obtain ⟨path, rfl⟩ := hurl url p h
    have hall : ("10.0.0.1:8080".toList.all fun c => c ∉ "/?#".toList) = true := by decide +kernel
    exact fun c hc => of_decide_eq_true (List.all_eq_true.mp hall c hc)
  · intro url p n h _
    obtain ⟨path, rfl⟩ := hurl url p h
    exact ⟨'0', hlast, by decide⟩
  · intro url p h _ _
    obtain ⟨path, rfl⟩ := hurl url p h
    exact (show listRuntime.urlsplit ("http" ++ "://" ++ "10.0.0.1:8080") = some (exampleParts "")
      by decide +kernel)

/-- A list with a comment and a proxy that is named twice. -/
def exampleList : String := "# Germany\nhttp://10.0.0.1:8080#DE - 90%\nhttp://10.0.0.1:8080/#AL - 5%\n"

/-- A fetch of the list, and one that fails. -/
def exampleCalls : List RefreshCall :=
  [⟨true, 0, 1, .body (exampleList.toList.flatMap String.utf8EncodeChar)⟩,
    ⟨true, 2, 3, .failed "timed out"⟩]

/-- The proxy is there after a fetch has failed. -/
theorem last_known_good_kept : ∃ visited s,
    (repository listRuntime).Run .fresh visited [exampleList] s ∧
      s.records.values = lastGood listRuntime [exampleList] ∧
      (lastGood listRuntime [exampleList]).map Record.code = ["DE"] := by
  have hends : ∃ visited lists s, (repository listRuntime).Run .fresh visited lists s ∧
      lists = [exampleList] := Machine.exists_run exampleCalls (by decide +kernel)
  obtain ⟨_, _, _, hrun, rfl⟩ := hends
  exact ⟨_, _, hrun, ((last_known_good listRuntime_spec).1 _ _ _ hrun).1, by decide +kernel⟩

end Routing
