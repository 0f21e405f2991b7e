import LumenRelay.Routing.Entries

/-!
# What the relay reads from a URI

The parameters of a URI come back from it, whatever they are.  So over WebSocket the safe form
of a location arrives, and over Raw TCP the location that the server name stands for.
-/

namespace Routing

open Lib Py

variable {rt : Runtime} {site : Site}

/-! ## Texts without marks -/

/-- A text that starts neither a query nor a fragment. -/
def Markless (s : List Char) : Prop := '?' ∉ s ∧ '#' ∉ s

lemma Markless.append {s t : List Char} (hs : Markless s) (ht : Markless t) :
    Markless (s ++ t) := by
  simp only [Markless, List.mem_append, not_or]
  exact ⟨⟨hs.1, ht.1⟩, hs.2, ht.2⟩

lemma markless_of_forall {s : List Char} {p : Char → Prop} (h : ∀ c ∈ s, p c) (hq : ¬ p '?')
    (hf : ¬ p '#') : Markless s :=
  ⟨fun hmem => hq (h _ hmem), fun hmem => hf (h _ hmem)⟩

lemma forall_ne_of_notMem {d : Char} {s : List Char} (h : d ∉ s) :
    ∀ c ∈ s, decide (c ≠ d) = true := by
  intro c hc
  simp only [decide_eq_true_eq]
  rintro rfl
  exact h hc

/-- The query at the end of a path. -/
lemma queryOf_path {before query : List Char} (hbefore : Markless before)
    (hquery : '#' ∉ query) : queryOf (before ++ '?' :: query) = query := by
  have hhash : '#' ∉ before ++ '?' :: query := by simp [hbefore.2, hquery]
  have htake : (before ++ '?' :: query).takeWhile (fun c => decide (c ≠ '#')) =
      before ++ '?' :: query := by
    rw [← List.append_nil (before ++ '?' :: query),
      List.takeWhile_append_of_pos (forall_ne_of_notMem hhash), List.takeWhile_nil]
  rw [queryOf, htake, List.dropWhile_append_of_pos (forall_ne_of_notMem hbefore.1)]
  simp

/-- A fragment does not belong to the query. -/
lemma queryOf_fragment {s fragment : List Char} (h : '#' ∉ s) :
    queryOf (s ++ '#' :: fragment) = queryOf s := by
  have htake : ∀ t, '#' ∉ s → (s ++ t).takeWhile (fun c => decide (c ≠ '#')) =
      s ++ t.takeWhile fun c => decide (c ≠ '#') :=
    fun t h => List.takeWhile_append_of_pos (forall_ne_of_notMem h)
  have hself := htake [] h
  rw [List.append_nil] at hself
  rw [queryOf, queryOf, htake _ h, hself]
  simp

/-! ## Hosts and ports have no marks -/

lemma mem_intercalate {c d : Char} {ls : List (List Char)} (h : c ∈ [d].intercalate ls) :
    c = d ∨ ∃ l ∈ ls, c ∈ l := by
  induction ls with
  | nil => simp [List.intercalate] at h
  | cons l ls ih =>
    cases ls with
    | nil => exact .inr ⟨l, by simp, by simpa [List.intercalate] using h⟩
    | cons l' ls =>
      have hsplit : [d].intercalate (l :: l' :: ls) = l ++ d :: [d].intercalate (l' :: ls) := by
        simp [List.intercalate]
      rw [hsplit, List.mem_append, List.mem_cons] at h
      rcases h with h | h | h
      · exact .inr ⟨l, by simp, h⟩
      · exact .inl h
      · rcases ih h with h | ⟨l₀, hl₀, hc⟩
        · exact .inl h
        · exact .inr ⟨l₀, List.mem_cons_of_mem _ hl₀, hc⟩

/-- The address of a URI is not refused, so it has no mark. -/
lemma markless_of_addressRefusal {raw : String} (h : addressRefusal raw = none) :
    Markless raw.toList := by
  unfold addressRefusal at h
  split_ifs at h with h1 h2 h3 h4
  have hany : ¬ raw.toList.any (fun c => c ∈ "/?#@".toList) = true := fun hany =>
    h3 (by rw [hany, Bool.or_true])
  simp only [List.any_eq_true, not_exists, not_and] at hany
  exact ⟨fun hmem => hany _ hmem (by decide), fun hmem => hany _ hmem (by decide)⟩

/-- The form of a domain: up to 253 characters in labels. -/
def DomainName (t : String) : Prop :=
  t ≠ "" ∧ t.length ≤ 253 ∧ ∀ l ∈ splitChar '.' t, isLabel l = true

/-- The domain branch returns the lower case of the IDNA form, if that is a domain. -/
lemma normalizeDomain_eq_ok {raw t : String} : normalizeDomain rt raw = .ok t ↔
    ∃ ascii, rt.idna (rstripChar '.' raw) = some ascii ∧ rt.lower ascii = t ∧ DomainName t := by
  unfold normalizeDomain
  cases hidna : rt.idna (rstripChar '.' raw) with
  | none => simp
  | some ascii =>
    dsimp only
    generalize hdomain : rt.lower ascii = domain
    have hvalid : (domain = "" || 253 < domain.length ||
        (splitChar '.' domain).any fun x => !isLabel x) = true ↔ ¬ DomainName domain := by
      simp only [DomainName, Bool.or_eq_true, decide_eq_true_eq, List.any_eq_true,
        Bool.not_eq_true', not_and_or, not_not, not_le, not_forall, exists_prop, or_assoc,
        Bool.not_eq_true]
    by_cases hok : DomainName domain
    · rw [if_neg fun hbad => hvalid.mp hbad hok]
      constructor
      · intro h
        cases h
        exact ⟨ascii, rfl, hdomain, hok⟩
      · rintro ⟨ascii', hascii, rfl, -⟩
        obtain rfl := Option.some.inj hascii
        rw [hdomain]
    · rw [if_pos (hvalid.mpr hok)]
      constructor
      · intro h
        cases h
      · rintro ⟨ascii', hascii, rfl, hdom⟩
        obtain rfl := Option.some.inj hascii
        exact absurd (hdomain ▸ hdom) hok

/-- A domain is made of letters, digits, hyphens and dots. -/
lemma DomainName.mem {t : String} (h : DomainName t) :
    ∀ c ∈ t.toList, c = '.' ∨ c.isAlphanum ∨ c = '-' := by
  have hlabels : ∀ l ∈ t.toList.splitOn '.', ∀ c ∈ l, c.isAlphanum ∨ c = '-' := by
    intro l hl c hc
    have hlabel := h.2.2 (String.ofList l) (List.mem_map.mpr ⟨l, hl, rfl⟩)
    simp only [isLabel, Bool.and_eq_true, List.all_eq_true, Bool.or_eq_true, beq_iff_eq,
      String.toList_ofList] at hlabel
    exact hlabel.1.1.2 c hc
  intro c hc
  have hjoin : ['.'].intercalate (t.toList.splitOn '.') = t.toList := List.intercalate_splitOn '.'
  rw [← hjoin] at hc
  rcases mem_intercalate hc with hc | ⟨l, hl, hc⟩
  · exact .inl hc
  · exact .inr (hlabels l hl c hc)

/-- The text that `normalize_address` looks at. -/
def addressText (rt : Runtime) (value : Json) : String := unbracket (strip (value.text rt))

/-- An address is a literal or a domain. -/
lemma normalizeAddress_cases {value : Json} {t : String} (h : normalizeAddress rt value = .ok t) :
    addressRefusal (addressText rt value) = none ∧
      ((∃ version, rt.ipAddress (addressText rt value) = some (version, t)) ∨
        rt.ipAddress (addressText rt value) = none ∧
          normalizeDomain rt (addressText rt value) = .ok t) := by
  unfold normalizeAddress at h
  dsimp only at h
  unfold addressText
  generalize unbracket (strip (value.text rt)) = raw at h ⊢
  cases hrefusal : addressRefusal raw with
  | some message =>
    rw [hrefusal] at h
    cases h
  | none =>
    rw [hrefusal] at h
    dsimp only at h
    refine ⟨rfl, ?_⟩
    cases hip : rt.ipAddress raw with
    | some e =>
      rw [hip] at h
      cases h
      exact .inl ⟨e.1, rfl⟩
    | none =>
      rw [hip] at h
      dsimp only at h
      split at h
      · cases h
      · exact .inr ⟨rfl, h⟩

lemma markless_normalizeAddress {value : Json} {t : String}
    (h : normalizeAddress rt value = .ok t) : Markless t.toList := by
  obtain ⟨hrefusal, ⟨version, hip⟩ | ⟨-, hdomain⟩⟩ := normalizeAddress_cases h
  · have hraw := markless_of_addressRefusal hrefusal
    refine markless_of_forall (rt.ipAddress_text _ version t hip) ?_ ?_
    · rintro (hc | hc | hc)
      · exact absurd hc (by decide)
      · exact absurd hc (by decide)
      · exact hraw.1 hc
    · rintro (hc | hc | hc)
      · exact absurd hc (by decide)
      · exact absurd hc (by decide)
      · exact hraw.2 hc
  · obtain ⟨-, -, -, hdom⟩ := normalizeDomain_eq_ok.mp hdomain
    exact markless_of_forall hdom.mem (by decide) (by decide)

lemma markless_authorityHost {value : Json} {t : String} (h : authorityHost rt value = .ok t) :
    Markless t.toList := by
  obtain ⟨host, hhost, h⟩ := bind_eq_ok h
  obtain ⟨kind, -, h⟩ := bind_eq_ok h
  have hless := markless_normalizeAddress hhost
  cases kind with
  | ipv6 =>
    cases h
    have hopen : Markless "[".toList := ⟨by decide, by decide⟩
    have hclose : Markless "]".toList := ⟨by decide, by decide⟩
    simpa using (hopen.append hless).append hclose
  | ipv4 =>
    cases h
    exact hless
  | domain =>
    cases h
    exact hless

lemma markless_toString (n : ℤ) : Markless (toString n).toList := by
  refine markless_of_forall (p := fun c => c.isDigit = true ∨ c = '-') ?_ (by decide) (by decide)
  intro c hc
  cases n with
  | ofNat m =>
    have hdigits : (toString (Int.ofNat m)).toList = Nat.toDigits 10 m := by
      rw [Int.toString_eq_repr]
      simp [Int.repr]
    rw [hdigits] at hc
    exact .inl (Nat.isDigit_of_mem_toDigits (by omega) (by omega) hc)
  | negSucc m =>
    have hdigits : (toString (Int.negSucc m)).toList = '-' :: Nat.toDigits 10 (m + 1) := by
      rw [Int.toString_eq_repr]
      simp [Int.repr]
    rw [hdigits, List.mem_cons] at hc
    rcases hc with hc | hc
    · exact .inr hc
    · exact .inl (Nat.isDigit_of_mem_toDigits (by omega) (by omega) hc)

/-- The port of a URI has been compared with numbers. -/
lemma markless_port {port : Json} {inRange : Bool} (h : portInRange port = .ok inRange) :
    Markless (port.toStr rt).toList := by
  cases port with
  | bool b => cases b <;> simp [Json.toStr, Markless]
  | int n => exact markless_toString n
  | float x =>
    exact markless_of_forall (rt.repr_float x) (by decide) (by decide)
  | _ => cases h

/-! ## The parameters of a URI come back -/

lemma quoteSafe_quotes : Percent.Quotes quoteSafe := ⟨by decide, by decide, by decide⟩

lemma replaceUtf8_utf8 (rt : Runtime) (s : String) : rt.replaceUtf8 (Percent.utf8 s.toList) = s :=
  rt.replaceUtf8_encode s

lemma notMem_uriQuery {params : List (String × String)}
    (hname : ∀ p ∈ params, '#' ∉ p.1.toList) : '#' ∉ uriQuery params := by
  intro hmem
  rw [uriQuery, Percent.joinFields] at hmem
  rcases mem_intercalate hmem with h | ⟨l, hl, hc⟩
  · exact absurd h (by decide)
  · simp only [List.map_map, List.mem_map, Function.comp_apply] at hl
    obtain ⟨p, hp, rfl⟩ := hl
    rcases List.mem_append.mp hc with hc | hc
    · exact hname p hp hc
    · rcases List.mem_cons.mp hc with hc | hc
      · exact absurd hc (by decide)
      · exact Percent.notMem_quote (by decide) (by decide) (by decide) _ hc

/-- A name that a URI uses. -/
def PlainName (name : String) : Prop := ∀ c ∈ name.toList, c.isAlphanum = true

lemma PlainName.notMem {name : String} (h : PlainName name) {c : Char}
    (hc : c.isAlphanum = false) : c ∉ name.toList := fun hmem => by
  simp [h c hmem] at hc

lemma parseQuery_uriQuery {params : List (String × String)}
    (hname : ∀ p ∈ params, PlainName p.1) : parseQuery rt (uriQuery params) = params := by
  unfold parseQuery uriQuery
  rw [Percent.parseQuery_joinFields (replaceUtf8_utf8 rt)]
  · rw [List.map_map]
    conv_rhs => rw [← List.map_id params]
    refine List.map_congr_left fun p _ => ?_
    simp [Percent.unquotePlus_quote (replaceUtf8_utf8 rt) quoteSafe_quotes]
  · intro f hf c hc
    obtain ⟨p, hp, rfl⟩ := List.mem_map.mp hf
    have halnum : c.isAlphanum = true := hname p hp c hc
    simp only [Percent.isPlain, Bool.and_eq_true, decide_eq_true_eq]
    refine ⟨⟨⟨?_, ?_⟩, ?_⟩, ?_⟩ <;>
      · rintro rfl
        exact absurd halnum (by decide)
  · intro f hf
    obtain ⟨p, -, rfl⟩ := List.mem_map.mp hf
    exact Percent.notMem_quote (by decide) (by decide) (by decide) _

/-- The parameters of a URI, as a standard parser reads them. -/
lemma parseQuery_uriText {uuid authority port : String} {params : List (String × String)}
    {remark : List Char} (huuid : Markless uuid.toList) (hauthority : Markless authority.toList)
    (hport : Markless port.toList) (hname : ∀ p ∈ params, PlainName p.1) :
    parseQuery rt (queryOf (uriText uuid authority port (uriQuery params) remark).toList) =
      params := by
  have hquery : '#' ∉ uriQuery params :=
    notMem_uriQuery fun p hp => (hname p hp).notMem (by decide)
  have hscheme : Markless "vless://".toList := ⟨by decide, by decide⟩
  have hat : Markless "@".toList := ⟨by decide, by decide⟩
  have hcolon : Markless ":".toList := ⟨by decide, by decide⟩
  have hbefore : Markless ("vless://" ++ uuid ++ "@" ++ authority ++ ":" ++ port).toList := by
    simp only [String.toList_append]
    exact ((((hscheme.append huuid).append hat).append hauthority).append hcolon).append hport
  unfold uriText
  generalize "vless://" ++ uuid ++ "@" ++ authority ++ ":" ++ port = before at hbefore
  have hhash : '#' ∉ before.toList ++ '?' :: uriQuery params := by
    simp [hbefore.2, hquery]
  rw [String.toList_ofList, queryOf_fragment hhash, queryOf_path hbefore hquery,
    parseQuery_uriQuery hname]

/-! ## The transports -/

lemma get_mem {transportId : Json} {adapter : TransportAdapter}
    (h : Transports.get site transportId = .ok adapter) : adapter ∈ transports := by
  unfold Transports.get at h
  dsimp only at h
  split at h
  · rename_i found hfound
    cases h
    exact List.mem_of_find?_eq_some hfound
  · cases h

/-- The id of a transport finds it again. -/
lemma get_id {adapter : TransportAdapter} (h : adapter ∈ transports) :
    Transports.get site (.str adapter.id) = .ok adapter := by
  have hstrip : ∀ a ∈ transports.map TransportAdapter.id, strip a = a := by decide
  unfold Transports.get
  rw [Json.text_str, hstrip _ (List.mem_map_of_mem h)]
  simp only [transports, List.mem_cons, List.not_mem_nil, or_false] at h
  rcases h with rfl | rfl | rfl | rfl | rfl <;> simp [transports]

lemma requireAvailable_rawTcp {adapter : TransportAdapter} (hraw : adapter.rawTcp = true)
    (h : adapter.requireAvailable site = .ok ()) : (deployment site).ready = true := by
  unfold TransportAdapter.requireAvailable at h
  by_contra hready
  have havailable : adapter.availability site = (false, (deployment site).reason) := by
    simp [TransportAdapter.availability, hraw, rawTcpAvailability, hready]
  rw [havailable] at h
  cases h

/-! ## Location ids -/

lemma safeChar_notMark {c : Char} (h : safeChar rt c = true) :
    isSpace c = false ∧ Percent.isPlain c = true ∧ c ≠ '#' := by
  have hascii : ∀ d : Char, d.toNat < 128 → d.isAlphanum = false → d ≠ '-' → d ≠ '_' → c ≠ d := by
    rintro d hd halnum hdash hline rfl
    simp [safeChar, rt.alnum_ascii c hd, halnum, hdash, hline] at h
  refine ⟨?_, ?_, hascii '#' (by decide) (by decide) (by decide) (by decide)⟩
  · simp only [safeChar, Bool.or_eq_true, beq_iff_eq] at h
    rcases h with (h | rfl) | rfl
    · exact rt.alnum_not_space c h
    · decide
    · decide
  · simp only [Percent.isPlain, Bool.and_eq_true, decide_eq_true_eq]
    exact ⟨⟨⟨hascii '%' (by decide) (by decide) (by decide) (by decide),
      hascii '+' (by decide) (by decide) (by decide) (by decide)⟩,
      hascii '&' (by decide) (by decide) (by decide) (by decide)⟩,
      hascii '=' (by decide) (by decide) (by decide) (by decide)⟩

lemma safeChar_of_mem {value : Json} {c : Char} (h : c ∈ (safeLocationId rt value).toList) :
    safeChar rt c = true := by
  rw [safeLocationId, toList_sliceTo, toList_keepChars] at h
  exact (List.mem_filter.mp (List.mem_of_mem_take h)).2

/-- An id that was made safe stays as it is. -/
lemma safeLocationId_idem (value : Json) :
    safeLocationId rt (.str (safeLocationId rt value)) = safeLocationId rt value := by
  have hkeep : keepChars (safeChar rt) (safeLocationId rt value) = safeLocationId rt value := by
    have := List.filter_eq_self.mpr fun c (hc : c ∈ (safeLocationId rt value).toList) =>
      safeChar_of_mem hc
    rw [keepChars, this, String.ofList_toList]
  conv_lhs => rw [safeLocationId, Json.text_str, hkeep]
  rw [safeLocationId, sliceTo, sliceTo, String.toList_ofList, List.take_take, Nat.min_self]

lemma strip_safeLocationId (value : Json) :
    strip (safeLocationId rt value) = safeLocationId rt value :=
  strip_eq_self fun _ hc => (safeChar_notMark (safeChar_of_mem hc)).1

/-- A query that needs no quoting. -/
lemma parseQuery_plain {fields : List (List Char × List Char)}
    (h : ∀ f ∈ fields, f.1.all Percent.isPlain = true ∧ f.2.all Percent.isPlain = true) :
    parseQuery rt (Percent.joinFields fields) =
      fields.map fun f => (String.ofList f.1, String.ofList f.2) := by
  unfold parseQuery
  simp only [List.all_eq_true] at h
  rw [Percent.parseQuery_joinFields (replaceUtf8_utf8 rt) fun f hf => (h f hf).1]
  · refine List.map_congr_left fun f hf => ?_
    rw [Percent.unquotePlus_plain (replaceUtf8_utf8 rt) (h f hf).2]
  · intro f hf hmem
    exact absurd ((h f hf).2 _ hmem) (by decide)

/-- The path of a WebSocket request gives the safe form of the location back. -/
lemma locParam_path {uuid : String} (huuid : Markless uuid.toList) (location : Json) :
    locParam (webSocketOf rt (TransportAdapter.webSocketPath rt uuid location)) =
      safeLocationId rt location := by
  unfold TransportAdapter.webSocketPath
  dsimp only
  set safe := safeLocationId rt location
  set path := "/ws/" ++ uuid ++ "?ed=4096"
  have hbefore : Markless ("/ws/" ++ uuid).toList := by
    have hws : Markless "/ws/".toList := ⟨by decide, by decide⟩
    rw [String.toList_append]
    exact hws.append huuid
  by_cases hempty : safe = ""
  · have hquery : queryOf path.toList = Percent.joinFields [("ed".toList, "4096".toList)] := by
      have hpath : path.toList = ("/ws/" ++ uuid).toList ++ '?' :: "ed=4096".toList := by
        simp only [path, String.toList_append]
        rfl
      rw [hpath, queryOf_path hbefore (by decide)]
      rfl
    have hparse : parseQuery rt (queryOf path.toList) = [("ed", "4096")] := by
      rw [hquery, parseQuery_plain (by decide)]
      rfl
    rw [if_neg (not_not.mpr hempty), hempty]
    unfold locParam webSocketOf
    rw [hparse]
    simp
  · have hsafe : ∀ c ∈ safe.toList, Percent.isPlain c = true ∧ c ≠ '#' := fun c hc =>
      (safeChar_notMark (safeChar_of_mem hc)).2
    have hpath : (path ++ "&loc=" ++ safe).toList =
        ("/ws/" ++ uuid).toList ++ '?' :: ("ed=4096&loc=".toList ++ safe.toList) := by
      simp only [path, String.toList_append, List.append_assoc]
      rfl
    have hhash : '#' ∉ "ed=4096&loc=".toList ++ safe.toList := by
      rw [List.mem_append, not_or]
      exact ⟨by decide, fun hmem => (hsafe _ hmem).2 rfl⟩
    have hjoin : "ed=4096&loc=".toList ++ safe.toList =
        Percent.joinFields [("ed".toList, "4096".toList), ("loc".toList, safe.toList)] := by
      simp [Percent.joinFields, List.intercalate]
    have hparse : parseQuery rt (queryOf (path ++ "&loc=" ++ safe).toList) =
        [("ed", "4096"), ("loc", safe)] := by
      rw [hpath, queryOf_path hbefore hhash, hjoin, parseQuery_plain]
      · simp
      · simp only [List.mem_cons, List.not_mem_nil, or_false, forall_eq_or_imp, forall_eq]
        exact ⟨by decide, by decide, List.all_eq_true.mpr fun c hc => (hsafe c hc).1⟩
    rw [if_pos hempty]
    unfold locParam webSocketOf
    rw [hparse]
    simp

/-! ## The location that arrives -/

lemma markless_uriTarget {host : String} {fields : LinkFields} {loc : Json} {port alpn : String}
    {target : UriTarget} (hport : Markless port.toList)
    (h : uriTarget site host fields loc port alpn = .ok target) : Markless target.port.toList := by
  unfold uriTarget at h
  obtain ⟨endpoint, -, h⟩ := bind_eq_ok h
  cases endpoint with
  | some e =>
    cases h
    exact markless_toString e.2.1
  | none =>
    obtain ⟨hosts, -, h⟩ := bind_eq_ok h
    cases h
    exact hport

/-- The names of the parameters are plain. -/
lemma plainName_of_mem {name : String} (h : name ∈ ["encryption", "security", "type", "host",
    "path", "sni", "fp", "alpn"]) : PlainName name := by
  have hall : ∀ name ∈ ["encryption", "security", "type", "host", "path", "sni", "fp", "alpn"],
      name.toList.all Char.isAlphanum = true := by decide
  exact List.all_eq_true.mp (hall name h)

lemma plainName_uriParams {transport : List (String × String)} {target : UriTarget}
    {fingerprint : String} (h : ∀ p ∈ transport, PlainName p.1) :
    ∀ p ∈ uriParams transport target fingerprint, PlainName p.1 := by
  intro p hp
  simp only [uriParams, List.mem_append, List.mem_cons, List.not_mem_nil, or_false] at hp
  rcases hp with (((rfl | rfl) | hp) | rfl | rfl) | hp
  · exact plainName_of_mem (by simp)
  · exact plainName_of_mem (by simp)
  · exact h p hp
  · exact plainName_of_mem (by simp)
  · exact plainName_of_mem (by simp)
  · split at hp
    · obtain rfl := List.mem_singleton.mp hp
      exact plainName_of_mem (by simp)
    · cases hp

/-- What `generate_vless_link` puts into a URI, and how it is read. -/
lemma generateVlessLink_spec {uid host uri : String} {remark : Json} {fields : LinkFields}
    {loc : Json} (huid : Markless uid.toList)
    (h : generateVlessLink site uid host remark fields loc = .ok uri) :
    ∃ adapter target transport fingerprint port alpn settings,
      Transports.get site fields.protocol = .ok adapter ∧
        adapter.requireAvailable site = .ok () ∧
        uriTarget site host
          { fields with protocol := .str adapter.id, transportSettings := settings } loc port
            alpn = .ok target ∧
        adapter.vlessParameters site uid target.transportHost loc = .ok transport ∧
        ((∀ p ∈ transport, PlainName p.1) →
          parseQuery site.rt (queryOf uri.toList) = uriParams transport target fingerprint) := by
  unfold generateVlessLink at h
  obtain ⟨⟨protocol, settings⟩, hvalidate, h⟩ := bind_eq_ok h
  obtain ⟨adapter, hadapter, hvalidate⟩ := bind_eq_ok hvalidate
  obtain ⟨⟨⟩, havailable, hvalidate⟩ := bind_eq_ok hvalidate
  obtain ⟨settings', hsettings, hvalidate⟩ := bind_eq_ok hvalidate
  obtain ⟨rfl, rfl⟩ := Prod.mk.inj (Except.ok.inj hvalidate)
  obtain ⟨fingerprint, -, h⟩ := bind_eq_ok h
  obtain ⟨alpn, -, h⟩ := bind_eq_ok h
  obtain ⟨inRange, hrange, h⟩ := bind_eq_ok h
  obtain ⟨target, htarget, h⟩ := bind_eq_ok h
  obtain ⟨transport, htransport, h⟩ := bind_eq_ok h
  obtain ⟨authority, hauthority, h⟩ := bind_eq_ok h
  have hparams : adapter.vlessParameters site uid target.transportHost loc = .ok transport := by
    obtain ⟨adapter', hadapter', htransport⟩ := bind_eq_ok htransport
    rw [get_id (get_mem hadapter)] at hadapter'
    cases hadapter'
    obtain ⟨⟨⟩, -, htransport⟩ := bind_eq_ok htransport
    obtain ⟨settings', -, htransport⟩ := bind_eq_ok htransport
    exact htransport
  refine ⟨adapter, target, transport,
    if fingerprint ∈ fingerprints then fingerprint else defaultFingerprint, _, _, _, hadapter,
    havailable, htarget, hparams, ?_⟩
  intro hnames
  cases remark with
  | str remark =>
    dsimp only at h
    obtain rfl := Except.ok.inj h
    have hport : Markless ((if inRange = true then fields.port.or (.int defaultPort)
        else .int defaultPort).toStr site.rt).toList := by
      split
      · exact markless_port hrange
      · exact markless_toString _
    exact parseQuery_uriText huid (markless_authorityHost hauthority)
      (markless_uriTarget hport htarget) (plainName_uriParams hnames)
  | _ => exact absurd h (throw_ne_ok _ _)

/-- Whether the transport of a link is Raw TCP. -/
def isRawTcp (site : Site) (link : Obj) : Prop :=
  ∃ adapter, Transports.get site (link.getD "protocol" (.str defaultProtocol)) = .ok adapter ∧
    adapter.rawTcp = true

/-- Over WebSocket the safe form of a location arrives. -/
lemma arrivingLocation_webSocket {link : Obj} {uid host uri : String} {remark : Json} {loc : Json}
    (huid : Markless uid.toList) (hraw : ¬ isRawTcp site link)
    (h : generateVlessLink site uid host remark (linkFields link) loc = .ok uri) :
    arrivingLocation site uri = some (safeLocationId site.rt loc) := by
  obtain ⟨adapter, target, transport, fingerprint, port, alpn, settings, hadapter, -, -, hparams,
    hparse⟩ := generateVlessLink_spec huid h
  have hws : adapter.rawTcp = false := by
    by_contra hrawTcp
    exact hraw ⟨adapter, hadapter, by simpa using hrawTcp⟩
  unfold TransportAdapter.vlessParameters at hparams
  obtain ⟨⟨⟩, -, hparams⟩ := bind_eq_ok hparams
  dsimp only at hparams
  rw [hws, if_neg (by simp)] at hparams
  split at hparams
  · exact absurd hparams (throw_ne_ok _ _)
  obtain rfl := Except.ok.inj hparams
  unfold arrivingLocation
  rw [hparse]
  · simp [uriParams, List.lookup_cons, locParam_path huid]
  · simp only [List.mem_cons, List.not_mem_nil, or_false, forall_eq_or_imp, forall_eq]
    exact ⟨plainName_of_mem (by simp), plainName_of_mem (by simp), plainName_of_mem (by simp)⟩

/-- Over Raw TCP the location arrives that the server name of its entry stands for. -/
lemma arrivingLocation_rawTcp {link : Obj} {uid host uri : String} {remark : Json} {loc : Json}
    (huid : Markless uid.toList) (hraw : isRawTcp site link)
    (h : generateVlessLink site uid host remark (linkFields link) loc = .ok uri) :
    ∃ publicHost publicPort name,
      (deployment site).endpointForLocation site.rt loc = .ok (publicHost, publicPort, name) ∧
        (deployment site).ready = true ∧
        arrivingLocation site uri = (deployment site).locationForSni site.rt name := by
  obtain ⟨adapter, target, transport, fingerprint, port, alpn, settings, hadapter, havailable,
    htarget, hparams, hparse⟩ := generateVlessLink_spec huid h
  have hrawTcp : adapter.rawTcp = true := by
    obtain ⟨adapter', hadapter', hrawTcp⟩ := hraw
    have heq := Except.ok.inj (hadapter'.symm.trans hadapter)
    rwa [heq] at hrawTcp
  have hready := requireAvailable_rawTcp hrawTcp havailable
  unfold TransportAdapter.vlessParameters at hparams
  obtain ⟨⟨⟩, -, hparams⟩ := bind_eq_ok hparams
  dsimp only at hparams
  rw [hrawTcp, if_pos rfl] at hparams
  obtain rfl := Except.ok.inj hparams
  unfold uriTarget at htarget
  obtain ⟨endpoint, hendpoint, htarget⟩ := bind_eq_ok htarget
  obtain ⟨adapter', hadapter', hendpoint⟩ := bind_eq_ok hendpoint
  have hsame := Except.ok.inj ((get_id (get_mem hadapter)).symm.trans hadapter')
  subst hsame
  dsimp only at hendpoint
  rw [hrawTcp, if_neg (by simp)] at hendpoint
  obtain ⟨⟨⟩, -, hendpoint⟩ := bind_eq_ok hendpoint
  obtain ⟨⟨publicHost, publicPort, name⟩, hmapped, hendpoint⟩ := bind_eq_ok hendpoint
  cases hendpoint
  cases htarget
  refine ⟨publicHost, publicPort, name, ?_, hready, ?_⟩
  · unfold RawTCPAdapter.endpoint at hmapped
    split at hmapped
    · cases hmapped
    · split at hmapped
      · cases hmapped
      · exact hmapped
  · have hnetwork := (deployment_sound site hready).uriNetwork
    have htype : (deployment site).uriNetwork ≠ "ws" := by
      rcases hnetwork with h | h <;> simp [h]
    unfold arrivingLocation
    rw [hparse]
    · simp [uriParams, List.lookup_cons, htype]
    · simp only [List.mem_cons, List.not_mem_nil, or_false, forall_eq]
      exact plainName_of_mem (by simp)

end Routing
