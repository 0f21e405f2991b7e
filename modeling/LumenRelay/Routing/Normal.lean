import LumenRelay.Py.Text
import LumenRelay.Routing.Uris

/-!
# Normal forms of addresses and server names

What `normalize_address` and `normalize_sni` return is stored and normalised again at every use.
It is its own normal form, but for a name of four groups of digits: such a name is refused in the
text that comes in, and it is let through when the text has the shape only after the dots at its
end are gone and its other full stops are mapped.
-/

namespace Routing

open Lib Py

variable {rt : Runtime} {site : Site}

/-! ## Plain texts -/

/-- The characters of literals and domains. -/
def PlainChar (c : Char) : Prop := c.isAlphanum = true ∨ c = '-' ∨ c = ':' ∨ c = '.'

lemma PlainChar.not_space {c : Char} (h : PlainChar c) : isSpace c = false := by
  rcases h with h | rfl | rfl | rfl
  · exact alphanum_not_space c h
  · decide
  · decide
  · decide

lemma PlainChar.ascii {c : Char} (h : PlainChar c) : c.toNat < 128 := by
  rcases h with h | rfl | rfl | rfl
  · have := alphanum_range h
    omega
  · decide
  · decide
  · decide

lemma DomainName.plain {t : String} (h : DomainName t) : ∀ c ∈ t.toList, PlainChar c := by
  intro c hc
  rcases h.mem c hc with hc | hc | hc
  · exact .inr (.inr (.inr hc))
  · exact .inl hc
  · exact .inr (.inl hc)

lemma unbracket_plain {t : String} (h : ∀ c ∈ t.toList, PlainChar c) : unbracket t = t := by
  unfold unbracket
  split
  · rename_i l hl
    exact absurd (h '[' (by rw [hl]; exact List.mem_cons_self)) (by unfold PlainChar; decide)
  · rfl

lemma addressRefusal_plain {t : String} (hne : t ≠ "") (hlen : t.length ≤ 253)
    (h : ∀ c ∈ t.toList, PlainChar c) : addressRefusal t = none := by
  have hno : ∀ d, ¬ PlainChar d → d ∉ t.toList := fun d hd hmem => hd (h d hmem)
  have hspace : t.toList.any isSpace = false :=
    List.any_eq_false.mpr fun c hc => by simp [(h c hc).not_space]
  have hscheme : ¬ "://".toList <:+: t.toList := fun hin =>
    hno '/' (by unfold PlainChar; decide) (hin.subset (by decide))
  have hmark : t.toList.any (fun c => c ∈ "/?#@".toList) = false := by
    refine List.any_eq_false.mpr fun c hc hbad => ?_
    have hmem : c = '/' ∨ c = '?' ∨ c = '#' ∨ c = '@' := by simpa using hbad
    rcases hmem with rfl | rfl | rfl | rfl <;>
      exact hno _ (by unfold PlainChar; decide) hc
  have hzone : '%' ∉ t.toList := hno '%' (by unfold PlainChar; decide)
  unfold addressRefusal
  rw [if_neg hne, hspace, hmark, if_neg (by simpa using hlen), if_neg (by simpa using hscheme),
    if_neg hzone]

/-- A plain text goes through the checks as it is. -/
lemma normalizeAddress_plain {t : String} (hne : t ≠ "") (hlen : t.length ≤ 253)
    (h : ∀ c ∈ t.toList, PlainChar c) :
    normalizeAddress rt (.str t) =
      match rt.ipAddress t with
      | some (_, compressed) => .ok compressed
      | none =>
        if ipv4Shape rt t then .error (.valueError "IPv4 نامعتبر است") else normalizeDomain rt t := by
  have hraw : unbracket (strip ((Json.str t).text rt)) = t := by
    rw [Json.text_str, strip_eq_self fun c hc => (h c hc).not_space, unbracket_plain h]
  unfold normalizeAddress
  cases hip : rt.ipAddress t <;> simp only [hraw, addressRefusal_plain hne hlen h, hip]

/-! ## Domains -/

/-- No dot stands at the end of a domain. -/
lemma DomainName.rstripChar_eq {t : String} (h : DomainName t) : rstripChar '.' t = t := by
  have hrev : t.toList.reverse.dropWhile (· == '.') = t.toList.reverse := by
    cases hl : t.toList.reverse with
    | nil => rfl
    | cons c l =>
      refine List.dropWhile_cons_of_neg ?_
      intro hc
      obtain rfl : c = '.' := by simpa using hc
      -- an empty label would follow the dot
      have hlist : t.toList = l.reverse ++ '.' :: [] := by
        rw [← List.reverse_reverse t.toList, hl, List.reverse_cons]
      have hempty : "" ∈ splitChar '.' t := by
        rw [splitChar, hlist, List.splitOn, List.splitOnP_append_cons _ _ (by simp)]
        simp
      exact absurd (h.2.2 "" hempty) (by decide)
  rw [rstripChar, hrev, List.reverse_reverse, String.ofList_toList]

/-- A domain is its own domain. -/
lemma normalizeDomain_self (spec : NameSpec rt) {raw t : String}
    (h : normalizeDomain rt raw = .ok t) : normalizeDomain rt t = .ok t := by
  obtain ⟨ascii, hidna, rfl, hdom⟩ := normalizeDomain_eq_ok.mp h
  have hascii : ∀ c ∈ (rt.lower ascii).toList, c.toNat < 128 := fun c hc =>
    (hdom.plain c hc).ascii
  have hlower := spec.lower_lower (spec.idna_ascii _ _ hidna) hascii
  have hlabel : ∀ l ∈ splitChar '.' (rt.lower ascii), l ≠ "" ∧ l.length < 64 := by
    intro l hl
    have hform := hdom.2.2 l hl
    simp only [isLabel, Bool.and_eq_true, decide_eq_true_eq, String.length_toList] at hform
    refine ⟨?_, by omega⟩
    rintro rfl
    simp at hform
  refine normalizeDomain_eq_ok.mpr ⟨rt.lower ascii, ?_, hlower, hdom⟩
  rw [hdom.rstripChar_eq]
  exact spec.idna_self _ hascii hlabel

/-! ## Numeric names -/

/-- A name that becomes four groups of digits, but no address, when its last dots are dropped and
its full stops are mapped. -/
def numericName (rt : Runtime) (value : Json) : Bool :=
  let raw := addressText rt value
  (rt.ipAddress raw).isNone &&
    match rt.idna (rstripChar '.' raw) with
    | none => false
    | some ascii => ipv4Shape rt ascii && (rt.ipAddress ascii).isNone

/-- The characters of four groups of digits. -/
lemma mem_ipv4Shape (spec : NameSpec rt) {s : String} (hs : ∀ c ∈ s.toList, c.toNat < 128)
    (h : ipv4Shape rt s = true) : ∀ c ∈ s.toList, c = '.' ∨ c.isDigit = true := by
  simp only [ipv4Shape, Bool.and_eq_true, List.all_eq_true] at h
  intro c hc
  have hjoin : ['.'].intercalate (s.toList.splitOn '.') = s.toList := List.intercalate_splitOn '.'
  have hmem := hc
  rw [← hjoin] at hmem
  rcases mem_intercalate hmem with hdot | ⟨l, hl, hcl⟩
  · exact .inl hdot
  · have hdigits := (h.2 (String.ofList l) (List.mem_map.mpr ⟨l, hl, rfl⟩)).2
    rw [String.toList_ofList] at hdigits
    rw [← spec.digit_ascii c (hs c hc)]
    exact .inr (hdigits c hcl)

lemma toLower_eq_self {c : Char} (h : c = '.' ∨ c.isDigit = true) : c.toLower = c := by
  have hn : c.val.toNat ≤ 57 := by
    rcases h with rfl | h
    · decide
    · simp only [Char.isDigit, Bool.and_eq_true, decide_eq_true_eq, UInt32.le_iff_toNat_le] at h
      exact h.2
  delta Char.toLower
  rw [dif_neg]
  rintro ⟨hge, -⟩
  simp only [UInt32.le_iff_toNat_le, ge_iff_le, seval] at hge
  omega

/-- No capital becomes a digit or a dot. -/
lemma eq_of_toLower {c : Char} (h : c.toLower = '.' ∨ c.toLower.isDigit = true) : c.toLower = c := by
  have hn : c.toLower.val.toNat ≤ 57 := by
    rcases h with h | h
    · rw [h]
      decide
    · simp only [Char.isDigit, Bool.and_eq_true, decide_eq_true_eq, UInt32.le_iff_toNat_le] at h
      exact h.2
  delta Char.toLower at hn ⊢
  split
  · rename_i hupper
    rw [dif_pos hupper] at hn
    simp only [UInt32.le_iff_toNat_le, UInt32.toNat_add, ge_iff_le, seval] at hupper hn
    omega
  · rfl

/-- The case of letters has nothing to do with the shape. -/
lemma lower_of_shape (spec : NameSpec rt) {s : String} (hs : ∀ c ∈ s.toList, c.toNat < 128)
    (hlow : ∀ c ∈ (rt.lower s).toList, c.toNat < 128)
    (h : ipv4Shape rt s = true ∨ ipv4Shape rt (rt.lower s) = true) : rt.lower s = s := by
  refine spec.lower_eq_self hs fun c hc => ?_
  rcases h with h | h
  · exact toLower_eq_self (mem_ipv4Shape spec hs h c hc)
  · refine eq_of_toLower (mem_ipv4Shape spec hlow h c.toLower ?_)
    rw [spec.lower_ascii s hs, String.toList_ofList]
    exact List.mem_map_of_mem hc

lemma numericName_eq_true (spec : NameSpec rt) {value : Json} {t : String}
    (hraw : rt.ipAddress (addressText rt value) = none)
    (hdomain : normalizeDomain rt (addressText rt value) = .ok t) :
    numericName rt value = true ↔ ipv4Shape rt t = true ∧ rt.ipAddress t = none := by
  obtain ⟨ascii, hidna, rfl, hdom⟩ := normalizeDomain_eq_ok.mp hdomain
  have hascii := spec.idna_ascii _ _ hidna
  have hlow := lower_of_shape spec hascii fun c hc => (hdom.plain c hc).ascii
  unfold numericName
  dsimp only
  rw [hraw, hidna]
  simp only [Option.isNone_none, Bool.true_and, Bool.and_eq_true, Option.isNone_iff_eq_none]
  constructor
  · rintro ⟨hshape, hip⟩
    rw [hlow (.inl hshape)]
    exact ⟨hshape, hip⟩
  · rintro ⟨hshape, hip⟩
    have hsame := hlow (.inr hshape)
    rw [hsame] at hshape hip
    exact ⟨hshape, hip⟩

/-! ## The second time -/

/-- What is normalised again stays as it is, but for a numeric name, which is refused. -/
lemma normalizeAddress_again (spec : NameSpec rt) {value : Json} {t : String}
    (h : normalizeAddress rt value = .ok t) :
    normalizeAddress rt (.str t) =
      if numericName rt value then .error (.valueError "IPv4 نامعتبر است") else .ok t := by
  obtain ⟨hrefusal, ⟨version, hip⟩ | ⟨hraw, hdomain⟩⟩ := normalizeAddress_cases h
  · have hzone : '%' ∉ (addressText rt value).toList := by
      intro hmem
      unfold addressRefusal at hrefusal
      split_ifs at hrefusal
    obtain ⟨hne, hlen, hchars⟩ := spec.plain _ _ _ hip hzone
    have hliteral : numericName rt value = false := by
      unfold numericName
      dsimp only
      rw [hip]
      rfl
    have hplain : ∀ c ∈ t.toList, PlainChar c := by
      intro c hc
      rcases hchars c hc with hc | hc | hc
      · exact .inl hc
      · exact .inr (.inr (.inl hc))
      · exact .inr (.inr (.inr hc))
    rw [normalizeAddress_plain hne (by omega) hplain, spec.again _ _ _ hip, hliteral]
    rfl
  · obtain ⟨-, -, -, hdom⟩ := normalizeDomain_eq_ok.mp hdomain
    have hnumeric := numericName_eq_true spec hraw hdomain
    rw [normalizeAddress_plain hdom.1 hdom.2.1 hdom.plain]
    cases hip : rt.ipAddress t with
    | some e =>
      have hcolon : ':' ∉ t.toList := fun hmem => by
        rcases hdom.mem _ hmem with hc | hc | hc
        · exact absurd hc (by decide)
        · exact absurd hc (by decide)
        · exact absurd hc (by decide)
      have hself := spec.dotted t e.1 e.2 hip hcolon
      have hliteral : ¬ numericName rt value = true := by
        intro hnum
        rw [(hnumeric.mp hnum).2] at hip
        cases hip
      dsimp only
      rw [hself, if_neg hliteral]
    | none =>
      dsimp only
      by_cases hshape : ipv4Shape rt t = true
      · rw [if_pos hshape, if_pos (hnumeric.mpr ⟨hshape, hip⟩)]
      · rw [if_neg hshape, if_neg fun hnum => hshape (hnumeric.mp hnum).1]
        exact normalizeDomain_self spec hdomain

/-! ## Stored addresses and names -/

/-- The text that an address normalises to is accepted again, unchanged and of the same kind. -/
def AddressStable (rt : Runtime) (value : Json) (t : String) : Prop :=
  normalizeAddress rt (.str t) = .ok t ∧
    ∃ kind, addressKind rt value = .ok kind ∧ addressKind rt (.str t) = .ok kind

/-- The address that a link dials: its own, or the one of the service. -/
def dialAddress (rt : Runtime) (address : Json) (service : String) : Except PyErr String :=
  if hasText rt address then normalizeAddress rt address else .ok service

/-- A stored server name is no address, and every use of it finds the name again: the next
normalisation, the hosts of a link, its URI and the map of the Raw TCP listener. -/
structure SniStable (site : Site) (name : String) : Prop where
  domain : site.rt.ipAddress name = none
  again : normalizeSni site.rt (.str name) = .ok name
  hosts : ∀ address service host chosen, normalizeAddress site.rt service = .ok host →
    dialAddress site.rt address host = .ok chosen →
    linkHosts site.rt address (.str name) service = .ok (chosen, name)
  uri : ∀ (host service chosen : String) (fields : LinkFields) (loc : Json) (port alpn : String),
    fields.sni = .str name →
    Transports.endpoint site fields.protocol fields.address fields.port fields.sni loc = .ok none →
    normalizeAddress site.rt (.str host) = .ok service →
    dialAddress site.rt fields.address service = .ok chosen →
    uriTarget site host fields loc port alpn = .ok ⟨chosen, port, name, service, alpn⟩
  lookup : ∀ (d : RawTCPDeployment) names, d.sniLocations = some names →
    d.locationForSni site.rt name = names.get? name

/-- The server name of a value is its address, if that is no literal. -/
lemma normalizeSni_eq_ok {value : Json} {name : String} : normalizeSni rt value = .ok name ↔
    normalizeAddress rt value = .ok name ∧ rt.ipAddress name = none := by
  constructor
  · intro h
    obtain ⟨t, ht, h⟩ := bind_eq_ok h
    cases hip : rt.ipAddress t with
    | some e =>
      rw [hip] at h
      cases h
    | none =>
      rw [hip] at h
      cases h
      exact ⟨ht, hip⟩
  · rintro ⟨ht, hip⟩
    unfold normalizeSni
    rw [ht, ok_bind, hip]
    rfl

/-- The kind of an address depends on its normal form only. -/
lemma addressKind_eq {value : Json} {t : String} (h : normalizeAddress rt value = .ok t) :
    ∃ kind, addressKind rt value = .ok kind ∧
      ∀ value', normalizeAddress rt value' = .ok t → addressKind rt value' = .ok kind := by
  have hkind : ∀ value', normalizeAddress rt value' = .ok t → addressKind rt value' =
      match rt.ipAddress t with
      | some (version, _) => .ok (if version = 6 then .ipv6 else .ipv4)
      | none => .ok .domain := by
    intro value' h'
    unfold addressKind
    rw [h', ok_bind]
    rfl
  cases hip : rt.ipAddress t with
  | some e =>
    rw [hip] at hkind
    exact ⟨_, hkind value h, hkind⟩
  | none =>
    rw [hip] at hkind
    exact ⟨_, hkind value h, hkind⟩

lemma hasText_of_normalizeAddress {t t' : String} (h : normalizeAddress rt (.str t) = .ok t') :
    hasText rt (.str t) = true := by
  unfold hasText
  by_contra hempty
  have hstrip : strip ((Json.str t).text rt) = "" := by simpa using hempty
  unfold normalizeAddress at h
  rw [hstrip] at h
  cases h

/-- A name that is normalised to itself is found wherever it is used. -/
lemma sniStable_of_again {name : String} (h : normalizeSni site.rt (.str name) = .ok name) :
    SniStable site name := by
  obtain ⟨haddress, hip⟩ := normalizeSni_eq_ok.mp h
  have htext := hasText_of_normalizeAddress haddress
  have hhosts : ∀ address service host chosen, normalizeAddress site.rt service = .ok host →
      dialAddress site.rt address host = .ok chosen →
      linkHosts site.rt address (.str name) service = .ok (chosen, name) := by
    intro address service host chosen hservice hchosen
    unfold linkHosts
    rw [hservice, ok_bind]
    dsimp only
    unfold dialAddress at hchosen
    by_cases hown : hasText site.rt address = true
    · rw [if_pos hown] at hchosen ⊢
      rw [hchosen, ok_bind, if_pos htext, h]
      rfl
    · rw [if_neg hown] at hchosen ⊢
      cases hchosen
      rw [pure_bind, if_pos htext, h]
      rfl
  refine ⟨hip, h, hhosts, ?_, ?_⟩
  · intro host service chosen fields loc port alpn hsni hendpoint hservice hchosen
    unfold uriTarget
    rw [hendpoint, ok_bind, hsni]
    dsimp only
    rw [hhosts _ _ _ _ hservice hchosen, ok_bind, hservice]
    rfl
  · intro d names hnames
    unfold RawTCPDeployment.locationForSni
    rw [hnames, h]

/-- An accepted address is stable, and so is an accepted server name, exactly when the text that
came in is no numeric name. -/
theorem normal_forms_stable (site : Site) (spec : NameSpec site.rt) (value : Json) (t : String)
    (h : normalizeAddress site.rt value = .ok t) :
    (AddressStable site.rt value t ↔ numericName site.rt value = false) ∧
      ∀ name, normalizeSni site.rt value = .ok name →
        (SniStable site name ↔ numericName site.rt value = false) := by
  have hagain := normalizeAddress_again spec h
  have hself : normalizeAddress site.rt (.str t) = .ok t ↔ numericName site.rt value = false := by
    rw [hagain]
    cases numericName site.rt value with
    | false => simp
    | true => simp
  constructor
  · constructor
    · exact fun hstable => hself.mp hstable.1
    · intro hnum
      obtain ⟨kind, hkind, hall⟩ := addressKind_eq h
      exact ⟨hself.mpr hnum, kind, hkind, hall _ (hself.mpr hnum)⟩
  · intro name hname
    obtain ⟨hname, hip⟩ := normalizeSni_eq_ok.mp hname
    obtain rfl : t = name := Except.ok.inj (h.symm.trans hname)
    constructor
    · exact fun hstable => hself.mp (normalizeSni_eq_ok.mp hstable.again).1
    · exact fun hnum => sniStable_of_again (normalizeSni_eq_ok.mpr ⟨hself.mpr hnum, hip⟩)

/-! ## Two names -/

/-- The library on ASCII names that are no addresses. -/
def asciiNames : Runtime :=
  { Runtime.ascii with
    idna := fun s => if s.toList.all (fun c => decide (c.toNat < 128)) then some s else none }

lemma asciiNames_spec : NameSpec asciiNames where
  again _ _ _ h := nomatch h
  plain _ _ _ h := nomatch h
  dotted _ _ _ h := nomatch h
  idna_ascii s t h := by
    have hidna : (if s.toList.all (fun c => decide (c.toNat < 128)) then some s else none) =
        some t := h
    split_ifs at hidna with hall
    obtain rfl := Option.some.inj hidna
    intro c hc
    simpa using List.all_eq_true.mp hall c hc
  idna_self s hs _ := if_pos (List.all_eq_true.mpr fun c hc => by simpa using hs c hc)
  lower_ascii _ _ := rfl
  digit_ascii c _ := by
    show (if c.isDigit then some (c.toNat - 48) else none).isSome = c.isDigit
    cases c.isDigit with
    | false => rfl
    | true => rfl

/-- A name in capitals with the dot of the root. -/
theorem normal_forms_stable_example :
    AddressStable asciiNames (.str "Example.COM.") "example.com" ∧
      SniStable (.bare asciiNames) "example.com" := by
  have h := normal_forms_stable (.bare asciiNames) asciiNames_spec (.str "Example.COM.")
    "example.com" (by decide +kernel)
  have hnum : numericName asciiNames (.str "Example.COM.") = false := by decide +kernel
  exact ⟨h.1.mpr hnum, (h.2 "example.com" (by decide +kernel)).mpr hnum⟩

/-- With the dot of the root, four groups of digits that are no address are let through as a
domain, which is refused without it. -/
theorem numeric_name_refused_again :
    normalizeAddress asciiNames (.str "256.1.1.1.") = .ok "256.1.1.1" ∧
      normalizeSni asciiNames (.str "256.1.1.1.") = .ok "256.1.1.1" ∧
      ¬ AddressStable asciiNames (.str "256.1.1.1.") "256.1.1.1" ∧
      ¬ SniStable (.bare asciiNames) "256.1.1.1" := by
  have hrefused : normalizeAddress asciiNames (.str "256.1.1.1") =
      .error (.valueError "IPv4 نامعتبر است") := by decide +kernel
  refine ⟨by decide +kernel, by decide +kernel, ?_, ?_⟩
  · intro hstable
    exact absurd (hrefused.symm.trans hstable.1) nofun
  · intro hstable
    have hagain := (normalizeSni_eq_ok.mp hstable.again).1
    exact absurd (hrefused.symm.trans hagain) nofun

end Routing
