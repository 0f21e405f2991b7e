import LumenRelay.Routing.Normal
import LumenRelay.Routing.RoundTrip
import LumenRelay.Py.Sample

/-!
# The map of server names, in both directions

A Raw TCP deployment gives a location its server name and a server name its location.  The way
back normalises the name again, so it ends at a numeric name; the way there starts from the safe
form of the location, so it takes every id with that safe form for it.
-/

namespace Routing

open Lib Py

variable {rt : Runtime} {site : Site}

/-! ## What a map that was read holds -/

/-- The map of a deployment that is ready: the locations are in their safe form, the names are
normal forms, and no location has two names. -/
structure SniMap (rt : Runtime) (names : Dict String String) : Prop where
  safe : SafeNames rt names
  normal : ∀ name location, names.get? name = some location →
    ∃ value, normalizeSni rt value = .ok name
  alone : ∀ name name' location, location ≠ "" → names.get? name = some location →
    names.get? name' = some location → name = name'

lemma SniMap.empty (rt : Runtime) : SniMap rt Dict.empty where
  safe name location h := by simp at h
  normal name location h := by simp at h
  alone name name' location _ h := by simp at h

/-- One entry is added under a new name, with a location that no other name has. -/
lemma SniMap.addSniEntry {names names' : Dict String String} {entry : String × Json}
    (hmap : SniMap rt names) (h : addSniEntry rt names entry = some names') : SniMap rt names' := by
  have hsafe := safeNames_addSniEntry hmap.safe h
  unfold Routing.addSniEntry at h
  split at h
  · cases h
  rename_i new hnew
  dsimp only at h
  split_ifs at h with hempty htaken hused
  obtain rfl := Option.some.inj h
  -- a location that has a name already is not the one of the entry
  have hfresh : ∀ name location, location ≠ "" → names.get? name = some location →
      location ≠ safeLocationId rt entry.2 := by
    rintro name location hne hget rfl
    exact htaken ⟨hne, Dict.mem_values_iff.mpr ⟨name, hget⟩⟩
  refine ⟨hsafe, ?_, ?_⟩
  · intro name location hget
    rw [Dict.get?_set] at hget
    split_ifs at hget with hname
    · exact ⟨_, hname ▸ hnew⟩
    · exact hmap.normal name location hget
  · intro name name' location hne hget hget'
    rw [Dict.get?_set] at hget hget'
    split_ifs at hget hget' with hname hname' hname'
    · rw [hname, hname']
    · exact absurd (Option.some.inj hget).symm (hfresh _ _ hne hget')
    · exact absurd (Option.some.inj hget').symm (hfresh _ _ hne hget)
    · exact hmap.alone name name' location hne hget hget'

lemma parseSniMap_spec {rawMap defaultName : String} {names : Dict String String}
    {defaultSni : String} (h : parseSniMap rt rawMap defaultName = some (names, defaultSni)) :
    SniMap rt names ∧ names.get? defaultSni = some "" := by
  unfold parseSniMap at h
  split at h
  · obtain ⟨names', hnames, h⟩ := Option.bind_eq_some_iff.mp h
    obtain ⟨defaultSni', -, h⟩ := Option.bind_eq_some_iff.mp h
    split_ifs at h with hdefault
    obtain ⟨rfl, rfl⟩ := Prod.mk.inj (Option.some.inj h)
    exact ⟨foldlM_addSniEntry (fun _ _ _ => SniMap.addSniEntry) (.empty rt) hnames, hdefault⟩
  · cases h

/-- A server name is its own normal form unless it has the shape of an IPv4 address. -/
lemma normalizeSni_again (spec : NameSpec rt) {value : Json} {name : String}
    (h : normalizeSni rt value = .ok name) :
    normalizeSni rt (.str name) = .ok name ↔ ipv4Shape rt name = false := by
  obtain ⟨haddress, hip⟩ := normalizeSni_eq_ok.mp h
  rw [normalizeSni_eq_ok, normalizeAddress_again spec haddress]
  obtain ⟨-, ⟨version, hliteral⟩ | ⟨hraw, hdomain⟩⟩ := normalizeAddress_cases haddress
  · rw [spec.again _ _ _ hliteral] at hip
    cases hip
  · have hnumeric := numericName_eq_true spec hraw hdomain
    cases hshape : ipv4Shape rt name with
    | true =>
      rw [if_pos (hnumeric.mpr ⟨hshape, hip⟩)]
      simp
    | false =>
      rw [if_neg fun hnum => by simp [(hnumeric.mp hnum).1] at hshape]
      simp [hip]

/-! ## There -/

/-- The only pair of a dictionary that passes a test. -/
lemma filter_entries {d : Dict String String} {p : String × String → Bool} {k v : String}
    (hget : d.get? k = some v) (hp : p (k, v) = true)
    (honly : ∀ k' v', d.get? k' = some v' → p (k', v') = true → k' = k) :
    d.entries.filter p = [(k, v)] := by
  have hnodup : (d.entries.filter p).Nodup := (List.Nodup.of_map Prod.fst d.nodup).filter p
  refine List.perm_singleton.mp ((List.perm_ext_iff_of_nodup hnodup (by simp)).mpr ?_)
  rintro ⟨k', v'⟩
  rw [List.mem_filter, List.mem_singleton, Dict.mem_entries_iff]
  constructor
  · rintro ⟨hget', hp'⟩
    obtain rfl := honly k' v' hget' hp'
    rw [Option.some.inj (hget'.symm.trans hget)]
  · intro heq
    obtain ⟨rfl, rfl⟩ := Prod.mk.inj heq
    exact ⟨hget, hp⟩

variable {d : RawTCPDeployment} {names : Dict String String}

/-- What a deployment that is ready answers. -/
lemma endpointForLocation_eq (hready : d.ready = true) (hnames : d.sniLocations = some names)
    (hne : names.entries.isEmpty = false) (loc : Json) :
    d.endpointForLocation rt loc =
      if safeLocationId rt loc = "" then .ok (d.publicHost, d.publicPort, d.defaultSni)
      else
        match names.entries.filter fun e => e.2 = safeLocationId rt loc with
        | [(name, _)] => .ok (d.publicHost, d.publicPort, name)
        | _ => .error (.valueError "Raw TCP has no verified SNI profile for the selected location") := by
  unfold RawTCPDeployment.endpointForLocation
  rcases hfound : names.entries.filter fun e => e.2 = safeLocationId rt loc with
    _ | ⟨⟨name, _⟩, _ | ⟨other, rest⟩⟩ <;> simp [hnames, hready, hne, hfound]

/-- A location of the map has its only name. -/
lemma endpointForLocation_of_get? (hready : d.ready = true) (hnames : d.sniLocations = some names)
    (hmap : SniMap rt names) {loc : Json} {name : String}
    (hget : names.get? name = some (safeLocationId rt loc)) (hne : safeLocationId rt loc ≠ "") :
    d.endpointForLocation rt loc = .ok (d.publicHost, d.publicPort, name) := by
  have hnonempty : names.entries.isEmpty = false := by
    simpa using List.ne_nil_of_mem (Dict.mem_entries_iff.mpr hget)
  have hfilter : names.entries.filter (fun e => e.2 = safeLocationId rt loc) =
      [(name, safeLocationId rt loc)] := by
    refine filter_entries hget (by simp) fun name' location hget' hlocation => ?_
    obtain rfl : location = safeLocationId rt loc := by simpa using hlocation
    exact hmap.alone name' name _ hne hget' hget
  rw [endpointForLocation_eq hready hnames hnonempty, if_neg hne, hfilter]

/-- No endpoint is given when the safe form is neither empty nor in the map. -/
lemma endpointForLocation_error (hready : d.ready = true) (hnames : d.sniLocations = some names)
    (hmap : SniMap rt names) (hnonempty : names.entries.isEmpty = false) (loc : Json) :
    (∃ e, d.endpointForLocation rt loc = .error e) ↔
      safeLocationId rt loc ≠ "" ∧ safeLocationId rt loc ∉ names.values := by
  by_cases hne : safeLocationId rt loc = ""
  · rw [endpointForLocation_eq hready hnames hnonempty, if_pos hne]
    simp [hne]
  by_cases hmem : safeLocationId rt loc ∈ names.values
  · obtain ⟨name, hget⟩ := Dict.mem_values_iff.mp hmem
    rw [endpointForLocation_of_get? hready hnames hmap hget hne]
    simp [hmem]
  · have hfilter : names.entries.filter (fun e => e.2 = safeLocationId rt loc) = [] := by
      refine List.filter_eq_nil_iff.mpr fun e he hlocation => hmem ?_
      obtain ⟨name, location⟩ := e
      obtain rfl : location = safeLocationId rt loc := by simpa using hlocation
      exact Dict.mem_values_iff.mpr ⟨name, Dict.mem_entries_iff.mp he⟩
    rw [endpointForLocation_eq hready hnames hnonempty, if_neg hne, hfilter]
    simp [hne, hmem]

/-! ## There and back -/

/-- The map is right for a location: no location is what the default name stands for, a location
of the map comes back from its endpoint, and any other location has no endpoint. -/
def InvertibleAt (rt : Runtime) (d : RawTCPDeployment) (names : Dict String String)
    (location : String) : Prop :=
  if location = "" then d.locationForSni rt d.defaultSni = some ""
  else if location ∈ names.values then
    ∃ host port sni, d.endpointForLocation rt (.str location) = .ok (host, port, sni) ∧
      d.locationForSni rt sni = some location
  else ∃ e, d.endpointForLocation rt (.str location) = .error e

/-- The name that stands for a location has not the shape of an IPv4 address; a location that the
map does not have is not taken for another one when it is made safe. -/
def PlainlyNamed (rt : Runtime) (d : RawTCPDeployment) (names : Dict String String)
    (location : String) : Prop :=
  if location = "" then ipv4Shape rt d.defaultSni = false
  else if location ∈ names.values then
    ∀ name, names.get? name = some location → ipv4Shape rt name = false
  else safeLocationId rt (.str location) ≠ "" ∧ safeLocationId rt (.str location) ∉ names.values

/-- A name of the map leads to its location unless it has the shape of an IPv4 address. -/
lemma locationForSni_name (spec : NameSpec rt) (hnames : d.sniLocations = some names)
    (hmap : SniMap rt names) {name location : String} (hget : names.get? name = some location) :
    d.locationForSni rt name = some location ↔ ipv4Shape rt name = false := by
  obtain ⟨value, hvalue⟩ := hmap.normal name location hget
  have hagain := normalizeSni_again spec hvalue
  rw [← hagain, locationForSni_eq_some hnames]
  constructor
  · rintro ⟨normal, hnormal, -⟩
    have haddress := (normalizeSni_eq_ok.mp hnormal).1
    -- what is accepted again stays as it is
    rw [normalizeAddress_again spec (normalizeSni_eq_ok.mp hvalue).1] at haddress
    split_ifs at haddress
    obtain rfl := Except.ok.inj haddress
    exact hnormal
  · exact fun hself => ⟨name, hself, hget⟩

/-- For every location, the map of a deployment that is ready is right exactly when the location is
plainly named. -/
theorem sni_map_invertible (site : Site) (spec : NameSpec site.rt)
    (hready : (deployment site).ready = true) :
    ∃ names, (deployment site).sniLocations = some names ∧ ∀ location,
      InvertibleAt site.rt (deployment site) names location ↔
        PlainlyNamed site.rt (deployment site) names location := by
  obtain ⟨-, names, hnames, hparse⟩ := deployment_sound site hready
  obtain ⟨hmap, hdefault⟩ := parseSniMap_spec hparse
  generalize deployment site = d at hready hnames hparse hdefault
  have hnonempty : names.entries.isEmpty = false := by
    simpa using List.ne_nil_of_mem (Dict.mem_entries_iff.mpr hdefault)
  refine ⟨names, hnames, fun location => ?_⟩
  unfold InvertibleAt PlainlyNamed
  by_cases hempty : location = ""
  · rw [if_pos hempty, if_pos hempty]
    exact locationForSni_name spec hnames hmap hdefault
  rw [if_neg hempty, if_neg hempty]
  by_cases hmem : location ∈ names.values
  · rw [if_pos hmem, if_pos hmem]
    obtain ⟨name, hget⟩ := Dict.mem_values_iff.mp hmem
    have hsafe := hmap.safe name location hget
    have hendpoint : d.endpointForLocation site.rt (.str location) =
        .ok (d.publicHost, d.publicPort, name) :=
      endpointForLocation_of_get? hready hnames hmap (by rw [hsafe]; exact hget)
        (by rw [hsafe]; exact hempty)
    constructor
    · rintro ⟨host, port, sni, hsni, hback⟩ name' hget'
      rw [hendpoint] at hsni
      cases hsni
      rw [hmap.alone name' name location hempty hget' hget]
      exact (locationForSni_name spec hnames hmap hget).mp hback
    · exact fun hplain => ⟨_, _, _, hendpoint,
        (locationForSni_name spec hnames hmap hget).mpr (hplain name hget)⟩
  · rw [if_neg hmem, if_neg hmem]
    exact endpointForLocation_error hready hnames hmap hnonempty _

/-! ## Maps with one location -/

/-- The library on ASCII names, with JSON texts. -/
def mapRuntime : Runtime :=
  { asciiNames with
    jsonLoads := JsonText.loads
    jsonDumps := JsonText.dumps
    jsonLoads_dumps := JsonText.loads_dumps
    jsonLoads_cut := JsonText.loads_cut }

/-- A map with a default name and a name for `de`. -/
def mapText (german : String) : String := "\x7b\"tcp.test\":\"\",\"" ++ german ++ "\":\"de\"\x7d"

/-- A site with the map. -/
def mapSite (german : String) : Site where
  rt := mapRuntime
  environ name :=
    if name = "VLESS_TCP_SNI_MAP" then mapText german
    else if name = "VLESS_TCP_DEFAULT_SNI" then "tcp.test"
    else if name = "VLESS_TCP_URI_NETWORK" then "tcp"
    else if name = "RAILWAY_TCP_PROXY_DOMAIN" then "relay.test"
    else if name = "VLESS_TCP_TLS_CERT_FILE" ∨ name = "VLESS_TCP_TLS_KEY_FILE" then "file"
    else "443"
  isFile _ := true
  secret := "secret"
  listenerRunning := true
  listenerError := ""

lemma mapRuntime_spec : NameSpec mapRuntime where
  again := asciiNames_spec.again
  plain := asciiNames_spec.plain
  dotted := asciiNames_spec.dotted
  idna_ascii := asciiNames_spec.idna_ascii
  idna_self := asciiNames_spec.idna_self
  lower_ascii := asciiNames_spec.lower_ascii
  digit_ascii := asciiNames_spec.digit_ascii

/-- The map that was read. -/
lemma mapSite_names {german : String} (sni : String)
    (h : (deployment (mapSite german)).sniLocations.map Dict.entries =
      some [("tcp.test", ""), (sni, "de")]) {names : Dict String String}
    (hnames : (deployment (mapSite german)).sniLocations = some names) :
    names.values = ["", "de"] ∧ ∀ name, names.get? name = some "de" → name = sni := by
  rw [hnames] at h
  have hentries : names.entries = [("tcp.test", ""), (sni, "de")] := Option.some.inj h
  refine ⟨?_, fun name hget => ?_⟩
  · rw [Dict.values, hentries]
    rfl
  · have hmem := Dict.mem_entries_iff.mpr hget
    rw [hentries] at hmem
    simpa using hmem

/-- The location of the map comes back, and one that is not in the map has no endpoint. -/
theorem sni_map_invertible_example : ∃ names,
    (deployment (mapSite "de.tcp.test")).sniLocations = some names ∧
      InvertibleAt mapRuntime (deployment (mapSite "de.tcp.test")) names "de" ∧
      InvertibleAt mapRuntime (deployment (mapSite "de.tcp.test")) names "fr" := by
  obtain ⟨names, hnames, hall⟩ := sni_map_invertible (mapSite "de.tcp.test") mapRuntime_spec
    (by decide +kernel)
  obtain ⟨hvalues, honly⟩ := mapSite_names "de.tcp.test" (by decide +kernel) hnames
  refine ⟨names, hnames, (hall "de").mpr ?_, (hall "fr").mpr ?_⟩
  · rw [PlainlyNamed, if_neg (by decide), if_pos (by rw [hvalues]; decide)]
    intro name hget
    rw [honly name hget]
    decide +kernel
  · rw [PlainlyNamed, if_neg (by decide), if_neg (by rw [hvalues]; decide), hvalues]
    decide +kernel

/-- A name of four groups of digits leads nowhere, and an id that is not in the map is taken for
its safe form, or for no location. -/
theorem sni_map_not_invertible : ∃ names,
    (deployment (mapSite "256.1.1.1.")).ready = true ∧
      (deployment (mapSite "256.1.1.1.")).sniLocations = some names ∧ "de" ∈ names.values ∧
      ¬ InvertibleAt mapRuntime (deployment (mapSite "256.1.1.1.")) names "de" ∧
      ¬ InvertibleAt mapRuntime (deployment (mapSite "256.1.1.1.")) names "d.e" ∧
      ¬ InvertibleAt mapRuntime (deployment (mapSite "256.1.1.1.")) names "!" := by
  have hsome : (deployment (mapSite "256.1.1.1.")).sniLocations.isSome = true := by decide +kernel
  obtain ⟨names, hnames⟩ := Option.isSome_iff_exists.mp hsome
  obtain ⟨hvalues, -⟩ := mapSite_names "256.1.1.1" (by decide +kernel) hnames
  have hendpoint : ∀ location ∈ ["de", "d.e"], (deployment (mapSite "256.1.1.1.")).endpointForLocation
      mapRuntime (.str location) = .ok ("relay.test", 443, "256.1.1.1") := by
    decide +kernel
  have hdefault : (deployment (mapSite "256.1.1.1.")).endpointForLocation
      mapRuntime (.str "!") = .ok ("relay.test", 443, "tcp.test") := by
    decide +kernel
  refine ⟨names, by decide +kernel, hnames, by rw [hvalues]; decide, ?_, ?_, ?_⟩
  · rw [InvertibleAt, if_neg (by decide), if_pos (by rw [hvalues]; decide)]
    rintro ⟨host, port, sni, hsni, hback⟩
    rw [hendpoint "de" (by decide)] at hsni
    cases hsni
    exact absurd hback (by decide +kernel)
  · rw [InvertibleAt, if_neg (by decide), if_neg (by rw [hvalues]; decide)]
    rintro ⟨e, herror⟩
    rw [hendpoint "d.e" (by decide)] at herror
    cases herror
  · rw [InvertibleAt, if_neg (by decide), if_neg (by rw [hvalues]; decide)]
    rintro ⟨e, herror⟩
    rw [hdefault] at herror
    cases herror

end Routing
