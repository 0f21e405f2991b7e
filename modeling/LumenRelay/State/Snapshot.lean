import LumenRelay.Routing.MultiLocation

/-!
# The state as one document, and its snapshot

What the panel keeps is written as one JSON object.  The state file holds its text; the
environment can hold a signed snapshot of it, compressed and in base64.  Writing and reading a
snapshot check different sizes, and only reading checks the state itself.
-/

namespace State

open Lib Py Routing

/-! ## The document -/

/-- `{key: value}` of a dictionary of records. -/
def recordsJson (records : Dict String Obj) : Json :=
  .obj (records.entries.map fun e => (e.1, .obj e.2))

/-- `_state_payload`. -/
def statePayload (rt : Runtime) (now : ℤ) (panel : Panel) : Obj :=
  [("schema_version", .int 3), ("links", recordsJson panel.links),
    ("subs", recordsJson panel.subs), ("proxy_test_results", recordsJson panel.tests),
    ("preferred_proxy_by_country", .obj (panel.preferred.entries.map fun e => (e.1, .str e.2))),
    ("password_hash", panel.passwordHash), ("saved_at", .str (rt.isoformat now))]

/-- How many links, and how many groups, a state may have. -/
def maxRecords : ℕ := 100000

/-- `_validate_state`. -/
def validateState : Json → Except PyErr Obj
  | .obj data =>
    match Obj.get data "links", Obj.get data "subs",
        Obj.getD data "proxy_test_results" (.obj []),
        Obj.getD data "preferred_proxy_by_country" (.obj []) with
    | .obj links, .obj subs, .obj _, .obj _ =>
      if maxRecords < links.length ∨ maxRecords < subs.length then
        .error (.valueError "state is unreasonably large")
      else .ok data
    | _, _, _, _ =>
      .error (.valueError
        "links/subs/proxy_test_results/preferred_proxy_by_country are missing or invalid")
  | _ => .error (.valueError "state root is not an object")

/-- What passes the check is what was checked. -/
lemma validateState_eq {value : Json} {data : Obj} (h : validateState value = .ok data) :
    value = .obj data := by
  unfold validateState at h
  split at h
  · split at h
    · split at h
      · cases h
      · obtain rfl := Except.ok.inj h
        rfl
    · cases h
  · cases h

/-- The document of the panel passes the check unless there are too many links or groups. -/
lemma validateState_payload (rt : Runtime) (now : ℤ) (panel : Panel) :
    validateState (.obj (statePayload rt now panel)) = .ok (statePayload rt now panel) ↔
      panel.links.entries.length ≤ maxRecords ∧ panel.subs.entries.length ≤ maxRecords := by
  show (if maxRecords < (panel.links.entries.map _).length ∨
    maxRecords < (panel.subs.entries.map _).length then _ else _) = _ ↔ _
  rw [List.length_map, List.length_map]
  split_ifs with hlarge
  · constructor
    · intro h
      cases h
    · omega
  · simp only [true_iff]
    omega

/-! ## Snapshots -/

/-- The bytes that a snapshot may have. -/
def maxSnapshot : ℕ := 48 * 1024

/-- The bytes that the text in a snapshot may have. -/
def maxExpanded : ℕ := 8 * 1024 * 1024

/-- `_snapshot_encode`. -/
def snapshotEncode (site : Site) (data : Obj) : Except PyErr String :=
  let rt := site.rt
  match rt.jsonDumps .compact (.obj data) with
  | none => .error (.valueError "the state has no JSON text")
  | some raw =>
    let packed := rt.zlibCompress raw
    if maxSnapshot < packed.length then
      .error (.valueError "state snapshot exceeds the safe Railway variable limit")
    else
      let body := rstripChar '=' (String.ofList (Base64.encode packed))
      .ok (body ++ "." ++ rt.hmacSha256 site.secret body)

/-- The last steps of `_snapshot_decode`, on the compressed text. -/
def expandSnapshot (rt : Runtime) (packed : List UInt8) : Except PyErr Obj :=
  if maxSnapshot < packed.length then .error (.valueError "state snapshot is too large")
  else
    match rt.zlibDecompress packed (maxExpanded + 1) with
    | none => .error (.runtimeError "invalid compressed data")
    | some (unconsumed, raw, flushed) =>
      if unconsumed ∨ maxExpanded < raw.length then
        .error (.valueError "expanded state snapshot is too large")
      else
        match rt.decodeUtf8 (raw ++ flushed) >>= rt.jsonLoads with
        | none => .error (.valueError "the snapshot holds no JSON text")
        | some data => validateState data

/-- `_snapshot_decode`; comparing a signature that is not ASCII raises an error of its own. -/
def snapshotDecode (site : Site) (value : String) : Except PyErr Obj :=
  let rt := site.rt
  match splitOnce '.' value with
  | none => .error (.valueError "not enough values to unpack (expected 2, got 1)")
  | some (body, signature) =>
    if signature ≠ rt.hmacSha256 site.secret body then
      if signature.toList.all fun c => c.toNat < 128 then
        .error (.valueError "state snapshot signature mismatch")
      else .error .typeError
    else
      match rt.urlsafeB64decode (padded body) with
      | none => .error (.valueError "Incorrect padding")
      | some packed => expandSnapshot rt packed

/-! ## The body of a snapshot -/

lemma rstripChar_append {c : Char} {s : List Char} (h : c ∉ s) (n : ℕ) :
    rstripChar c (String.ofList (s ++ List.replicate n c)) = String.ofList s := by
  have hpad : ∀ n, (List.replicate n c ++ s.reverse).dropWhile (· == c) = s.reverse := by
    intro n
    induction n with
    | zero =>
      cases hs : s.reverse with
      | nil => rfl
      | cons d t =>
        have hd : d ≠ c := by
          rintro rfl
          exact h (List.mem_reverse.mp (by simp [hs]))
        simp [hd]
    | succ n ih => simpa [List.replicate_succ] using ih
  rw [rstripChar, String.toList_ofList, List.reverse_append, List.reverse_replicate, hpad,
    List.reverse_reverse]

lemma rstripChar_encode (bytes : List UInt8) :
    rstripChar '=' (String.ofList (Base64.encode bytes)) = String.ofList (Base64.unpadded bytes) :=
  rstripChar_append (fun hmem => absurd (Base64.isDigit_of_mem hmem) (by decide)) _

lemma splitOnce_append {c : Char} {s : String} (h : c ∉ s.toList) (t : String) :
    splitOnce c (s ++ String.singleton c ++ t) = some (s, t) := by
  have htext : (s ++ String.singleton c ++ t).toList = s.toList ++ c :: t.toList := by
    simp
  have hs : ∀ d ∈ s.toList, (decide (d ≠ c)) = true := by
    intro d hd
    simp only [decide_eq_true_eq]
    rintro rfl
    exact h hd
  unfold splitOnce
  rw [htext, List.dropWhile_append_of_pos hs, List.takeWhile_append_of_pos hs]
  simp

/-- A snapshot is read as the compressed text that was written. -/
lemma snapshotDecode_encoded {site : Site} {packed : List UInt8} :
    let body := String.ofList (Base64.unpadded packed)
    snapshotDecode site (body ++ "." ++ site.rt.hmacSha256 site.secret body) =
      expandSnapshot site.rt packed := by
  intro body
  have hdot : '.' ∉ body.toList := by
    rw [String.toList_ofList]
    exact fun hmem => absurd (Base64.isDigit_of_mem hmem) (by decide)
  have hsplit := splitOnce_append hdot (site.rt.hmacSha256 site.secret body)
  have hdecode : site.rt.urlsafeB64decode (padded body) = some packed := by
    rw [padded_unpadded]
    exact site.rt.urlsafeB64decode_encode packed
  unfold snapshotDecode
  show (match splitOnce '.' (body ++ String.singleton '.' ++ _) with
    | none => _
    | some (body, signature) => _) = _
  rw [hsplit]
  dsimp only
  rw [if_neg (by simp), hdecode]

/-- A compressed text is read up to its limits. -/
lemma expandSnapshot_compressed {rt : Runtime} {data : Obj} {raw : List UInt8}
    (hraw : rt.jsonDumps .compact (.obj data) = some raw)
    (hsize : (rt.zlibCompress raw).length ≤ maxSnapshot) :
    expandSnapshot rt (rt.zlibCompress raw) = .ok data ↔
      raw.length ≤ maxExpanded ∧ validateState (.obj data) = .ok data := by
  unfold expandSnapshot
  rw [if_neg (by omega)]
  by_cases hlength : raw.length ≤ maxExpanded
  · rw [rt.zlibDecompress_below raw _ (by omega)]
    dsimp only
    rw [if_neg (by simp; omega), List.append_nil, rt.jsonLoads_dumps _ _ _ hraw]
    simp [hlength]
  · -- the text is longer than the limit: one byte more than it allows comes back
    obtain ⟨unconsumed, flushed, habove⟩ := rt.zlibDecompress_above raw (maxExpanded + 1) (by omega)
    have hcut : maxExpanded < (raw.take (maxExpanded + 1)).length := by
      rw [List.length_take]
      omega
    rw [habove]
    dsimp only
    rw [if_pos (.inr hcut)]
    simp [hlength]

/-- A snapshot that was written is read back as the state it was written from exactly when
the text of the state has at most 8 MiB and the state passes the check of a state file. -/
theorem snapshot_round_trip (site : Site) (data : Obj) (snapshot : String)
    (h : snapshotEncode site data = .ok snapshot) :
    snapshotDecode site snapshot = .ok data ↔
      (∀ raw, site.rt.jsonDumps .compact (.obj data) = some raw → raw.length ≤ maxExpanded) ∧
        validateState (.obj data) = .ok data := by
  unfold snapshotEncode at h
  dsimp only at h
  cases hraw : site.rt.jsonDumps .compact (.obj data) with
  | none =>
    rw [hraw] at h
    cases h
  | some raw =>
    rw [hraw] at h
    dsimp only at h
    split at h
    · cases h
    · rename_i hsize
      obtain rfl := Except.ok.inj h
      rw [rstripChar_encode, snapshotDecode_encoded,
        expandSnapshot_compressed hraw (by omega)]
      simp

/-! ## A state with a long address -/

/-- A library that knows the text of one document. -/
def oneDocument (document : Obj) (text : String) : Runtime :=
  { Runtime.ascii with
    jsonLoads := fun s => if s = text then some (.obj document) else none
    jsonDumps := fun _ value =>
      if value = .obj document then some (text.toList.flatMap String.utf8EncodeChar) else none
    jsonLoads_dumps := by
      intro style value bytes h
      split_ifs at h with hvalue
      obtain rfl := Option.some.inj h
      show decodeBytes _ >>= _ = _
      rw [decodeBytes_encode, hvalue]
      exact if_pos rfl
    jsonLoads_cut := by
      intro style fields bytes part h hpart hne
      split_ifs at h with hvalue
      obtain rfl := Option.some.inj h
      show decodeBytes part >>= _ = _
      cases hdecode : decodeBytes part with
      | none => rfl
      | some s =>
        refine if_neg ?_
        rintro rfl
        exact hne (eq_encode_of_decodeBytes hdecode) }

/-- The library, with a compression that makes one text very short. -/
def squeezing (rt : Runtime) (long : List UInt8) : Runtime :=
  let whole := fun (raw : List UInt8) limit => some (decide (limit < raw.length), raw.take limit, [])
  { rt with
    zlibCompress := fun raw => if raw = long then [0] else 1 :: raw
    zlibDecompress := fun packed limit =>
      match packed with
      | [] => none
      | mark :: raw => if mark = 0 then whole long limit else whole raw limit
    zlibDecompress_below := by
      intro raw limit h
      have hwhole : whole raw limit = some (false, raw, []) := by
        simp only [whole, List.take_of_length_le h.le, decide_eq_false (show ¬ limit < raw.length by omega)]
      by_cases hlong : raw = long
      · rw [if_pos hlong, ← hlong]
        exact hwhole
      · rw [if_neg hlong]
        exact hwhole
    zlibDecompress_above := by
      intro raw limit h
      by_cases hlong : raw = long
      · rw [if_pos hlong, ← hlong]
        exact ⟨_, _, rfl⟩
      · rw [if_neg hlong]
        exact ⟨_, _, rfl⟩ }

/-- A number of letters. -/
def letters (n : ℕ) : String := String.ofList (List.replicate n 'a')

/-- A state with one link, whose own proxy has a user name of a number of letters. -/
def longState (n : ℕ) : Obj :=
  [("schema_version", .int 3),
    ("links", .obj [("u", .obj [("exit_proxy_mode", .str "custom"),
      ("custom_proxy", .str ("http://" ++ letters n ++ "@10.0.0.1:8080"))])]),
    ("subs", .obj []), ("proxy_test_results", .obj []), ("preferred_proxy_by_country", .obj []),
    ("password_hash", .null), ("saved_at", .str "0001-01-01T00:00:00")]

/-- The text of the state before the user name. -/
def textBefore : String :=
  "\x7b\"schema_version\":3,\"links\":\x7b\"u\":\x7b\"exit_proxy_mode\":\"custom\",\"custom_proxy\":\"http://"

/-- The text of the state after the user name. -/
def textAfter : String :=
  "@10.0.0.1:8080\"\x7d\x7d,\"subs\":\x7b\x7d,\"proxy_test_results\":\x7b\x7d,\"preferred_proxy_by_country\":\x7b\x7d,\"password_hash\":null,\"saved_at\":\"0001-01-01T00:00:00\"\x7d"

/-- The text of the state. -/
def longText (n : ℕ) : String := textBefore ++ letters n ++ textAfter

/-- The bytes of the text. -/
def longBytes (n : ℕ) : List UInt8 := (longText n).toList.flatMap String.utf8EncodeChar

/-- A process whose library reads and writes the state and makes its text very short. -/
def longSite (n : ℕ) : Site :=
  .bare (squeezing (oneDocument (longState n) (longText n)) (longBytes n))

lemma longSite_dumps (style : JsonStyle) (n : ℕ) :
    (longSite n).rt.jsonDumps style (.obj (longState n)) = some (longBytes n) := if_pos rfl

lemma longSite_compress (n : ℕ) : (longSite n).rt.zlibCompress (longBytes n) = [0] := if_pos rfl

/-- The snapshot of the state. -/
def longSnapshot (n : ℕ) : String :=
  let body := String.ofList (Base64.unpadded [0])
  body ++ "." ++ (longSite n).rt.hmacSha256 (longSite n).secret body

lemma longSite_encode (n : ℕ) :
    snapshotEncode (longSite n) (longState n) = .ok (longSnapshot n) := by
  unfold snapshotEncode
  dsimp only
  rw [longSite_dumps]
  dsimp only
  rw [longSite_compress, rstripChar_encode]
  rfl

lemma length_flatMap_encode (text : List Char) :
    text.length ≤ (text.flatMap String.utf8EncodeChar).length ∧
      (text.flatMap String.utf8EncodeChar).length ≤ 4 * text.length := by
  induction text with
  | nil => simp
  | cons c text ih =>
    have hpos := Char.utf8Size_pos c
    have hfour := Char.utf8Size_le_four c
    have hc := String.length_utf8EncodeChar c
    simp only [List.length_cons, List.flatMap_cons, List.length_append]
    omega

lemma length_longText (n : ℕ) : n ≤ (longText n).toList.length ∧
    (longText n).toList.length ≤ n + 1000 := by
  have hbefore : textBefore.toList.length ≤ 500 := by decide +kernel
  have hafter : textAfter.toList.length ≤ 500 := by decide +kernel
  simp only [longText, letters, String.toList_append, String.toList_ofList, List.length_append,
    List.length_replicate]
  omega

/-- A short state comes back. -/
theorem snapshot_round_trip_short :
    snapshotDecode (longSite 1) (longSnapshot 1) = .ok (longState 1) := by
  refine (snapshot_round_trip _ _ _ (longSite_encode 1)).mpr ⟨?_, by rfl⟩
  intro raw hraw
  obtain rfl := Option.some.inj ((longSite_dumps .compact 1).symm.trans hraw)
  have htext := length_longText 1
  have hbytes := length_flatMap_encode (longText 1).toList
  unfold longBytes maxExpanded
  omega

/-- The state with nine million letters is written as a snapshot, and refused when the snapshot
is read. -/
theorem snapshot_lost :
    snapshotEncode (longSite 9000000) (longState 9000000) = .ok (longSnapshot 9000000) ∧
      snapshotDecode (longSite 9000000) (longSnapshot 9000000) ≠ .ok (longState 9000000) := by
  refine ⟨longSite_encode _, ?_⟩
  have htext := length_longText 9000000
  have hbytes := length_flatMap_encode (longText 9000000).toList
  have hread := expandSnapshot_compressed (longSite_dumps .compact 9000000)
    (by rw [longSite_compress]; decide)
  rw [longSite_compress] at hread
  have hdecode : snapshotDecode (longSite 9000000) (longSnapshot 9000000) =
    expandSnapshot (longSite 9000000).rt [0] := snapshotDecode_encoded
  rw [hdecode, Ne, hread]
  rintro ⟨hsize, -⟩
  unfold longBytes maxExpanded at hsize
  omega

end State
