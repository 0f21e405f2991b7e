import LumenRelay.Py.JsonText

/-!
# A sample of the library

The library on ASCII texts, with JSON texts and ids as they are; one character stands for the
characters that cannot be encoded.
-/

namespace Py

namespace JsonText

/-- The character that stands for half of a surrogate pair. -/
def loneSurrogate : Char := Char.ofNat 0xE000

/-- Whether a character can be encoded. -/
def encodable (c : Char) : Bool := c ≠ loneSurrogate

/-- `json.dumps(value, ensure_ascii=False)` in UTF-8. -/
def dumps (style : JsonStyle) (v : Json) : Option (List UInt8) :=
  if writable encodable v then some ((render style 0 v).flatMap String.utf8EncodeChar) else none

/-- `json.loads`, of what `dumps` writes. -/
def loads (s : String) : Option Json :=
  match read (s.toList.length + 1) s.toList with
  | some (v, []) =>
    if writable encodable v ∧ (s.toList = render .compact 0 v ∨ s.toList = render .indented 0 v)
    then some v else none
  | _ => none

lemma loads_render {style : JsonStyle} {v : Json} (h : writable encodable v = true) :
    loads (String.ofList (render style 0 v)) = some v := by
  have hread : read _ (render style 0 v ++ []) = some (v, []) :=
    read_render h 0 ((render style 0 v).length + 1) (by omega) (.of_endsNumber (by nofun) v)
  rw [List.append_nil] at hread
  rw [loads, String.toList_ofList, hread]
  refine if_pos ⟨h, ?_⟩
  cases style with
  | compact => exact .inl rfl
  | indented => exact .inr rfl

lemma loads_eq_some {s : String} {v : Json} (h : loads s = some v) :
    writable encodable v = true ∧ ∃ style, s.toList = render style 0 v := by
  unfold loads at h
  split at h
  · split at h
    · rename_i hv
      obtain rfl := Option.some.inj h
      exact ⟨hv.1, hv.2.elim (fun h => ⟨_, h⟩) fun h => ⟨_, h⟩⟩
    · cases h
  · cases h

lemma loads_dumps (style : JsonStyle) (v : Json) (bytes : List UInt8) (h : dumps style v = some bytes) :
    decodeBytes bytes >>= loads = some v := by
  unfold dumps at h
  split at h
  · obtain rfl := Option.some.inj h
    have hdecode := decodeBytes_encode (String.ofList (render style 0 v))
    rw [String.toList_ofList] at hdecode
    rw [hdecode, Option.bind_eq_bind, Option.bind_some]
    exact loads_render ‹_›
  · cases h

/-- The text of an object starts with a brace, and no other text does. -/
lemma obj_of_head {style : JsonStyle} {v : Json} (h : writable encodable v = true) {t : List Char}
    (hrender : render style 0 v = Char.ofNat 123 :: t) : ∃ o, v = .obj o := by
  cases v with
  | obj o => exact ⟨o, rfl⟩
  | int n =>
    obtain ⟨c, t', hint, hc⟩ := renderInt_head n
    rw [render, hint] at hrender
    rw [(List.cons.inj hrender).1] at hc
    exact absurd hc (by decide)
  | float x => cases h
  | null => exact absurd (List.cons.inj hrender).1 (by decide)
  | bool b => cases b <;> exact absurd (List.cons.inj hrender).1 (by decide)
  | str s => exact absurd (List.cons.inj hrender).1 (by decide)
  | arr l => cases l <;> exact absurd (List.cons.inj hrender).1 (by decide)

lemma obj_head (style : JsonStyle) (o : List (String × Json)) :
    ∃ t, render style 0 (.obj o) = Char.ofNat 123 :: t := by
  rcases o with - | ⟨⟨key, v⟩, o⟩ <;> exact ⟨_, rfl⟩

/-- No text goes on after the text of an object. -/
lemma render_obj_eq {style style' : JsonStyle} {v : Json} {o : List (String × Json)}
    (hv : writable encodable v = true) (ho : writable encodable (.obj o) = true)
    (h : render style' 0 v <+: render style 0 (.obj o)) :
    render style' 0 v = render style 0 (.obj o) := by
  obtain ⟨rest, hrest⟩ := h
  obtain ⟨t, ht⟩ := obj_head style o
  obtain ⟨c, t', hhead, -⟩ := render_head style' hv 0
  obtain rfl : c = Char.ofNat 123 := by
    rw [hhead, ht] at hrest
    exact (List.cons.inj hrest).1
  obtain ⟨o', rfl⟩ := obj_of_head hv hhead
  -- what is read at the start of the longer text is the value of the shorter one
  have hshort : read _ (render style' 0 (.obj o') ++ rest) = some (.obj o', rest) :=
    read_render hv 0 ((render style 0 (.obj o)).length + (render style' 0 (.obj o')).length + 1)
      (by omega) trivial
  have hlong : read _ (render style 0 (.obj o) ++ []) = some (.obj o, []) :=
    read_render ho 0 ((render style 0 (.obj o)).length + (render style' 0 (.obj o')).length + 1)
      (by omega) trivial
  rw [hrest] at hshort
  rw [List.append_nil, hshort] at hlong
  obtain ⟨-, rfl⟩ := Prod.mk.inj (Option.some.inj hlong)
  rw [← hrest, List.append_nil]

lemma loads_cut (style : JsonStyle) (o : Obj) (bytes part : List UInt8)
    (h : dumps style (.obj o) = some bytes) (hpart : part <+: bytes) (hne : part ≠ bytes) :
    decodeBytes part >>= loads = none := by
  unfold dumps at h
  split at h
  · rename_i ho
    obtain rfl := Option.some.inj h
    cases hdecode : decodeBytes part with
    | none => rfl
    | some s =>
      rw [Option.bind_eq_bind, Option.bind_some]
      cases hloads : loads s with
      | none => rfl
      | some v =>
        exfalso
        obtain ⟨hv, style', hs⟩ := loads_eq_some hloads
        obtain rfl := eq_encode_of_decodeBytes hdecode
        obtain ⟨rest, hrest⟩ := hpart
        have hprefix : s.toList <+: render style 0 (.obj o) :=
          List.isPrefix_of_utf8Encode_append_eq_utf8Encode rest.toByteArray
            (by
              rw [List.utf8Encode, List.utf8Encode, ← hrest]
              exact (List.toByteArray_append ..).symm)
        rw [hs] at hprefix hne
        exact hne (by rw [render_obj_eq hv ho hprefix])
  · cases h

/-- `str(UUID(int=n))`. -/
def uuidText (n : ℕ) : String :=
  String.ofList ((List.range 32).flatMap fun i =>
    (if i ∈ [8, 12, 16, 20] then ['-'] else []) ++ [hexDigit (n / 16 ^ (31 - i) % 16)])

/-- `UUID(text).int`, of hexadecimal digits and dashes. -/
def parseUuid (s : String) : Option ℕ :=
  let digits := s.toList.filter (· ≠ '-')
  if digits.length = 32 then
    (digits.mapM hexValue).map fun values => values.foldl (fun n d => 16 * n + d) 0
  else none

end JsonText

/-- The library with JSON texts and ids. -/
def Runtime.sample : Runtime :=
  { Runtime.ascii with
    jsonLoads := JsonText.loads
    jsonDumps := JsonText.dumps
    jsonLoads_dumps := JsonText.loads_dumps
    jsonLoads_cut := JsonText.loads_cut
    parseUuid := JsonText.parseUuid
    uuidText := JsonText.uuidText }

end Py
