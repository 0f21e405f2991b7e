import LumenRelay.Routing.Measurements
import Mathlib.Algebra.Order.Round
import Mathlib.Data.List.DropRight
import Mathlib.Tactic.Linarith

/-!
# Sanitising what has been sanitised

What `sanitize_proxy_test_result` keeps of a field it would keep again: a latency that is rounded, a
text that is cut, an address, a country code.  Only the successes of a healthy proxy change when
none of them is left, since a zero is read as an absent number.
-/

namespace Routing

open Lib Py

variable {rt : Runtime}

/-- What is documented of the library: a float is near the number that it stands for, the text of
an address is an address with that text, and `upper` of an ASCII text changes its small letters. -/
structure StoreSpec (rt : Runtime) : Prop where
  near : ∀ q, 0 ≤ q → q ≤ 120000 → ∃ x, rt.roundFloat q = .fin x ∧ 0 ≤ x ∧ x ≤ 120000 ∧
    |x - q| < 1 / 2000
  again : ∀ s v t, rt.ipAddress s = some (v, t) → rt.ipAddress t = some (v, t)
  stripped : ∀ s v t, rt.ipAddress s = some (v, t) → strip s = s → strip t = t
  upper_ascii : ∀ s, (∀ c ∈ s.toList, c.toNat < 128) →
    rt.upper s = String.ofList (s.toList.map Char.toUpper)

/-! ## Numbers -/

/-- A number is rounded to the integer that it is near to. -/
lemma roundHalfEven_near {q : ℚ} {n : ℤ} (h : |q - n| < 1 / 2) : roundHalfEven q = n := by
  obtain ⟨hlow, hhigh⟩ := abs_lt.mp h
  unfold roundHalfEven
  dsimp only
  by_cases hle : (n : ℚ) ≤ q
  · have hfloor : ⌊q⌋ = n := Int.floor_eq_iff.mpr ⟨hle, by linarith⟩
    rw [hfloor, if_pos (by linarith)]
  · have hfloor : ⌊q⌋ = n - 1 := by
      refine Int.floor_eq_iff.mpr ⟨?_, ?_⟩
      · push_cast
        linarith
      · push_cast
        linarith
    have hrest : (1 : ℚ) / 2 < q - ((n - 1 : ℤ) : ℚ) := by
      push_cast
      linarith
    rw [hfloor, if_neg (not_lt.mpr hrest.le), if_pos hrest]
    ring

lemma roundHalfEven_mono_bounds {q : ℚ} {m n : ℤ} (hm : (m : ℚ) ≤ q) (hn : q ≤ n) :
    m ≤ roundHalfEven q ∧ roundHalfEven q ≤ n := by
  have hfloor : m ≤ ⌊q⌋ := Int.le_floor.mpr hm
  have hle : ⌊q⌋ ≤ n := Int.cast_le.mp ((Int.floor_le q).trans hn)
  -- one more than the floor is only taken of a number that is no integer
  have hup : 0 < q - ⌊q⌋ → ⌊q⌋ + 1 ≤ n := by
    intro hpos
    have hlt : ((⌊q⌋ : ℤ) : ℚ) < n := by linarith
    exact Int.cast_lt.mp hlt
  unfold roundHalfEven
  dsimp only
  split
  · exact ⟨hfloor, hle⟩
  · rename_i hhalf
    have hpos : 0 < q - ⌊q⌋ := by linarith
    have hup := hup hpos
    split
    · omega
    · split <;> omega

/-- A latency that is rounded is still in its range, and would be rounded to itself. -/
lemma StoreSpec.roundMillis (spec : StoreSpec rt) {q : ℚ} (hnonneg : 0 ≤ q) (hle : q ≤ 120000) :
    ∃ x, roundMillis rt q = .fin x ∧ 0 ≤ x ∧ x ≤ 120000 ∧ Routing.roundMillis rt x = .fin x := by
  have hbounds := roundHalfEven_mono_bounds (q := q * 1000) (m := 0) (n := 120000000)
    (by push_cast; linarith) (by push_cast; linarith)
  unfold Routing.roundMillis
  generalize roundHalfEven (q * 1000) = k at hbounds
  have hk : (0 : ℚ) ≤ k ∧ (k : ℚ) ≤ 120000000 := by exact_mod_cast hbounds
  obtain ⟨x, hx, hx0, hx1, hnear⟩ := spec.near (k / 1000) (by linarith [hk.1]) (by linarith [hk.2])
  have hround : roundHalfEven (x * 1000) = k := by
    refine roundHalfEven_near ?_
    obtain ⟨hlow, hhigh⟩ := abs_lt.mp hnear
    exact abs_lt.mpr ⟨by linarith, by linarith⟩
  exact ⟨x, hx, hx0, hx1, by rw [hround, hx]⟩

/-- An integer beyond the largest float. -/
def TooLarge (rt : Runtime) (value : Json) : Prop :=
  ∃ n, value = .int n ∧ ∀ q, rt.roundFloat n ≠ .fin q

/-- A latency can be read unless it is too large. -/
lemma measurable_iff {value : Json} : Measurable rt value ↔ ¬ TooLarge rt value := by
  constructor
  · rintro ⟨x, hx⟩ ⟨n, rfl, hlarge⟩
    unfold boundedMs Json.toFloat at hx
    cases hfloat : rt.roundFloat n with
    | fin q => exact hlarge q hfloat
    | nan => simp [hfloat] at hx
    | inf negative => simp [hfloat] at hx
  · intro hsmall
    cases value with
    | int n =>
      obtain ⟨q, hq⟩ : ∃ q, rt.roundFloat n = .fin q := by
        by_contra hnone
        exact hsmall ⟨n, rfl, not_exists.mp hnone⟩
      unfold Measurable boundedMs Json.toFloat
      simp [hq]
    | float x => exact measurable_float x
    | str s =>
      unfold Measurable boundedMs Json.toFloat
      dsimp only
      cases rt.parseFloat s with
      | none => exact ⟨_, rfl⟩
      | some x => cases x <;> exact ⟨_, rfl⟩
    | bool b => exact ⟨_, rfl⟩
    | null => exact ⟨_, rfl⟩
    | arr l => exact ⟨_, rfl⟩
    | obj o => exact ⟨_, rfl⟩

/-- A latency that is kept is kept again. -/
lemma StoreSpec.boundedMs (spec : StoreSpec rt) {value x : Json} (h : boundedMs rt value = .ok x) :
    Routing.boundedMs rt x = .ok x := by
  unfold Routing.boundedMs at h
  split at h
  · cases h
    rfl
  · cases h
    rfl
  · cases h
  · rename_i q _
    split at h
    · cases h
      rfl
    · rename_i hrange
      obtain ⟨hnonneg, hle⟩ := not_or.mp hrange
      obtain ⟨y, hy, hy0, hy1, hagain⟩ := spec.roundMillis (not_lt.mp hnonneg) (not_lt.mp hle)
      cases h
      rw [hy]
      unfold Routing.boundedMs Json.toFloat
      dsimp only
      rw [if_neg (not_or.mpr ⟨not_lt.mpr hy0, not_lt.mpr hy1⟩), hagain]
  · cases h
    rfl

/-! ## Texts -/

/-- A text that is cut is not cut again. -/
lemma safeDiagText_again (value : Json) (limit : ℕ) :
    safeDiagText rt (.str (safeDiagText rt value limit)) limit = safeDiagText rt value limit := by
  unfold safeDiagText
  dsimp only
  rw [Json.text_str]
  simp only [toList_sliceTo, toList_keepChars, String.toList_ofList]
  generalize hchars : (value.text rt).toList.filter rt.isPrintable = chars
  have hprintable : ∀ c ∈ (chars.take limit).takeWhile (· ≠ '?'), rt.isPrintable c = true := by
    intro c hc
    have hmem := List.mem_of_mem_take ((List.takeWhile_sublist _).subset hc)
    rw [← hchars] at hmem
    exact (List.mem_filter.mp hmem).2
  have hlength : ((chars.take limit).takeWhile (· ≠ '?')).length ≤ limit :=
    (List.takeWhile_sublist _).length_le.trans (List.length_take_le _ _)
  rw [List.filter_eq_self.mpr hprintable, List.take_of_length_le hlength]
  congr 1
  exact List.takeWhile_idem

/-- The blanks at the ends of a text are gone. -/
lemma strip_strip (s : String) : strip (strip s) = strip s := by
  unfold strip
  rw [String.toList_ofList]
  congr 1
  unfold stripList
  generalize hm : s.toList.dropWhile isSpace = m
  have hprefix : (m.reverse.dropWhile isSpace).reverse <+: m := by
    rw [← List.reverse_suffix, List.reverse_reverse]
    exact List.dropWhile_suffix _
  have hstart : (m.reverse.dropWhile isSpace).reverse.dropWhile isSpace =
      (m.reverse.dropWhile isSpace).reverse := by
    cases hr : (m.reverse.dropWhile isSpace).reverse with
    | nil => rfl
    | cons c r =>
      -- what is left starts as the text did without the blanks at its start
      rw [hr] at hprefix
      obtain ⟨t, ht⟩ := hprefix
      have hhead := List.head?_dropWhile_not isSpace s.toList
      rw [hm, ← ht] at hhead
      exact List.dropWhile_cons_of_neg (by simpa using hhead)
  rw [hstart, List.reverse_reverse, List.dropWhile_idempotent]

/-! ## Country codes -/

/-- A code that is kept as it is: two capital letters, and no other spelling of a code. -/
def isFinalCode (code : String) : Bool :=
  isCode code && code.toList.map Char.toUpper == code.toList && (codeAliases.lookup code).isNone

lemma isCode_iff {s : String} : isCode s = true ↔ s.toList.length = 2 ∧ s.toList.all Char.isAlpha := by
  simp [isCode, String.length_toList]

lemma alpha_range {c : Char} (h : c.isAlpha = true) :
    c.toNat < 128 ∧ isSpace c = false ∧ c ≠ '|' ∧ c.toUpper.isAlpha = true := by
  have halphanum : c.isAlphanum = true := by simp [Char.isAlphanum, h]
  have hrange := alphanum_range halphanum
  refine ⟨by omega, alphanum_not_space c halphanum, ?_, ?_⟩
  · rintro rfl
    exact absurd h (by decide)
  · delta Char.isAlpha Char.isUpper Char.isLower Char.toUpper at h ⊢
    simp only [Bool.or_eq_true, Bool.and_eq_true, decide_eq_true_eq] at h ⊢
    split
    · rename_i hlower
      left
      simp only [ge_iff_le, UInt32.le_iff_toNat_le, UInt32.toNat_add, seval] at hlower ⊢
      omega
    · rename_i hlower
      exact h.imp_right fun h => absurd h hlower

lemma toUpper_toUpper (c : Char) : c.toUpper.toUpper = c.toUpper := by
  delta Char.toUpper
  split
  · rename_i hlower
    split
    · rename_i hagain
      simp only [UInt32.le_iff_toNat_le, UInt32.toNat_add, seval] at hlower hagain
      omega
    · rfl
  · rfl

/-- The code of two letters is kept as it is. -/
lemma StoreSpec.assignedCode (spec : StoreSpec rt) {letters : String} (h : isCode letters = true) :
    isFinalCode (assignedCode rt letters) = true := by
  obtain ⟨hlength, halpha⟩ := isCode_iff.mp h
  have halpha := List.all_eq_true.mp halpha
  unfold Routing.assignedCode
  dsimp only
  rw [spec.upper_ascii letters fun c hc => (alpha_range (halpha c hc)).1]
  generalize hcode : String.ofList (letters.toList.map Char.toUpper) = code
  have hlist : code.toList = letters.toList.map Char.toUpper := by
    rw [← hcode, String.toList_ofList]
  cases halias : codeAliases.lookup code with
  | some known =>
    have hall : codeAliases.all (fun e => isFinalCode e.2) = true := by decide +kernel
    exact List.all_eq_true.mp hall (code, known) (Assoc.mem_of_lookup halias)
  | none =>
    have hletters : isCode code = true := by
      refine isCode_iff.mpr ⟨by rw [hlist, List.length_map, hlength], List.all_eq_true.mpr ?_⟩
      intro c hc
      rw [hlist] at hc
      obtain ⟨d, hd, rfl⟩ := List.mem_map.mp hc
      exact (alpha_range (halpha d hd)).2.2.2
    have hupper : code.toList.map Char.toUpper = code.toList := by
      rw [hlist, List.map_map]
      exact List.map_congr_left fun c _ => toUpper_toUpper c
    simp [isFinalCode, halias, hletters, hupper]

/-- The codes of the table are kept as they are. -/
lemma isoCountries_final {code name : String} (h : (code, name) ∈ isoCountries) :
    isFinalCode code = true := by
  have hall : isoCountries.all (fun e => isFinalCode e.1) = true := by decide +kernel
  exact List.all_eq_true.mp hall (code, name) h

lemma nameToCode_final {name code : String} (h : nameToCode rt name = some code) :
    isFinalCode code = true := by
  unfold nameToCode at h
  split at h
  · rename_i code' official hfind
    obtain rfl := Option.some.inj h
    exact isoCountries_final (List.mem_of_find?_eq_some hfind)
  · obtain ⟨e, hfind, rfl⟩ := Option.map_eq_some_iff.mp h
    have hfound := List.find?_some hfind
    obtain ⟨official, hofficial⟩ := Option.isSome_iff_exists.mp (of_decide_eq_true hfound).2
    exact isoCountries_final (Assoc.mem_of_lookup hofficial)

lemma StoreSpec.plainCountry (spec : StoreSpec rt) (text : String) :
    (plainCountry rt text).2 = "" ∨ isFinalCode (plainCountry rt text).2 = true := by
  unfold Routing.plainCountry
  split
  · exact .inr (spec.assignedCode ‹_›)
  · split
    · exact .inr (nameToCode_final ‹_›)
    · exact .inl rfl

lemma StoreSpec.pairCountry (spec : StoreSpec rt) {code name : String} {found : String × String}
    (h : pairCountry rt code name = some found) : isFinalCode found.2 = true := by
  unfold Routing.pairCountry at h
  split at h
  · rw [← Option.some.inj h]
    exact spec.assignedCode ‹_›
  · cases h

/-- There is no code, or it is kept as it is. -/
lemma StoreSpec.normalizeCountry (spec : StoreSpec rt) (raw : Json) :
    (normalizeCountry rt raw).2 = "" ∨ isFinalCode (normalizeCountry rt raw).2 = true := by
  unfold Routing.normalizeCountry
  dsimp only
  split
  · exact .inl rfl
  · split
    · exact spec.plainCountry _
    · rename_i left right _
      cases hleft : Routing.pairCountry rt (strip left) (strip right) with
      | some found => exact .inr (spec.pairCountry hleft)
      | none =>
        cases hright : Routing.pairCountry rt (strip right) (strip left) with
        | some found => exact .inr (spec.pairCountry hright)
        | none =>
          rw [Option.orElse_none, Option.getD_none]
          exact spec.plainCountry _

/-- A code that is kept is kept again. -/
lemma StoreSpec.normalizeCountry_again (spec : StoreSpec rt) (raw : Json) :
    (Routing.normalizeCountry rt (.str (Routing.normalizeCountry rt raw).2)).2 =
      (Routing.normalizeCountry rt raw).2 := by
  generalize hcode : (Routing.normalizeCountry rt raw).2 = code
  have hfinal := spec.normalizeCountry raw
  rw [hcode] at hfinal
  clear hcode
  rcases hfinal with hnone | hfinal
  · have hblank : strip "" = "" := strip_eq_self (by simp)
    rw [hnone]
    unfold Routing.normalizeCountry
    dsimp only
    rw [Json.text_str, hblank, if_pos rfl]
  · simp only [isFinalCode, Bool.and_eq_true, beq_iff_eq, Option.isNone_iff_eq_none] at hfinal
    obtain ⟨⟨hletters, hupper⟩, halias⟩ := hfinal
    obtain ⟨hlength, halpha⟩ := isCode_iff.mp hletters
    have halpha := List.all_eq_true.mp halpha
    have hstrip : strip code = code :=
      strip_eq_self fun c hc => (alpha_range (halpha c hc)).2.1
    have hne : code ≠ "" := by
      rintro rfl
      cases hlength
    have hbar : splitOnce '|' code = none := by
      have hdrop : code.toList.dropWhile (· ≠ '|') = [] := by
        rw [List.dropWhile_eq_nil_iff]
        intro c hc
        simpa using (alpha_range (halpha c hc)).2.2.1
      unfold splitOnce
      rw [hdrop]
    have hsame : rt.upper code = code := by
      rw [spec.upper_ascii code fun c hc => (alpha_range (halpha c hc)).1, hupper,
        String.ofList_toList]
    unfold Routing.normalizeCountry
    dsimp only
    rw [Json.text_str, hstrip, if_neg hne, hbar]
    unfold Routing.plainCountry
    rw [if_pos hletters]
    unfold Routing.assignedCode
    dsimp only
    rw [hsame, halias]
    rfl

end Routing
