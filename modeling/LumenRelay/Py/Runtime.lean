import LumenRelay.Lib.Base64
import LumenRelay.Py.Json
import Mathlib.Data.Rat.Floor

/-!
# The library of the host language

String methods that are plain functions of the code points are defined here.  What rests
on tables or on large standard modules (the Unicode database, IDNA, binary rounding, dates
as text, digests, compression) is a field of `Runtime`, and every result of the development
holds for every `Runtime`.
-/

namespace Py

/-- What `urlsplit` reads off a URL; the outer `none` of the port is the error of reading it. -/
structure Url where
  scheme : String
  netloc : String
  path : String
  query : String
  username : Option String
  password : Option String
  hostname : Option String
  port : Option (Option ℕ)
deriving DecidableEq, Repr

/-- The white space that `strip` and `split` know. -/
def isSpace (c : Char) : Bool :=
  let n := c.toNat
  (9 ≤ n && n ≤ 13) || (28 ≤ n && n ≤ 32) || n == 0x85 || n == 0xa0 || n == 0x1680 ||
    (0x2000 ≤ n && n ≤ 0x200a) || n == 0x2028 || n == 0x2029 || n == 0x202f || n == 0x205f ||
    n == 0x3000

/-- The layouts in which JSON is written: with an indent of two, and without blanks. -/
inductive JsonStyle
  | indented
  | compact

/-- The parts of the standard library that are taken as they are, with what is known of
their results. -/
structure Runtime where
  /-- `str.isalnum` of one character. -/
  isAlnum : Char → Bool
  alnum_ascii : ∀ c, c.toNat < 128 → isAlnum c = c.isAlphanum
  alnum_not_space : ∀ c, isAlnum c = true → isSpace c = false
  /-- `str.isprintable` of one character. -/
  isPrintable : Char → Bool
  /-- The value of a decimal digit of any script. -/
  digitValue : Char → Option ℕ
  /-- `str.lower`. -/
  lower : String → String
  /-- `str.upper`. -/
  upper : String → String
  /-- `str.casefold`. -/
  casefold : String → String
  /-- `str` of a float, a list or a dictionary. -/
  repr : Json → String
  /-- A float is written with digits, a sign, a point, an exponent or a name. -/
  repr_float : ∀ x, ∀ c ∈ (repr (.float x)).toList, c.isAlphanum ∨ c ∈ "+-.".toList
  /-- `float` of a text. -/
  parseFloat : String → Option PyFloat
  /-- The nearest binary float; an infinity beyond the largest. -/
  roundFloat : ℚ → PyFloat
  /-- `datetime.isoformat`, on microseconds since the first of January of year 1. -/
  isoformat : ℤ → String
  /-- `datetime.fromisoformat`. -/
  fromisoformat : String → Option ℤ
  /-- `hashlib.sha256(text.encode()).hexdigest()`. -/
  sha256 : String → String
  /-- `hmac.new(key.encode(), text.encode(), sha256).hexdigest()`. -/
  hmacSha256 : String → String → String
  /-- `base64.b64encode`, decoded as text. -/
  b64encode : List UInt8 → String
  /-- `base64.urlsafe_b64decode`. -/
  urlsafeB64decode : String → Option (List UInt8)
  urlsafeB64decode_encode : ∀ bytes,
    urlsafeB64decode (String.ofList (Lib.Base64.encode bytes)) = some bytes
  /-- `zlib.compress`. -/
  zlibCompress : List UInt8 → List UInt8
  /-- `zlib.decompressobj().decompress(packed, limit)` with what `flush` adds: whether some
  input was left unconsumed, the bytes within the limit, the bytes of the flush. -/
  zlibDecompress : List UInt8 → ℕ → Option (Bool × List UInt8 × List UInt8)
  /-- What was compressed comes back whole below the limit. -/
  zlibDecompress_below : ∀ raw limit, raw.length < limit →
    zlibDecompress (zlibCompress raw) limit = some (false, raw, [])
  /-- From the limit on, as many bytes come back as the limit allows. -/
  zlibDecompress_above : ∀ raw limit, limit ≤ raw.length → ∃ unconsumed flushed,
    zlibDecompress (zlibCompress raw) limit = some (unconsumed, raw.take limit, flushed)
  /-- `bytes.decode("utf-8")`. -/
  decodeUtf8 : List UInt8 → Option String
  /-- `bytes.decode("utf-8", "replace")`. -/
  replaceUtf8 : List UInt8 → String
  replaceUtf8_encode : ∀ s, replaceUtf8 (s.toList.flatMap String.utf8EncodeChar) = s
  /-- `json.loads`. -/
  jsonLoads : String → Option Json
  /-- `json.dumps(value, ensure_ascii=False)` in UTF-8; `none` where it raises. -/
  jsonDumps : JsonStyle → Json → Option (List UInt8)
  jsonLoads_dumps : ∀ style value bytes, jsonDumps style value = some bytes →
    decodeUtf8 bytes >>= jsonLoads = some value
  /-- The text of an object ends with the brace that closes it, so no part of it is JSON. -/
  jsonLoads_cut : ∀ style fields bytes part, jsonDumps style (.obj fields) = some bytes →
    part <+: bytes → part ≠ bytes → decodeUtf8 part >>= jsonLoads = none
  /-- `UUID(text).int`. -/
  parseUuid : String → Option ℕ
  /-- `str(UUID(int=n))`. -/
  uuidText : ℕ → String
  /-- `text.encode("idna").decode("ascii")`. -/
  idna : String → Option String
  /-- `bytes.decode("idna")`. -/
  idnaDecode : List UInt8 → Option String
  /-- `socket.inet_ntop`, for the family that the number of bytes tells. -/
  inetNtop : List UInt8 → String
  /-- `base64.b64decode(text, validate=True)`. -/
  b64decode : String → Option (List UInt8)
  /-- `ipaddress.ip_address(text)`: its version and its compressed text. -/
  ipAddress : String → Option (ℕ × String)
  /-- The text of an address is made of hexadecimal digits and separators; a zone is kept. -/
  ipAddress_text : ∀ s v t, ipAddress s = some (v, t) →
    ∀ c ∈ t.toList, c.isAlphanum ∨ c ∈ ":.%".toList ∨ c ∈ s.toList
  /-- `ipaddress.ip_address(text).packed`. -/
  ipPacked : String → List UInt8
  /-- `urlsplit`. -/
  urlsplit : String → Option Url

/-! ## Strings -/

/-- `str.strip` on code points. -/
def stripList (l : List Char) : List Char :=
  ((l.dropWhile isSpace).reverse.dropWhile isSpace).reverse

/-- `str.strip`. -/
def strip (s : String) : String := String.ofList (stripList s.toList)

lemma strip_eq_self {s : String} (h : ∀ c ∈ s.toList, isSpace c = false) : strip s = s := by
  have hdrop : ∀ l : List Char, (∀ c ∈ l, isSpace c = false) → l.dropWhile isSpace = l := by
    intro l hl
    cases l with
    | nil => rfl
    | cons c l => simp [hl c (by simp)]
  rw [strip, stripList, hdrop _ h, hdrop _ (by simpa using h), List.reverse_reverse,
    String.ofList_toList]

/-- `str.rstrip` of one character. -/
def rstripChar (c : Char) (s : String) : String :=
  String.ofList (s.toList.reverse.dropWhile (· == c)).reverse

/-- `s.split(c)`. -/
def splitChar (c : Char) (s : String) : List String :=
  (s.toList.splitOn c).map String.ofList

/-- `s.split(c, 1)`, for the two parts. -/
def splitOnce (c : Char) (s : String) : Option (String × String) :=
  match s.toList.dropWhile (· ≠ c) with
  | [] => none
  | _ :: rest => some (String.ofList (s.toList.takeWhile (· ≠ c)), String.ofList rest)

/-- `s[:n]`. -/
def sliceTo (n : ℕ) (s : String) : String := String.ofList (s.toList.take n)

/-- Keep the characters that satisfy `p`. -/
def keepChars (p : Char → Bool) (s : String) : String := String.ofList (s.toList.filter p)

@[simp] lemma toList_sliceTo (n : ℕ) (s : String) : (sliceTo n s).toList = s.toList.take n := by
  simp [sliceTo]

@[simp] lemma toList_keepChars (p : Char → Bool) (s : String) :
    (keepChars p s).toList = s.toList.filter p := by
  simp [keepChars]

/-- The code points of letters and digits. -/
lemma alphanum_range {c : Char} (h : c.isAlphanum = true) :
    (48 ≤ c.toNat ∧ c.toNat ≤ 57) ∨ (65 ≤ c.toNat ∧ c.toNat ≤ 90) ∨
      (97 ≤ c.toNat ∧ c.toNat ≤ 122) := by
  delta Char.isAlphanum Char.isAlpha Char.isUpper Char.isLower Char.isDigit at h
  simp only [Bool.or_eq_true, decide_eq_true_eq, UInt32.le_iff_toNat_le, Bool.and_eq_true] at h
  simp only [Char.toNat]
  rcases h with (⟨h₁, h₂⟩ | ⟨h₁, h₂⟩) | ⟨h₁, h₂⟩
  · exact .inr (.inl ⟨h₁, h₂⟩)
  · exact .inr (.inr ⟨h₁, h₂⟩)
  · exact .inl ⟨h₁, h₂⟩

/-- Letters and digits are not white space. -/
lemma alphanum_not_space (c : Char) (h : c.isAlphanum = true) : isSpace c = false := by
  have hn := alphanum_range h
  simp only [isSpace, Bool.or_eq_false_iff, Bool.and_eq_false_iff, decide_eq_false_iff_not,
    beq_eq_false_iff_ne]
  omega

/-- The characters of a UTF-8 text, if the bytes are one. -/
def decodeBytes (bytes : List UInt8) : Option String :=
  bytes.toByteArray.utf8Decode?.map fun cs => String.ofList cs.toList

lemma decodeBytes_encode (s : String) :
    decodeBytes (s.toList.flatMap String.utf8EncodeChar) = some s := by
  have h : (s.toList.flatMap String.utf8EncodeChar).toByteArray = s.toList.utf8Encode := rfl
  rw [decodeBytes, h, List.utf8Decode?_utf8Encode]
  simp

lemma eq_encode_of_decodeBytes {bytes : List UInt8} {s : String}
    (h : decodeBytes bytes = some s) : bytes = s.toList.flatMap String.utf8EncodeChar := by
  obtain ⟨cs, hcs, rfl⟩ := Option.map_eq_some_iff.mp h
  have hsome : bytes.toByteArray.utf8Decode?.isSome = true := by rw [hcs]; rfl
  have hencode := @ByteArray.utf8Encode_get_utf8Decode? _ hsome
  rw [Option.get_of_eq_some hsome hcs] at hencode
  have hdata : (cs.toList.flatMap String.utf8EncodeChar).toByteArray = bytes.toByteArray := hencode
  rw [String.toList_ofList]
  have hlist := congrArg (fun b : ByteArray => b.data.toList) hdata
  simpa using hlist.symm

/-- The library on ASCII texts and at the first instant, as far as examples run it. -/
def Runtime.ascii : Runtime where
  isAlnum := Char.isAlphanum
  alnum_ascii _ _ := rfl
  alnum_not_space := alphanum_not_space
  isPrintable c := 32 ≤ c.toNat && c.toNat < 127
  digitValue c := if c.isDigit then some (c.toNat - 48) else none
  lower s := String.ofList (s.toList.map Char.toLower)
  upper s := String.ofList (s.toList.map Char.toUpper)
  casefold s := String.ofList (s.toList.map Char.toLower)
  repr _ := ""
  repr_float := by simp
  parseFloat _ := none
  roundFloat q := .fin q
  isoformat _ := "0001-01-01T00:00:00"
  fromisoformat s := if s = "0001-01-01T00:00:00" then some 0 else none
  sha256 _ := ""
  hmacSha256 _ _ := ""
  b64encode _ := ""
  urlsafeB64decode s := Lib.Base64.decode s.toList
  urlsafeB64decode_encode bytes := by
    rw [String.toList_ofList]
    exact Lib.Base64.decode_encode bytes
  zlibCompress raw := raw
  zlibDecompress packed limit := some (decide (limit < packed.length), packed.take limit, [])
  zlibDecompress_below raw limit h := by
    rw [List.take_of_length_le h.le, decide_eq_false (by omega)]
  zlibDecompress_above raw limit h := ⟨_, _, rfl⟩
  decodeUtf8 := decodeBytes
  replaceUtf8 bytes := (decodeBytes bytes).getD ""
  replaceUtf8_encode s := by simp [decodeBytes_encode]
  jsonLoads _ := none
  jsonDumps _ _ := none
  jsonLoads_dumps := by simp
  jsonLoads_cut := by simp
  parseUuid _ := none
  uuidText _ := ""
  idna s := some s
  idnaDecode := decodeBytes
  inetNtop bytes := ".".intercalate (bytes.map fun b => toString b.toNat)
  b64decode _ := none
  ipAddress _ := none
  ipAddress_text := by simp
  ipPacked _ := []
  urlsplit _ := none

/-! ## Numbers -/

/-- The digits of a number literal, in which single underscores may separate digits. -/
def parseDigits (rt : Runtime) : List Char → Option (List ℕ)
  | [] => none
  | [c] => (rt.digitValue c).map fun d => [d]
  | c :: '_' :: l => do
    let d ← rt.digitValue c
    let ds ← parseDigits rt l
    return d :: ds
  | c :: l => do
    let d ← rt.digitValue c
    let ds ← parseDigits rt l
    return d :: ds

/-- `int` of a text; a literal of more than 4300 digits is refused. -/
def parseInt (rt : Runtime) (s : String) : Option ℤ :=
  let (sign, digits) : ℤ × List Char :=
    match (strip s).toList with
    | '-' :: l => (-1, l)
    | '+' :: l => (1, l)
    | l => (1, l)
  match parseDigits rt digits with
  | none => none
  | some ds =>
    if ds.length > 4300 then none else some (sign * (ds.foldl (fun n d => 10 * n + d) 0 : ℕ))

/-- `int` of a float: the integer part, refused for a NaN or an infinity. -/
def PyFloat.toInt : PyFloat → Option ℤ
  | .fin q => some (if q < 0 then ⌈q⌉ else ⌊q⌋)
  | _ => none

/-- The product of a float and an exact number. -/
def PyFloat.scale (rt : Runtime) (x : PyFloat) (q : ℚ) : PyFloat :=
  match x with
  | .fin p => rt.roundFloat (p * q)
  | .nan => .nan
  | .inf negative => if q = 0 then .nan else .inf (negative != decide (q < 0))

/-- `x <= 0` for a float. -/
def PyFloat.nonpos : PyFloat → Bool
  | .fin q => q ≤ 0
  | .nan => false
  | .inf negative => negative

/-! ## Values -/

namespace Json

/-- `str(value)`. -/
def toStr (rt : Runtime) : Json → String
  | null => "None"
  | bool true => "True"
  | bool false => "False"
  | int n => toString n
  | str s => s
  | v => rt.repr v

@[simp] lemma toStr_str (rt : Runtime) (s : String) : toStr rt (str s) = s := rfl

/-- `str(value or "")`. -/
def text (rt : Runtime) (v : Json) : String := toStr rt (v.or (str ""))

lemma text_str (rt : Runtime) (s : String) : (str s).text rt = s := by
  unfold text Json.or
  by_cases h : s = ""
  · simp [truthy, h]
  · simp [truthy, h]

/-- A value that may be the key of a dictionary. -/
def hashable : Json → Bool
  | arr _ => false
  | obj _ => false
  | _ => true

end Json

/-! ## Dictionaries -/

namespace Obj

/-- `o.get(key)`, where an absent key and a null are told apart. -/
def find (o : Obj) (key : String) : Option Json := o.lookup key

/-- `o.get(key, default)`. -/
def getD (o : Obj) (key : String) (default : Json) : Json := (o.lookup key).getD default

/-- `o.get(key)`. -/
def get (o : Obj) (key : String) : Json := getD o key .null

/-- `key in o`. -/
def has (o : Obj) (key : String) : Bool := (o.lookup key).isSome

/-- `o[key] = value`. -/
def set (o : Obj) (key : String) (value : Json) : Obj := Lib.Assoc.set o key value

/-- `o.pop(key, None)`. -/
def pop (o : Obj) (key : String) : Obj := Lib.Assoc.erase o key

/-- `o.setdefault(key, value)`, as a statement. -/
def setDefault (o : Obj) (key : String) (value : Json) : Obj :=
  if has o key then o else set o key value

/-- `o.update(fields)`. -/
def update (o : Obj) (fields : List (String × Json)) : Obj :=
  fields.foldl (fun o e => set o e.1 e.2) o

@[simp] lemma get_set_self (o : Obj) (key : String) (value : Json) :
    get (set o key value) key = value := by
  simp [get, getD, set]

lemma get_set_ne {key key' : String} (h : key' ≠ key) (o : Obj) (value : Json) :
    get (set o key value) key' = get o key' := by
  simp [get, getD, set, Lib.Assoc.lookup_set_ne h]

end Obj

end Py
