import LumenRelay.Installer.Handler
import LumenRelay.Lib.Rewrite

/-!
# The values of the installer's language

What a service answers is JSON, and a field that is not there is undefined.  The installer looks at
fields without knowing what they are, turns them into text, and cuts texts.
-/

namespace Installation

open Installer Py

/-- The library of the language. -/
structure Script where
  /-- `String` of a number. -/
  numberText : Json → String
  /-- `toLowerCase`. -/
  lower : String → String
  /-- `toUpperCase`. -/
  upper : String → String
  /-- `encodeURIComponent`. -/
  encode : String → String
  /-- The message of an exception of the language itself. -/
  errorText : String

/-- A value: undefined, or one that JSON has. -/
abbrev Value : Type := Option Json

/-- Truthiness; all arrays and objects are true. -/
def truthy : Value → Bool
  | none | some .null => false
  | some (.arr _) | some (.obj _) => true
  | some (.float .nan) => false
  | some v => v.truthy

/-- `a || b`. -/
def either (a b : Value) : Value := if truthy a then a else b

/-- The field of a value that is neither undefined nor null. -/
def field (key : String) : Json → Value
  | .obj fields => fields.lookup key
  | _ => none

/-- `v[key]`. -/
def attr (v : Value) (key : String) : Except Failure Value :=
  match v with
  | none | some .null => .error .other
  | some v => .ok (field key v)

/-- `v && v[key]`. -/
def andAttr (v : Value) (key : String) : Value := if truthy v then v >>= field key else v

/-- `v && v[0]`. -/
def andFirst (v : Value) : Value :=
  match v with
  | some (.arr l) => l.head?
  | some (.obj fields) => fields.lookup "0"
  | some (.str s) => if s = "" then v else some (.str (String.ofList (s.toList.take 1)))
  | _ => if truthy v then none else v

/-- `Array.isArray(v) ? v : []`. -/
def elements : Value → List Json
  | some (.arr l) => l
  | _ => []

variable (sc : Script)

mutual

/-- The text of a value; an object may have a field in the place of its method, which throws. -/
def textOf : Json → Option String
  | .null => some "null"
  | .bool b => some (if b then "true" else "false")
  | .int n => some (sc.numberText (.int n))
  | .float x => some (sc.numberText (.float x))
  | .str s => some s
  | .arr l => (textsOf l).map ",".intercalate
  | .obj fields => if (fields.lookup "toString").isSome then none else some "[object Object]"

/-- The texts that are joined for an array. -/
def textsOf : List Json → Option (List String)
  | [] => some []
  | .null :: l => do return "" :: (← textsOf l)
  | v :: l => do return (← textOf v) :: (← textsOf l)

end

/-- `String(v)`. -/
def text : Value → Except Failure String
  | none => .ok "undefined"
  | some v =>
    match textOf sc v with
    | some s => .ok s
    | none => .error .other

/-- `v ? String(v) : ""`. -/
def textOrEmpty (v : Value) : Except Failure String := if truthy v then text sc v else .ok ""

/-! ## Cutting texts -/

/-- So many UTF-16 units of a text; a character of which only one would be left is left out. -/
def takeUnits : ℕ → List Char → List Char
  | _, [] => []
  | n, c :: l =>
    let width := if c.toNat < 0x10000 then 1 else 2
    if width ≤ n then c :: takeUnits (n - width) l else []

/-- `s.slice(0, n)`. -/
def slice (n : ℕ) (s : String) : String := String.ofList (takeUnits n s.toList)

/-- `s.includes(t)`. -/
def includes (s t : String) : Bool := t.toList <:+: s.toList

/-- The mark in the place of a token. -/
def redacted : List Char := "[redacted]".toList

/-- `s.replaceAll(token, "[redacted]")`; without a token the mark is put everywhere. -/
def redact (token s : List Char) : List Char :=
  if token = [] then redacted ++ s.flatMap fun c => c :: redacted
  else Lib.Rewrite.replaceAll token redacted s

/-- A line break or a zero. -/
def isBreak (c : Char) : Bool := c = '\r' || c = '\n' || c.toNat = 0

/-- What is told of the messages of Railway. -/
def tellable (token : String) (messages : List String) : String :=
  let joined := " | ".intercalate messages
  String.ofList (takeUnits 360 (Lib.Rewrite.collapse (fun c => !isBreak c) ' '
    (redact token.toList joined.toList)))

end Installation
