import LumenRelay.Lib.Dict
import Mathlib.Data.Rat.Defs

/-!
# The values of the host language

The relay keeps its links and groups as nested dictionaries of JSON values and edits them
with the dynamically typed operations of the host language: `dict.get`, truthiness,
`str(...)`, `or`.  This file has those values and operations.  Numbers are exact:
an integer is an `Int`, a float a rational, a NaN or an infinity.
-/

namespace Py

/-- A float, read exactly. -/
inductive PyFloat
  | fin (q : ℚ)
  | nan
  | inf (negative : Bool)
deriving DecidableEq, Repr

/-- A value that the JSON decoder yields, or that the program stores. -/
inductive Json
  | null
  | bool (b : Bool)
  | int (n : ℤ)
  | float (x : PyFloat)
  | str (s : String)
  | arr (l : List Json)
  | obj (o : List (String × Json))
deriving Inhabited, Repr

/-- The fields of a dictionary with string keys. -/
abbrev Obj : Type := List (String × Json)

namespace Json

mutual

/-- Equality of values is decidable. -/
def decEq : (a b : Json) → Decidable (a = b)
  | .null, .null => isTrue rfl
  | .bool a, .bool b => if h : a = b then isTrue (by rw [h]) else isFalse (by simpa using h)
  | .int a, .int b => if h : a = b then isTrue (by rw [h]) else isFalse (by simpa using h)
  | .float a, .float b => if h : a = b then isTrue (by rw [h]) else isFalse (by simpa using h)
  | .str a, .str b => if h : a = b then isTrue (by rw [h]) else isFalse (by simpa using h)
  | .arr a, .arr b =>
    match decEqList a b with
    | isTrue h => isTrue (by rw [h])
    | isFalse h => isFalse (by simpa using h)
  | .obj a, .obj b =>
    match decEqObj a b with
    | isTrue h => isTrue (by rw [h])
    | isFalse h => isFalse (by simpa using h)
  | .null, .bool _ | .null, .int _ | .null, .float _ | .null, .str _ | .null, .arr _
  | .null, .obj _ | .bool _, .null | .bool _, .int _ | .bool _, .float _ | .bool _, .str _
  | .bool _, .arr _ | .bool _, .obj _ | .int _, .null | .int _, .bool _ | .int _, .float _
  | .int _, .str _ | .int _, .arr _ | .int _, .obj _ | .float _, .null | .float _, .bool _
  | .float _, .int _ | .float _, .str _ | .float _, .arr _ | .float _, .obj _ | .str _, .null
  | .str _, .bool _ | .str _, .int _ | .str _, .float _ | .str _, .arr _ | .str _, .obj _
  | .arr _, .null | .arr _, .bool _ | .arr _, .int _ | .arr _, .float _ | .arr _, .str _
  | .arr _, .obj _ | .obj _, .null | .obj _, .bool _ | .obj _, .int _ | .obj _, .float _
  | .obj _, .str _ | .obj _, .arr _ => isFalse (by simp)

/-- Equality of lists of values. -/
def decEqList : (a b : List Json) → Decidable (a = b)
  | [], [] => isTrue rfl
  | [], _ :: _ | _ :: _, [] => isFalse (by simp)
  | x :: a, y :: b =>
    match decEq x y, decEqList a b with
    | isTrue h, isTrue h' => isTrue (by rw [h, h'])
    | isFalse h, _ => isFalse (by simp [h])
    | _, isFalse h => isFalse (by simp [h])

/-- Equality of field lists. -/
def decEqObj : (a b : List (String × Json)) → Decidable (a = b)
  | [], [] => isTrue rfl
  | [], _ :: _ | _ :: _, [] => isFalse (by simp)
  | (k, x) :: a, (k', y) :: b =>
    if hk : k = k' then
      match decEq x y, decEqObj a b with
      | isTrue h, isTrue h' => isTrue (by rw [hk, h, h'])
      | isFalse h, _ => isFalse (by simp [h])
      | _, isFalse h => isFalse (by simp [h])
    else isFalse (by simp [hk])

end

instance : DecidableEq Json := decEq

/-- Truthiness. -/
def truthy : Json → Bool
  | null => false
  | bool b => b
  | int n => n ≠ 0
  | float (.fin q) => q ≠ 0
  | float _ => true
  | str s => s ≠ ""
  | arr l => l ≠ []
  | obj o => !o.isEmpty

/-- `a or b`. -/
def or (a b : Json) : Json := if a.truthy then a else b

end Json

end Py
