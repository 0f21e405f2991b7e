import LumenRelay.Py.Runtime

/-!
# Dynamically typed operations

The operations that may raise: conversions to a number, and the list operations on a value
that is expected to be a list.
-/

namespace Py

/-- The exceptions the modelled code raises. -/
inductive PyErr
  | valueError (message : String)
  | typeError
  | attributeError
  | keyError
  | overflowError
  | osError (message : String)
  | runtimeError (message : String)
  | proxyUnavailable (message : String)
  | http (status : ℕ) (detail : String)
deriving DecidableEq, Repr

lemma ok_bind {ε α β : Type} (a : α) (f : α → Except ε β) : (Except.ok a >>= f) = f a := rfl

lemma throw_ne_ok {ε β : Type} (e : ε) (b : β) : (throw e : Except ε β) ≠ .ok b := nofun

/-- A composition that returns did so in both its parts. -/
lemma bind_eq_ok {ε α β : Type} {x : Except ε α} {f : α → Except ε β} {b : β}
    (h : x >>= f = .ok b) : ∃ a, x = .ok a ∧ f a = .ok b := by
  cases x with
  | ok a => exact ⟨a, rfl, h⟩
  | error e => cases h

/-- A composition of parts that return returns. -/
lemma exists_ok_bind {ε α β : Type} {x : Except ε α} {f : α → Except ε β}
    (hx : ∃ a, x = .ok a) (hf : ∀ a, ∃ b, f a = .ok b) : ∃ b, (x >>= f) = .ok b := by
  obtain ⟨a, rfl⟩ := hx
  exact hf a

/-- A loop that returns has a result for each element. -/
lemma forall₂_of_mapM {ε α β : Type} {f : α → Except ε β} {l : List α} {bs : List β}
    (h : l.mapM f = .ok bs) : List.Forall₂ (fun a b => f a = .ok b) l bs := by
  induction l generalizing bs with
  | nil =>
    cases h
    exact .nil
  | cons a l ih =>
    rw [List.mapM_cons] at h
    obtain ⟨b, hb, h⟩ := bind_eq_ok h
    obtain ⟨bs', hbs', h⟩ := bind_eq_ok h
    cases h
    exact .cons hb (ih hbs')

/-- The results of a loop are those of its elements. -/
lemma mem_of_mapM {ε α β : Type} {f : α → Except ε β} {l : List α} {bs : List β}
    (h : l.mapM f = .ok bs) {b : β} : b ∈ bs ↔ ∃ a ∈ l, f a = .ok b := by
  have hall := forall₂_of_mapM h
  clear h
  induction hall with
  | nil => simp
  | @cons a b' l bs hb _ ih => simp [ih, hb, eq_comm]

/-- A loop whose body returns for each element returns. -/
lemma mapM_ok {ε α β : Type} {f : α → Except ε β} {l : List α} (h : ∀ a ∈ l, ∃ b, f a = .ok b) :
    ∃ bs, l.mapM f = .ok bs := by
  induction l with
  | nil => exact ⟨[], rfl⟩
  | cons a l ih =>
    obtain ⟨b, hb⟩ := h a List.mem_cons_self
    obtain ⟨bs, hbs⟩ := ih fun a' ha' => h a' (List.mem_cons_of_mem a ha')
    refine ⟨b :: bs, ?_⟩
    rw [List.mapM_cons, hb, ok_bind, hbs, ok_bind]
    rfl

/-- The same for a loop that leaves elements out. -/
lemma filterMapM_ok {ε α β : Type} {f : α → Except ε (Option β)} {l : List α}
    (h : ∀ a ∈ l, ∃ b, f a = .ok b) : ∃ bs, l.filterMapM f = .ok bs := by
  induction l with
  | nil => exact ⟨[], rfl⟩
  | cons a l ih =>
    obtain ⟨b, hb⟩ := h a List.mem_cons_self
    obtain ⟨bs, hbs⟩ := ih fun a' ha' => h a' (List.mem_cons_of_mem a ha')
    rw [List.filterMapM_cons, hb, ok_bind, hbs]
    cases b with
    | none => exact ⟨bs, rfl⟩
    | some b => exact ⟨b :: bs, rfl⟩

/-- What a loop keeps holds when it returns. -/
lemma foldlM_invariant {ε α β : Type} {f : β → α → Except ε β} {I : β → Prop}
    (hstep : ∀ b a b', I b → f b a = .ok b' → I b') {l : List α} {b b' : β} (hb : I b)
    (h : l.foldlM f b = .ok b') : I b' := by
  induction l generalizing b with
  | nil =>
    cases h
    exact hb
  | cons a l ih =>
    rw [List.foldlM_cons] at h
    obtain ⟨b₁, hb₁, h⟩ := bind_eq_ok h
    exact ih (hstep b a b₁ hb hb₁) h

/-- A loop whose body returns returns. -/
lemma foldlM_ok {ε α β : Type} {f : β → α → Except ε β} (h : ∀ b a, ∃ b', f b a = .ok b')
    (l : List α) (b : β) : ∃ b', l.foldlM f b = .ok b' := by
  induction l generalizing b with
  | nil => exact ⟨b, rfl⟩
  | cons a l ih =>
    rw [List.foldlM_cons]
    exact exists_ok_bind (h b a) ih

namespace Json

/-- `int(value)`. -/
def toInt (rt : Runtime) : Json → Except PyErr ℤ
  | bool b => .ok (if b then 1 else 0)
  | int n => .ok n
  | float (.fin q) => .ok (if q < 0 then ⌈q⌉ else ⌊q⌋)
  | float .nan => .error (.valueError "cannot convert float NaN to integer")
  | float (.inf _) => .error .overflowError
  | str s =>
    match parseInt rt s with
    | some n => .ok n
    | none => .error (.valueError "invalid literal for int() with base 10")
  | _ => .error .typeError

/-- `float(value)`; an integer beyond the largest float is refused. -/
def toFloat (rt : Runtime) : Json → Except PyErr PyFloat
  | bool b => .ok (.fin (if b then 1 else 0))
  | int n =>
    match rt.roundFloat n with
    | .fin q => .ok (.fin q)
    | _ => .error .overflowError
  | float x => .ok x
  | str s =>
    match rt.parseFloat s with
    | some x => .ok x
    | none => .error (.valueError "could not convert string to float")
  | _ => .error .typeError

/-- `text in value`. -/
def contains (text : String) : Json → Except PyErr Bool
  | arr l => .ok (decide (str text ∈ l))
  | str s => .ok (decide (text.toList <:+: s.toList))
  | obj o => .ok (Obj.has o text)
  | _ => .error .typeError

/-- `value.remove(text)`, of a text that is in the list. -/
def removeFirst (text : String) : Json → Except PyErr Json
  | arr l => .ok (arr (l.erase (str text)))
  | _ => .error .attributeError

/-- `value.append(text)`. -/
def append (text : String) : Json → Except PyErr Json
  | arr l => .ok (arr (l ++ [str text]))
  | _ => .error .attributeError

/-- `isinstance(value, dict)`, with the fields. -/
def asObj : Json → Option Obj
  | obj o => some o
  | _ => none

/-- `value.get(key)` of a value that is expected to be a dictionary. -/
def attrGet (key : String) : Json → Except PyErr Json
  | obj o => .ok (Obj.get o key)
  | _ => .error .attributeError

/-- What a `for` loop over the value sees. -/
def iterate : Json → Except PyErr (List Json)
  | arr l => .ok l
  | obj o => .ok (o.map fun e => str e.1)
  | str s => .ok (s.toList.map fun c => str (String.singleton c))
  | _ => .error .typeError

/-- `len(value)`. -/
def len : Json → Except PyErr ℕ
  | arr l => .ok l.length
  | obj o => .ok o.length
  | str s => .ok s.length
  | _ => .error .typeError

end Json

end Py
