import Mathlib.Algebra.Order.BigOperators.Group.List
import Mathlib.Tactic.Ring

/-!
# Frames of the WebSocket protocol

A reader of the frame grammar of RFC 6455.  The length of a payload stands in seven bits, in two
bytes or in eight bytes, and a reader refuses a form that is longer than it must be; so each
length has one form, and a stream of frames can be read in one way only.
-/

namespace Lib.WebSocket

/-! ## Numbers in network byte order -/

/-- The last `k` digits of a number to the base 256, the most significant one first. -/
def bigEndian : ℕ → ℕ → List UInt8
  | 0, _ => []
  | k + 1, n => UInt8.ofNat (n / 256 ^ k) :: bigEndian k n

/-- The number that some bytes stand for. -/
def value (bytes : List UInt8) : ℕ := bytes.foldl (fun n b => 256 * n + b.toNat) 0

@[simp] lemma length_bigEndian (k n : ℕ) : (bigEndian k n).length = k := by
  induction k with
  | zero => rfl
  | succ k ih => rw [bigEndian, List.length_cons, ih]

lemma foldl_value (bytes : List UInt8) (n : ℕ) :
    bytes.foldl (fun n b => 256 * n + b.toNat) n = 256 ^ bytes.length * n + value bytes := by
  induction bytes generalizing n with
  | nil => simp [value]
  | cons b bytes ih =>
    rw [value, List.foldl_cons, List.foldl_cons, ih, ih (256 * 0 + b.toNat), List.length_cons]
    ring

lemma value_bigEndian (k n : ℕ) : value (bigEndian k n) = n % 256 ^ k := by
  induction k with
  | zero => rw [pow_zero, Nat.mod_one, bigEndian, value, List.foldl_nil]
  | succ k ih =>
    rw [bigEndian, value, List.foldl_cons, foldl_value, ih, length_bigEndian, UInt8.toNat_ofNat',
      Nat.mul_zero, Nat.zero_add]
    rw [show 256 ^ (k + 1) = 256 ^ k * 256 from pow_succ 256 k, @Nat.mod_mul (256 ^ k) 256 n]
    exact Nat.add_comm _ _

/-! ## Reading -/

/-- A frame; the masking key of a client has four bytes. -/
structure Frame where
  fin : Bool
  rsv : ℕ
  opcode : ℕ
  maskKey : Option (List UInt8)
  payload : List UInt8
deriving DecidableEq, Repr

/-- A final binary frame of a server. -/
def Frame.binary (payload : List UInt8) : Frame := ⟨true, 0, 2, none, payload⟩

/-- A length in some bytes, which could not have been written in a shorter form. -/
def readWide (width low : ℕ) (s : List UInt8) : Option (ℕ × List UInt8) :=
  let n := value (s.take width)
  if s.length < width ∨ n < low ∨ 2 ^ 63 ≤ n then none else some (n, s.drop width)

/-- The length of the payload, from its first seven bits and the bytes after them. -/
def readLength (first : ℕ) (s : List UInt8) : Option (ℕ × List UInt8) :=
  if first < 126 then some (first, s)
  else if first = 126 then readWide 2 126 s
  else readWide 8 65536 s

/-- The masking key, if there is one. -/
def readKey (masked : Bool) (s : List UInt8) : Option (Option (List UInt8) × List UInt8) :=
  if masked then if s.length < 4 then none else some (some (s.take 4), s.drop 4)
  else some (none, s)

/-- The payload without its mask. -/
def unmask (key : Option (List UInt8)) (payload : List UInt8) : List UInt8 :=
  match key with
  | none => payload
  | some key => payload.mapIdx fun i b => b ^^^ key.getD (i % 4) 0

/-- The first frame of a stream, and what comes after it. -/
def readFrame : List UInt8 → Option (Frame × List UInt8)
  | head :: second :: s => do
    let (n, s) ← readLength (second.toNat % 128) s
    let (key, s) ← readKey (decide (128 ≤ second.toNat)) s
    if s.length < n then none
    else
      some (⟨decide (128 ≤ head.toNat), head.toNat / 16 % 8, head.toNat % 16, key,
        unmask key (s.take n)⟩, s.drop n)
  | _ => none

/-- The frames of a stream, for as many frames as the fuel allows. -/
def readFrames : ℕ → List UInt8 → Option (List Frame)
  | _, [] => some []
  | 0, _ => none
  | fuel + 1, s => do
    let (frame, s) ← readFrame s
    return frame :: (← readFrames fuel s)

/-- The frames of a stream that is made of whole frames; a frame has at least two bytes. -/
def decode (s : List UInt8) : Option (List Frame) := readFrames s.length s

/-! ## Forms of a length -/

/-- The forms of the length of an unmasked payload. -/
inductive LengthForm : List UInt8 → ℕ → Prop
  | seven {n : ℕ} : n < 126 → LengthForm [UInt8.ofNat n] n
  | two {n : ℕ} : n < 65536 → LengthForm (126 :: bigEndian 2 n) n
  | eight {n : ℕ} : n < 2 ^ 63 → LengthForm (127 :: bigEndian 8 n) n

/-- A form of a length that no other form is shorter than. -/
def Minimal (form : List UInt8) (n : ℕ) : Prop :=
  LengthForm form n ∧ ∀ other, LengthForm other n → form.length ≤ other.length

lemma minimal_seven {n : ℕ} (h : n < 126) : Minimal [UInt8.ofNat n] n := by
  refine ⟨.seven h, fun other hother => ?_⟩
  cases hother <;> simp

lemma minimal_two {n : ℕ} (hn : 126 ≤ n) (h : n < 65536) : Minimal (126 :: bigEndian 2 n) n := by
  refine ⟨.two h, fun other hother => ?_⟩
  cases hother with
  | seven hseven => omega
  | two _ => rfl
  | eight _ => simp

lemma minimal_eight {n : ℕ} (hn : 65536 ≤ n) (h : n < 2 ^ 63) :
    Minimal (127 :: bigEndian 8 n) n := by
  refine ⟨.eight h, fun other hother => ?_⟩
  cases hother with
  | seven hseven => omega
  | two htwo => omega
  | eight _ => rfl

/-! ## Reading what was written -/

lemma readWide_bigEndian {width low n : ℕ} (hlow : low ≤ n) (hwidth : n < 256 ^ width)
    (hn : n < 2 ^ 63) (s : List UInt8) :
    readWide width low (bigEndian width n ++ s) = some (n, s) := by
  have hvalue : value ((bigEndian width n ++ s).take width) = n := by
    rw [List.take_left' (length_bigEndian width n), value_bigEndian, Nat.mod_eq_of_lt hwidth]
  unfold readWide
  rw [hvalue, List.drop_left' (length_bigEndian width n), List.length_append, length_bigEndian]
  exact if_neg (by omega)

/-- A minimal form is read back, whatever comes after it. -/
lemma readLength_minimal {form : List UInt8} {n : ℕ} (h : Minimal form n) :
    ∃ second ext, form = second :: ext ∧ second.toNat < 128 ∧
      ∀ s, readLength (second.toNat % 128) (ext ++ s) = some (n, s) := by
  obtain ⟨hform, hmin⟩ := h
  cases hform with
  | seven hn =>
    have hsecond : (UInt8.ofNat n).toNat = n := by
      rw [UInt8.toNat_ofNat']
      omega
    refine ⟨_, [], rfl, by omega, fun s => ?_⟩
    rw [hsecond, Nat.mod_eq_of_lt (by omega), readLength, if_pos hn, List.nil_append]
  | two hn =>
    refine ⟨126, _, rfl, by decide, fun s => ?_⟩
    have hlow : 126 ≤ n := by
      by_contra hlt
      have hle := hmin _ (.seven (by omega))
      simp at hle
    exact readWide_bigEndian hlow (by omega) (by omega) s
  | eight hn =>
    refine ⟨127, _, rfl, by decide, fun s => ?_⟩
    have hlow : 65536 ≤ n := by
      by_contra hlt
      have hle := hmin _ (.two (by omega))
      simp at hle
    exact readWide_bigEndian hlow (by omega) hn s

/-- A binary frame with a minimal length is read back, whatever comes after it. -/
lemma readFrame_binary {form payload : List UInt8} (h : Minimal form payload.length)
    (s : List UInt8) :
    readFrame (0x82 :: (form ++ payload) ++ s) = some (.binary payload, s) := by
  obtain ⟨second, ext, rfl, hsecond, hread⟩ := readLength_minimal h
  have hkey : decide (128 ≤ second.toNat) = false := decide_eq_false (by omega)
  have hstream : 0x82 :: (second :: ext ++ payload) ++ s = 0x82 :: second :: (ext ++ (payload ++ s)) := by
    simp
  rw [hstream, readFrame, hread, Option.bind_eq_bind, Option.bind_some, hkey]
  dsimp only
  rw [readKey, if_neg (by decide), Option.bind_eq_bind, Option.bind_some]
  dsimp only
  rw [if_neg (by simp), List.take_left' rfl, List.drop_left' rfl]
  rfl

/-- A stream of pieces that are each read back as a frame, whatever comes after them. -/
lemma readFrames_pieces {α : Type*} {piece : α → List UInt8} {frame : α → Frame} {xs : List α}
    (h : ∀ x ∈ xs, ∀ s, readFrame (piece x ++ s) = some (frame x, s)) {fuel : ℕ}
    (hfuel : xs.length ≤ fuel) : readFrames fuel (xs.flatMap piece) = some (xs.map frame) := by
  induction xs generalizing fuel with
  | nil => cases fuel <;> rfl
  | cons x xs ih =>
    obtain ⟨hx, hxs⟩ := List.forall_mem_cons.mp h
    obtain ⟨fuel, rfl⟩ : ∃ k, fuel = k + 1 := ⟨fuel - 1, by simp at hfuel; omega⟩
    have hread := hx (xs.flatMap piece)
    rw [List.flatMap_cons, List.map_cons]
    cases hstream : piece x ++ xs.flatMap piece with
    | nil =>
      rw [hstream] at hread
      cases hread
    | cons b s =>
      rw [hstream] at hread
      have hrest := ih hxs (Nat.le_of_succ_le_succ hfuel)
      simp only [readFrames, hread, hrest, Option.bind_eq_bind, Option.bind_some, Option.pure_def]

/-- A stream of binary frames with minimal lengths is decoded to their payloads. -/
theorem decode_binary {form : List UInt8 → List UInt8} {payloads : List (List UInt8)}
    (h : ∀ payload ∈ payloads, Minimal (form payload) payload.length) :
    decode (payloads.flatMap fun payload => 0x82 :: (form payload ++ payload)) =
      some (payloads.map Frame.binary) := by
  refine readFrames_pieces (fun payload hpayload s => readFrame_binary (h payload hpayload) s) ?_
  rw [List.length_flatMap]
  calc payloads.length = (payloads.map fun _ => 1).sum := by simp
    _ ≤ _ := List.sum_le_sum fun payload _ => by simp

end Lib.WebSocket
