import Mathlib.Data.List.Basic

/-!
# Stream readers

The buffer of `asyncio.StreamReader`: a transport feeds it and is paused while it is too full, and
a reader takes from it.
-/

namespace Py

/-- `asyncio.StreamReader`.  Its transport, when there is one that can be paused, is paused only
while the buffer is above the limit. -/
@[ext] structure StreamReader where
  buffer : List UInt8
  eof : Bool
  exception : Bool
  limit : ℕ
  pausable : Bool
  paused : Bool
  above_of_paused : paused = true → limit < buffer.length

namespace StreamReader

/-- A new reader. -/
def create (limit : ℕ) (pausable : Bool) : StreamReader where
  buffer := []
  eof := false
  exception := false
  limit := limit
  pausable := pausable
  paused := false
  above_of_paused := nofun

/-- `at_eof`. -/
def atEof (r : StreamReader) : Bool := r.eof && r.buffer.isEmpty

/-- `feed_data`, which raises after the end. -/
def feedData (r : StreamReader) (data : List UInt8) : Option StreamReader :=
  if r.eof then none
  else if data.isEmpty then some r
  else some { r with
    buffer := r.buffer ++ data
    paused := r.paused || (r.pausable && decide (2 * r.limit < (r.buffer ++ data).length))
    above_of_paused := by
      intro h
      rw [Bool.or_eq_true, Bool.and_eq_true, decide_eq_true_eq] at h
      rcases h with hpaused | ⟨-, hfull⟩
      · exact Nat.lt_of_lt_of_le (r.above_of_paused hpaused) (by simp)
      · omega }

/-- `feed_eof`. -/
def feedEof (r : StreamReader) : StreamReader := { r with eof := true }

/-- The beginning of `_wait_for_data`: a transport that is paused is resumed. -/
def unpause (r : StreamReader) : StreamReader := { r with paused := false, above_of_paused := nofun }

/-- Another buffer, and then `_maybe_resume_transport`. -/
def setBuffer (r : StreamReader) (buffer : List UInt8) : StreamReader where
  buffer := buffer
  eof := r.eof
  exception := r.exception
  limit := r.limit
  pausable := r.pausable
  paused := r.paused && !decide (buffer.length ≤ r.limit)
  above_of_paused := by
    intro h
    simp only [Bool.and_eq_true, Bool.not_eq_true', decide_eq_false_iff_not] at h
    omega

/-- What `read` does when it does not wait, or has waited. -/
def readBuffered (r : StreamReader) (n : ℕ) : List UInt8 × StreamReader :=
  (r.buffer.take n, r.setBuffer (r.buffer.drop n))

variable {r r' : StreamReader}

@[simp] lemma setBuffer_buffer (buffer : List UInt8) : (r.setBuffer buffer).buffer = buffer := rfl

@[simp] lemma setBuffer_eof (buffer : List UInt8) : (r.setBuffer buffer).eof = r.eof := rfl

/-- The transport of a reader without data is not paused. -/
lemma paused_of_nil (h : r.buffer = []) : r.paused = false := by
  refine Bool.eq_false_iff.mpr fun hpaused => ?_
  have habove := r.above_of_paused hpaused
  simp [h] at habove

lemma setBuffer_nil (h : r.buffer = []) : r.setBuffer [] = r := by
  ext1
  · exact h.symm
  · rfl
  · rfl
  · rfl
  · rfl
  · simp [setBuffer, paused_of_nil h]

/-- What was fed is at the end of the buffer. -/
lemma feedData_some {data : List UInt8} (h : r.feedData data = some r') :
    r'.buffer = r.buffer ++ data ∧ r.eof = false ∧ r'.eof = false := by
  unfold feedData at h
  split_ifs at h with heof hempty
  · obtain rfl := Option.some.inj h
    rw [List.isEmpty_iff] at hempty
    exact ⟨by simp [hempty], by simpa using heof, by simpa using heof⟩
  · obtain rfl := Option.some.inj h
    exact ⟨rfl, by simpa using heof, by simpa using heof⟩

lemma atEof_iff : r.atEof = true ↔ r.eof = true ∧ r.buffer = [] := by
  simp [atEof]

end StreamReader

end Py
