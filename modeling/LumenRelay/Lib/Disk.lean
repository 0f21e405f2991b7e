import Mathlib.Logic.Function.Basic
import Mathlib.Data.List.Basic

/-!
# Files and crashes

A disk gives each name the bytes of its file, if there is one.  Copying a file and writing one
may be cut at any byte, which leaves a beginning of the bytes; renaming a file is atomic.  A
crash leaves what a beginning of a list of operations left, with the operation after it
possibly cut.
-/

namespace Lib

variable {N β : Type} [DecidableEq N]

/-- The files by their names. -/
abbrev Disk (N β : Type) : Type := N → Option (List β)

/-- The operations on files. -/
inductive FileOp (N β : Type)
  | copy (source target : N)
  | write (target : N) (bytes : List β)
  | rename (source target : N)

namespace FileOp

/-- The disk after an operation. -/
def apply : FileOp N β → Disk N β → Disk N β
  | .copy source target, d => Function.update d target (d source)
  | .write target bytes, d => Function.update d target (some bytes)
  | .rename source target, d => Function.update (Function.update d target (d source)) source none

/-- The disk after several operations. -/
def run (ops : List (FileOp N β)) (d : Disk N β) : Disk N β := ops.foldl (fun d op => op.apply d) d

/-- What an operation leaves that was cut. -/
inductive Cut : FileOp N β → Disk N β → Disk N β → Prop
  | copy {source target : N} {d : Disk N β} {bytes part : List β} :
      d source = some bytes → part <+: bytes →
      Cut (.copy source target) d (Function.update d target (some part))
  | write {target : N} {d : Disk N β} {bytes part : List β} : part <+: bytes →
      Cut (.write target bytes) d (Function.update d target (some part))

/-- What a crash leaves during a list of operations. -/
inductive Crash : List (FileOp N β) → Disk N β → Disk N β → Prop
  | before (ops : List (FileOp N β)) (d : Disk N β) : Crash ops d d
  | inside {op : FileOp N β} {ops : List (FileOp N β)} {d d' : Disk N β} : Cut op d d' →
      Crash (op :: ops) d d'
  | after {op : FileOp N β} {ops : List (FileOp N β)} {d d' : Disk N β} :
      Crash ops (op.apply d) d' → Crash (op :: ops) d d'

/-- A crash is in the first part of the operations, or after it. -/
lemma Crash.append {ops ops' : List (FileOp N β)} {d d' : Disk N β}
    (h : Crash (ops ++ ops') d d') : Crash ops d d' ∨ Crash ops' (run ops d) d' := by
  induction ops generalizing d with
  | nil => exact .inr h
  | cons op ops ih =>
    cases h with
    | before => exact .inl (.before _ _)
    | inside hcut => exact .inl (.inside hcut)
    | after h =>
      rcases ih h with h | h
      · exact .inl (.after h)
      · exact .inr h

/-- What every operation keeps, cut or whole, a crash keeps. -/
lemma Crash.invariant {I : Disk N β → Prop} {ops : List (FileOp N β)} {d d' : Disk N β}
    (hwhole : ∀ op ∈ ops, ∀ d, I d → I (op.apply d))
    (hcut : ∀ op ∈ ops, ∀ d d', I d → Cut op d d' → I d') (h : Crash ops d d') (hd : I d) :
    I d' := by
  induction h with
  | before => exact hd
  | inside h => exact hcut _ List.mem_cons_self _ _ hd h
  | after h ih =>
    refine ih (fun op hop => hwhole op (List.mem_cons_of_mem _ hop))
      (fun op hop => hcut op (List.mem_cons_of_mem _ hop)) ?_
    exact hwhole _ List.mem_cons_self _ hd

/-- What every operation keeps, a list of operations keeps. -/
lemma run_invariant {I : Disk N β → Prop} {ops : List (FileOp N β)} {d : Disk N β}
    (hwhole : ∀ op ∈ ops, ∀ d, I d → I (op.apply d)) (hd : I d) : I (run ops d) := by
  induction ops generalizing d with
  | nil => exact hd
  | cons op ops ih =>
    refine ih (fun op hop => hwhole op (List.mem_cons_of_mem _ hop)) ?_
    exact hwhole op List.mem_cons_self d hd

end FileOp

end Lib
