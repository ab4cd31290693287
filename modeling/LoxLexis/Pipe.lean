import LoxLexis.IoCause
import LoxLexis.Text.Encoding

/-!
# Pipes that fill up

A pipe accepts bytes up to its capacity. A write accepts as many bytes as still fit and
says how many these were; it fails when there is something to write and nothing fits.
-/

namespace LoxLexis

/-- An output that may have a limit. -/
structure Pipe where
  /-- The number of bytes the pipe accepts in all, if it is limited. -/
  capacity : Option Nat
  /-- The bytes the pipe has accepted. -/
  accepted : Array UInt8
  deriving DecidableEq

namespace Pipe

/-- A pipe that has accepted nothing. -/
def ofCapacity (capacity : Option Nat) : Pipe := ⟨capacity, #[]⟩

/-- How many of so many bytes still fit. -/
def fitting (pipe : Pipe) (count : Nat) : Nat :=
  match pipe.capacity with
  | none => count
  | some capacity => min count (capacity - pipe.accepted.size)

/-- Offer bytes to a pipe: how many it accepts, and the pipe with these. -/
def write (pipe : Pipe) (bytes : Bytes) : Except IoCause (Nat × Pipe) :=
  let count := pipe.fitting bytes.length
  if count = 0 && !bytes.isEmpty then .error .streamFull
  else .ok (count, { pipe with accepted := pipe.accepted.appendList (bytes.take count) })

theorem fitting_le (pipe : Pipe) (count : Nat) : pipe.fitting count ≤ count := by
  unfold fitting
  split
  · exact Nat.le_refl count
  · exact Nat.min_le_left _ _

/-- A write that succeeds accepts at least one byte if it was offered any. -/
theorem pos_of_write {pipe following : Pipe} {bytes : Bytes} {count : Nat}
    (written : pipe.write bytes = .ok (count, following)) (offered : bytes ≠ []) : 0 < count := by
  simp only [write] at written
  split at written
  · simp at written
  · next fits =>
      simp only [Except.ok.injEq, Prod.mk.injEq] at written
      obtain ⟨rfl, -⟩ := written
      simp only [Bool.and_eq_true, decide_eq_true_eq, Bool.not_eq_true', List.isEmpty_eq_false_iff,
        not_and, Decidable.not_not] at fits
      exact Nat.pos_of_ne_zero fun nothing => offered (fits nothing)

/-- Write bytes until all are accepted or a write fails: the pipe then, the bytes that
are left, and the failure if there was one. -/
def pour (pipe : Pipe) (bytes : Bytes) : Pipe × Bytes × Option IoCause :=
  if _more : bytes = [] then (pipe, [], none)
  else
    match _written : pipe.write bytes with
    | .error cause => (pipe, bytes, some cause)
    | .ok (count, following) => following.pour (bytes.drop count)
termination_by bytes.length
decreasing_by
  have progress := pos_of_write _written _more
  have offered := List.length_pos_iff.mpr _more
  simp only [List.length_drop]
  omega

end Pipe

end LoxLexis
