import LoxLexis.Text.Basic

/-!
# Spans

A span is a half-open range of byte offsets. Nothing keeps a span from running
backward, but a backward span has no length and cannot be marked in a report; both
refusals are named here (`Span.Refusal`).
-/

namespace LoxLexis

/-- A half-open range of byte offsets. -/
structure Span where
  /-- The offset of the first byte. -/
  start : Nat
  /-- The offset after the last byte. -/
  stop : Nat
  deriving DecidableEq, Repr, Inhabited

namespace Span

/-- What cannot be done with a span that runs backward. -/
inductive Refusal
  /-- Its length cannot be taken. -/
  | noLength
  /-- No report can mark it. -/
  | noMark
  deriving DecidableEq, Repr

/-- The wording of a refusal. -/
def Refusal.message : Refusal → Text
  | .noLength => "attempt to subtract with overflow".toList
  | .noMark => "Label start is after its end".toList

/-- The span of no bytes at the start of a text. -/
def origin : Span := ⟨0, 0⟩

/-- Whether a span holds no byte, as a backward span does not. -/
def isEmpty (span : Span) : Bool :=
  span.stop ≤ span.start

/-- The number of bytes of a span. -/
def length (span : Span) : Except Refusal Nat :=
  if span.start ≤ span.stop then .ok (span.stop - span.start) else .error .noLength

/-- A span has a length exactly when it does not run backward. -/
theorem length_eq_ok_iff (span : Span) (count : Nat) :
    span.length = .ok count ↔ span.start + count = span.stop := by
  unfold length
  split
  · simp only [Except.ok.injEq]
    omega
  · simp only [reduceCtorEq, false_iff]
    omega

/-- Whether a byte offset lies in a span. -/
def contains (span : Span) (offset : Nat) : Bool :=
  span.start ≤ offset && offset < span.stop

/-- The span moved by a number of bytes. -/
def shift (span : Span) (distance : Nat) : Span :=
  ⟨span.start + distance, span.stop + distance⟩

end Span

end LoxLexis
