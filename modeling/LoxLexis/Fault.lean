import LoxLexis.Position

/-!
# Lexical faults

A fault is something in a source that no token can be made of. It is a character that
starts no token, or a string that the source ends in. Faults are data: they stop
nothing, and it is for whoever receives them to count, collect or print them.
-/

namespace LoxLexis

/-- Why a part of a source is no token. -/
inductive Cause
  /-- A character that starts no token. -/
  | unexpected (character : Char)
  /-- A string without its closing quote. -/
  | unterminated
  deriving DecidableEq, Repr

/-- A part of a source that is no token. -/
structure Fault where
  /-- Why it is no token. -/
  cause : Cause
  /-- The line the fault is reported on: an open string is reported where the source ends. -/
  line : Nat
  /-- The bytes of the source that are at fault. -/
  span : Span
  deriving DecidableEq, Repr

/-- The wording of a cause. -/
def Cause.message : Cause → Text
  | .unexpected _ => "Unexpected character".toList
  | .unterminated => "Unterminated string".toList

namespace Fault

/-- The wording of a fault, without its place. -/
def message (fault : Fault) : Text :=
  fault.cause.message

/-- A fault in one line: where it is, and its wording. -/
def display (fault : Fault) : Text :=
  "[line ".toList ++ Text.ofNat fault.line ++ "] Error: ".toList ++ fault.message

/-- The fault moved further down a source. -/
def shift (fault : Fault) (bytes lines : Nat) : Fault :=
  { fault with line := fault.line + lines, span := fault.span.shift bytes }

/-- The faults, one to a line. -/
def listing (faults : List Fault) : Text :=
  Text.ofLines (faults.map display)

@[simp] theorem listing_nil : listing [] = [] := rfl

@[simp] theorem listing_append (left right : List Fault) :
    listing (left ++ right) = listing left ++ listing right := by
  simp [listing]

end Fault

end LoxLexis
