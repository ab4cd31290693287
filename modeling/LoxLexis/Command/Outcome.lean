import LoxLexis.Command.Failure

/-!
# Outcomes

What a run of the command leaves behind: an exit code and two texts. A failure is told on
the second of them, except that faults of a script were told one by one already.
-/

namespace LoxLexis

/-- What a run of the command leaves behind. -/
structure Outcome where
  /-- The exit code. -/
  exitCode : Nat
  /-- What was written to the standard output. -/
  output : Text
  /-- What was written to the standard error output. -/
  errors : Text
  deriving DecidableEq, Repr

namespace Outcome

/-- The outcome of a run that has not failed. -/
def success (output errors : Text) : Outcome := ⟨0, output, errors⟩

/-- What a failure adds to the error output. -/
def notice : Failure → Text
  | .lexical _ => []
  | failure => Text.ofLines [failure.message]

/-- The outcome of a run that has failed after some output. -/
def failed (output errors : Text) (failure : Failure) : Outcome :=
  ⟨failure.exitCode, output, errors ++ notice failure⟩

/-- The outcome of a run that goes on after some output. -/
def after (output errors : Text) (outcome : Outcome) : Outcome :=
  ⟨outcome.exitCode, output ++ outcome.output, errors ++ outcome.errors⟩

end Outcome

end LoxLexis
