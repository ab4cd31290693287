import LoxLexis.IoCause

/-!
# Failures of the command

How a run of the command can fail, with the wording and the exit code of each failure.
The exit codes are those that system programs use for a usage error, for data in error,
and for an input or output error.
-/

namespace LoxLexis

/-- Why a run of the command has failed. -/
inductive Failure
  /-- The arguments are not understood; the usage is to be shown. -/
  | usage (usage : Text)
  /-- The script has faults. -/
  | lexical (count : Nat)
  /-- Reading or writing has failed. -/
  | io (cause : IoCause)
  deriving DecidableEq, Repr

namespace Failure

/-- The wording of a failure. -/
def message : Failure → Text
  | usage text => "Usage: ".toList ++ text
  | lexical count => Text.ofNat count ++ " lexical error(s) in script".toList
  | io cause => "IO error: ".toList ++ cause.message

/-- The exit code of a failure. -/
def exitCode : Failure → Nat
  | usage _ => 64
  | lexical _ => 65
  | io _ => 74

/-- The cause behind a failure to read or write. -/
def cause? : Failure → Option IoCause
  | io cause => some cause
  | _ => none

end Failure

end LoxLexis
