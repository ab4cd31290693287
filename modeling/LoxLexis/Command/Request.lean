import LoxLexis.Text.Basic

/-!
# What the arguments ask for

Asking for help goes before all else. The flag for drawn reports counts once and may
stand anywhere; what is left names at most one script, and may not look like a flag.
-/

namespace LoxLexis

/-- What a run of the command is asked to do. -/
inductive Request
  /-- Show the help text. -/
  | help
  /-- Nothing that can be done. -/
  | misuse
  /-- Read a script, or prompt for lines when no script is given, and draw the faults of
  the script if `pretty` is set. -/
  | run (pretty : Bool) (script : Option Text)
  deriving DecidableEq, Repr

namespace Request

/-- The two spellings of the flag that asks for help. -/
def helpFlags : List Text := ["-h".toList, "--help".toList]

/-- The flag that asks for drawn reports. -/
def prettyFlag : Text := "--pretty".toList

/-- Whether an argument starts like a flag. -/
def looksLikeFlag (argument : Text) : Bool :=
  "--".toList.isPrefixOf argument

/-- What the arguments ask for. -/
def ofArguments (arguments : List Text) : Request :=
  if arguments.any helpFlags.contains then help
  else
    let pretty := arguments.contains prettyFlag
    match arguments.erase prettyFlag with
    | [] => run pretty none
    | [script] => if looksLikeFlag script then misuse else run pretty (some script)
    | _ => misuse

end Request

end LoxLexis
