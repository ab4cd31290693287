import LoxLexis.Text.Basic

/-!
# Causes of input and output errors

Why reading or writing has failed, with the wording that is shown for it.
-/

namespace LoxLexis

/-- Why reading or writing has failed. -/
inductive IoCause
  /-- There is nothing of that name. -/
  | notFound
  /-- A path goes on below something that is no directory. -/
  | notADirectory
  /-- A directory was to be read as a file. -/
  | isADirectory
  /-- The bytes read are not the UTF-8 form of a text. -/
  | invalidUtf8
  /-- The output takes no more bytes. -/
  | streamFull
  /-- Any other cause, in the words of whoever has found it. -/
  | other (wording : Text)
  deriving DecidableEq, Repr

/-- The wording of a cause. -/
def IoCause.message : IoCause → Text
  | notFound => "No such file or directory (os error 2)".toList
  | notADirectory => "Not a directory (os error 20)".toList
  | isADirectory => "Is a directory (os error 21)".toList
  | invalidUtf8 => "stream did not contain valid UTF-8".toList
  | streamFull => "stream is full".toList
  | other wording => wording

end LoxLexis
