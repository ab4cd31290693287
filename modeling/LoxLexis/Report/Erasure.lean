import LoxLexis.Text.Basic

/-!
# Erasing colours

A colour is set by an escape sequence: an escape character, an opening bracket, digits and
semicolons, and the letter `m`. Erasing removes each such sequence and keeps everything
else, an escape character that starts no such sequence included.
-/

namespace LoxLexis

namespace Report

/-- Whether a character may stand between the bracket and the letter of an escape
sequence. -/
def isColourDigit (character : Char) : Bool :=
  character.isDigit || character = ';'

/-- What follows the escape sequence that an escape character starts, given the text after
that character, if it starts one. -/
def afterColour? (rest : Text) : Option Text :=
  match rest with
  | '[' :: inside =>
      match inside.dropWhile isColourDigit with
      | 'm' :: following => some following
      | _ => none
  | _ => none

theorem length_lt_of_afterColour? {rest following : Text}
    (found : afterColour? rest = some following) : following.length < rest.length := by
  unfold afterColour? at found
  split at found
  · next inside =>
      split at found
      · next following' dropped =>
          have shorter := (List.dropWhile_sublist (l := inside) isColourDigit).length_le
          rw [dropped, List.length_cons] at shorter
          rw [Option.some.injEq] at found
          subst found
          rw [List.length_cons]
          omega
      · simp at found
  · simp at found

/-- The text without the escape sequences that set colours. -/
def eraseColours : Text → Text
  | [] => []
  | character :: rest =>
      if character = '\x1b' then
        match _found : afterColour? rest with
        | some following => eraseColours following
        | none => character :: eraseColours rest
      else character :: eraseColours rest
termination_by text => text.length
decreasing_by
  · exact Nat.lt_succ_of_lt (length_lt_of_afterColour? _found)
  · exact Nat.lt_succ_self _
  · exact Nat.lt_succ_self _

end Report

end LoxLexis
