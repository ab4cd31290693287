import LoxLexis.CharClass.Extending
import LoxLexis.CharClass.Ignorable
import LoxLexis.CharClass.Unprintable
import LoxLexis.Text.Basic

/-!
# Characters shown in quotes

A character is named in a message as it would be written in a string literal. Quotes,
backslashes and the usual controls have a short form; other characters that cannot be
shown, that are not drawn, or that would be drawn onto the quote before them, are written
by their code point; every other character stands for itself. The classes of characters
are those of Unicode 17.
-/

namespace LoxLexis

namespace Text

/-- The code point of a character in hexadecimal digits, as an escape. -/
def codePointEscape (character : Char) : Text :=
  ['\\', 'u', '\x7b'] ++ Nat.toDigits 16 character.toNat ++ ['\x7d']

/-- Whether a character between quotes would not be seen as itself. -/
def isHidden (character : Char) : Bool :=
  CharClass.extending.contains character || CharClass.ignorable.contains character ||
    CharClass.unprintable.contains character

/-- A character as it is shown between quotes. -/
def escape (character : Char) : Text :=
  if character = '\x00' then ['\\', '0']
  else if character = '\t' then ['\\', 't']
  else if character = '\n' then ['\\', 'n']
  else if character = '\r' then ['\\', 'r']
  else if character = '\'' || character = '\"' || character = '\\' then ['\\', character]
  else if ' ' ≤ character && character ≤ '~' then [character]
  else if isHidden character then codePointEscape character
  else [character]

end Text

end LoxLexis
