import LoxLexis.CharClass.Combining
import LoxLexis.CharClass.Ignorable
import LoxLexis.CharClass.Joining
import LoxLexis.CharClass.WhiteSpace
import LoxLexis.CharClass.Wide
import LoxLexis.Text.Basic

/-!
# Columns of a terminal

How many columns a character takes when it is drawn at a given column. A tabulator goes
on to the next multiple of four; any other white space is drawn as one space; the other
characters take no column, one or two by their Unicode properties, apart from the few that
are drawn otherwise: the Hangul filler of an initial consonant, the sign that joins two
Tifinagh letters, and two Khmer signs that are drawn as the signs they abbreviate. The
properties are those of Unicode 15.1.
-/

namespace LoxLexis

namespace Text

/-- The number of columns between tabulator stops. -/
def tabWidth : Nat := 4

/-- Whether a character is drawn as empty space. -/
def isWhite (character : Char) : Bool :=
  CharClass.whiteSpace.contains character

/-- Whether a character takes no column of its own. -/
def isColumnless (character : Char) : Bool :=
  CharClass.ignorable.contains character || CharClass.combining.contains character ||
    CharClass.joining.contains character

/-- The number of columns that a character takes wherever it is drawn. A control
character is shown in one column, and of the characters before the combining marks only
the soft hyphen takes none. -/
def width (character : Char) : Nat :=
  if character < '\u0300' then if character = '\u00ad' then 0 else 1
  else if character = '\u2d7f' then 1
  else if character = '\u115f' || character = '\u17a4' then 2
  else if character = '\u17d8' then 3
  else if isColumnless character then 0
  else if CharClass.wide.contains character then 2
  else 1

/-- The number of columns that a character takes when it is drawn at a column. -/
def widthAt (column : Nat) (character : Char) : Nat :=
  if character = '\t' then (column / tabWidth + 1) * tabWidth - column
  else if isWhite character then 1
  else width character

/-- A character as it is drawn at a column, white space as spaces. -/
def drawnAt (column : Nat) (character : Char) : Text :=
  if isWhite character then spaces (widthAt column character) else [character]

end Text

end LoxLexis
