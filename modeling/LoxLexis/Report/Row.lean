import LoxLexis.Text.Basic

/-!
# Rows of inked text

A report is drawn in rows, and a row is a sequence of runs of text, each with or without
an ink. The style of a drawing decides whether inks are seen: a coloured run starts with
the escape sequence of its ink and ends with the one that resets the terminal, and a
plain run is its text alone. Both styles draw the same rows.
-/

namespace LoxLexis

/-- The part that a piece of text plays in a report, which decides its colour. -/
inductive Ink
  /-- What is at fault. -/
  | fault
  /-- The frame around the source. -/
  | margin
  /-- The frame beside rows that hold no source. -/
  | skipped
  /-- Source that is not at fault. -/
  | source
  /-- Advice. -/
  | note
  deriving DecidableEq, Repr

/-- The terminal's number for the colour of an ink. -/
def Ink.colour : Ink → Text
  | fault => "31".toList
  | margin => "38;5;246".toList
  | skipped => "38;5;240".toList
  | source => "38;5;249".toList
  | note => "38;5;115".toList

/-- Whether the inks of a drawing are seen. -/
inductive Style
  /-- The text alone. -/
  | plain
  /-- The text with escape sequences for its colours. -/
  | coloured
  deriving DecidableEq, Repr

/-- A piece of text in one ink, or in none. -/
structure Run where
  /-- The ink, if there is one. -/
  ink : Option Ink
  /-- The text. -/
  text : Text
  deriving DecidableEq, Repr

namespace Run

/-- Text in no ink. -/
def bare (text : Text) : Run := ⟨none, text⟩

/-- Text in an ink. -/
def inked (ink : Ink) (text : Text) : Run := ⟨some ink, text⟩

/-- The escape sequence that sets the colour of what follows. -/
def colourSequence (colour : Text) : Text :=
  ['\x1b', '['] ++ colour ++ ['m']

/-- A run as it is written in a style. -/
def render (style : Style) (run : Run) : Text :=
  match style, run.ink with
  | .coloured, some ink => colourSequence ink.colour ++ run.text ++ colourSequence ['0']
  | _, _ => run.text

end Run

/-- A line of a report. -/
abbrev Row := List Run

namespace Row

/-- A row as it is written in a style, without its line break. -/
def render (style : Style) (row : Row) : Text :=
  row.flatMap (Run.render style)

/-- Rows as they are written in a style, each with its line break. -/
def renderAll (style : Style) (rows : List Row) : Text :=
  Text.ofLines (rows.map (render style))

end Row

end LoxLexis
