import LoxLexis.Report.Row
import LoxLexis.Report.SourceLine

/-!
# The frame of a report

The rows of a report stand beside a margin that is wide enough for the line numbers. A
row holds a source line under its number, or something that belongs to no line. All of
these rows start the same number of columns in.
-/

namespace LoxLexis

namespace Frame

/-- The row that opens the frame and names the place of a fault. -/
def opening (digits : Nat) (filename : Text) (line column : Nat) : Row :=
  [.bare (Text.spaces (digits + 2)), .inked .margin ['╭'], .inked .margin ['─'],
    .inked .margin ['['],
    .bare (' ' :: filename ++ ':' :: Text.ofNat line ++ ':' :: Text.ofNat column ++ [' ']),
    .inked .margin [']']]

/-- The empty row under the opening. -/
def spacer (digits : Nat) : Row :=
  [.bare (Text.spaces (digits + 2)), .inked .margin ['│']]

/-- The margin beside a source line, with its number at the right. -/
def numbered (digits number : Nat) : Row :=
  let shown := Text.ofNat number
  [.bare [' '],
    .inked .margin (Text.spaces (digits - shown.length) ++ shown ++ [' ', '│']),
    .bare [' ']]

/-- The margin beside a row that is no source line, with the mark that it goes on with. -/
def unnumbered (digits : Nat) (mark : Char) : Row :=
  [.bare [' '], .inked .skipped (Text.spaces (digits + 1) ++ [mark]), .bare [' ']]

/-- The row that closes the frame. -/
def closing (digits : Nat) : Row :=
  [.inked .margin (List.replicate (digits + 2) '─' ++ ['╯'])]

end Frame

end LoxLexis
