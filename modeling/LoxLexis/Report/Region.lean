import LoxLexis.Report.SourceLine
import LoxLexis.Span

/-!
# The lines that a span touches

A report takes the numbers of a span as counts of characters, and looks for the lines on
which the first and the last of these characters stand. A span that starts or ends beyond
the source has no such lines.
-/

namespace LoxLexis

/-- The lines of a source that a span starts and ends on. -/
structure Region where
  /-- The line of the first character. -/
  first : SourceLine
  /-- The line of the last character. -/
  last : SourceLine
  deriving DecidableEq, Repr

namespace Region

/-- The character that a span ends with; a span of no characters ends where it starts. -/
def finalOffset (span : Span) : Nat :=
  if span.isEmpty then span.start else span.stop - 1

/-- The lines that a span touches, if it lies within the source. -/
def of? (source : Text) (span : Span) : Option Region :=
  if span.start ≤ source.length && finalOffset span ≤ source.length then
    let lines := SourceLine.ofSource source
    match SourceLine.at? lines span.start, SourceLine.at? lines (finalOffset span) with
    | some first, some last => some ⟨first, last⟩
    | _, _ => none
  else none

/-- Whether a region is a single line. -/
def isSingle (region : Region) : Bool :=
  region.first.number = region.last.number

/-- The number of digits that the line numbers of a region take. -/
def digits (region : Region) : Nat :=
  (Text.ofNat region.last.number).length

end Region

end LoxLexis
