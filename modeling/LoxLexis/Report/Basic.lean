import LoxLexis.Fault
import LoxLexis.Report.Frame
import LoxLexis.Report.Region
import LoxLexis.Text.Escape

/-!
# Reports

A report shows a fault together with the source around it. Under a headline and the place
of the fault it quotes the line that the fault stands on, marks the fault there, and says
what is wrong with it. A fault that reaches over several lines is shown by the first and
the last of them, joined by a bar, with a gap for the lines between. Advice follows when
there is any. A fault that does not lie within the source has a headline only, and a
fault whose span runs backward has no report.
-/

namespace LoxLexis

/-- What is said of a fault beside the place it marks. -/
def Cause.label : Cause → Text
  | .unexpected character => '\'' :: Text.escape character ++ "' does not start any token".toList
  | .unterminated => "string is never closed".toList

/-- What can be done about a fault. -/
def Cause.advice? : Cause → Option Text
  | .unexpected _ => none
  | .unterminated => some "add a closing '\"'".toList

namespace Report

/-- The first row of a report. -/
def headline (fault : Fault) : Row :=
  [.inked .fault "Error:".toList,
    .bare (' ' :: fault.message ++ " (line ".toList ++ Text.ofNat fault.line ++ [')'])]

/-- A source line as it is quoted, its characters inked by whether they are at fault. -/
def quote (span : Span) (line : SourceLine) : Row :=
  line.visible.zipIdx.flatMap fun (character, column) =>
    let ink := if span.contains (line.start + column) then Ink.fault else Ink.source
    (Text.drawnAt column character).map fun drawn => .inked ink [drawn]

/-- A place that takes so many columns, drawn by one run in its first column and by another
in the others. -/
def stretch (first other : Run) : Nat → Row
  | 0 => []
  | extra + 1 => first :: List.replicate extra other

/-- The place under a line from which the bar to the label goes down: the middle of the
fault. -/
def middle (span : Span) (line : SourceLine) : Nat :=
  (span.start + span.stop) / 2 - line.start

/-- The columns of the places under a line that the marks of a fault may need. -/
def markWidths (span : Span) (line : SourceLine) : List Nat :=
  line.widths (span.stop - line.start + 2)

/-- What the row of marks shows at one place of a line. -/
def underlineAt (span : Span) (line : SourceLine) (place width : Nat) : Row :=
  let inside := span.contains (line.start + place)
  if place = middle span line then
    if inside then stretch (.inked .fault ['┬']) (.inked .fault ['─']) width
    else stretch (.inked .fault ['│']) (.inked .fault [' ']) width
  else if inside then stretch (.inked .fault ['─']) (.inked .fault ['─']) width
  else stretch (.bare [' ']) (.bare [' ']) width

/-- What the row of the label shows at one place of a line. -/
def elbowAt (span : Span) (line : SourceLine) (place width : Nat) : Row :=
  if place = middle span line then stretch (.inked .fault ['╰']) (.inked .fault ['─']) width
  else if middle span line < place then
    stretch (.inked .fault ['─']) (.inked .fault ['─']) width
  else stretch (.bare [' ']) (.bare [' ']) width

/-- The rows that show a fault on a single line: the line, the marks under it, and the
label. -/
def singleRows (digits : Nat) (fault : Fault) (line : SourceLine) : List Row :=
  if fault.span.stop ≤ line.stop then
    let places := (markWidths fault.span line).zipIdx
    [Frame.numbered digits line.number ++ quote fault.span line,
      Frame.unnumbered digits '│' ++
        places.flatMap fun (width, place) => underlineAt fault.span line place width,
      Frame.unnumbered digits '│' ++
        (places.flatMap fun (width, place) => elbowAt fault.span line place width) ++
        [.bare (' ' :: fault.cause.label)]]
  else [Frame.unnumbered digits '│']

/-- A source line at an end of the bar that joins the ends of a fault. -/
def joinedRow (digits : Nat) (span : Span) (corner : Char) (line : SourceLine) : Row :=
  Frame.numbered digits line.number ++
    [.inked .fault [corner], .inked .fault ['─'], .inked .fault ['▶'], .inked .fault [' ']] ++
    quote span line

/-- The row that stands for lines which are not shown. -/
def gapRow (digits : Nat) : Row :=
  Frame.unnumbered digits '┆' ++ [.inked .fault ['┆'], .bare (Text.spaces 3)]

/-- The rows at the last line of a fault: the line, the bar under it, and the label. -/
def lastRows (digits : Nat) (fault : Fault) (line : SourceLine) : List Row :=
  let widths := line.widths (line.text.length + 2)
  [joinedRow digits fault.span '├' line,
    Frame.unnumbered digits '│' ++ [.inked .fault ['│'], .bare (Text.spaces 3)] ++
      widths.map fun width => .bare (Text.spaces width),
    Frame.unnumbered digits '│' ++ [.inked .fault ['╰']] ++
      List.replicate 3 (.inked .fault ['─']) ++
      (widths.flatMap fun width => List.replicate width (.inked .fault ['─'])) ++
      [.bare (' ' :: fault.cause.label)]]

/-- The rows that show a fault over several lines. -/
def joinedRows (digits : Nat) (fault : Fault) (region : Region) : List Row :=
  let reached := fault.span.stop ≤ region.last.stop
  let skips := region.first.number + 1 < region.last.number
  joinedRow digits fault.span '╭' region.first ::
    (if skips ∨ ¬reached then [gapRow digits] else []) ++
    if reached then lastRows digits fault region.last else []

/-- What stands before the advice of a fault over several lines. The bar goes on beside it
when the fault starts right at the end of the first line of the source. -/
def adviceIndent (source : Text) (span : Span) (region : Region) : Row :=
  if region.isSingle then []
  else if (SourceLine.ofSource source).head?.map SourceLine.stop = some span.start then
    [.inked .fault ['│'], .bare (Text.spaces 3)]
  else [.bare (Text.spaces 4)]

/-- The rows of advice. -/
def adviceRows (digits : Nat) (indent : Row) (advice : Text) : List Row :=
  [Frame.unnumbered digits '│' ++ indent,
    Frame.unnumbered digits '│' ++ indent ++
      [.inked .note "Help".toList, .bare (": ".toList ++ advice)]]

/-- The rows of the frame around the source lines of a fault. -/
def framedRows (source filename : Text) (fault : Fault) (region : Region) : List Row :=
  let digits := region.digits
  [Frame.opening digits filename region.first.number (fault.span.start - region.first.start + 1),
    Frame.spacer digits] ++
    (if region.isSingle then singleRows digits fault region.first
      else joinedRows digits fault region) ++
    (match fault.cause.advice? with
      | some advice => adviceRows digits (adviceIndent source fault.span region) advice
      | none => []) ++
    [Frame.closing digits]

/-- The rows of the report of a fault. -/
def rows (source filename : Text) (fault : Fault) : Except Span.Refusal (List Row) :=
  if fault.span.stop < fault.span.start then .error .noMark
  else
    match Region.of? source fault.span with
    | none => .ok [headline fault]
    | some region => .ok (headline fault :: framedRows source filename fault region)

/-- The report of a fault in a style. -/
def draw (style : Style) (source filename : Text) (fault : Fault) : Except Span.Refusal Text :=
  (rows source filename fault).map (Row.renderAll style)

/-- The reports of faults in a style, one after the other. -/
def drawAll (style : Style) (source filename : Text) (faults : List Fault) :
    Except Span.Refusal Text :=
  (faults.mapM (draw style source filename)).map List.flatten

end Report

end LoxLexis
