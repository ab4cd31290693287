import LoxLexis.Proofs.Report.Place
import LoxLexis.Proofs.Text.Columns

/-!
# The picture of a stray character

The report of a single character quotes the line of the character and puts a mark under it. The
line is drawn from its characters and the row of the mark from their widths
(`Report.render_marks`); on a typed line both agree, and the rows of the report are those of
`Report.strayPicture` (`Report.exists_render_stray`).
-/

namespace LoxLexis

namespace Report

/-- The span of one character of a line. -/
def singleSpan (line : SourceLine) (place : Nat) : Span :=
  ⟨line.start + place, line.start + place + 1⟩

section Places

variable {character : Char} {place : Nat}

theorem render_replicate {run : Run} (text : run.text = [character]) (count : Nat) :
    Row.render .plain (List.replicate count run) = List.replicate count character := by
  induction count with
  | zero => rfl
  | succ extra ih =>
      rw [List.replicate_succ, Row.render_plain_cons, text, ih]
      rfl

/-- A place is drawn with one character in all of its columns when both of its runs are that
character. -/
theorem render_stretch {first other : Run} (firstText : first.text = [character])
    (otherText : other.text = [character]) (count : Nat) :
    Row.render .plain (stretch first other count) = List.replicate count character := by
  cases count with
  | zero => rfl
  | succ extra =>
      rw [stretch, Row.render_plain_cons, firstText, render_replicate otherText]
      rfl

/-- Places that are each drawn with one character are drawn with that character alone. -/
theorem render_places {drawPlace : Nat → Nat → Row} (widths : List Nat) (place : Nat)
    (each : ∀ other width, place ≤ other → other < place + widths.length →
      Row.render .plain (drawPlace other width) = List.replicate width character) :
    Row.render .plain
        ((widths.zipIdx place).flatMap fun (width, other) => drawPlace other width) =
      List.replicate widths.sum character := by
  induction widths generalizing place with
  | nil => rfl
  | cons width others ih =>
      rw [List.zipIdx_cons, List.flatMap_cons, Row.render_append, List.sum_cons,
        List.replicate_add, ih]
      · congr 1
        exact each place width (Nat.le_refl _) (by simp)
      · intro other further le lt
        exact each other further (by omega) (by rw [List.length_cons]; omega)

/-- A row with spaces up to one place, a mark there, and a tail behind it. -/
theorem render_around {drawPlace : Nat → Nat → Row} {mark tail : Char} (lefts rights : List Nat)
    (before : ∀ other width, other < lefts.length →
      Row.render .plain (drawPlace other width) = List.replicate width ' ')
    (here : Row.render .plain (drawPlace lefts.length 1) = [mark])
    (behind : ∀ other width, lefts.length < other →
      Row.render .plain (drawPlace other width) = List.replicate width tail) :
    Row.render .plain
        ((lefts ++ 1 :: rights).zipIdx.flatMap fun (width, other) => drawPlace other width) =
      Text.spaces lefts.sum ++ mark :: List.replicate rights.sum tail := by
  have left := render_places lefts 0 fun other width _ lt => before other width (by omega)
  have right := render_places rights (lefts.length + 1) fun other width le _ =>
    behind other width (by omega)
  rw [List.zipIdx_append, List.flatMap_append, Row.render_append, List.zipIdx_cons,
    List.flatMap_cons, Row.render_append, Nat.zero_add, left, right, here]
  rfl

variable (line : SourceLine)

theorem middle_singleSpan : middle (singleSpan line place) line = place := by
  simp only [middle, singleSpan]
  omega

/-- The span of one character contains that character alone. -/
theorem contains_singleSpan (other : Nat) :
    (singleSpan line place).contains (line.start + other) = decide (other = place) := by
  rw [Bool.eq_iff_iff]
  simp only [Span.contains, Bool.and_eq_true, decide_eq_true_eq]
  simp only [singleSpan]
  omega

/-- Under a line, the row of marks has one mark for one character. -/
theorem render_marks (lefts rights : List Nat) :
    Row.render .plain ((lefts ++ 1 :: rights).zipIdx.flatMap fun (width, other) =>
        underlineAt (singleSpan line lefts.length) line other width) =
      Text.spaces lefts.sum ++ '┬' :: Text.spaces rights.sum := by
  have blank (other width : Nat) (apart : other ≠ lefts.length) :
      Row.render .plain (underlineAt (singleSpan line lefts.length) line other width) =
        List.replicate width ' ' := by
    rw [underlineAt, middle_singleSpan, contains_singleSpan, if_neg apart, decide_eq_false apart]
    exact render_stretch rfl rfl width
  refine render_around lefts rights (fun other width lt => blank other width (Nat.ne_of_lt lt)) ?_
    fun other width lt => blank other width (Nat.ne_of_gt lt)
  rw [underlineAt, middle_singleSpan, contains_singleSpan, if_pos rfl, decide_eq_true rfl]
  rfl

/-- Under the row of marks, the label starts from the mark. -/
theorem render_elbow (lefts rights : List Nat) :
    Row.render .plain ((lefts ++ 1 :: rights).zipIdx.flatMap fun (width, other) =>
        elbowAt (singleSpan line lefts.length) line other width) =
      Text.spaces lefts.sum ++ '╰' :: List.replicate rights.sum '─' := by
  refine render_around lefts rights (fun other width lt => ?_) ?_ fun other width lt => ?_
  · rw [elbowAt, middle_singleSpan, if_neg (by omega), if_neg (by omega)]
    exact render_stretch rfl rfl width
  · rw [elbowAt, middle_singleSpan, if_pos rfl]
    rfl
  · rw [elbowAt, middle_singleSpan, if_neg (by omega), if_pos lt]
    exact render_stretch rfl rfl width

end Places

section Rows

variable {line : SourceLine} {left right : Text} {character : Char}

theorem render_map_inked (ink : Ink) (text : Text) :
    Row.render .plain (text.map fun character => .inked ink [character]) = text := by
  induction text with
  | nil => rfl
  | cons first rest ih =>
      rw [List.map_cons, Row.render_plain_cons, ih]
      rfl

/-- A quoted line is written as what each of its characters is drawn as. -/
theorem render_quote (span : Span) (line : SourceLine) :
    Row.render .plain (quote span line) =
      line.visible.zipIdx.flatMap fun (character, column) => Text.drawnAt column character := by
  rw [Row.render, quote, List.flatMap_assoc]
  exact congrArg (List.flatMap · _) (funext fun place => render_map_inked _ _)

/-- The places under a line are those up to a character, which take as many columns as the text
drawn for them, the place of the character, and others behind it. -/
theorem exists_markWidths (shown : line.visible = left ++ character :: right)
    (typed : ∀ other ∈ left, Text.IsTyped other) (oneLine : '\n' ∉ left)
    (narrow : Text.widthAt left.length character = 1) :
    ∃ lefts rights, markWidths (singleSpan line left.length) line = lefts ++ 1 :: rights ∧
      lefts.length = left.length ∧ lefts.sum = (Text.expandTabs 0 left).length := by
  have count : (singleSpan line left.length).stop - line.start + 2 = left.length + 3 := by
    simp only [singleSpan]
    omega
  have lefts : (left.zipIdx.map fun (character, column) =>
      Text.widthAt column character).length = left.length := by simp
  rw [markWidths, SourceLine.widths, count, shown, List.zipIdx_append, List.map_append]
  simp only [List.zipIdx_cons, List.map_cons, Nat.zero_add, narrow]
  nth_rewrite 1 [← lefts]
  rw [List.take_length_add_append, List.take_succ_cons, List.append_assoc, List.cons_append]
  exact ⟨_, _, rfl, lefts, Text.sum_widthAt typed oneLine 0⟩

/-- What stands before a quoted line with a number. -/
def lineMargin (number : Nat) : Text :=
  ' ' :: Text.ofNat number ++ " │ ".toList

/-- What stands before a quoted line in a margin for so many digits, its number at the right. -/
def numberMargin (digits number : Nat) : Text :=
  ' ' :: Text.spaces (digits - (Text.ofNat number).length) ++ Text.ofNat number ++ " │ ".toList

/-- What stands before the marks under a line with a number. -/
def markMargin (number : Nat) : Text :=
  Text.spaces ((Text.ofNat number).length + 2) ++ "│ ".toList

/-- The lines of the report of a stray character: the headline, the place, the frame, the source
line with the character in it, the mark, the label, and the end of the frame. -/
def strayPicture (filename : Text) (number column : Nat) (left : Text) (character : Char)
    (right : Text) (extra : Nat) : List Text :=
  let margin := Text.spaces ((Text.ofNat number).length + 2)
  ["Error: Unexpected character (line ".toList ++ Text.ofNat number ++ [')'],
    margin ++ "╭─[ ".toList ++ location filename number column ++ " ]".toList,
    margin ++ ['│'],
    lineMargin number ++ left ++ character :: right,
    markMargin number ++ Text.spaces left.length ++ '┬' :: Text.spaces extra,
    markMargin number ++ Text.spaces left.length ++ '╰' :: List.replicate extra '─' ++
      ' ' :: (Cause.unexpected character).label,
    List.replicate ((Text.ofNat number).length + 2) '─' ++ ['╯']]

/-- Under the place, a row has the bar of the frame alone. -/
theorem render_spacer (digits : Nat) :
    Row.render .plain (Frame.spacer digits) = Text.spaces (digits + 2) ++ ['│'] := rfl

/-- The frame closes under its bar. -/
theorem render_closing (digits : Nat) :
    Row.render .plain (Frame.closing digits) = List.replicate (digits + 2) '─' ++ ['╯'] :=
  List.append_nil _

/-- Before a quoted line stands its number, at the right of the margin. -/
theorem render_numbered (digits number : Nat) :
    Row.render .plain (Frame.numbered digits number) = numberMargin digits number := by
  simp [Frame.numbered, numberMargin, Run.inked, Run.bare]

/-- In a margin of its own length, a number stands behind a single space. -/
theorem numberMargin_self (number : Nat) :
    numberMargin (Text.ofNat number).length number = lineMargin number := by
  rw [numberMargin, lineMargin, Nat.sub_self]
  rfl

/-- Before a row that is no source line stands the bar of the frame alone. -/
theorem render_unnumbered (number : Nat) :
    Row.render .plain (Frame.unnumbered (Text.ofNat number).length '│') = markMargin number := by
  simp [markMargin, Frame.unnumbered, Run.inked, Run.bare, Text.spaces, List.replicate_succ]

/-- A stray character on a typed line is quoted with its line, marked, and labelled. -/
theorem exists_render_singleRows (shown : line.visible = left ++ character :: right)
    (typed : ∀ other ∈ line.visible, Text.IsTyped other) (oneLine : '\n' ∉ line.visible)
    (notWhite : Text.isWhite character = false)
    (reached : (singleSpan line left.length).stop ≤ line.stop) (number : Nat) :
    ∃ extra, (singleRows (Text.ofNat line.number).length
        ⟨.unexpected character, number, singleSpan line left.length⟩ line).map
        (Row.render .plain) =
      [lineMargin line.number ++ Text.expandTabs 0 left ++
          character :: Text.expandTabs (left.length + 1) right,
        markMargin line.number ++ Text.spaces (Text.expandTabs 0 left).length ++
          '┬' :: Text.spaces extra,
        markMargin line.number ++ Text.spaces (Text.expandTabs 0 left).length ++
          '╰' :: List.replicate extra '─' ++ ' ' :: (Cause.unexpected character).label] := by
  have notTab : character ≠ '\t' := by
    rintro rfl
    cases notWhite
  have notNewline : character ≠ '\n' := by
    rintro rfl
    cases notWhite
  have quoted := render_quote (singleSpan line left.length) line
  rw [Text.flatMap_drawnAt typed oneLine, shown, Text.expandTabs_append, Text.expandTabs,
    if_neg notTab, Nat.zero_add, List.singleton_append] at quoted
  rw [shown, List.forall_mem_append, List.forall_mem_cons] at typed
  rw [shown, List.mem_append, not_or] at oneLine
  have narrow : Text.widthAt left.length character = 1 := by
    rw [typed.2.1.widthAt, typed.2.1.drawnAt notNewline, if_neg notTab]
    rfl
  obtain ⟨lefts, rights, places, count, sum⟩ := exists_markWidths shown typed.1 oneLine.1 narrow
  have marks := render_marks line lefts rights
  have elbow := render_elbow line lefts rights
  rw [count, sum, ← places] at marks elbow
  refine ⟨rights.sum, ?_⟩
  rw [singleRows, if_pos reached]
  simp only [List.map_cons, List.map_nil, Row.render_append, render_numbered, numberMargin_self,
    render_unnumbered, quoted, marks, elbow, Row.render_plain_cons, Row.render_plain_nil, Run.bare,
    List.append_nil, List.append_assoc]

/-- The rows of the report of a stray character on a typed line. -/
theorem exists_render_stray (source filename : Text)
    (shown : line.visible = left ++ character :: right)
    (typed : ∀ other ∈ line.visible, Text.IsTyped other) (oneLine : '\n' ∉ line.visible)
    (notWhite : Text.isWhite character = false)
    (reached : (singleSpan line left.length).stop ≤ line.stop) :
    let fault : Fault := ⟨.unexpected character, line.number, singleSpan line left.length⟩
    ∃ extra, (headline fault :: framedRows source filename fault ⟨line, line⟩).map
        (Row.render .plain) =
      strayPicture filename line.number (left.length + 1) (Text.expandTabs 0 left) character
        (Text.expandTabs (left.length + 1) right) extra := by
  intro fault
  obtain ⟨extra, rendered⟩ :=
    exists_render_singleRows shown typed oneLine notWhite reached line.number
  have single : (Region.mk line line).isSingle = true := decide_eq_true rfl
  have column : (singleSpan line left.length).start - line.start + 1 = left.length + 1 := by
    simp only [singleSpan]
    omega
  refine ⟨extra, ?_⟩
  simp only [framedRows, if_pos single, Region.digits, Cause.advice?, fault, column,
    List.map_cons, List.map_append, List.map_nil, List.append_nil, rendered,
    render_headline, render_opening, render_spacer, render_closing]
  rfl

end Rows

end Report

end LoxLexis
