import LoxLexis.Proofs.Report.Alignment
import LoxLexis.Proofs.Report.Ends

/-!
# The picture of an open string

An open string reaches from its quote to the end of its source, over any number of lines. On one
line it is marked below the line (`Report.exists_render_marked`), and over several a bar joins the
first line to the last (`Report.exists_render_lastRows`). Both drawings quote the ends of the string
and leave out what lies between, so the rows of the report are counted whatever the length of the
string (`Report.draw_open_string`).
-/

namespace LoxLexis

namespace Report

section Rendering

variable {source : Text} {fault : Fault} {first last : SourceLine}

/-- A typed line is quoted with its tabulators expanded, without the white space at its end. -/
theorem render_quote_of_typed (typed : ∀ other ∈ source, Text.IsTyped other) {line : SourceLine}
    (listed : line.text ∈ source.lines) (span : Span) :
    Row.render .plain (quote span line) = quoted line.text := by
  obtain ⟨shown, oneLine⟩ := SourceLine.visible_of_mem_lines typed listed
  rw [render_quote, Text.flatMap_drawnAt shown oneLine]
  rfl

/-- What is quoted of a typed line is what the report draws. -/
theorem isDrawing_quoted (typed : ∀ other ∈ source, Text.IsTyped other) {line : Text}
    (listed : line ∈ source.lines) : ∀ character ∈ quoted line, IsDrawing character := by
  obtain ⟨shown, oneLine⟩ := @SourceLine.visible_of_mem_lines source ⟨1, 0, line⟩ typed listed
  exact fun _ member => .inl (Text.printable_of_mem_expandTabs shown oneLine member)

/-- An end of several lines is quoted behind its number and a corner of the bar. -/
theorem render_joinedRow (digits : Nat) (span : Span) (corner : Char) (line : SourceLine) :
    Row.render .plain (joinedRow digits span corner line) =
      numberMargin digits line.number ++ corner :: "─▶ ".toList ++
        Row.render .plain (quote span line) := by
  simp [joinedRow, render_numbered, Run.inked]

/-- The gap is written as dots under the bar of the frame and under that of the fault. -/
theorem render_gapRow (digits : Nat) : Row.render .plain (gapRow digits) = gapText digits := by
  simp [gapRow, gapText, Frame.unnumbered, Run.inked, Run.bare, Text.spaces, List.replicate_succ]

/-- Under a line that is not marked, the places are as many spaces as they take columns. -/
theorem render_map_spaces (widths : List Nat) :
    Row.render .plain (widths.map fun width => .bare (Text.spaces width)) =
      Text.spaces widths.sum := by
  induction widths with
  | nil => rfl
  | cons width others ih =>
      rw [List.map_cons, Row.render_plain_cons, ih, List.sum_cons, Text.spaces, Text.spaces,
        Text.spaces, List.replicate_add]
      rfl

/-- A bar under a line is as long as the places take columns. -/
theorem render_flatMap_bar (widths : List Nat) :
    Row.render .plain (widths.flatMap fun width => List.replicate width (.inked .fault ['─'])) =
      List.replicate widths.sum '─' := by
  induction widths with
  | nil => rfl
  | cons width others ih =>
      rw [List.flatMap_cons, Row.render_append, ih, render_replicate rfl, List.sum_cons,
        List.replicate_add]

/-- A single line is quoted, with marks and a label under it. -/
theorem exists_render_marked {line : SourceLine} (reached : fault.span.stop ≤ line.stop) :
    ∃ marks elbow, (∀ character ∈ marks ++ elbow, IsMark character) ∧
      (singleRows (Text.ofNat line.number).length fault line).map (Row.render .plain) =
        [numberMargin (Text.ofNat line.number).length line.number ++
            Row.render .plain (quote fault.span line),
          markMargin line.number ++ marks,
          markMargin line.number ++ elbow ++ ' ' :: fault.cause.label] := by
  let widths := markWidths fault.span line
  have underline := within_places (within_underlineAt fault.span line) widths
  have elbow := within_places (within_elbowAt fault.span line) widths
  refine ⟨_, _, List.forall_mem_append.mpr
    ⟨fun _ => underline.of_mem_render, fun _ => elbow.of_mem_render⟩, ?_⟩
  rw [singleRows, if_pos reached]
  simp only [List.map_cons, List.map_nil, Row.render_append, render_numbered, render_unnumbered,
    Row.render_plain_cons, Row.render_plain_nil, Run.bare, List.append_nil]
  rfl

/-- The last of several lines is quoted, and the bar goes on under it to the label. -/
theorem exists_render_lastRows (fault : Fault) (line : SourceLine) :
    ∃ marks elbow, (∀ character ∈ marks ++ elbow, IsMark character) ∧
      (lastRows (Text.ofNat line.number).length fault line).map (Row.render .plain) =
        [numberMargin (Text.ofNat line.number).length line.number ++ "├─▶ ".toList ++
            Row.render .plain (quote fault.span line),
          markMargin line.number ++ marks,
          markMargin line.number ++ elbow ++ ' ' :: fault.cause.label] := by
  let extra := (line.widths (line.text.length + 2)).sum
  have bar (count : Nat) := @render_replicate '─' (.inked .fault ['─']) rfl count
  refine ⟨'│' :: (Text.spaces 3 ++ Text.spaces extra),
    '╰' :: (List.replicate 3 '─' ++ List.replicate extra '─'), ?_, ?_⟩
  · simp only [List.forall_mem_append, List.forall_mem_cons, Text.spaces, List.forall_mem_replicate]
    have drawn : IsMark '│' ∧ IsMark ' ' ∧ IsMark '╰' ∧ IsMark '─' := by decide
    simp only [drawn, or_true, and_self]
  · simp only [lastRows, List.map_cons, List.map_nil, Row.render_append, render_joinedRow,
      render_unnumbered, render_map_spaces, render_flatMap_bar, bar, Row.render_plain_cons,
      Row.render_plain_nil, List.append_assoc, List.cons_append, List.append_nil]
    rfl

/-- Several lines are shown by the first and the last of them, with a gap for the others. -/
theorem exists_render_joinedRows
    (firstQuoted : Row.render .plain (quote fault.span first) = quoted first.text)
    (lastQuoted : Row.render .plain (quote fault.span last) = quoted last.text)
    (reached : fault.span.stop ≤ last.stop) (before : first.number < last.number) :
    ∃ marks elbow, (∀ character ∈ marks ++ elbow, IsMark character) ∧
      (joinedRows (Text.ofNat last.number).length fault ⟨first, last⟩).map (Row.render .plain) =
        endRows first.number last.number first.text last.text ++
          [markMargin last.number ++ marks,
            markMargin last.number ++ elbow ++ ' ' :: fault.cause.label] := by
  obtain ⟨marks, elbow, marked, rendered⟩ := exists_render_lastRows fault last
  have gap : (if first.number + 1 < last.number ∨ ¬ fault.span.stop ≤ last.stop then
        [gapRow (Text.ofNat last.number).length] else []).map (Row.render .plain) =
      if first.number + 1 < last.number then [gapText (Text.ofNat last.number).length]
        else [] := by
    simp only [reached, not_true_eq_false, or_false]
    split
    · rw [List.map_singleton, render_gapRow]
    · rfl
  refine ⟨marks, elbow, marked, ?_⟩
  rw [joinedRows, if_pos reached]
  simp only [List.map_cons, List.map_append, rendered, gap, render_joinedRow, firstQuoted,
    lastQuoted, endRows, if_neg (Nat.ne_of_lt before), List.cons_append, List.append_assoc,
    List.nil_append]
  rfl

/-- The rows that show a fault over one line or more: its ends, the marks, and the label. -/
theorem exists_render_ends (typed : ∀ other ∈ source, Text.IsTyped other)
    (firstListed : first.text ∈ source.lines) (lastListed : last.text ∈ source.lines)
    (reached : fault.span.stop ≤ last.stop)
    (ordered : first = last ∨ first.number < last.number) :
    ∃ marks elbow, (∀ character ∈ marks ++ elbow, IsMark character) ∧
      (if (Region.mk first last).isSingle then
          singleRows (Text.ofNat last.number).length fault first
        else joinedRows (Text.ofNat last.number).length fault ⟨first, last⟩).map
          (Row.render .plain) =
        endRows first.number last.number first.text last.text ++
          [markMargin last.number ++ marks,
            markMargin last.number ++ elbow ++ ' ' :: fault.cause.label] := by
  have firstQuoted := render_quote_of_typed typed firstListed fault.span
  have lastQuoted := render_quote_of_typed typed lastListed fault.span
  rcases ordered with rfl | before
  · have single : (Region.mk first first).isSingle = true := decide_eq_true rfl
    obtain ⟨marks, elbow, marked, rendered⟩ := exists_render_marked reached
    rw [firstQuoted] at rendered
    refine ⟨marks, elbow, marked, ?_⟩
    rw [if_pos single, rendered, endRows, if_pos rfl]
    rfl
  · have several : ¬ (Region.mk first last).isSingle = true := by
      simpa [Region.isSingle] using Nat.ne_of_lt before
    rw [if_neg several]
    exact exists_render_joinedRows firstQuoted lastQuoted reached before

/-- The advice stands behind its name, under an empty row. -/
theorem render_adviceRows (last : Nat) (indent : Row) (advice : Text) :
    (adviceRows (Text.ofNat last).length indent advice).map (Row.render .plain) =
      [markMargin last ++ Row.render .plain indent,
        markMargin last ++ Row.render .plain indent ++ "Help: ".toList ++ advice] := by
  simp [adviceRows, render_unnumbered, Run.inked, Run.bare]

/-- The rows of the report of an open string in a typed source. -/
theorem exists_render_open (filename : Text) (typed : ∀ other ∈ source, Text.IsTyped other)
    (cause : fault.cause = .unterminated)
    (firstListed : first.text ∈ source.lines) (lastListed : last.text ∈ source.lines)
    (reached : fault.span.stop ≤ last.stop)
    (ordered : first = last ∨ first.number < last.number) :
    ∃ marks elbow indent, (∀ character ∈ marks ++ elbow ++ indent, IsMark character) ∧
      (headline fault :: framedRows source filename fault ⟨first, last⟩).map
          (Row.render .plain) =
        openPicture filename fault.line (fault.span.start - first.start + 1) first.number
          last.number first.text last.text marks elbow indent := by
  obtain ⟨marks, elbow, marked, rendered⟩ :=
    exists_render_ends typed firstListed lastListed reached ordered
  have advice : fault.cause.advice? = some "add a closing '\"'".toList := by
    rw [cause]
    rfl
  have headlined : Row.render .plain (headline fault) =
      "Error: Unterminated string (line ".toList ++ Text.ofNat fault.line ++ [')'] := by
    rw [render_headline, Fault.message, cause]
    rfl
  have label : fault.cause.label = Cause.unterminated.label := by rw [cause]
  refine ⟨marks, elbow, Row.render .plain (adviceIndent source fault.span ⟨first, last⟩), ?_, ?_⟩
  · exact List.forall_mem_append.mpr
      ⟨marked, fun _ => (within_adviceIndent source fault.span _).of_mem_render⟩
  · simp only [framedRows, Region.digits, advice, List.map_cons, List.map_append, List.map_nil,
      headlined, render_opening, render_spacer, rendered, label, render_adviceRows,
      render_closing, openPicture, openHead, openFoot, List.cons_append, List.append_assoc,
      List.nil_append]
    rfl

end Rendering

section Drawing

variable {source filename : Text} {fault : Fault}

/-- An open string reaches from its quote to the end of the source. -/
theorem exists_open_of_mem_faults (member : fault ∈ (lex source).faults)
    (cause : fault.cause = .unterminated) :
    ∃ before value, source = before ++ '"' :: value ∧ '"' ∉ value ∧
      fault.span = ⟨before.byteLength, source.byteLength⟩ := by
  obtain ⟨before, word, behind, whole, fits, met⟩ := exists_word_of_mem_faults member
  cases word <;> cases met
  case stray other => cases cause
  case openString value =>
    obtain ⟨unclosed, rfl⟩ := fits
    rw [List.append_nil] at whole
    exact ⟨before, value, whole, unclosed, by rw [whole]; rfl⟩

/-- The lines of a typed source that an open string starts and ends on. -/
theorem exists_open_region {before value : Text} (typed : ∀ other ∈ source, Text.IsTyped other)
    (whole : source = before ++ '"' :: value) :
    ∃ first last,
      Region.of? source ⟨before.length, source.length⟩ = some ⟨first, last⟩ ∧
      first.number = 1 + before.newlines ∧
      first.start + before.lastLine.length = before.length ∧
      before.lastLine ++ ['"'] <+: first.text ∧
      source.lines[before.newlines]? = some first.text ∧
      last.number = source.lines.length ∧
      last.stop = source.length ∧
      source.lines.getLast? = some last.text ∧
      (first = last ∨ first.number < last.number) := by
  have nonempty : source ≠ [] :=
    whole ▸ List.append_ne_nil_of_right_ne_nil before (List.cons_ne_nil _ _)
  have forward : before.length < source.length := by
    rw [whole, List.length_append, List.length_cons]
    omega
  -- The string ends with the last character of the source, which is on the last line.
  obtain ⟨final, atEnd, finalNumber, stop, finalListed⟩ := SourceLine.exists_at?_last nonempty
  rw [SourceLine.cut_of_typed typed] at finalNumber finalListed
  obtain ⟨line, rest, atStart, number, start, text, listed⟩ :=
    SourceLine.exists_at?_of_typed (whole ▸ typed) (by decide)
  rw [← whole] at atStart listed
  obtain ⟨first, last, region, onFirst, onLast⟩ := @Region.exists_of?_eq_some source
    ⟨before.length, source.length⟩ forward (Nat.le_succ _)
  obtain rfl : line = first := Option.some.inj (atStart.symm.trans onFirst)
  obtain rfl : final = last := Option.some.inj (atEnd.symm.trans onLast)
  exact ⟨line, final, region, number, start, ⟨rest, by rw [text]; simp⟩, listed, finalNumber, stop,
    finalListed, SourceLine.at?_mono (SourceLine.pairwise_ofSource _)
      (Nat.le_sub_one_of_lt forward) atStart atEnd⟩

/-- An open string of a typed source is drawn by the lines of its ends. -/
theorem exists_draw_open (filename : Text) (typed : ∀ other ∈ source, Text.IsTyped other)
    (member : fault ∈ (lex source).faults) (cause : fault.cause = .unterminated) :
    ∃ before value firstLine lastLine marks elbow indent,
      source = before ++ '"' :: value ∧ '"' ∉ value ∧
      fault.span = ⟨before.length, source.length⟩ ∧
      source.lines[before.newlines]? = some firstLine ∧
      before.lastLine ++ ['"'] <+: firstLine ∧
      source.lines.getLast? = some lastLine ∧
      1 + before.newlines ≤ source.lines.length ∧
      (∀ character ∈ marks ++ elbow ++ indent, IsMark character) ∧
      draw .plain source filename fault =
        .ok (Text.ofLines (openPicture filename fault.line (before.lastLine.length + 1)
          (1 + before.newlines) source.lines.length firstLine lastLine marks elbow indent)) := by
  obtain ⟨before, value, whole, unclosed, span⟩ := exists_open_of_mem_faults member cause
  obtain ⟨first, last, region, number, start, begins, firstListed, lastNumber, stop, lastListed,
    ordered⟩ := exists_open_region typed whole
  have beforeTyped : ∀ other ∈ before, Text.IsTyped other := fun other inside =>
    typed other (whole ▸ List.mem_append_left _ inside)
  rw [Text.byteLength_of_typed beforeTyped, Text.byteLength_of_typed typed] at span
  rw [← span] at region
  have forward : fault.span.start < fault.span.stop := by
    rw [span, whole, List.length_append, List.length_cons]
    simp only
    omega
  have column : fault.span.start - first.start + 1 = before.lastLine.length + 1 := by
    rw [span]
    simp only
    omega
  obtain ⟨marks, elbow, indent, marked, rendered⟩ := exists_render_open filename typed cause
    (List.mem_of_getElem? firstListed) (List.mem_of_getLast? lastListed)
    (by rw [stop, span]) ordered
  refine ⟨before, value, first.text, last.text, marks, elbow, indent, whole, unclosed, span,
    firstListed, begins, lastListed, ?_, marked, ?_⟩
  · rcases ordered with rfl | later <;> omega
  · rw [draw_of_region .plain filename forward region, Row.renderAll, rendered, column, number,
      lastNumber]

/-- **An open string is shown by its two ends.** Let the source be typed and the filename
printable. The report of a string that is never closed quotes the line of its quote and the last
line of the source, when that is another one, under their numbers, and no other line: no other
row has a number, and below the last line only marks stand beside the label and the advice. There
is a gap exactly when lines stand between the two. Of the rows behind the last quoted line, one
ends with the label, and the last two are the advice and the end of the frame. So a report has
nine rows for one line, ten for two that follow each other, and eleven otherwise. -/
theorem draw_open_string (typed : ∀ other ∈ source, Text.IsTyped other)
    (named : ∀ character ∈ filename, ' ' ≤ character ∧ character ≤ '~')
    (member : fault ∈ (lex source).faults) (cause : fault.cause = .unterminated) :
    ∃ before value first last firstLine lastLine marks elbow indent rows,
      source = before ++ '"' :: value ∧ '"' ∉ value ∧
      fault.span = ⟨before.length, source.length⟩ ∧
      first = 1 + before.newlines ∧
      source.lines[before.newlines]? = some firstLine ∧
      before.lastLine ++ ['"'] <+: firstLine ∧
      last = source.lines.length ∧
      source.lines.getLast? = some lastLine ∧
      draw .plain source filename fault = .ok (Text.ofLines rows) ∧
      (Text.ofLines rows).lines = rows.map (· ++ ['\n']) ∧
      rows = openPicture filename fault.line (before.lastLine.length + 1) first last firstLine
        lastLine marks elbow indent ∧
      (∀ character ∈ marks ++ elbow ++ indent, IsMark character) ∧
      rows.filterMap marginNumber? =
        (if first = last then [Text.ofNat last] else [Text.ofNat first, Text.ofNat last]) ∧
      ((∃ row ∈ rows, '┆' ∈ row) ↔ first + 1 < last) ∧
      (rowsBehind rows).countP (fun row => Cause.unterminated.label <:+ row) = 1 ∧
      [markMargin last ++ indent ++ "Help: add a closing '\"'".toList,
        List.replicate ((Text.ofNat last).length + 2) '─' ++ ['╯']] <:+ rows ∧
      rows.length = if first = last then 9 else if first + 1 = last then 10 else 11 := by
  obtain ⟨before, value, firstLine, lastLine, marks, elbow, indent, whole, unclosed, span,
    firstListed, begins, lastListed, ordered, marked, drawn⟩ :=
    exists_draw_open filename typed member cause
  have firstDrawn := isDrawing_quoted typed (List.mem_of_getElem? firstListed)
  have lastDrawn := isDrawing_quoted typed (List.mem_of_getLast? lastListed)
  refine ⟨before, value, _, _, firstLine, lastLine, marks, elbow, indent, _, whole, unclosed, span,
    rfl, firstListed, begins, rfl, lastListed, drawn,
    Text.lines_ofLines (newline_not_mem_openPicture named firstDrawn lastDrawn marked), rfl,
    marked, filterMap_marginNumber?_openPicture ..,
    gap_mem_openPicture_iff named firstDrawn lastDrawn marked, ?_, ?_, length_openPicture ordered⟩
  · rw [rowsBehind_openPicture]
    exact countP_label_openFoot marked _
  · exact help_suffix_openPicture

/-- A string over the last three of four lines. -/
theorem draw_open_string_three_lines :
    ∃ rows, draw .plain "a\n \"b\n\nc\td \n".toList "main.lox".toList
        ⟨.unterminated, 5, ⟨3, 12⟩⟩ = .ok (Text.ofLines rows) ∧
      rows.filterMap marginNumber? = ["2".toList, "4".toList] ∧
      rows[3]? = some " 2 │ ╭─▶  \"b".toList ∧
      rows[4]? = some "   ┆ ┆   ".toList ∧
      rows[5]? = some " 4 │ ├─▶ c   d".toList ∧
      (rowsBehind rows).countP (fun row => "string is never closed".toList <:+ row) = 1 ∧
      rows.length = 11 := by
  have typed : ∀ other ∈ "a\n \"b\n\nc\td \n".toList, Text.IsTyped other :=
    List.all_iff_forall_prop.mp rfl
  have named : ∀ character ∈ "main.lox".toList, ' ' ≤ character ∧ character ≤ '~' :=
    List.all_iff_forall_prop.mp rfl
  have isFault : ⟨.unterminated, 5, ⟨3, 12⟩⟩ ∈ (lex "a\n \"b\n\nc\td \n".toList).faults := by
    decide +kernel
  obtain ⟨before, value, first, last, firstLine, lastLine, marks, elbow, indent, rows, whole, -,
    span, isFirst, firstListed, -, isLast, lastListed, drawn, -, picture, -, numbers, -, labelled,
    -, length⟩ := draw_open_string typed named isFault rfl
  have size : before.length = 3 := (congrArg Span.start span).symm
  have front : before = "a\n ".toList := by
    have taken := congrArg (List.take 3) whole
    rw [← size, List.take_left, size] at taken
    exact taken.symm
  subst front
  obtain rfl : first = 2 := isFirst
  obtain rfl : last = 4 := isLast.trans (by decide +kernel)
  obtain rfl : " \"b\n".toList = firstLine := Option.some.inj firstListed
  obtain rfl : "c\td \n".toList = lastLine := Option.some.inj lastListed
  refine ⟨rows, drawn, numbers, ?_, ?_, ?_, labelled, length⟩ <;> rw [picture]
  · rfl
  · rfl
  · rfl

end Drawing

end Report

end LoxLexis
