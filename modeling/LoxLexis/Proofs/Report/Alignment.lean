import LoxLexis.Proofs.Report.Picture
import Mathlib.Data.Bool.AllAny

/-!
# Marks stand under what they mark

In a typed source, lines end at newlines for a report too (`SourceLine.cut_of_typed`), so a stray
character is drawn on its own line. The mark under that line stands in the column of the
character, behind any tabulators and beside line numbers of any length
(`Report.draw_stray_aligned`).
-/

namespace LoxLexis

namespace SourceLine

variable {text : Text} {character : Char}

/-- Of the breaks, only the newline is typed. -/
theorem isBreak_iff_of_typed (typed : Text.IsTyped character) :
    isBreak character = true ↔ character = '\n' := by
  constructor
  · intro breaks
    simp only [isBreak, Bool.or_eq_true, decide_eq_true_eq, or_assoc] at breaks
    rcases breaks with isNewline | rfl | rfl | rfl | rfl | rfl | rfl
    · exact isNewline
    all_goals exact absurd typed (by decide)
  · rintro rfl
    rfl

/-- A typed text is cut at its newlines. -/
theorem cut_of_typed (typed : ∀ character ∈ text, Text.IsTyped character) :
    cut text = text.lines := by
  have inside {part : Text} (typed : ∀ character ∈ part, Text.IsTyped character)
      (oneLine : '\n' ∉ part) : ∀ character ∈ part, isBreak character = false := by
    intro character member
    rw [Bool.eq_false_iff, ne_eq, isBreak_iff_of_typed (typed character member)]
    exact ne_of_mem_of_not_mem member oneLine
  induction text using Text.lines_induction with
  | last text oneLine =>
      rcases eq_or_ne text [] with rfl | nonempty
      · exact cut_nil
      · have first := splitFirst_append_of_inside (inside typed oneLine) []
        rw [List.append_nil] at first
        rw [cut_of_ne_nil nonempty, Text.lines_of_not_mem oneLine nonempty, first]
        simp [splitFirst]
  | line body rest oneLine ih =>
      rw [List.forall_mem_append, List.forall_mem_cons] at typed
      have first := splitFirst_append_of_inside (inside typed.1 oneLine) ('\n' :: rest)
      rw [cut_of_ne_nil (List.append_ne_nil_of_right_ne_nil body (List.cons_ne_nil _ _)), first,
        Text.lines_append_newline oneLine, ← ih typed.2.2]
      rfl

/-- The line of a character in a typed source. -/
theorem exists_at?_of_typed {before behind : Text}
    (typed : ∀ other ∈ before ++ character :: behind, Text.IsTyped other)
    (notNewline : character ≠ '\n') :
    ∃ line rest, at? (ofSource (before ++ character :: behind)) before.length = some line ∧
      line.number = 1 + before.newlines ∧
      line.start + before.lastLine.length = before.length ∧
      line.text = before.lastLine ++ character :: rest ∧
      (before ++ character :: behind).lines[before.newlines]? = some line.text := by
  obtain ⟨front, tail, rfl, closed, inside⟩ := exists_closed_append before
  have isTyped := List.forall_mem_append.mp typed
  have frontTyped := (List.forall_mem_append.mp isTyped.1).1
  have ends : ∀ last ∈ front.getLast?, last = '\n' := fun last final =>
    (isBreak_iff_of_typed (frontTyped last (List.mem_of_getLast? final))).mp (closed last final)
  have number : (cut front).length = (front ++ tail).newlines := by
    rw [cut_of_typed frontTyped, Text.length_lines ends, newlines_place inside]
  have characterInside : isBreak character = false := by
    rw [Bool.eq_false_iff, ne_eq, isBreak_iff_of_typed (isTyped.2 character List.mem_cons_self)]
    exact notNewline
  have more : character :: behind ≠ [] := List.cons_ne_nil _ _
  have apart : (character :: behind).head? ≠ some '\n' := by simpa using notNewline
  have lastLine := Text.lastLine_append ends (newline_not_mem inside)
  have current := splitFirst_cons_of_inside characterInside behind
  refine ⟨_, (splitFirst behind).1, at?_ofSource closed inside more apart, ?_⟩
  rw [← cut_of_typed typed, cut_place closed inside more apart, ← number, lastLine, current,
    List.length_append]
  exact ⟨rfl, rfl, rfl, by simp⟩

/-- What a report shows of a line of a typed source is typed, on one line. -/
theorem visible_of_mem_lines {source : Text} {line : SourceLine}
    (typed : ∀ other ∈ source, Text.IsTyped other) (member : line.text ∈ source.lines) :
    (∀ other ∈ line.visible, Text.IsTyped other) ∧ '\n' ∉ line.visible := by
  refine ⟨?_, Text.newline_not_mem_trimEnd member⟩
  intro other shown
  apply typed
  rw [← Text.flatten_lines source]
  exact List.mem_flatten_of_mem member (Text.subset_of_trimEnd _ _ shown)

end SourceLine

/-- A typed character that starts no word is not white space. -/
theorem Word.IsStray.isWhite_eq_false {character : Char} (stray : Word.IsStray character)
    (typed : Text.IsTyped character) : Text.isWhite character = false := by
  have notBlank := stray.1
  simp only [List.mem_cons, not_or] at notBlank
  rw [Bool.eq_false_iff, ne_eq, typed.isWhite_iff]
  simp [notBlank]

namespace Report

variable {source filename : Text} {fault : Fault} {character : Char}

/-- A stray character is a fault of its own. -/
theorem exists_stray_of_mem_faults (member : fault ∈ (lex source).faults)
    (cause : fault.cause = .unexpected character) :
    ∃ before behind, source = before ++ character :: behind ∧ Word.IsStray character ∧
      fault = ⟨.unexpected character, 1 + before.newlines,
        ⟨before.byteLength, before.byteLength + character.utf8Size⟩⟩ := by
  obtain ⟨before, word, behind, whole, fits, met⟩ := exists_word_of_mem_faults member
  cases word <;> cases met
  case openString => cases cause
  case stray other =>
    obtain rfl : other = character := by simpa using cause
    exact ⟨before, behind, whole, fits, by simp [Word.placedSpan, Word.spelling]⟩

/-- A character within a source is marked on its own line. -/
theorem of?_singleSpan {line : SourceLine} {place : Nat}
    (found : SourceLine.at? (SourceLine.ofSource source) (line.start + place) = some line)
    (within : line.start + place ≤ source.length) :
    Region.of? source (singleSpan line place) = some ⟨line, line⟩ := by
  have forward : (singleSpan line place).start < (singleSpan line place).stop := Nat.lt_succ_self _
  obtain ⟨first, last, region, atStart, atStop⟩ :=
    Region.exists_of?_eq_some forward (Nat.succ_le_succ within)
  obtain rfl : line = first := Option.some.inj (found.symm.trans atStart)
  obtain rfl : line = last := Option.some.inj (found.symm.trans atStop)
  exact region

/-- A typed character other than the newline is shown without a newline. -/
theorem newline_not_mem_escape (typed : Text.IsTyped character) (notNewline : character ≠ '\n') :
    '\n' ∉ Text.escape character := by
  by_cases tab : character = '\t'
  · subst tab
    decide +kernel
  · have printable : (' ' ≤ character && character ≤ '~') = true := by
      rcases typed with printable | isTab | isNewline
      · simpa using printable
      · exact absurd isTab tab
      · exact absurd isNewline notNewline
    unfold Text.escape
    split_ifs <;> simp [Ne.symm notNewline]

/-- No row of the picture has a newline in it. -/
theorem newline_not_mem_strayPicture {left right : Text} (fileLine : '\n' ∉ filename)
    (leftLine : '\n' ∉ left) (rightLine : '\n' ∉ right) (typed : Text.IsTyped character)
    (notNewline : character ≠ '\n') (number column extra : Nat) :
    ∀ row ∈ strayPicture filename number column left character right extra, '\n' ∉ row := by
  intro row member
  have digits (count : Nat) : '\n' ∉ Text.ofNat count := fun newline =>
    (Text.isTyped_of_mem_ofNat newline).2 rfl
  have spaces (count : Nat) : '\n' ∉ Text.spaces count := by simp [Text.spaces]
  have escaped := newline_not_mem_escape typed notNewline
  have label : '\n' ∉ (Cause.unexpected character).label := by
    have worded : (Cause.unexpected character).label =
        '\'' :: Text.escape character ++ "' does not start any token".toList := rfl
    simp [worded, escaped]
  simp only [strayPicture, List.mem_cons, List.not_mem_nil, or_false] at member
  rcases member with rfl | rfl | rfl | rfl | rfl | rfl | rfl <;>
    simp [location, lineMargin, markMargin, digits, spaces, label, fileLine, leftLine, rightLine,
      Ne.symm notNewline]

/-- The quoted character and its mark stand in the same column. -/
theorem columns_margin {left : Text} (number : Nat)
    (narrow : ∀ other ∈ left, Text.width other = 1) :
    Text.columns (lineMargin number ++ left) =
      Text.columns (markMargin number ++ Text.spaces left.length) := by
  have digits : Text.columns (Text.ofNat number) = (Text.ofNat number).length :=
    Text.columns_eq_length fun other member => (Text.isTyped_of_mem_ofNat member).1.width
  have spaces (count : Nat) : Text.columns (Text.spaces count) = count := by
    simp [Text.columns, Text.spaces, show Text.width ' ' = 1 from rfl]
  have space : Text.columns [' '] = 1 := by decide +kernel
  have numbered : Text.columns " │ ".toList = 3 := by decide +kernel
  have unnumbered : Text.columns "│ ".toList = 2 := by decide +kernel
  rw [lineMargin, markMargin, ← List.singleton_append, Text.columns_append, Text.columns_append,
    Text.columns_append, Text.columns_append, Text.columns_append, Text.columns_eq_length narrow,
    digits, spaces, spaces, space, numbered, unnumbered]
  omega

/-- A stray character of a typed source is drawn on its line. -/
theorem exists_draw_stray (filename : Text) (typed : ∀ other ∈ source, Text.IsTyped other)
    (member : fault ∈ (lex source).faults) (cause : fault.cause = .unexpected character) :
    ∃ before behind line right extra,
      source = before ++ character :: behind ∧
      fault.span = ⟨before.length, before.length + 1⟩ ∧
      fault.line = 1 + before.newlines ∧
      source.lines[before.newlines]? = some line ∧
      before.lastLine ++ [character] <+: line ∧
      Text.expandTabs 0 (Text.trimEnd Text.isWhite line) =
        Text.expandTabs 0 before.lastLine ++ character :: right ∧
      draw .plain source filename fault =
        .ok (Text.ofLines (strayPicture filename fault.line (before.lastLine.length + 1)
          (Text.expandTabs 0 before.lastLine) character right extra)) := by
  obtain ⟨before, behind, rfl, stray, rfl⟩ := exists_stray_of_mem_faults member cause
  have isTyped : Text.IsTyped character := typed character (by simp)
  have notWhite := stray.isWhite_eq_false isTyped
  have notNewline : character ≠ '\n' := by
    rintro rfl
    cases notWhite
  have notTab : character ≠ '\t' := by
    rintro rfl
    cases notWhite
  obtain ⟨line, rest, atStart, number, start, text, listed⟩ :=
    SourceLine.exists_at?_of_typed typed notNewline
  -- Typed characters are single bytes, so the bytes of the fault are the place of its character.
  have span : (⟨before.byteLength, before.byteLength + character.utf8Size⟩ : Span) =
      singleSpan line before.lastLine.length := by
    rw [Text.byteLength_of_typed (List.forall_mem_append.mp typed).1, isTyped.utf8Size, ← start]
    rfl
  have shown : line.visible =
      before.lastLine ++ character :: Text.trimEnd Text.isWhite rest := by
    rw [SourceLine.visible, text, Text.trimEnd_append _ notWhite]
  obtain ⟨visibleTyped, visibleLine⟩ :=
    SourceLine.visible_of_mem_lines typed (List.mem_of_getElem? listed)
  have reached : (singleSpan line before.lastLine.length).stop ≤ line.stop := by
    rw [SourceLine.stop, text, singleSpan, List.length_append, List.length_cons]
    simp only
    omega
  obtain ⟨extra, rendered⟩ := exists_render_stray (before ++ character :: behind) filename shown
    visibleTyped visibleLine notWhite reached
  rw [← start] at atStart
  have region := of?_singleSpan atStart (by rw [start, List.length_append]; omega)
  rw [span, ← number]
  refine ⟨before, behind, line.text, Text.expandTabs (before.lastLine.length + 1)
    (Text.trimEnd Text.isWhite rest), extra, rfl, ?_, number, listed, ?_, ?_, ?_⟩
  · rw [← start]
    rfl
  · rw [text]
    exact ⟨rest, by simp⟩
  · rw [← SourceLine.visible, shown, Text.expandTabs_append, Text.expandTabs, if_neg notTab,
      Nat.zero_add]
    rfl
  · rw [draw_of_region .plain filename (Nat.lt_succ_self _) region, Row.renderAll, rendered]

/-- **Marks stand under what they mark.** A stray character of a typed source is drawn in seven
lines. They name its line and its place, quote the line with its tabulators expanded and without
the white space at its end, and mark the character: behind the margin, the row under the quoted
line has a single mark, and it stands in the column of the character. -/
theorem draw_stray_aligned (typed : ∀ other ∈ source, Text.IsTyped other)
    (oneLine : '\n' ∉ filename) (member : fault ∈ (lex source).faults)
    (cause : fault.cause = .unexpected character) :
    ∃ before behind line left right extra report,
      source = before ++ character :: behind ∧
      fault.span = ⟨before.length, before.length + 1⟩ ∧
      fault.line = 1 + before.newlines ∧
      source.lines[before.newlines]? = some line ∧
      before.lastLine ++ [character] <+: line ∧
      left = Text.expandTabs 0 before.lastLine ∧
      Text.expandTabs 0 (Text.trimEnd Text.isWhite line) = left ++ character :: right ∧
      draw .plain source filename fault = .ok report ∧
      report.lines = (strayPicture filename fault.line (before.lastLine.length + 1) left character
        right extra).map (· ++ ['\n']) ∧
      report.lines.length = 7 ∧
      report.lines[3]? =
        some (lineMargin fault.line ++ left ++ character :: right ++ ['\n']) ∧
      report.lines[4]? =
        some (markMargin fault.line ++ Text.spaces left.length ++ '┬' :: Text.spaces extra ++
          ['\n']) ∧
      Text.columns (lineMargin fault.line ++ left) =
        Text.columns (markMargin fault.line ++ Text.spaces left.length) := by
  obtain ⟨before, behind, line, right, extra, whole, span, number, listed, begins, expanded,
    drawn⟩ := exists_draw_stray filename typed member cause
  have isTyped : Text.IsTyped character := typed character (by simp [whole])
  have narrow : ∀ other ∈ Text.expandTabs 0 before.lastLine, Text.width other = 1 := by
    have lastLineTyped : ∀ other ∈ before.lastLine, Text.IsTyped other := by
      intro other inside
      apply typed
      rw [whole]
      exact List.mem_append_left _ ((List.rtakeWhile_suffix _ before).subset inside)
    exact fun other inside => (Text.isTyped_of_mem_expandTabs lastLineTyped inside).width
  have quotedLine : '\n' ∉ Text.expandTabs 0 before.lastLine ++ character :: right := by
    rw [← expanded]
    exact Text.newline_not_mem_expandTabs
      (Text.newline_not_mem_trimEnd (List.mem_of_getElem? listed)) 0
  rw [List.mem_append, List.mem_cons, not_or, not_or] at quotedLine
  obtain ⟨leftLine, notNewline, rightLine⟩ := quotedLine
  have rows := Text.lines_ofLines (newline_not_mem_strayPicture oneLine leftLine rightLine isTyped
    (Ne.symm notNewline) fault.line (before.lastLine.length + 1) extra)
  refine ⟨before, behind, line, _, right, extra, _, whole, span, number, listed, begins, rfl,
    expanded, drawn, rows, ?_, ?_, ?_, columns_margin fault.line narrow⟩ <;> rw [rows]
  · rfl
  · rfl
  · simp [strayPicture]

/-- A stray character behind a tabulator, on the second line. -/
theorem draw_stray_aligned_tab :
    ∃ right extra report,
      draw .plain "(\n\t@ )".toList "main.lox".toList ⟨.unexpected '@', 2, ⟨3, 4⟩⟩ = .ok report ∧
      report.lines.length = 7 ∧
      report.lines[3]? = some (" 2 │     @".toList ++ right ++ ['\n']) ∧
      report.lines[4]? = some ("   │     ┬".toList ++ Text.spaces extra ++ ['\n']) := by
  have typed : ∀ other ∈ "(\n\t@ )".toList, Text.IsTyped other :=
    List.all_iff_forall_prop.mp rfl
  have oneLine : '\n' ∉ "main.lox".toList := by decide
  have isFault : ⟨.unexpected '@', 2, ⟨3, 4⟩⟩ ∈ (lex "(\n\t@ )".toList).faults := by
    decide +kernel
  obtain ⟨before, behind, line, left, right, extra, report, whole, span, -, -, -, isLeft, -, drawn,
    -, seven, quoted, marked, -⟩ := draw_stray_aligned typed oneLine isFault rfl
  have length : before.length = 3 := (congrArg Span.start span).symm
  have front : before = "(\n\t".toList := by
    have taken := congrArg (List.take 3) whole
    rw [← length, List.take_left, length] at taken
    exact taken.symm
  subst front isLeft
  refine ⟨right, extra, report, drawn, seven, ?_, ?_⟩
  · rw [quoted]
    rfl
  · rw [marked]
    rfl

end Report

end LoxLexis
