import LoxLexis.Proofs.Lexing.Grammar
import LoxLexis.Proofs.Report.Lines
import LoxLexis.Report.Basic

/-!
# The place that a report names

A fault knows how many bytes stand before it, and a report takes that number as a count of
characters, on lines that end at every break. So the place that a report names is where the
fault stands, on the line that newlines give it, exactly when all characters before the fault
are single bytes and all lines before it end with a newline (`Report.draw_location`).
-/

namespace LoxLexis

namespace Text

/-- The part of a text behind its last newline. -/
def lastLine (text : Text) : Text :=
  text.rtakeWhile fun character => character ≠ '\n'

/-- Behind a newline, a text without newlines is the last line. -/
theorem lastLine_append {front tail : Text} (ends : ∀ last ∈ front.getLast?, last = '\n')
    (oneLine : '\n' ∉ tail) : lastLine (front ++ tail) = tail := by
  have inside : ∀ character ∈ tail.reverse, decide (character ≠ '\n') = true := by
    intro character member
    exact decide_eq_true (ne_of_mem_of_not_mem (List.mem_reverse.mp member) oneLine)
  have stops : front.reverse.takeWhile (fun character => decide (character ≠ '\n')) = [] := by
    rcases front.eq_nil_or_concat with rfl | ⟨body, last, rfl⟩
    · rfl
    · obtain rfl : last = '\n' := ends last (by simp)
      simp
  rw [lastLine, List.rtakeWhile, List.reverse_append, List.takeWhile_append_of_pos inside, stops,
    List.append_nil, List.reverse_reverse]

end Text

namespace SourceLine

variable {front tail before behind : Text}

/-- A newline is a break, so a part of a line without its break has none. -/
theorem newline_not_mem (inside : ∀ character ∈ tail, isBreak character = false) : '\n' ∉ tail := by
  intro member
  cases inside '\n' member

/-- As many newlines stand before a character as before its line. -/
theorem newlines_place (inside : ∀ character ∈ tail, isBreak character = false) :
    (front ++ tail).newlines = front.newlines := by
  have noneBehind : tail.newlines = 0 := List.count_eq_zero.mpr (newline_not_mem inside)
  rw [Text.newlines_append, noneBehind, Nat.add_zero]

/-- Where all lines end with a newline, the text ends with one. -/
theorem eq_newline_of_forall_cut (whole : ∀ line ∈ cut front, line.getLast? = some '\n') :
    ∀ last ∈ front.getLast?, last = '\n' := by
  intro last ends
  have joined := flatten_cut front
  rcases (cut front).eq_nil_or_concat with nothing | ⟨others, line, split⟩
  · rw [nothing] at joined
    rw [← joined] at ends
    cases ends
  · have newline := whole line (by simp [split])
    rw [split, List.concat_eq_append, List.flatten_append, List.flatten_singleton] at joined
    rw [← joined, List.getLast?_append, newline] at ends
    exact (Option.some.inj ends).symm

/-- The line that a count of bytes falls on, and the place in it, are those of a character when
all characters before it are single bytes and all lines before it end with a newline, and only
then. -/
theorem at?_byteLength_iff (more : behind ≠ []) (apart : behind.head? ≠ some '\n')
    {line : SourceLine} (found : at? (ofSource (before ++ behind)) before.byteLength = some line) :
    (line.number = 1 + before.newlines ∧
        before.byteLength - line.start + 1 = 1 + before.lastLine.length) ↔
      before.byteLength = before.length ∧
        ∀ other ∈ ofSource (before ++ behind), other.stop ≤ before.length →
          other.text.getLast? = some '\n' := by
  obtain ⟨front, tail, rfl, closed, inside⟩ := exists_closed_append before
  have standing := at?_ofSource closed inside more apart
  have newlines := newlines_eq_countP_cut front
  rw [newlines_place inside, forall_ended_iff closed inside more apart
    (fun text => text.getLast? = some '\n')]
  constructor
  · rintro ⟨number, column⟩
    -- A byte count falls on the line of the character or on a later one, whose number is greater.
    have fewer := List.countP_le_length (p := fun line => decide (line.getLast? = some '\n'))
      (l := cut front)
    rcases at?_mono (pairwise_ofSource _) (Text.length_le_byteLength _) standing found with
      rfl | later
    · have counted : (cut front).countP (fun line => decide (line.getLast? = some '\n')) =
          (cut front).length := by
        simp only at number
        omega
      have whole : ∀ line ∈ cut front, line.getLast? = some '\n' := by
        simpa using List.countP_eq_length.mp counted
      have lastLine := Text.lastLine_append (eq_newline_of_forall_cut whole)
        (newline_not_mem inside)
      have longer := Text.length_le_byteLength (front ++ tail)
      rw [lastLine] at column
      refine ⟨?_, whole⟩
      rw [List.length_append] at longer ⊢
      simp only at column
      omega
    · simp only at later
      omega
  · rintro ⟨sizes, whole⟩
    have counted := List.countP_eq_length.mpr
      (fun line member => decide_eq_true (whole line member))
    have lastLine := Text.lastLine_append (eq_newline_of_forall_cut whole)
      (newline_not_mem inside)
    rw [sizes, standing] at found
    obtain rfl := Option.some.inj found
    rw [sizes, lastLine, List.length_append]
    simp only
    omega

end SourceLine

/-- A fault of a source is a word of it that is not complete. -/
theorem exists_word_of_mem_faults {source : Text} {fault : Fault}
    (member : fault ∈ (lex source).faults) :
    ∃ before word behind, source = before ++ (Word.spelling word ++ behind) ∧
      word.Fits behind ∧ Word.placedFault? (before, word) = some fault := by
  rw [lex_faults] at member
  obtain ⟨⟨before, word⟩, placed, met⟩ := List.mem_filterMap.mp member
  obtain ⟨behind, whole, fits⟩ := (Word.cut_words source).fits_of_mem_placed placed
  rw [List.nil_append, List.append_assoc] at whole
  exact ⟨before, word, behind, whole, fits, met⟩

/-- A fault of a source stands behind a part of it, and does not begin with a newline. -/
theorem exists_place_of_mem_faults {source : Text} {fault : Fault}
    (member : fault ∈ (lex source).faults) :
    ∃ before spelled behind, source = before ++ (spelled ++ behind) ∧ spelled ≠ [] ∧
      (spelled ++ behind).head? ≠ some '\n' ∧
      fault.span = ⟨before.byteLength, (before ++ spelled).byteLength⟩ := by
  obtain ⟨before, word, behind, whole, fits, met⟩ := exists_word_of_mem_faults member
  refine ⟨before, word.spelling, behind, whole, ?_⟩
  cases word <;> cases met
  case openString value => simp [Word.spelling, Word.placedSpan]
  case stray character =>
    have notNewline : character ≠ '\n' := by
      rintro rfl
      exact fits.1 (by simp)
    simpa [Word.spelling, Word.placedSpan] using notNewline

namespace Row

@[simp] theorem render_plain_nil : render .plain [] = [] := rfl

@[simp] theorem render_plain_cons (run : Run) (row : Row) :
    render .plain (run :: row) = run.text ++ render .plain row := by
  cases run with
  | mk ink text => cases ink <;> rfl

@[simp] theorem render_append (style : Style) (left right : Row) :
    render style (left ++ right) = render style left ++ render style right :=
  List.flatMap_append

end Row

namespace Region

variable {source : Text} {span : Span}

theorem finalOffset_of_lt (forward : span.start < span.stop) :
    finalOffset span = span.stop - 1 := by
  rw [finalOffset, Span.isEmpty, if_neg (by simpa using forward)]

/-- A span that ends beyond the place behind the source touches no lines of it. -/
theorem of?_eq_none (forward : span.start < span.stop)
    (beyond : source.length + 1 < span.stop) : of? source span = none := by
  rw [of?, finalOffset_of_lt forward, if_neg]
  simp only [Bool.and_eq_true, decide_eq_true_eq]
  omega

/-- A span within a source touches the lines of its first and its last character. -/
theorem exists_of?_eq_some (forward : span.start < span.stop)
    (within : span.stop ≤ source.length + 1) :
    ∃ first last, of? source span = some ⟨first, last⟩ ∧
      SourceLine.at? (SourceLine.ofSource source) span.start = some first ∧
      SourceLine.at? (SourceLine.ofSource source) (span.stop - 1) = some last := by
  obtain ⟨first, atStart⟩ := SourceLine.exists_at?_ofSource source span.start
  obtain ⟨last, atStop⟩ := SourceLine.exists_at?_ofSource source (span.stop - 1)
  have inSource : (decide (span.start ≤ source.length) &&
      decide (finalOffset span ≤ source.length)) = true := by
    rw [finalOffset_of_lt forward]
    simp only [Bool.and_eq_true, decide_eq_true_eq]
    omega
  refine ⟨first, last, ?_, atStart, atStop⟩
  rw [of?, if_pos inSource]
  simp only [atStart, finalOffset_of_lt forward, atStop]

end Region

namespace Report

/-- A place as a report names it. -/
def location (filename : Text) (line column : Nat) : Text :=
  filename ++ ':' :: Text.ofNat line ++ ':' :: Text.ofNat column

/-- The headline says what the fault is, and on which line. -/
theorem render_headline (fault : Fault) :
    Row.render .plain (headline fault) =
      "Error: ".toList ++ fault.message ++ " (line ".toList ++ Text.ofNat fault.line ++ [')'] := by
  rw [headline, Row.render_plain_cons, Row.render_plain_cons, Row.render_plain_nil,
    List.append_nil]
  rfl

/-- The frame opens with the place of the fault. -/
theorem render_opening (digits : Nat) (filename : Text) (line column : Nat) :
    Row.render .plain (Frame.opening digits filename line column) =
      Text.spaces (digits + 2) ++ "╭─[ ".toList ++ location filename line column ++
        " ]".toList := by
  simp [Frame.opening, Run.bare, Run.inked, location]

variable {source : Text} {fault : Fault}

/-- A fault that lies within its source has a report of a headline and framed rows. -/
theorem draw_of_region (style : Style) (filename : Text) {region : Region}
    (forward : fault.span.start < fault.span.stop)
    (found : Region.of? source fault.span = some region) :
    draw style source filename fault =
      .ok (Row.renderAll style (headline fault :: framedRows source filename fault region)) := by
  rw [draw, rows, if_neg (by omega), found]
  rfl

/-- A fault that reaches beyond the characters of its source has a headline only. -/
theorem draw_beyond (style : Style) (filename : Text)
    (forward : fault.span.start < fault.span.stop)
    (beyond : source.length + 1 < fault.span.stop) :
    draw style source filename fault = .ok (Row.renderAll style [headline fault]) := by
  rw [draw, rows, if_neg (by omega), Region.of?_eq_none forward beyond]
  rfl

/-- The second row of a report names the line and the place of the character whose number is
the first of the span. -/
theorem exists_draw_place (filename : Text) (forward : fault.span.start < fault.span.stop)
    (within : fault.span.stop ≤ source.length + 1) :
    ∃ shown margin others,
      SourceLine.at? (SourceLine.ofSource source) fault.span.start = some shown ∧
      draw .plain source filename fault =
        .ok (Text.ofLines (Row.render .plain (headline fault) ::
          (Text.spaces margin ++ "╭─[ ".toList ++
            location filename shown.number (fault.span.start - shown.start + 1) ++
            " ]".toList) :: others)) := by
  obtain ⟨first, last, found, atStart, -⟩ := Region.exists_of?_eq_some forward within
  have drawn := draw_of_region .plain filename forward found
  rw [Row.renderAll, framedRows, List.cons_append, List.cons_append, List.cons_append,
    List.cons_append, List.map_cons, List.map_cons, render_opening] at drawn
  exact ⟨first, _, _, atStart, drawn⟩

/-- **The place that a report names.** A fault of a source stands behind a part of it and takes
the bytes that follow that part. When it reaches beyond the characters of the source, its report
is a headline. Otherwise the second row of the report names the line and the place of the
character that has as many characters before it as the fault has bytes. These are the line and
the place of the fault, counted by newlines and characters, when all characters before it are
single bytes and all lines before it end with a newline, and only then. -/
theorem draw_location (filename : Text) (member : fault ∈ (lex source).faults) :
    ∃ before spelled behind, source = before ++ (spelled ++ behind) ∧
      fault.span = ⟨before.byteLength, (before ++ spelled).byteLength⟩ ∧
      (source.length + 1 < fault.span.stop →
        draw .plain source filename fault =
          .ok (Text.ofLines [Row.render .plain (headline fault)])) ∧
      (fault.span.stop ≤ source.length + 1 → ∃ shown margin others,
        SourceLine.at? (SourceLine.ofSource source) before.byteLength = some shown ∧
        draw .plain source filename fault =
          .ok (Text.ofLines (Row.render .plain (headline fault) ::
            (Text.spaces margin ++ "╭─[ ".toList ++
              location filename shown.number (before.byteLength - shown.start + 1) ++
              " ]".toList) :: others)) ∧
        (shown.number = 1 + before.newlines ∧
            before.byteLength - shown.start + 1 = 1 + before.lastLine.length ↔
          before.byteLength = before.length ∧
            ∀ earlier ∈ SourceLine.ofSource source, earlier.stop ≤ before.length →
              earlier.text.getLast? = some '\n')) := by
  obtain ⟨before, spelled, behind, whole, nonempty, apart, span⟩ :=
    exists_place_of_mem_faults member
  have start : fault.span.start = before.byteLength := by rw [span]
  have forward : fault.span.start < fault.span.stop := by
    have taken := List.length_pos_iff.mpr nonempty
    have bytes := Text.length_le_byteLength spelled
    rw [span, Text.byteLength_append]
    simp only
    omega
  refine ⟨before, spelled, behind, whole, span, draw_beyond .plain filename forward, ?_⟩
  intro within
  obtain ⟨shown, margin, others, atStart, drawn⟩ := exists_draw_place filename forward within
  rw [start] at atStart drawn
  refine ⟨shown, margin, others, atStart, drawn, ?_⟩
  have more : spelled ++ behind ≠ [] := List.append_ne_nil_of_left_ne_nil nonempty behind
  rw [whole] at atStart ⊢
  exact SourceLine.at?_byteLength_iff more apart atStart

/-- A stray character behind an accent is said to stand a place too far to the right. -/
theorem draw_location_accent :
    ∃ margin others,
      draw .plain "\"é\" @".toList "main.lox".toList ⟨.unexpected '@', 1, ⟨5, 6⟩⟩ =
        .ok (Text.ofLines ("Error: Unexpected character (line 1)".toList ::
          (Text.spaces margin ++ "╭─[ main.lox:1:6 ]".toList) :: others)) := by
  have isFault : ⟨.unexpected '@', 1, ⟨5, 6⟩⟩ ∈ (lex "\"é\" @".toList).faults := by decide +kernel
  obtain ⟨before, spelled, behind, -, span, -, located⟩ :=
    draw_location "main.lox".toList isFault
  obtain ⟨shown, margin, others, atStart, drawn, -⟩ := located (by decide)
  have start : before.byteLength = 5 := (congrArg Span.start span).symm
  have line : SourceLine.at? (SourceLine.ofSource "\"é\" @".toList) 5 =
      some ⟨1, 0, "\"é\" @".toList⟩ := by decide +kernel
  rw [start, line] at atStart
  obtain rfl := Option.some.inj atStart
  refine ⟨margin, others, ?_⟩
  rw [drawn, start, List.append_assoc, List.append_assoc]
  rfl

/-- Not every report names the line and the place where its fault stands. -/
theorem not_forall_draw_location :
    ¬ ∀ source filename : Text, ∀ fault ∈ (lex source).faults,
      ∀ before : Text, before <+: source → before.byteLength = fault.span.start →
        ∃ report, draw .plain source filename fault = .ok report ∧
          location filename (1 + before.newlines) (1 + before.lastLine.length) <:+: report := by
  intro located
  have isFault : ⟨.unexpected '@', 1, ⟨5, 6⟩⟩ ∈ (lex "\"é\" @".toList).faults := by decide +kernel
  obtain ⟨report, drawn, inside⟩ := located _ "main.lox".toList _ isFault "\"é\" ".toList
    (by decide +kernel) (by decide +kernel)
  have missing : ((draw .plain "\"é\" @".toList "main.lox".toList
      ⟨.unexpected '@', 1, ⟨5, 6⟩⟩).toOption.all fun report =>
        ¬ "main.lox:1:5".toList <:+: report) = true := by decide +kernel
  rw [drawn] at missing
  have absent : ¬ "main.lox:1:5".toList <:+: report := of_decide_eq_true missing
  exact absent inside

end Report

end LoxLexis
