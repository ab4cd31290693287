import LoxLexis.Proofs.Report.Characters
import LoxLexis.Proofs.Report.Drawing
import LoxLexis.Report.Erasure

/-!
# Colours are ink alone

Erasing goes over text that has no escape character, and takes away the sequence that sets a
colour (`Report.eraseColours_append`, `Report.eraseColours_colourSequence`). No run of a report
has an escape character of its own, even when the label names one
(`Text.escape_not_mem_escape`). So erasing a coloured report run by run gives the plain one, and
both begin with the headline (`Report.draw_erased`).
-/

namespace LoxLexis

namespace Text

variable {character : Char}

/-- What a number is written with to the base sixteen are digits. -/
theorem exists_digitChar_of_mem_toDigits {number : Nat}
    (member : character ∈ Nat.toDigits 16 number) :
    ∃ digit < 16, character = Nat.digitChar digit := by
  induction number using Nat.strong_induction_on with
  | _ number ih =>
      rw [Nat.toDigits_eq_if (by decide)] at member
      split at member
      · next small => exact ⟨number, small, List.mem_singleton.mp member⟩
      · next large =>
          rcases List.mem_append.mp member with earlier | last
          · exact ih (number / 16) (by omega) earlier
          · exact ⟨number % 16, by omega, List.mem_singleton.mp last⟩

/-- A character written by its number has no escape character. -/
theorem escape_not_mem_codePointEscape (character : Char) :
    '\x1b' ∉ codePointEscape character := by
  have digits : '\x1b' ∉ Nat.toDigits 16 character.toNat := by
    intro member
    obtain ⟨digit, small, same⟩ := exists_digitChar_of_mem_toDigits member
    exact (by decide : ∀ digit < 16, '\x1b' ≠ Nat.digitChar digit) digit small same
  simp [codePointEscape, digits]

/-- What is shown for a character has no escape character, even for that character. -/
theorem escape_not_mem_escape (character : Char) : '\x1b' ∉ escape character := by
  by_cases isEscape : character = '\x1b'
  · subst isEscape
    decide +kernel
  · unfold escape
    split_ifs
    all_goals first
      | exact escape_not_mem_codePointEscape character
      | simp [Ne.symm isEscape]

end Text

namespace Report

section Erasing

variable {text : Text}

/-- Text without escape characters is kept. -/
theorem eraseColours_append (free : '\x1b' ∉ text) (rest : Text) :
    eraseColours (text ++ rest) = text ++ eraseColours rest := by
  induction text with
  | nil => rfl
  | cons first others ih =>
      rw [List.mem_cons, not_or] at free
      rw [List.cons_append, eraseColours, if_neg (Ne.symm free.1), ih free.2, List.cons_append]

/-- The sequence that sets a colour is taken away. -/
theorem eraseColours_colourSequence {colour : Text}
    (digits : ∀ character ∈ colour, isColourDigit character = true) (rest : Text) :
    eraseColours (Run.colourSequence colour ++ rest) = eraseColours rest := by
  have sequence : Run.colourSequence colour ++ rest =
      '\x1b' :: '[' :: (colour ++ 'm' :: rest) := by
    simp [Run.colourSequence]
  have behind : (colour ++ 'm' :: rest).dropWhile isColourDigit = 'm' :: rest := by
    rw [List.dropWhile_append_of_pos digits]
    rfl
  have found : afterColour? ('[' :: (colour ++ 'm' :: rest)) = some rest := by
    simp only [afterColour?, behind]
  rw [sequence, eraseColours, if_pos rfl]
  split
  · next following same =>
      rw [found, Option.some.injEq] at same
      rw [same]
  · next nothing =>
      rw [found] at nothing
      cases nothing

/-- The colour of every ink is written with digits and semicolons. -/
theorem isColourDigit_of_mem_colour (ink : Ink) :
    ∀ character ∈ ink.colour, isColourDigit character = true := by
  cases ink <;> exact List.all_eq_true.mp rfl

/-- A coloured run is erased to its text. -/
theorem eraseColours_run {run : Run} (free : '\x1b' ∉ run.text) (rest : Text) :
    eraseColours (run.render .coloured ++ rest) = run.text ++ eraseColours rest := by
  obtain ⟨none | ink, text⟩ := run
  · exact eraseColours_append free rest
  · have reset : ∀ character ∈ ['0'], isColourDigit character = true := List.all_eq_true.mp rfl
    simp only [Run.render, List.append_assoc]
    rw [eraseColours_colourSequence (isColourDigit_of_mem_colour ink), eraseColours_append free,
      eraseColours_colourSequence reset]

/-- A coloured row is erased to the plain one, and what stands behind it is erased alone. -/
theorem eraseColours_row {row : Row} (free : Row.Within (· ≠ '\x1b') row) (rest : Text) :
    eraseColours (row.render .coloured ++ rest) = row.render .plain ++ eraseColours rest := by
  induction row with
  | nil => rfl
  | cons run others ih =>
      rw [Row.within_cons] at free
      have runFree : '\x1b' ∉ run.text := fun member => free.1 _ member rfl
      rw [Row.render, List.flatMap_cons, List.append_assoc, eraseColours_run runFree, ← Row.render,
        ih free.2, Row.render_plain_cons, List.append_assoc]

/-- Coloured rows are erased to the plain ones, and what stands behind them is erased alone. -/
theorem eraseColours_renderAll {rows : List Row}
    (free : ∀ row ∈ rows, Row.Within (· ≠ '\x1b') row) (rest : Text) :
    eraseColours (Row.renderAll .coloured rows ++ rest) =
      Row.renderAll .plain rows ++ eraseColours rest := by
  induction rows with
  | nil => rfl
  | cons row others ih =>
      rw [List.forall_mem_cons] at free
      have lineBreak : '\x1b' ∉ ['\n'] := by decide
      simp only [Row.renderAll, List.map_cons, Text.ofLines_cons, List.append_assoc,
        List.cons_append]
      rw [eraseColours_row free.1, ← List.singleton_append, eraseColours_append lineBreak,
        ← Row.renderAll, ih free.2]
      rfl

end Erasing

section Drawing

variable {source filename : Text} {fault : Fault} {faults : List Fault}

/-- No label has an escape character, even one that names that character. -/
theorem escape_not_mem_label (cause : Cause) : '\x1b' ∉ cause.label := by
  cases cause with
  | unexpected character =>
      have escaped := Text.escape_not_mem_escape character
      have label : (Cause.unexpected character).label =
        '\'' :: Text.escape character ++ "' does not start any token".toList := rfl
      simp [label, escaped]
  | unterminated => decide

/-- No run of a report has an escape character when neither the source nor the filename has one. -/
theorem within_rows_escape (plainSource : '\x1b' ∉ source) (plainName : '\x1b' ∉ filename)
    {drawn : List Row} (found : rows source filename fault = .ok drawn) :
    ∀ row ∈ drawn, Row.Within (· ≠ '\x1b') row := by
  have own : ∀ character, IsDrawing character → character ≠ '\x1b' := by
    rintro character drawing rfl
    exact absurd drawing (by decide)
  refine within_rows own found (by decide) ?_ ?_ ?_
  · exact fun character member => ne_of_mem_of_not_mem member plainName
  · exact fun line listed character member =>
      ne_of_mem_of_not_mem (SourceLine.visible_subset listed member) plainSource
  · exact fun character member => ne_of_mem_of_not_mem member (escape_not_mem_label fault.cause)

/-- Only a fault whose span runs backward has no report. -/
theorem draw_eq_error_iff (style : Style) (source filename : Text) (fault : Fault) :
    draw style source filename fault = .error .noMark ↔ fault.span.stop < fault.span.start := by
  rw [draw, rows]
  split
  · next backward => exact iff_of_true rfl backward
  · next forward =>
      refine iff_of_false (fun refused => ?_) forward
      split at refused <;> cases refused

/-- A coloured report is erased to the plain one, and what stands behind it is erased alone. -/
theorem draw_plain_of_coloured (plainSource : '\x1b' ∉ source) (plainName : '\x1b' ∉ filename)
    {coloured : Text} (drawn : draw .coloured source filename fault = .ok coloured) :
    draw .plain source filename fault = .ok (eraseColours coloured) ∧
      ∀ rest, eraseColours (coloured ++ rest) = eraseColours coloured ++ eraseColours rest := by
  rw [draw] at drawn ⊢
  cases found : rows source filename fault with
  | error refusal =>
      rw [found] at drawn
      cases drawn
  | ok rows =>
      rw [found] at drawn
      obtain rfl := Except.ok.inj drawn
      have erased := eraseColours_renderAll (within_rows_escape plainSource plainName found)
      have alone := erased []
      rw [List.append_nil, eraseColours, List.append_nil] at alone
      rw [alone]
      exact ⟨rfl, erased⟩

/-- Of the headline, only the first word has a colour. -/
theorem render_headline_coloured (fault : Fault) :
    Row.render .coloured (headline fault) =
      "\x1b[31mError:\x1b[0m ".toList ++ fault.message ++ " (line ".toList ++
        Text.ofNat fault.line ++ [')'] := by
  have runs : Row.render .coloured (headline fault) =
      "\x1b[31mError:\x1b[0m".toList ++
        ((' ' :: fault.message ++ " (line ".toList ++ Text.ofNat fault.line ++ [')']) ++ []) := rfl
  rw [runs]
  simp

/-- A report begins with its headline, on a line of its own. -/
theorem headline_prefix_of_draw {style : Style} {report : Text}
    (forward : fault.span.start ≤ fault.span.stop)
    (drawn : draw style source filename fault = .ok report) :
    Row.render style (headline fault) ++ ['\n'] <+: report := by
  obtain ⟨rest, begun⟩ := @exists_draw style source filename fault forward
  refine ⟨rest, ?_⟩
  rw [List.append_assoc, List.singleton_append]
  exact Except.ok.inj (begun.symm.trans drawn)

/-- Coloured reports that follow each other are erased one by one. -/
theorem eraseColours_flatten (plainSource : '\x1b' ∉ source) (plainName : '\x1b' ∉ filename)
    {reports : List Text}
    (drawn : List.Forall₂ (fun fault report =>
      draw .coloured source filename fault = .ok report) faults reports) :
    List.Forall₂ (fun fault report => draw .plain source filename fault = .ok report) faults
        (reports.map eraseColours) ∧
      eraseColours reports.flatten = (reports.map eraseColours).flatten := by
  induction drawn with
  | nil => exact ⟨.nil, by rw [List.flatten_nil, eraseColours]; rfl⟩
  | cons first _ ih =>
      obtain ⟨plain, erased⟩ := draw_plain_of_coloured plainSource plainName first
      rw [List.map_cons, List.flatten_cons, List.flatten_cons, erased, ih.2]
      exact ⟨.cons plain ih.1, rfl⟩

/-- **Coloured and plain reports are the same picture.** Let neither the source nor the filename
have an escape character. A fault has no report, in either style, exactly when its span runs
backward. Otherwise its coloured report without the colours is its plain one, and both begin with
the headline, which says what the fault is and on which line. The coloured reports of faults are
written one after the other, and so are, without the colours, the plain ones. -/
theorem draw_erased (plainSource : '\x1b' ∉ source) (plainName : '\x1b' ∉ filename) :
    (∀ fault : Fault,
      (∀ style, draw style source filename fault = .error .noMark ↔
        fault.span.stop < fault.span.start) ∧
      (fault.span.start ≤ fault.span.stop → ∃ coloured,
        draw .coloured source filename fault = .ok coloured ∧
        draw .plain source filename fault = .ok (eraseColours coloured) ∧
        "\x1b[31mError:\x1b[0m ".toList ++ fault.message ++ " (line ".toList ++
          Text.ofNat fault.line ++ [')'] ++ ['\n'] <+: coloured ∧
        "Error: ".toList ++ fault.message ++ " (line ".toList ++
          Text.ofNat fault.line ++ [')'] ++ ['\n'] <+: eraseColours coloured)) ∧
    ∀ faults : List Fault, (∀ fault ∈ faults, fault.span.start ≤ fault.span.stop) →
      ∃ reports : List Text,
        List.Forall₂ (fun fault report => draw .coloured source filename fault = .ok report)
          faults reports ∧
        drawAll .coloured source filename faults = .ok reports.flatten ∧
        List.Forall₂ (fun fault report => draw .plain source filename fault = .ok report)
          faults (reports.map eraseColours) ∧
        eraseColours reports.flatten = (reports.map eraseColours).flatten := by
  refine ⟨fun fault => ⟨fun style => draw_eq_error_iff style source filename fault, ?_⟩, ?_⟩
  · intro forward
    obtain ⟨rest, drawn⟩ := @exists_draw .coloured source filename fault forward
    have plain := (draw_plain_of_coloured plainSource plainName drawn).1
    refine ⟨_, drawn, plain, ?_, ?_⟩
    · rw [← render_headline_coloured fault]
      exact headline_prefix_of_draw forward drawn
    · rw [← render_headline fault]
      exact headline_prefix_of_draw forward plain
  · intro faults forward
    obtain ⟨reports, drawn⟩ := @exists_reports .coloured source filename faults forward
    have coloured := drawn.imp fun _ _ both => both.1
    exact ⟨reports, coloured, drawAll_eq coloured,
      eraseColours_flatten plainSource plainName coloured⟩

/-- An open string over two lines, and an escape character at fault beyond the end of the source. -/
theorem draw_erased_two_lines :
    let source : Text := "\"a\nb".toList
    let faults : List Fault := [⟨.unterminated, 2, ⟨0, 4⟩⟩, ⟨.unexpected '\x1b', 7, ⟨9, 9⟩⟩]
    ∃ reports : List Text, reports.length = 2 ∧
      drawAll .coloured source "main.lox".toList faults = .ok reports.flatten ∧
      eraseColours reports.flatten = (reports.map eraseColours).flatten := by
  intro source faults
  obtain ⟨-, several⟩ := @draw_erased source "main.lox".toList (by decide) (by decide)
  obtain ⟨reports, coloured, drawn, -, erased⟩ := several faults (by decide)
  exact ⟨reports, coloured.length_eq.symm, drawn, erased⟩

end Drawing

end Report

end LoxLexis
