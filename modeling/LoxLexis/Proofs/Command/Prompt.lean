import LoxLexis.Command.Basic
import LoxLexis.Proofs.FaultLog.Ledger
import LoxLexis.Proofs.Lexing.Line
import LoxLexis.Proofs.Text.Pieces
import Mathlib.Data.List.DropRight

/-!
# Prompting on any input

A newline is the byte of no other character, so the lines of the bytes of a text are the
bytes of its lines (`Prompt.linesOf_encode`), and bytes are those of a text exactly when each
of their lines is (`Prompt.isSome_decode?_iff`). What the prompt leaves behind is therefore
known for every input (`Prompt.run_any_input`): each line is answered as if it stood alone, up
to the first one that is no text.
-/

namespace LoxLexis

namespace Prompt

/-! ### Lines of bytes and lines of text -/

/-- No byte of a text without newlines ends a line. -/
theorem isLineEnd_of_mem_encode {text : Text} (oneLine : '\n' ∉ text) {byte : UInt8}
    (member : byte ∈ text.encode) : isLineEnd byte = false := by
  rw [isLineEnd, decide_eq_false_iff_not]
  rintro rfl
  exact oneLine (Text.newline_mem_encode_iff.mp member)

/-- The lines of the bytes of a text are the bytes of its lines. -/
theorem linesOf_encode (text : Text) : linesOf text.encode = text.lines.map Text.encode := by
  induction text using Text.lines_induction with
  | last text oneLine =>
      rcases eq_or_ne text [] with rfl | nonempty
      · rfl
      · rw [Text.lines_of_not_mem oneLine nonempty, linesOf,
          cutAfter_of_forall_not (fun byte => isLineEnd_of_mem_encode oneLine)
            (Text.encode_ne_nil nonempty)]
        rfl
  | line body rest oneLine ih =>
      have bytes : Text.encode (body ++ '\n' :: rest) = body.encode ++ 10 :: rest.encode :=
        Text.encode_append body _
      rw [Text.lines_append_newline oneLine, List.map_cons, ← ih, bytes, linesOf,
        cutAfter_append (fun byte => isLineEnd_of_mem_encode oneLine) rfl, Text.encode_append]
      rfl

/-- Lines that are texts are the bytes of texts. -/
theorem exists_map_encode {lines : List Bytes}
    (texts : ∀ line ∈ lines, (Text.decode? line).isSome) :
    ∃ sources : List Text, lines = sources.map Text.encode := by
  induction lines with
  | nil => exact ⟨[], rfl⟩
  | cons first others ih =>
      rw [List.forall_mem_cons] at texts
      obtain ⟨source, decoded⟩ := Option.isSome_iff_exists.mp texts.1
      obtain ⟨sources, rfl⟩ := ih texts.2
      exact ⟨source :: sources, by rw [List.map_cons, (Text.decode?_eq_some_iff _ _).mp decoded]⟩

/-- Bytes are those of a text exactly when each of their lines is. -/
theorem isSome_decode?_iff (input : Bytes) :
    (Text.decode? input).isSome ↔ ∀ line ∈ linesOf input, (Text.decode? line).isSome := by
  constructor
  · intro isText line member
    obtain ⟨text, decoded⟩ := Option.isSome_iff_exists.mp isText
    rw [← (Text.decode?_eq_some_iff _ _).mp decoded, linesOf_encode] at member
    obtain ⟨source, -, rfl⟩ := List.mem_map.mp member
    rw [Text.decode?_encode]
    rfl
  · intro texts
    obtain ⟨sources, bytes⟩ := exists_map_encode texts
    have whole : input = Text.encode sources.flatten := by
      rw [Text.encode_flatten, ← bytes]
      exact (flatten_cutAfter isLineEnd input).symm
    rw [whole, Text.decode?_encode]
    rfl

/-- The lines up to the first one that is no text, if there is one. -/
theorem exists_broken {lines : List Bytes}
    (broken : ¬ ∀ line ∈ lines, (Text.decode? line).isSome) :
    ∃ (before : List Text) (line : Bytes) (behind : List Bytes),
      lines = before.map Text.encode ++ line :: behind ∧ Text.decode? line = none := by
  induction lines with
  | nil => exact absurd (by simp) broken
  | cons first others ih =>
      cases decoded : Text.decode? first with
      | none => exact ⟨[], first, others, rfl, decoded⟩
      | some source =>
          have later : ¬ ∀ line ∈ others, (Text.decode? line).isSome := by
            intro texts
            exact broken (List.forall_mem_cons.mpr ⟨by rw [decoded]; rfl, texts⟩)
          obtain ⟨before, line, behind, rfl, isBroken⟩ := ih later
          refine ⟨source :: before, line, behind, ?_, isBroken⟩
          rw [← (Text.decode?_eq_some_iff _ _).mp decoded]
          rfl

/-! ### What lines are answered with -/

/-- The source that a line of text holds. -/
def sourceOfText (line : Text) : Text := line.trimEnd isBreak

theorem sourceOfText_eq (line : Text) : sourceOfText line = line.rdropWhile isBreak := rfl

/-- What the prompt shows for lines, with an invitation before each. -/
def shown (lines : List Text) : Text :=
  lines.flatMap fun line => invitation ++ Token.listing (lex (sourceOfText line)).tokens

/-- What the prompt tells of the faults on lines. -/
def told (lines : List Text) : Text :=
  lines.flatMap fun line => Fault.listing (lex (sourceOfText line)).faults

/-- A line of text is answered with the listings of the source that it holds. -/
theorem answer_encode (line : Text) :
    answer line.encode =
      .ok (Token.listing (lex (sourceOfText line)).tokens,
        Fault.listing (lex (sourceOfText line)).faults) := by
  rw [answer, sourceOf, Text.decode?_encode]
  rfl

theorem answer_of_broken {line : Bytes} (broken : Text.decode? line = none) :
    answer line = .error .invalidUtf8 := by
  rw [answer, sourceOf, broken]
  rfl

/-- Lines that are texts are answered one after the other, whatever follows them. -/
theorem runLines_append (before : List Text) (others : List Bytes) :
    runLines (before.map Text.encode ++ others) =
      (runLines others).after (shown before) (told before) := by
  induction before with
  | nil => rfl
  | cons line rest ih =>
      rw [List.map_cons, List.cons_append, runLines, answer_encode, ih]
      simp only [Outcome.after, shown, told, List.flatMap_cons, List.append_assoc]

/-- A text is answered line by line to its end. -/
theorem run_encode (text : Text) :
    run text.encode = ⟨0, shown text.lines ++ invitation ++ ['\n'], told text.lines⟩ := by
  have answered := runLines_append text.lines []
  rw [List.append_nil, ← linesOf_encode] at answered
  rw [run, answered]
  simp only [runLines, farewell, Outcome.after, Outcome.success, List.append_assoc,
    List.append_nil]

/-- The prompt ends at a line that is no text, with an invitation and an error. -/
theorem runLines_broken {line : Bytes} (isBroken : Text.decode? line = none)
    (behind : List Bytes) :
    runLines (line :: behind) =
      ⟨74, invitation, "IO error: stream did not contain valid UTF-8\n".toList⟩ := by
  rw [runLines, answer_of_broken isBroken]
  change broken .invalidUtf8 = _
  decide

/-- A line is answered with what a new log over an unlimited pipe writes while the line is
read into it. -/
theorem answer_eq_logged (line : Bytes) :
    (answer line).map (fun told => (told.1, told.2.encode)) =
      (sourceOf line).map fun source =>
        let read := lexInto FaultLog.receive source (.ofPipe (.ofCapacity none))
        (Token.listing read.1, read.2.flush.1.pipe.accepted.toList) := by
  rw [answer]
  cases sourceOf line with
  | error cause => rfl
  | ok source =>
      have holds := (FaultLog.holds_ofPipe none).foldl_receive (lex source).faults
      have accepted := holds.flush.2.1
      rw [List.nil_append] at accepted
      simp only [Except.map, lexInto_eq_foldl, accepted]
      rfl

/-! ### The lines that faults name -/

/-- The source of a line whose newline can only be its last character lies on one line. -/
theorem newline_not_mem_sourceOfText {body : Text} (oneLine : '\n' ∉ body) (last : Char) :
    '\n' ∉ sourceOfText (body ++ [last]) := by
  rw [sourceOfText_eq, List.rdropWhile_concat]
  split_ifs with ends
  · exact fun newline => oneLine ((List.rdropWhile_prefix _ _).subset newline)
  · intro newline
    rcases List.mem_append.mp newline with within | atEnd
    · exact oneLine within
    · rw [← List.mem_singleton.mp atEnd] at ends
      exact ends rfl

/-- The source that a line of an input holds lies on one line. -/
theorem newline_not_mem_of_mem_linesOf {input : Bytes} {line : Text}
    (member : line.encode ∈ linesOf input) : '\n' ∉ sourceOfText line := by
  obtain ⟨bytes, lastByte, whole, inside⟩ := exists_concat_of_mem_cutAfter member
  rcases line.eq_nil_or_concat with rfl | ⟨body, last, rfl⟩
  · exact List.not_mem_nil
  · rw [List.concat_eq_append] at whole ⊢
    apply newline_not_mem_sourceOfText
    intro newline
    -- Whatever the last character is, the bytes before it are not the last byte.
    obtain ⟨front, back, split⟩ :=
      (Text.encode [last]).eq_nil_or_concat.resolve_left
        (Text.encode_ne_nil (List.cons_ne_nil _ _))
    rw [Text.encode_append, split, List.concat_eq_append, ← List.append_assoc] at whole
    obtain ⟨same, -⟩ := List.append_inj' whole rfl
    have early : 10 ∈ bytes := by
      rw [← same]
      exact List.mem_append_left _ (Text.newline_mem_encode_iff.mpr newline)
    cases inside 10 early

/-- Every fault that the prompt tells of is on the first line, as each line is a source of its
own. -/
theorem line_eq_one {input : Bytes} {line : Text} (member : line.encode ∈ linesOf input)
    {fault : Fault} (met : fault ∈ (lex (sourceOfText line)).faults) : fault.line = 1 :=
  line_eq_one_of_mem_faults (newline_not_mem_of_mem_linesOf member) met

/-- **Prompting on any input.** The lines of an input are what stands between its newlines,
each with the newline that ends it. Every line is answered as a source of its own, with what
a new log would have written of its faults, all of them on line one. An input that is a text
is answered line by line to its end. Any other input has a first line that is no text, and the
run breaks off there: the lines before it are answered, and nothing is shown behind the
invitation to it. -/
theorem run_any_input (folder : Folder) (input : Bytes) (pretty : Bool) :
    let outcome := Command.run folder input (if pretty then [Request.prettyFlag] else [])
    ((linesOf input).flatten = input ∧
      (∀ line ∈ linesOf input, ∃ body last, line = body ++ [last] ∧ 10 ∉ body) ∧
      ∀ line ∈ (linesOf input).dropLast, line.getLast? = some 10) ∧
    ((Text.decode? input).isSome ↔ ∀ line ∈ linesOf input, (Text.decode? line).isSome) ∧
    (∀ line, (answer line).map (fun told => (told.1, told.2.encode)) =
      (sourceOf line).map fun source =>
        let read := lexInto FaultLog.receive source (.ofPipe (.ofCapacity none))
        (Token.listing read.1, read.2.flush.1.pipe.accepted.toList)) ∧
    (∀ line, line.encode ∈ linesOf input →
      ∀ fault ∈ (lex (sourceOfText line)).faults, fault.line = 1) ∧
    match Text.decode? input with
    | some text =>
        linesOf input = text.lines.map Text.encode ∧
          outcome = ⟨0, shown text.lines ++ invitation ++ ['\n'], told text.lines⟩
    | none =>
        ∃ before line behind,
          linesOf input = before.map Text.encode ++ line :: behind ∧ Text.decode? line = none ∧
            outcome =
              ⟨74, shown before ++ invitation,
                told before ++ "IO error: stream did not contain valid UTF-8\n".toList⟩ := by
  intro outcome
  have prompted : outcome = run input := by
    cases pretty <;> rfl
  refine ⟨⟨flatten_cutAfter isLineEnd input, ?_, ?_⟩, isSome_decode?_iff input,
    answer_eq_logged, fun line member fault => line_eq_one member, ?_⟩
  · intro line member
    obtain ⟨body, last, whole, inside⟩ := exists_concat_of_mem_cutAfter member
    exact ⟨body, last, whole, fun newline => by cases inside 10 newline⟩
  · intro line member
    obtain ⟨last, found, ends⟩ := getLast?_of_mem_dropLast_cutAfter member
    rw [found, of_decide_eq_true ends]
  · cases decoded : Text.decode? input with
    | some text =>
        have bytes := (Text.decode?_eq_some_iff _ _).mp decoded
        simp only [prompted, ← bytes]
        exact ⟨linesOf_encode text, run_encode text⟩
    | none =>
        have broken : ¬ ∀ line ∈ linesOf input, (Text.decode? line).isSome := by
          rw [← isSome_decode?_iff, decoded]
          exact Bool.false_ne_true
        -- The prompt ends at the first line that is no text, whatever stands behind it.
        obtain ⟨before, line, behind, lines, isBroken⟩ := exists_broken broken
        refine ⟨before, line, behind, lines, isBroken, ?_⟩
        rw [prompted, run, lines, runLines_append, runLines_broken isBroken]
        rfl

/-- A stray character on one line, which a carriage return ends too, leaves the next line as it
is. -/
theorem run_any_input_stray :
    Command.run ⟨[]⟩ (Text.encode "@\r\n(".toList) [] =
      ⟨0, "> EOF  null\n> LEFT_PAREN ( null\nEOF  null\n> \n".toList,
        "[line 1] Error: Unexpected character\n".toList⟩ := by
  have found := run_any_input ⟨[]⟩ (Text.encode "@\r\n(".toList) false
  rw [Text.decode?_encode] at found
  obtain ⟨-, -, -, -, -, outcome⟩ := found
  exact outcome.trans (by decide +kernel)

end Prompt

end LoxLexis
