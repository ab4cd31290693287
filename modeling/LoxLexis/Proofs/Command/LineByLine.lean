import LoxLexis.Proofs.Command.Prompt
import LoxLexis.Proofs.Command.Script
import LoxLexis.Proofs.Lexing.Trailing

/-!
# A script and its lines at the prompt

A text in which every string is closed on its line may be run as a script or given to the
prompt line by line. Each line has the tokens and the faults that it has in the whole text, so
both runs list the same tokens and tell of the same faults (`Command.run_line_by_line`). Only
the line that a fault is told on differs: the prompt counts the lines of each line anew.
-/

namespace LoxLexis

namespace Prompt

/-! ### A line and the source that it holds -/

/-- A line is the source that it holds, and breaks behind it. -/
theorem exists_breaks (line : Text) :
    ∃ breaks, line = sourceOfText line ++ breaks ∧
      ∀ character ∈ breaks, character ∈ ['\r', '\n'] := by
  refine ⟨line.rtakeWhile isBreak, List.rdropWhile_append_rtakeWhile.symm, ?_⟩
  intro character member
  have trimmed := List.mem_rtakeWhile_imp member
  simpa [isBreak, or_comm] using trimmed

/-- The break behind a line changes none of its tokens. -/
theorem dropLast_tokens_sourceOfText (line : Text) :
    (lex (sourceOfText line)).tokens.dropLast = (lex line).tokens.dropLast := by
  obtain ⟨breaks, whole, only⟩ := exists_breaks line
  conv_rhs => rw [whole]
  rw [dropLast_tokens, dropLast_tokens, Word.tokens_append_breaks _ only]

/-- The break behind a line changes none of its faults, if no string is open there. -/
theorem faults_sourceOfText {line : Text}
    (closed : ∀ fault ∈ (lex line).faults, fault.cause ≠ .unterminated) :
    (lex (sourceOfText line)).faults = (lex line).faults := by
  obtain ⟨breaks, whole, only⟩ := exists_breaks line
  conv_rhs => rw [whole]
  refine (lex_faults_append_breaks only (closed_of_closed_append_breaks only ?_)).symm
  rwa [← whole]

/-! ### The lines of a text one after the other -/

/-- The listing of the tokens on a line, the end of the source apart. -/
def listed (line : Text) : Text :=
  Token.listing (lex (sourceOfText line)).tokens.dropLast

/-- The faults on lines, each with the number of its line, where the first line has a given
number. -/
def faultsOn (number : Nat) (lines : List Text) : List (Nat × Fault) :=
  (lines.zipIdx number).flatMap fun (line, number) =>
    (lex (sourceOfText line)).faults.map fun fault => (number, fault)

/-- The faults on lines are those on the first, and those on the others counted on. -/
theorem faultsOn_cons (number : Nat) (line : Text) (others : List Text) :
    faultsOn number (line :: others) =
      faultsOn number [line] ++ faultsOn (number + 1) others := by
  simp [faultsOn, List.zipIdx_cons]

/-- A fault on some lines is a fault of the source that one of them holds. -/
theorem exists_line_of_mem_faultsOn {number : Nat} {lines : List Text} {place : Nat × Fault}
    (member : place ∈ faultsOn number lines) :
    ∃ line ∈ lines, place.2 ∈ (lex (sourceOfText line)).faults := by
  obtain ⟨⟨line, index⟩, among, inside⟩ := List.mem_flatMap.mp member
  obtain ⟨fault, met, rfl⟩ := List.mem_map.mp inside
  exact ⟨line, List.fst_mem_of_mem_zipIdx among, met⟩

/-- The last line of every listing is that of the end of the source. -/
theorem listing_tokens (source : Text) :
    Token.listing (lex source).tokens =
      Token.listing (lex source).tokens.dropLast ++ "EOF  null\n".toList := by
  rw [dropLast_tokens, lex_tokens_eq, Token.listing_append]
  rfl

/-- The prompt shows an invitation, the tokens on the line, and the end, line after line. -/
theorem shown_eq (lines : List Text) :
    shown lines = lines.flatMap fun line => invitation ++ listed line ++ "EOF  null\n".toList := by
  refine List.flatMap_congr fun line _ => ?_
  rw [listing_tokens, listed, List.append_assoc]

/-- The prompt tells of the faults on all lines, whatever numbers the lines are given. -/
theorem told_eq (number : Nat) (lines : List Text) :
    told lines = Fault.listing ((faultsOn number lines).map Prod.snd) := by
  induction lines generalizing number with
  | nil => rfl
  | cons line others ih =>
      have one : (faultsOn number [line]).map Prod.snd = (lex (sourceOfText line)).faults := by
        simp [faultsOn, Function.comp_def]
      rw [faultsOn_cons, List.map_append, one, Fault.listing_append, ← ih]
      rfl

/-- A text whose strings are closed on their lines is listed line by line. -/
theorem listing_tokens_lines {text : Text}
    (closed : ∀ line ∈ text.lines, ∀ fault ∈ (lex line).faults, fault.cause ≠ .unterminated) :
    Token.listing (lex text).tokens = text.lines.flatMap listed ++ "EOF  null\n".toList := by
  induction text using Text.lines_induction with
  | last text oneLine =>
      rcases eq_or_ne text [] with rfl | nonempty
      · decide +kernel
      · rw [Text.lines_of_not_mem oneLine nonempty, List.flatMap_singleton, listed,
          dropLast_tokens_sourceOfText, listing_tokens]
  | line body rest oneLine ih =>
      rw [Text.lines_append_newline oneLine] at closed ⊢
      rw [List.forall_mem_cons] at closed
      have tokens := (Word.wholeBefore_line closed.1 rest).lex_tokens
      rw [Word.flatMap_spelling_words, ← dropLast_tokens] at tokens
      have moved : Token.listing ((lex rest).tokens.map (Token.behind (body ++ ['\n']))) =
          Token.listing (lex rest).tokens :=
        Token.listing_map_shift _ _ _
      rw [List.append_cons, tokens, Token.listing_append, moved, ih closed.2, List.flatMap_cons,
        listed, dropLast_tokens_sourceOfText, List.append_assoc]

/-- The faults of a single line, behind lines that are skipped. -/
theorem map_faults_line {line : Text}
    (closed : ∀ fault ∈ (lex line).faults, fault.cause ≠ .unterminated)
    (oneLine : '\n' ∉ sourceOfText line) (skipped : Nat) :
    (lex line).faults.map (fun fault => (fault.line + skipped, fault.message)) =
      (faultsOn (skipped + 1) [line]).map fun place => (place.1, place.2.message) := by
  rw [← faults_sourceOfText closed]
  simp only [faultsOn, List.zipIdx_singleton, List.flatMap_singleton, List.map_map]
  refine List.map_congr_left fun fault member => ?_
  rw [line_eq_one_of_mem_faults oneLine member, Nat.add_comm]
  rfl

/-- A text whose strings are closed on their lines has its faults line by line. -/
theorem map_faults_lines {text : Text}
    (closed : ∀ line ∈ text.lines, ∀ fault ∈ (lex line).faults, fault.cause ≠ .unterminated)
    (skipped : Nat) :
    (lex text).faults.map (fun fault => (fault.line + skipped, fault.message)) =
      (faultsOn (skipped + 1) text.lines).map fun place => (place.1, place.2.message) := by
  induction text using Text.lines_induction generalizing skipped with
  | last text oneLine =>
      rcases eq_or_ne text [] with rfl | nonempty
      · have faultless : (lex []).faults = [] := by decide +kernel
        rw [faultless]
        rfl
      · rw [Text.lines_of_not_mem oneLine nonempty] at closed ⊢
        rw [List.forall_mem_singleton] at closed
        exact map_faults_line closed
          (fun newline => oneLine ((List.rdropWhile_prefix _ _).subset newline)) skipped
  | line body rest oneLine ih =>
      rw [Text.lines_append_newline oneLine] at closed ⊢
      rw [List.forall_mem_cons] at closed
      have faults := (Word.wholeBefore_line closed.1 rest).lex_faults
      rw [Word.flatMap_spelling_words, ← lex_faults_eq] at faults
      have newlines : Text.newlines (body ++ ['\n']) = 1 := by
        simp [Text.newlines, List.count_eq_zero.mpr oneLine]
      rw [List.append_cons, faults, faultsOn_cons, List.map_append, List.map_append,
        map_faults_line closed.1 (newline_not_mem_sourceOfText oneLine '\n')]
      -- Behind this line one more line is skipped.
      rw [← ih closed.2 (skipped + 1), List.map_map]
      refine congrArg (_ ++ ·) (List.map_congr_left fun fault _ => ?_)
      have number : fault.line + Text.newlines (body ++ ['\n']) + skipped =
          fault.line + (skipped + 1) := by
        omega
      exact congrArg (·, fault.message) number

end Prompt

namespace Command

open Prompt

/-- **A script and its lines.** When no string is open at the end of a line, a text that is
run as a script and the same text at the prompt list the same tokens in the same order, and
the end of the source is listed once by the script and behind every line by the prompt. The
same faults are met in the same order. The script tells of each on the line of the text that
the prompt met it on, where the prompt itself says line one. -/
theorem run_line_by_line {folder elsewhere : Folder} {input : Bytes}
    {scripting prompting : List Text} {pretty flagged : Bool} {script text : Text}
    (asksScript : Request.ofArguments scripting = .run pretty (some script))
    (asksPrompt : Request.ofArguments prompting = .run flagged none)
    (stored : folder.read script = .ok text.encode)
    (closed : ∀ line ∈ text.lines, ∀ fault ∈ (lex line).faults, fault.cause ≠ .unterminated) :
    let scripted := run folder input scripting
    let prompted := run elsewhere text.encode prompting
    let met := faultsOn 1 text.lines
    (text.lines.flatten = text ∧ linesOf text.encode = text.lines.map Text.encode) ∧
      scripted.output = text.lines.flatMap listed ++ "EOF  null\n".toList ∧
      prompted.output =
        (text.lines.flatMap fun line => invitation ++ listed line ++ "EOF  null\n".toList) ++
          invitation ++ ['\n'] ∧
      scripted.errors = Script.tell pretty script text (lex text).faults ∧
      prompted.errors = Fault.listing (met.map Prod.snd) ∧
      ((lex text).faults.map fun fault => (fault.line, fault.message)) =
        (met.map fun place => (place.1, place.2.message)) ∧
      ∀ place ∈ met, place.2.line = 1 := by
  intro scripted prompted met
  have scriptRun : scripted = Script.runSource pretty script text := by
    simp only [scripted, run, asksScript, fulfil, stored]
    exact Script.run_of_decode? (Text.decode?_encode text) pretty script
  have promptRun : prompted = Prompt.run text.encode := by
    simp only [prompted, run, asksPrompt, fulfil]
  rw [scriptRun, promptRun, Script.runSource_eq, run_encode]
  refine ⟨⟨text.flatten_lines, linesOf_encode text⟩, listing_tokens_lines closed, ?_, rfl,
    told_eq 1 _, map_faults_lines closed 0, ?_⟩
  · rw [shown_eq]
  · intro place member
    obtain ⟨line, among, faulty⟩ := exists_line_of_mem_faultsOn member
    have isLine : line.encode ∈ linesOf text.encode :=
      linesOf_encode text ▸ List.mem_map_of_mem among
    exact line_eq_one isLine faulty

/-- Two lines with a stray character each, the first of them with a carriage return too. -/
theorem run_line_by_line_strays :
    let folder : Folder := ⟨[([['a']], Text.encode "(@\r\n#".toList)]⟩
    let scripted := run folder [] [['a']]
    let prompted := run ⟨[]⟩ (Text.encode "(@\r\n#".toList) []
    scripted.output = "LEFT_PAREN ( null\nEOF  null\n".toList ∧
      prompted.output = "> LEFT_PAREN ( null\nEOF  null\n> EOF  null\n> \n".toList ∧
      scripted.errors = Text.ofLines
        ["[line 1] Error: Unexpected character".toList,
          "[line 2] Error: Unexpected character".toList] ∧
      prompted.errors = Text.ofLines
        ["[line 1] Error: Unexpected character".toList,
          "[line 1] Error: Unexpected character".toList] := by
  intro folder scripted prompted
  have asksScript : Request.ofArguments [['a']] = .run false (some ['a']) := by decide
  have asksPrompt : Request.ofArguments [] = .run false none := by decide
  have stored : folder.read ['a'] = .ok (Text.encode "(@\r\n#".toList) := by rfl
  have closed : ∀ line ∈ Text.lines "(@\r\n#".toList, ∀ fault ∈ (lex line).faults,
      fault.cause ≠ .unterminated := by decide +kernel
  obtain ⟨-, script, prompt, scriptErrors, promptErrors, -⟩ :=
    @run_line_by_line folder ⟨[]⟩ [] _ _ _ _ _ _ asksScript asksPrompt stored closed
  exact ⟨script.trans (by decide +kernel), prompt.trans (by decide +kernel),
    scriptErrors.trans (by decide +kernel), promptErrors.trans (by decide +kernel)⟩

end Command

end LoxLexis
