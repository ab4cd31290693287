import LoxLexis.Command.Basic
import LoxLexis.Proofs.Lexing.Context
import LoxLexis.Proofs.Report.Drawing

/-!
# Running a script

What a script leaves behind is known from its bytes alone: its tokens are listed, its faults
are told after one another, and the exit code says whether there were any
(`Script.runSource_eq`). Drawing the faults changes nothing but how they are told
(`Script.run_readable`).
-/

namespace LoxLexis

/-- Only without faults is the listing of faults empty. -/
theorem Fault.listing_eq_nil_iff {faults : List Fault} : listing faults = [] ↔ faults = [] := by
  cases faults <;> simp [listing]

/-- The last token of a source is its end. -/
theorem lex_getLast?_kind (source : Text) :
    (lex source).tokens.getLast?.map Token.kind = some .endOfFile := by
  rw [lex_tokens_eq, List.getLast?_concat]
  rfl

namespace Script

theorem tell_nil (pretty : Bool) (filename source : Text) :
    tell pretty filename source [] = [] := by
  cases pretty <;> rfl

/-- A source is listed and its faults are told, and it fails exactly when it has one. -/
theorem runSource_eq (pretty : Bool) (filename source : Text) :
    runSource pretty filename source =
      ⟨if (lex source).faults = [] then 0 else 65, Token.listing (lex source).tokens,
        tell pretty filename source (lex source).faults⟩ := by
  cases faults : (lex source).faults with
  | nil => simp [runSource, faults, Outcome.success, tell_nil]
  | cons first others =>
      simp [runSource, faults, Outcome.failed, Outcome.notice, Failure.exitCode]

/-- A script that is a text is run as that text. -/
theorem run_of_decode? {content : Bytes} {source : Text}
    (decoded : Text.decode? content = some source) (pretty : Bool) (filename : Text) :
    run pretty filename (.ok content) = runSource pretty filename source := by
  simp only [run, sourceOf, bind, Except.bind, decoded]

/-- A script that is no text is answered with an input error and nothing else. -/
theorem run_of_broken {content : Bytes} (broken : Text.decode? content = none) (pretty : Bool)
    (filename : Text) :
    run pretty filename (.ok content) =
      ⟨74, [], "IO error: stream did not contain valid UTF-8\n".toList⟩ := by
  simp only [run, sourceOf, bind, Except.bind, broken]
  decide

/-- What is told of the faults of a source is a report of each when they are drawn. -/
theorem exists_reports_tell (filename source : Text) :
    ∃ reports : List Text,
      List.Forall₂ (fun fault report =>
        Report.draw .coloured source filename fault = .ok report ∧ report ≠ [])
        (lex source).faults reports ∧
      tell true filename source (lex source).faults = reports.flatten := by
  obtain ⟨reports, drawn, all⟩ := Report.exists_drawAll_lex .coloured source filename
  refine ⟨reports, drawn, ?_⟩
  simp only [tell, if_true, all]

/-- Something is told exactly when there is a fault. -/
theorem tell_eq_nil_iff (pretty : Bool) (filename source : Text) :
    tell pretty filename source (lex source).faults = [] ↔ (lex source).faults = [] := by
  cases pretty with
  | false => exact Fault.listing_eq_nil_iff
  | true =>
      obtain ⟨reports, drawn, told⟩ := exists_reports_tell filename source
      rw [told]
      generalize (lex source).faults = faults at drawn
      cases drawn with
      | nil => simp
      | cons first _ => simp [first.2]

/-- **Running a script.** Whether its faults are listed or drawn, a script that can be read has
the same output and the same exit code. Of a text its tokens are listed to the end of the
source, and the run succeeds, with nothing told, exactly when the text is cut into complete
words alone, and exactly when it can be read to its end character by character. Its faults are
told one after the other, each in a line or in a report. Bytes that are no text are an error
of their own. -/
theorem run_readable {folder : Folder} {input content : Bytes} {script : Text}
    {plainly drawing : List Text}
    (asksPlainly : Request.ofArguments plainly = .run false (some script))
    (asksDrawing : Request.ofArguments drawing = .run true (some script))
    (readable : folder.read script = .ok content) :
    let plain := Command.run folder input plainly
    let drawn := Command.run folder input drawing
    drawn.output = plain.output ∧ drawn.exitCode = plain.exitCode ∧
      match Text.decode? content with
      | some source =>
          plain.output = Token.listing (lex source).tokens ∧
          (lex source).tokens.getLast?.map Token.kind = some .endOfFile ∧
          (plain.exitCode = 0 ∨ plain.exitCode = 65) ∧
          (plain.exitCode = 0 ↔
            ∃ words, Word.Cut source words ∧ ∀ word ∈ words, word.isFault = false) ∧
          (plain.exitCode = 0 ↔ Context.outside.accepts source = true) ∧
          (plain.errors = [] ↔ plain.exitCode = 0) ∧
          (drawn.errors = [] ↔ drawn.exitCode = 0) ∧
          plain.errors = Fault.listing (lex source).faults ∧
          ∃ reports : List Text,
            List.Forall₂ (fun fault report =>
              Report.draw .coloured source script fault = .ok report ∧ report ≠ [])
              (lex source).faults reports ∧
            drawn.errors = reports.flatten
      | none =>
          let unread : Outcome :=
            ⟨74, [], "IO error: stream did not contain valid UTF-8\n".toList⟩
          plain = unread ∧ drawn = unread := by
  intro plain drawn
  have plainRun : plain = run false script (.ok content) := by
    simp only [plain, Command.run, asksPlainly, Command.fulfil, readable]
  have drawnRun : drawn = run true script (.ok content) := by
    simp only [drawn, Command.run, asksDrawing, Command.fulfil, readable]
  rw [plainRun, drawnRun]
  cases decoded : Text.decode? content with
  | none =>
      rw [run_of_broken decoded, run_of_broken decoded]
      exact ⟨rfl, rfl, rfl, rfl⟩
  | some source =>
      have succeeds : (if (lex source).faults = [] then 0 else 65) = 0 ↔
          (lex source).faults = [] := by
        simp
      simp only [run_of_decode? decoded, runSource_eq, succeeds, tell_eq_nil_iff, true_and,
        ← lex_faults_eq_nil_iff_accepts, ← lex_faults_eq_nil_iff_cut]
      refine ⟨lex_getLast?_kind source, ?_, rfl, exists_reports_tell script source⟩
      by_cases faultless : (lex source).faults = []
      · exact .inl faultless
      · exact .inr (if_neg faultless)

/-- A script that is one stray character has the same output either way, and fails. -/
theorem run_readable_stray :
    let folder : Folder := ⟨[([['a']], Text.encode ['@'])]⟩
    let plain := Command.run folder [] [['a']]
    let drawn := Command.run folder [] [Request.prettyFlag, ['a']]
    drawn.output = plain.output ∧ plain.output = "EOF  null\n".toList ∧ plain.exitCode ≠ 0 ∧
      plain.errors = "[line 1] Error: Unexpected character\n".toList := by
  intro folder plain drawn
  have asksPlainly : Request.ofArguments [['a']] = .run false (some ['a']) := by decide
  have asksDrawing : Request.ofArguments [Request.prettyFlag, ['a']] = .run true (some ['a']) := by
    decide
  have readable : folder.read ['a'] = .ok (Text.encode ['@']) := by rfl
  have found := @run_readable folder [] _ _ _ _ asksPlainly asksDrawing readable
  rw [Text.decode?_encode] at found
  obtain ⟨output, -, tokens, -, -, -, accepts, -, -, errors, -⟩ := found
  refine ⟨output, tokens.trans (by decide +kernel), ?_, errors.trans (by decide +kernel)⟩
  rw [Ne, accepts]
  decide

end Script

end LoxLexis
