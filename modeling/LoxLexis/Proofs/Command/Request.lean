import LoxLexis.Proofs.Command.Script

/-!
# The order of the arguments

What arguments ask for is said without their order: whether one of them asks for help
(`Request.ofArguments_eq_help_iff`), and otherwise which ones are left when the flag for drawn
reports is taken away once (`Request.ofArguments_eq_run_iff`). So the command does the same for
the same arguments in any order, and a run that is refused is refused whatever there is to read
(`Command.run_perm`).
-/

namespace LoxLexis

namespace Request

variable {arguments first second : List Text} {pretty : Bool} {script : Option Text}

/-- Help is asked for by either spelling of its flag. -/
theorem any_helpFlags_iff :
    arguments.any helpFlags.contains = true ↔
      "-h".toList ∈ arguments ∨ "--help".toList ∈ arguments := by
  simp only [List.any_eq_true, List.contains_iff_mem, helpFlags, List.mem_cons, List.not_mem_nil,
    or_false, and_or_left, exists_or, exists_eq_right]

theorem looksLikeFlag_iff (argument : Text) :
    looksLikeFlag argument = true ↔ "--".toList <+: argument :=
  List.isPrefixOf_iff_prefix

/-- Arguments that do not ask for help are answered by what is left of them. -/
theorem ofArguments_of_unasked
    (unasked : ¬ ("-h".toList ∈ arguments ∨ "--help".toList ∈ arguments)) :
    ofArguments arguments =
      match arguments.erase prettyFlag with
      | [] => run (arguments.contains prettyFlag) none
      | [name] =>
          if looksLikeFlag name then misuse else run (arguments.contains prettyFlag) (some name)
      | _ => misuse :=
  if_neg (any_helpFlags_iff.not.mpr unasked)

/-- Help is given exactly when it is asked for. -/
theorem ofArguments_eq_help_iff :
    ofArguments arguments = .help ↔ "-h".toList ∈ arguments ∨ "--help".toList ∈ arguments := by
  by_cases asked : "-h".toList ∈ arguments ∨ "--help".toList ∈ arguments
  · exact iff_of_true (if_pos (any_helpFlags_iff.mpr asked)) asked
  · refine iff_of_false ?_ asked
    rw [ofArguments_of_unasked asked]
    split
    · simp
    · split <;> simp
    · simp

/-- Arguments are accepted when none of them asks for help, and what is left of them is at most
one script. -/
theorem ofArguments_eq_run_iff :
    ofArguments arguments = .run pretty script ↔
      ¬ ("-h".toList ∈ arguments ∨ "--help".toList ∈ arguments) ∧
        arguments.erase prettyFlag = script.toList ∧ (∀ name ∈ script, ¬ "--".toList <+: name) ∧
        (pretty = true ↔ prettyFlag ∈ arguments) := by
  have drawn : (pretty = true ↔ prettyFlag ∈ arguments) ↔
      arguments.contains prettyFlag = pretty := by
    rw [← List.contains_iff_mem, ← Bool.eq_iff_iff]
    exact eq_comm
  by_cases asked : "-h".toList ∈ arguments ∨ "--help".toList ∈ arguments
  · rw [ofArguments_eq_help_iff.mpr asked]
    exact iff_of_false (by simp) fun accepted => accepted.1 asked
  · rw [ofArguments_of_unasked asked, drawn]
    simp only [asked, not_false_eq_true, true_and, ← looksLikeFlag_iff]
    -- Nothing is left, or one argument, or too many.
    rcases arguments.erase prettyFlag with - | ⟨name, - | ⟨other, others⟩⟩
    · cases script <;> simp
    · cases script with
      | none => by_cases flag : looksLikeFlag name = true <;> simp [flag]
      | some script =>
          by_cases same : name = script
          · subst same
            by_cases flag : looksLikeFlag name = true <;> simp [flag]
          · by_cases flag : looksLikeFlag name = true <;> simp [flag, same]
    · cases script <;> simp

/-- At most one argument has no other order. -/
theorem eq_toList_iff_perm {list : List Text} : list = script.toList ↔ list.Perm script.toList := by
  cases script with
  | none => exact List.perm_nil.symm
  | some name => exact List.perm_singleton.symm

/-- At most one argument is a script or none. -/
theorem exists_eq_toList {list : List Text} (atMostOne : list.length ≤ 1) :
    ∃ script : Option Text, list = script.toList := by
  rcases list with - | ⟨name, - | ⟨other, others⟩⟩
  · exact ⟨none, rfl⟩
  · exact ⟨some name, rfl⟩
  · simp only [List.length_cons] at atMostOne
    omega

/-- Arguments in another order ask for the same. -/
theorem ofArguments_perm (same : first.Perm second) : ofArguments first = ofArguments second := by
  have asksHelp : ofArguments first = .help ↔ ofArguments second = .help := by
    simp only [ofArguments_eq_help_iff, same.mem_iff]
  have asksRun (pretty : Bool) (script : Option Text) :
      ofArguments first = .run pretty script ↔ ofArguments second = .run pretty script := by
    simp only [ofArguments_eq_run_iff, eq_toList_iff_perm, same.mem_iff,
      (same.erase prettyFlag).congr_left]
  cases found : ofArguments second with
  | help => exact asksHelp.mpr found
  | run pretty script => exact (asksRun pretty script).mpr found
  | misuse =>
      cases other : ofArguments first with
      | misuse => rfl
      | help => rw [asksHelp.mp other] at found; cases found
      | run pretty script => rw [(asksRun pretty script).mp other] at found; cases found

/-- The arguments that are accepted. -/
theorem exists_eq_run_iff :
    (∃ pretty script, ofArguments arguments = .run pretty script) ↔
      ¬ ("-h".toList ∈ arguments ∨ "--help".toList ∈ arguments) ∧
        (arguments.erase prettyFlag).length ≤ 1 ∧
          ∀ name ∈ arguments.erase prettyFlag, ¬ "--".toList <+: name := by
  constructor
  · rintro ⟨pretty, script, accepted⟩
    obtain ⟨unasked, left, plain, -⟩ := ofArguments_eq_run_iff.mp accepted
    rw [left]
    exact ⟨unasked, Option.length_toList_le, by simpa using plain⟩
  · rintro ⟨unasked, atMostOne, plain⟩
    obtain ⟨script, left⟩ := exists_eq_toList atMostOne
    rw [left] at plain
    exact ⟨arguments.contains prettyFlag, script, ofArguments_eq_run_iff.mpr
      ⟨unasked, left, by simpa using plain, List.contains_iff_mem⟩⟩

/-- All other arguments are not understood. -/
theorem ofArguments_eq_misuse_iff :
    ofArguments arguments = .misuse ↔
      ¬ ("-h".toList ∈ arguments ∨ "--help".toList ∈ arguments) ∧
        ¬ ((arguments.erase prettyFlag).length ≤ 1 ∧
          ∀ name ∈ arguments.erase prettyFlag, ¬ "--".toList <+: name) := by
  have neither : ofArguments arguments = .misuse ↔ ofArguments arguments ≠ .help ∧
      ¬ ∃ pretty script, ofArguments arguments = .run pretty script := by
    cases ofArguments arguments <;> simp
  rw [neither, ne_eq, ofArguments_eq_help_iff, exists_eq_run_iff]
  exact and_congr_right fun unasked => not_congr (and_iff_right unasked)

end Request

/-- The prompt succeeds, or fails with the exit code of an input error. -/
theorem Prompt.exitCode_runLines (lines : List Bytes) :
    (runLines lines).exitCode = 0 ∨ (runLines lines).exitCode = 74 := by
  induction lines with
  | nil => exact .inl rfl
  | cons line others ih =>
      rw [runLines]
      split
      · exact ih
      · exact .inr rfl

/-- A script succeeds, or fails with the exit code of bad data or of an input error. -/
theorem Script.exitCode_run (pretty : Bool) (filename : Text) (content : Except IoCause Bytes) :
    (run pretty filename content).exitCode ∈ [0, 65, 74] := by
  rw [run]
  split
  · rw [runSource_eq]
    split <;> simp
  · simp [Outcome.failed, Failure.exitCode]

namespace Command

variable {arguments : List Text}

/-- The command fails with the exit code of a usage error only when it does not understand its
arguments. -/
theorem exitCode_run_eq_iff (folder : Folder) (input : Bytes) :
    (run folder input arguments).exitCode = 64 ↔ Request.ofArguments arguments = .misuse := by
  rw [run]
  cases Request.ofArguments arguments with
  | help => simp [fulfil, Outcome.success]
  | misuse => exact iff_of_true rfl rfl
  | run pretty script =>
      refine iff_of_false ?_ (by simp)
      cases script with
      | none =>
          have code := Prompt.exitCode_runLines (Prompt.linesOf input)
          simp only [fulfil, Prompt.run]
          omega
      | some name =>
          have code := Script.exitCode_run pretty name (folder.read name)
          simp only [List.mem_cons, List.not_mem_nil, or_false] at code
          simp only [fulfil]
          omega

/-- **The order of the arguments does not matter.** Arguments in another order ask for the same,
and so the command does the same with the same files and the same input. Help is asked for
exactly when one of the arguments is a flag for help. Otherwise the flag for drawn reports is
taken away once if it is there. At most one argument may then be left, which does not begin
like a flag: it is the script, and reports are drawn exactly when the flag was there. Any other
arguments are answered with the usage and its exit code, and nothing is put out, whatever there is
to read. -/
theorem run_perm {first second : List Text} (same : first.Perm second) (folder : Folder)
    (input : Bytes) :
    Request.ofArguments first = Request.ofArguments second ∧
      run folder input first = run folder input second ∧
      (Request.ofArguments first = .help ↔ "-h".toList ∈ first ∨ "--help".toList ∈ first) ∧
      (∀ pretty script, Request.ofArguments first = .run pretty script ↔
        ¬ ("-h".toList ∈ first ∨ "--help".toList ∈ first) ∧
          first.erase "--pretty".toList = script.toList ∧
          (∀ name ∈ script, ¬ "--".toList <+: name) ∧
          (pretty = true ↔ "--pretty".toList ∈ first)) ∧
      (Request.ofArguments first = .misuse ↔
        ¬ ("-h".toList ∈ first ∨ "--help".toList ∈ first) ∧
          ¬ ((first.erase "--pretty".toList).length ≤ 1 ∧
            ∀ name ∈ first.erase "--pretty".toList, ¬ "--".toList <+: name)) ∧
      (Request.ofArguments first = .help → run folder input first = ⟨0, help, []⟩) ∧
      (Request.ofArguments first = .misuse →
        run folder input first = ⟨64, [], "Usage: lox [--pretty] [SCRIPT]\n".toList⟩) ∧
      ((run folder input first).exitCode = 64 ↔ Request.ofArguments first = .misuse) := by
  have request := Request.ofArguments_perm same
  refine ⟨request, congrArg (fulfil folder.read input) request, Request.ofArguments_eq_help_iff,
    fun _ _ => Request.ofArguments_eq_run_iff, Request.ofArguments_eq_misuse_iff, ?_, ?_,
    exitCode_run_eq_iff folder input⟩
  · intro asked
    rw [run, asked]
    rfl
  · intro refused
    have told : Outcome.failed [] [] (.usage usage) =
        ⟨64, [], "Usage: lox [--pretty] [SCRIPT]\n".toList⟩ := by decide
    rw [run, refused, ← told]
    rfl

/-- A second flag for drawn reports is no script, wherever it stands. -/
theorem run_perm_pretty_twice :
    let first : List Text := ["--pretty".toList, "-x".toList, "--pretty".toList]
    let second : List Text := ["-x".toList, "--pretty".toList, "--pretty".toList]
    first.Perm second ∧ ∀ folder input,
      run folder input second = ⟨64, [], "Usage: lox [--pretty] [SCRIPT]\n".toList⟩ := by
  intro first second
  have same : first.Perm second := by decide
  refine ⟨same, fun folder input => ?_⟩
  obtain ⟨-, run, -, -, -, -, refused, -⟩ := run_perm same folder input
  rw [← run]
  exact refused (by decide)

end Command

end LoxLexis
