import LoxLexis.Proofs.Lexing.Grammar
import LoxLexis.Report.Basic
import Mathlib.Data.List.Forall2

/-!
# Every fault of a source is drawn

Only a fault whose span runs backward has no report (`Report.exists_draw`), and the span of
no fault of a source does (`start_le_stop_of_mem_faults`). So the faults of a source are drawn
one after the other, each in a report of its own (`Report.exists_drawAll_lex`).
-/

namespace LoxLexis

/-- The span of a fault of a source does not run backward. -/
theorem start_le_stop_of_mem_faults {source : Text} {fault : Fault}
    (member : fault ∈ (lex source).faults) : fault.span.start ≤ fault.span.stop := by
  rw [lex_faults] at member
  obtain ⟨⟨before, word⟩, -, met⟩ := List.mem_filterMap.mp member
  cases word <;> cases met <;> simp [Word.placedSpan]

namespace Report

variable {style : Style} {source filename : Text} {faults : List Fault}

/-- A fault whose span does not run backward has a report, which begins with its headline. -/
theorem exists_draw {fault : Fault} (forward : fault.span.start ≤ fault.span.stop) :
    ∃ rest, draw style source filename fault =
      .ok (Row.render style (headline fault) ++ '\n' :: rest) := by
  have notBackward : ¬ fault.span.stop < fault.span.start := Nat.not_lt.mpr forward
  simp only [draw, rows, if_neg notBackward]
  cases Region.of? source fault.span with
  | none => exact ⟨[], by simp [Except.map, Row.renderAll]⟩
  | some region =>
      exact ⟨Row.renderAll style (framedRows source filename fault region),
        by simp [Except.map, Row.renderAll]⟩

/-- Faults whose spans do not run backward each have a report, and none of these is empty. -/
theorem exists_reports (forward : ∀ fault ∈ faults, fault.span.start ≤ fault.span.stop) :
    ∃ reports : List Text, List.Forall₂
      (fun fault report => draw style source filename fault = .ok report ∧ report ≠ [])
      faults reports := by
  induction faults with
  | nil => exact ⟨[], .nil⟩
  | cons first others ih =>
      rw [List.forall_mem_cons] at forward
      obtain ⟨rest, drawn⟩ := exists_draw forward.1
      obtain ⟨reports, later⟩ := ih forward.2
      have nonempty : Row.render style (headline first) ++ '\n' :: rest ≠ [] :=
        List.append_ne_nil_of_right_ne_nil _ (List.cons_ne_nil _ _)
      exact ⟨_ :: reports, .cons ⟨drawn, nonempty⟩ later⟩

/-- Faults that each have a report are drawn one after the other. -/
theorem drawAll_eq {reports : List Text}
    (drawn : List.Forall₂ (fun fault report => draw style source filename fault = .ok report)
      faults reports) :
    drawAll style source filename faults = .ok reports.flatten := by
  have mapped : faults.mapM (draw style source filename) = .ok reports := by
    induction drawn with
    | nil => rfl
    | cons first _ ih =>
        rw [List.mapM_cons, first, ih]
        rfl
  rw [drawAll, mapped]
  rfl

/-- The faults of a source are drawn one after the other, each in a report of its own. -/
theorem exists_drawAll_lex (style : Style) (source filename : Text) :
    ∃ reports : List Text,
      List.Forall₂
        (fun fault report => draw style source filename fault = .ok report ∧ report ≠ [])
        (lex source).faults reports ∧
      drawAll style source filename (lex source).faults = .ok reports.flatten := by
  have forward : ∀ fault ∈ (lex source).faults, fault.span.start ≤ fault.span.stop :=
    fun _ => start_le_stop_of_mem_faults
  obtain ⟨reports, drawn⟩ := exists_reports forward
  exact ⟨reports, drawn, drawAll_eq (drawn.imp fun _ _ both => both.1)⟩

end Report

end LoxLexis
