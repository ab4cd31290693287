import LoxLexis.Proofs.Word.Placed
import LoxLexis.Session.Playback

/-!
# Playing a tape

The events of a source are those of its tape, with the end of the source last
(`Event.ofSource_eq_tape`). A tape is played one token at a time, each with the faults
before it. What is played and what is still to come make up the tape
(`Tape.allTokens_eq_cons`, `Tape.allFaults_eq_append`), until the token that ends it,
which is found again however often one plays on (`Tape.advance_eq_atEnd`).
-/

namespace LoxLexis

namespace Event

/-- The events of words end with that of the end of the source. -/
theorem ofWords_ne_nil (position : Position) (words : List Word) :
    ofWords position words ≠ [] := by
  induction words generalizing position with
  | nil => exact List.cons_ne_nil _ _
  | cons word rest ih => exact List.append_ne_nil_of_right_ne_nil _ (ih _)

/-- The events of a source are those of its tape, the end of the source last. -/
theorem ofSource_eq_tape (source : Text) :
    ofSource source = (Tape.ofSource source).events ++ [token (Tape.ofSource source).ending] := by
  have listed := ofWords_eq_placed .origin [] (Word.words source)
  rw [← dropLast_ofWords, Word.flatMap_spelling_words, List.nil_append] at listed
  exact listed

end Event

namespace Tape

/-- A tape whose only end-of-file token is the one it ends with. -/
structure EndsOnce (tape : Tape) : Prop where
  /-- The tape ends with the end of the source. -/
  ending : tape.ending.kind = .endOfFile
  /-- No token before is the end of the source. -/
  before : ∀ read, .token read ∈ tape.events → read.kind ≠ .endOfFile

/-- Behind its first event, a tape still ends once. -/
theorem EndsOnce.tail {event : Event} {others : List Event} {ending : Token}
    (ends : EndsOnce ⟨event :: others, ending⟩) : EndsOnce ⟨others, ending⟩ :=
  ⟨ends.ending, fun read member => ends.before read (List.mem_cons_of_mem event member)⟩

/-- The faults of a tape are those before the next token, and those after it. -/
theorem allFaults_eq_append (tape : Tape) :
    tape.allFaults = tape.faults ++ tape.advance.allFaults := by
  obtain ⟨events, ending⟩ := tape
  induction events with
  | nil => rfl
  | cons event others ih =>
      cases event with
      | token read => rfl
      | fault met => exact congrArg (met :: ·) ih

/-- A token that does not end the source comes before the other tokens of its tape. -/
theorem allTokens_eq_cons {tape : Tape} (ends : tape.EndsOnce)
    (more : tape.token.kind ≠ .endOfFile) :
    tape.allTokens = tape.token :: tape.advance.allTokens := by
  obtain ⟨events, ending⟩ := tape
  induction events with
  | nil => exact absurd ends.ending more
  | cons event others ih =>
      cases event with
      | token read => rfl
      | fault met => exact ih ends.tail more

/-- The token that ends the source comes after every event of its tape, and playing on
finds it again. -/
theorem advance_eq_atEnd {tape : Tape} (ends : tape.EndsOnce)
    (last : tape.token.kind = .endOfFile) :
    tape.advance = tape.atEnd ∧ tape.token = tape.ending ∧ tape.allTokens = [tape.ending] := by
  obtain ⟨events, ending⟩ := tape
  induction events with
  | nil => exact ⟨rfl, rfl, rfl⟩
  | cons event others ih =>
      cases event with
      | token read => exact absurd last (ends.before read List.mem_cons_self)
      | fault met => exact ih ends.tail last

end Tape

end LoxLexis
