import LoxLexis.Proofs.Lexing.Order
import LoxLexis.Proofs.Reader.Tape

/-!
# Sessions play back their tape

Whatever a session has read, it is at a place on the tape of its source
(`Session.playback`). One step of the session is one step of the playback from that place
(`Session.step_playback`), so the answers of every session are those of a machine that
lists the events of the source once and then only moves along them
(`Session.run_eq_playback`).
-/

namespace LoxLexis

namespace Session

/-- The place on the tape of its source that a session is at. -/
def playback : Session → Playback
  | reading reader faults => .reading reader.tape faults.toList
  | feeding feed => .feeding feed.reader.tape feed.received.toList feed.ended
  | finished faults => .finished faults.toList

/-- The faults that are new are those that were added. -/
theorem newFaults_append (before : Array Fault) (added : List Fault) :
    newFaults before (before ++ added.toArray) = added := by
  simp [newFaults]

/-- **One step of a session is one step of its playback.** -/
theorem step_playback (source : Text) (session : Session) (step : Step) :
    session.playback.step source step =
      ((session.step source step).1, (session.step source step).2.playback) := by
  cases session with
  | reading reader faults =>
      cases step with
      | next =>
          obtain ⟨token, tape, heard⟩ := reader.next_plays Receive.collecting faults
          rw [Receive.foldl_collecting] at heard
          simp only [Session.step, playback, Playback.step, token, tape, heard, newFaults_append,
            Array.toList_append]
      | nextIgnoring =>
          obtain ⟨token, tape, -⟩ := reader.next_plays Receive.ignoring ()
          simp only [Session.step, playback, Playback.step, token, tape]
      | drain =>
          simp only [Session.step, playback, Playback.step, Reader.drain_plays,
            Receive.foldl_collecting, newFaults_append, Array.toList_append]
      | feed => rfl
      | pull | collect | reclaim | restart => rfl
  | feeding feed =>
      obtain ⟨reader, received, ended⟩ := feed
      cases step with
      | pull =>
          cases ended with
          | false =>
              obtain ⟨token, tape, heard, ended⟩ :=
                Feed.next_plays Receive.collecting ⟨reader, received, false⟩ rfl
              rw [Receive.foldl_collecting] at heard
              simp only [Session.step, playback, Playback.step, token, tape, heard, ended,
                Array.toList_append]
          | true => rw [Session.step, Feed.next_of_ended Receive.collecting rfl]; rfl
      | collect =>
          cases ended with
          | false =>
              obtain ⟨tokens, tape, heard, ended⟩ :=
                Feed.collect_plays Receive.collecting ⟨reader, received, false⟩ rfl
              rw [Receive.foldl_collecting] at heard
              simp only [Session.step, playback, Playback.step, tokens, tape, heard, ended,
                Array.toList_append]
          | true => rw [Session.step, Feed.collect_of_ended Receive.collecting rfl]; rfl
      | reclaim => cases ended <;> rfl
      | next | nextIgnoring | drain | feed | restart => cases ended <;> rfl
  | finished faults => cases step <;> rfl

/-- The answers of a session are those of its playback. -/
theorem answers_playback (source : Text) (session : Session) (steps : List Step) :
    answers source session steps = Playback.answers source session.playback steps := by
  induction steps generalizing session with
  | nil => rfl
  | cons first others ih =>
      rw [answers, Playback.answers, step_playback]
      exact congrArg (_ :: ·) (ih _)

/-- **Sessions play back their tape.** Every session on a source answers every list of steps
as the playback does, whose tape holds the events of the source, in the order of the source
and with its end last, which are its tokens and its faults. A reader that has yielded the
end yields it again without a fault, and a feed that starts anywhere yields the tokens that
are left and then nothing. -/
theorem run_eq_playback (source : Text) :
    (∀ steps, run source steps = Playback.run source steps) ∧
    Event.ofSource source =
      (Tape.ofSource source).events ++ [.token (Tape.ofSource source).ending] ∧
    (Tape.ofSource source).allTokens = (lex source).tokens ∧
    (Tape.ofSource source).allFaults = (lex source).faults ∧
    ((Event.ofSource source).Pairwise fun earlier later =>
      earlier.span.stop ≤ later.span.start) ∧
    (∀ {State Other : Type} (receive : Receive State) (reader : Reader) (received : State)
        (receiveNext : Receive Other) (receivedNext : Other),
      (reader.next receive received).token.kind = .endOfFile →
        (reader.next receive received).reader.next receiveNext receivedNext =
          ⟨(reader.next receive received).token, (reader.next receive received).reader,
            receivedNext⟩) ∧
    (∀ {State : Type} (receive : Receive State) (reader : Reader) (received : State),
      ((Feed.start reader received).collect receive).1 = reader.tape.allTokens ∧
        (((Feed.start reader received).collect receive).2.next receive).1 = none) := by
  refine ⟨fun steps => answers_playback source (start source) steps,
    Event.ofSource_eq_tape source, Tape.allTokens_ofSource source, Tape.allFaults_ofSource source,
    Event.pairwise_ofSource source, ?_, ?_⟩
  · intro State Other receive reader received receiveNext receivedNext last
    exact Reader.next_of_endOfFile last receiveNext receivedNext
  · intro State receive reader received
    obtain ⟨tokens, -, -, ended⟩ := Feed.collect_plays receive (.start reader received) rfl
    rw [Feed.next_of_ended receive ended]
    exact ⟨tokens, rfl⟩

/-- Behind a stray character the end of the source is yielded, and yielded again. -/
theorem run_eq_playback_after_stray :
    let read := (Reader.ofSource ['@']).next Receive.ignoring ()
    read.token.kind = .endOfFile ∧
      read.reader.next Receive.collecting #[] = ⟨.endOfFile ⟨1, 1⟩, ⟨[], ⟨1, 1⟩⟩, #[]⟩ := by
  intro read
  have last : read.token.kind = .endOfFile := by decide +kernel
  have token : read.token = .endOfFile ⟨1, 1⟩ := by decide +kernel
  have reader : read.reader = ⟨[], ⟨1, 1⟩⟩ := by decide +kernel
  obtain ⟨-, -, -, -, -, again, -⟩ := run_eq_playback ['@']
  refine ⟨last, ?_⟩
  rw [again Receive.ignoring _ () Receive.collecting #[] last]
  exact congrArg₂ (Reading.mk · · #[]) token reader

end Session

end LoxLexis
