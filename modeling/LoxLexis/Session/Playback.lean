import LoxLexis.Session.Basic

/-!
# Playing back the events of a source

A tape holds the events of a source, listed once and for all; playing it only moves on
from event to event. The end of the source is never passed: it is found again whenever
nothing else is left. `Playback` answers the steps of a session from a tape, without
reading the source again. It has the phases of a session and the steps of each phase, so
that starting again is unavailable until it is finished, midway on the tape as well.
-/

namespace LoxLexis

/-- The events that are still to come. -/
structure Tape where
  /-- The events before the end of the source. -/
  events : List Event
  /-- The token of the end of the source. -/
  ending : Token

namespace Tape

/-- The tape of a source, before its first event. -/
def ofSource (source : Text) : Tape where
  events := (Event.ofSource source).dropLast
  ending := .endOfFile (Position.origin.after source)

/-- Whether an event meets a fault. -/
def isFault (event : Event) : Bool := event.fault?.isSome

/-- The faults before the next token. -/
def faults (tape : Tape) : List Fault :=
  (tape.events.takeWhile isFault).filterMap Event.fault?

/-- The next token. -/
def token (tape : Tape) : Token :=
  (tape.events.findSome? Event.token?).getD tape.ending

/-- The tape after the next token. -/
def advance (tape : Tape) : Tape :=
  { tape with events := (tape.events.dropWhile isFault).drop 1 }

/-- The tokens that are still to come, the end of the source last. -/
def allTokens (tape : Tape) : List Token :=
  tape.events.filterMap Event.token? ++ [tape.ending]

/-- The faults that are still to come. -/
def allFaults (tape : Tape) : List Fault :=
  tape.events.filterMap Event.fault?

/-- The tape at the end of the source. -/
def atEnd (tape : Tape) : Tape := { tape with events := [] }

end Tape

/-- How far a session is, by its place on a tape. -/
inductive Playback
  /-- Playing token by token, beside the faults collected so far. -/
  | reading (tape : Tape) (faults : List Fault)
  /-- Playing to a feed, which has `ended` when it was given the end of the source. -/
  | feeding (tape : Tape) (faults : List Fault) (ended : Bool)
  /-- Not playing, with the faults that were collected. -/
  | finished (faults : List Fault)

namespace Playback

/-- A playback of a source, before its first step. -/
def start (source : Text) : Playback := reading (.ofSource source) []

/-- The answer to one step, and the playback after it. -/
def step (source : Text) : Playback → Session.Step → Session.Answer × Playback
  | reading tape faults, .next =>
      (.read tape.token tape.faults, reading tape.advance (faults ++ tape.faults))
  | reading tape faults, .nextIgnoring => (.skippedTo tape.token, reading tape.advance faults)
  | reading tape faults, .drain =>
      (.drained tape.allTokens tape.allFaults, finished (faults ++ tape.allFaults))
  | reading tape faults, .feed => (.done, feeding tape faults false)
  | feeding tape faults false, .pull =>
      (.pulled (some tape.token),
        feeding tape.advance (faults ++ tape.faults) tape.token.kind.isEndOfFile)
  | feeding tape faults true, .pull => (.pulled none, feeding tape faults true)
  | feeding tape faults false, .collect =>
      (.collected tape.allTokens, feeding tape.atEnd (faults ++ tape.allFaults) true)
  | feeding tape faults true, .collect => (.collected [], feeding tape faults true)
  | feeding _ faults _, .reclaim => (.reclaimed faults, finished faults)
  | finished faults, .restart => (.done, reading (.ofSource source) faults)
  | playback, _ => (.unavailable, playback)

/-- The answers to steps, one after the other. -/
def answers (source : Text) : Playback → List Session.Step → List Session.Answer
  | _, [] => []
  | playback, first :: others =>
      let result := playback.step source first
      result.1 :: answers source result.2 others

/-- The answers to the steps of a whole session on a source, played back. -/
def run (source : Text) (steps : List Session.Step) : List Session.Answer :=
  answers source (start source) steps

end Playback

end LoxLexis
