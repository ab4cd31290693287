import LoxLexis.FaultLog.Basic

/-!
# Sessions of a fault log

A log session gives faults to a log, reads whole sources into it, flushes it, and closes
it. After the log was closed no step is available.
-/

namespace LoxLexis

namespace FaultLog

/-- A log that is in use, or was closed. -/
inductive Session
  /-- The log takes faults. -/
  | taking (log : FaultLog)
  /-- The log was closed. -/
  | closed

namespace Session

/-- What a log session can be asked to do. -/
inductive Step
  /-- Receive a fault. -/
  | receive (fault : Fault)
  /-- Read a whole source, receiving its faults. -/
  | lex (source : Text)
  /-- Write out what waits. -/
  | flush
  /-- Write out what waits, for the last time. -/
  | close
  deriving DecidableEq

/-- What a log session answers. -/
inductive Answer
  /-- A fault was received. -/
  | received (hasFault : Bool)
  /-- A source was read. -/
  | lexed (hasFault : Bool) (tokens : List Token)
  /-- The log was flushed, and the pipe has accepted these bytes so far. -/
  | flushed (hasFault : Bool) (failure : Option IoCause) (accepted : Bytes)
  /-- The log was closed, and the pipe has accepted these bytes in all. -/
  | closed (failure : Option IoCause) (accepted : Bytes)
  /-- The log was closed before. -/
  | unavailable
  deriving DecidableEq

/-- A session over a pipe of a given capacity, before its first step. -/
def start (capacity : Option Nat) : Session := taking (.ofPipe (.ofCapacity capacity))

/-- The answer to one step of a log session, and the session after it. -/
def step : Session → Step → Answer × Session
  | taking log, .receive fault =>
      let following := FaultLog.receive log fault
      (.received following.hasFault, taking following)
  | taking log, .lex source =>
      let read := lexInto FaultLog.receive source log
      (.lexed read.2.hasFault read.1, taking read.2)
  | taking log, .flush =>
      let flushed := log.flush
      (.flushed flushed.1.hasFault flushed.2 flushed.1.pipe.accepted.toList, taking flushed.1)
  | taking log, .close =>
      let result := log.close
      (.closed result.2 result.1.accepted.toList, closed)
  | closed, _ => (.unavailable, closed)

/-- The answers to the steps of a log session, one after the other. -/
def answers : Session → List Step → List Answer
  | _, [] => []
  | session, first :: others =>
      let result := session.step first
      result.1 :: answers result.2 others

/-- The answers to the steps of a whole session over a pipe of a given capacity. -/
def run (capacity : Option Nat) (steps : List Step) : List Answer :=
  answers (start capacity) steps

end Session

end FaultLog

end LoxLexis
