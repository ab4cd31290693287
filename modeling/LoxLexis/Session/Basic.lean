import LoxLexis.Feed

/-!
# Sessions

A session drives one source step by step and collects its faults. It first reads token
by token; it may then turn the reader into a feed that carries the collected faults; it
is finished when everything was read at once or when the faults were taken back from
the feed, and may start again on the same source. A step that the session's phase does
not have is unavailable and changes nothing.

Starting again is a step of a finished session only. This is a rule of the session protocol,
which has that step in no other phase, and readers do not force it: to leave a reader midway,
a session turns it into a feed, takes the faults back from the feed, and starts again.
-/

namespace LoxLexis

/-- How far a session is. -/
inductive Session
  /-- Reading token by token, beside the faults collected so far. -/
  | reading (reader : Reader) (faults : Array Fault)
  /-- Reading from a feed that carries the faults. -/
  | feeding (feed : Feed (Array Fault))
  /-- Not reading, with the faults that were collected. -/
  | finished (faults : Array Fault)

namespace Session

/-- What a session can be asked to do. -/
inductive Step
  /-- Read a token and collect the faults before it. -/
  | next
  /-- Read a token and let go of the faults before it. -/
  | nextIgnoring
  /-- Read everything that is left. -/
  | drain
  /-- Turn the reader into a feed. -/
  | feed
  /-- Take a token from the feed. -/
  | pull
  /-- Take every token that the feed still has. -/
  | collect
  /-- Take the faults back from the feed. -/
  | reclaim
  /-- Start again on the same source. -/
  | restart
  deriving DecidableEq, Repr

/-- What a session answers. -/
inductive Answer
  /-- A token was read, and these faults were met on the way. -/
  | read (token : Token) (faults : List Fault)
  /-- A token was read, whatever was met on the way. -/
  | skippedTo (token : Token)
  /-- These tokens were left, and these faults were met among them. -/
  | drained (tokens : List Token) (faults : List Fault)
  /-- The session has changed its phase. -/
  | done
  /-- The feed has given a token, or has none left. -/
  | pulled (token : Option Token)
  /-- These tokens were left in the feed. -/
  | collected (tokens : List Token)
  /-- These faults were collected since the session began. -/
  | reclaimed (faults : List Fault)
  /-- The session's phase has no such step. -/
  | unavailable
  deriving DecidableEq, Repr

/-- The faults that were collected after the first ones. -/
def newFaults (before after : Array Fault) : List Fault :=
  after.toList.drop before.size

/-- A session on a source, before its first step. -/
def start (source : Text) : Session := reading (.ofSource source) #[]

/-- The answer to one step of a session on a source, and the session after it. -/
def step (source : Text) : Session → Step → Answer × Session
  | reading reader faults, .next =>
      let result := reader.next Receive.collecting faults
      (.read result.token (newFaults faults result.received), reading result.reader result.received)
  | reading reader faults, .nextIgnoring =>
      let result := reader.next Receive.ignoring ()
      (.skippedTo result.token, reading result.reader faults)
  | reading reader faults, .drain =>
      let result := reader.drain Receive.collecting faults
      (.drained result.1 (newFaults faults result.2), finished result.2)
  | reading reader faults, .feed => (.done, feeding (.start reader faults))
  | feeding feed, .pull =>
      let result := feed.next Receive.collecting
      (.pulled result.1, feeding result.2)
  | feeding feed, .collect =>
      let result := feed.collect Receive.collecting
      (.collected result.1, feeding result.2)
  | feeding feed, .reclaim => (.reclaimed feed.received.toList, finished feed.received)
  | finished faults, .restart => (.done, reading (.ofSource source) faults)
  | session, _ => (.unavailable, session)

/-- The answers to the steps of a session, one after the other. -/
def answers (source : Text) : Session → List Step → List Answer
  | _, [] => []
  | session, first :: others =>
      let result := session.step source first
      result.1 :: answers source result.2 others

/-- The answers to the steps of a whole session on a source. -/
def run (source : Text) (steps : List Step) : List Answer :=
  answers source (start source) steps

end Session

end LoxLexis
