import LoxLexis.Pipe
import LoxLexis.Feed

/-!
# Fault logs

A fault log writes a line for every fault it receives. Lines wait until the log is
flushed; a flush that fails halfway leaves the bytes that were not accepted waiting, so
that a later flush goes on where it stopped. Receiving a fault never fails.

There is no bound on how many bytes may wait. A log over a buffer of a fixed size, such as
8192 bytes, writes out the buffer when it is full, without a flush. Over a pipe without a limit
this makes no difference to what a flush has written and answers. Over a limited pipe it makes
none as long as fewer bytes than the buffer holds are reported in all.
-/

namespace LoxLexis

/-- A log of faults over a pipe. -/
structure FaultLog where
  /-- Where the lines go. -/
  pipe : Pipe
  /-- The bytes that wait to be written. -/
  pending : Array UInt8
  /-- Whether any fault was received. -/
  hasFault : Bool
  deriving DecidableEq

namespace FaultLog

/-- A log that has received nothing. -/
def ofPipe (pipe : Pipe) : FaultLog := ⟨pipe, #[], false⟩

/-- Receive a fault: its line joins the waiting ones. -/
def receive : Receive FaultLog := fun log fault =>
  { log with
    pending := log.pending.appendList (Text.encode (Text.ofLines [fault.display]))
    hasFault := true }

/-- Write out the waiting bytes, as far as the pipe accepts them. -/
def flush (log : FaultLog) : FaultLog × Option IoCause :=
  let poured := log.pipe.pour log.pending.toList
  ({ log with pipe := poured.1, pending := poured.2.1.toArray }, poured.2.2)

/-- Flush a log for the last time, and give up what could not be written. -/
def close (log : FaultLog) : Pipe × Option IoCause :=
  let flushed := log.flush
  (flushed.1.pipe, flushed.2)

end FaultLog

end LoxLexis
