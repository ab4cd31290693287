import LoxLexis.FaultLog.Basic
import LoxLexis.Proofs.Pipe

/-!
# The lines of a fault log

A log that is given faults keeps their listing waiting, behind what waited before
(`FaultLog.foldl_receive`). Flushing a log over an unlimited pipe writes all of it
(`FaultLog.flush_of_unlimited`).
-/

namespace LoxLexis

namespace FaultLog

/-- Receiving faults puts their listing behind the bytes that wait, and touches nothing
that was written. -/
theorem foldl_receive (log : FaultLog) (faults : List Fault) :
    faults.foldl receive log =
      { pipe := log.pipe
        pending := log.pending.appendList (Text.encode (Fault.listing faults))
        hasFault := log.hasFault || !faults.isEmpty } := by
  induction faults generalizing log with
  | nil => simp [Fault.listing]
  | cons fault others ih =>
      have lines : Fault.listing (fault :: others) =
          Text.ofLines [fault.display] ++ Fault.listing others := by simp [Fault.listing]
      have waiting (first second : Bytes) : (log.pending.appendList first).appendList second =
          log.pending.appendList (first ++ second) := by
        apply Array.ext'
        simp
      rw [List.foldl_cons, ih, lines, Text.encode_append, ← waiting]
      simp [receive]

/-- A flushed log over an unlimited pipe has written all that waited. -/
theorem flush_of_unlimited {log : FaultLog} (unlimited : log.pipe.capacity = none) :
    log.flush =
      ({ log with
          pipe := { log.pipe with accepted := log.pipe.accepted ++ log.pending }
          pending := #[] }, none) := by
  have written : log.pipe.accepted.appendList log.pending.toList =
      log.pipe.accepted ++ log.pending := by
    apply Array.ext'
    simp
  rw [flush, Pipe.pour_of_unlimited unlimited, written]

end FaultLog

end LoxLexis
