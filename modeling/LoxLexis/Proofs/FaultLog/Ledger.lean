import LoxLexis.FaultLog.Session
import LoxLexis.Proofs.FaultLog.Lines
import LoxLexis.Proofs.Reader.Tape
import Mathlib.Data.List.Basic

/-!
# The ledger of a fault log

What a log has written and what waits in it are together the listing of the faults that it
was given, however its flushes were spread over them and whichever of them failed
(`FaultLog.Holds`). So the answers of a log session can be read off a ledger of those faults
alone (`FaultLog.Session.run_eq_due`): a flush has written the first bytes of the listing,
as many as the pipe takes, and fails when the listing is longer than that.

The statement bounds neither the listing nor the pipe, since the bytes that wait in a log have
no bound here. Of a log whose buffer holds 8192 bytes it speaks over a pipe without a limit,
and over a limited one as long as fewer bytes are reported in all: such a log writes out a full
buffer before it is flushed, and a pipe that has no room left is noticed then.
-/

namespace LoxLexis

namespace Pipe

/-- What a pipe of a capacity takes of the bytes that are sent to it. -/
def admitted (capacity : Option Nat) (sent : Bytes) : Bytes :=
  match capacity with
  | none => sent
  | some limit => sent.take (min limit sent.length)

/-- Why a pipe of a capacity does not take all bytes that are sent to it. -/
def refusal? (capacity : Option Nat) (sent : Bytes) : Option IoCause :=
  match capacity with
  | none => none
  | some limit => if sent.length ≤ limit then none else some .streamFull

/-- A pipe that has kept to its capacity. -/
def WithinCapacity (pipe : Pipe) : Prop :=
  ∀ limit ∈ pipe.capacity, pipe.accepted.toList.length ≤ limit

variable {pipe : Pipe}

/-- What was accepted, and as much of what waits as fits behind it, is what the pipe takes of
both. -/
theorem append_take_fitting (within : pipe.WithinCapacity) (waiting : Bytes) :
    pipe.accepted.toList ++ waiting.take (pipe.fitting waiting.length) =
      admitted pipe.capacity (pipe.accepted.toList ++ waiting) := by
  cases limited : pipe.capacity with
  | none => simp only [fitting, limited, admitted, List.take_length]
  | some limit =>
      have bound := within limit limited
      have rest : min limit (pipe.accepted.toList ++ waiting).length =
          pipe.accepted.toList.length + pipe.fitting waiting.length := by
        simp only [fitting, limited, List.length_append, Array.length_toList] at bound ⊢
        omega
      rw [admitted, rest, List.take_length_add_append]

/-- A write falls short exactly when the pipe does not take all bytes. -/
theorem refusal?_eq (within : pipe.WithinCapacity) (waiting : Bytes) :
    (if pipe.fitting waiting.length < waiting.length then some IoCause.streamFull else none) =
      refusal? pipe.capacity (pipe.accepted.toList ++ waiting) := by
  cases limited : pipe.capacity with
  | none => simp [fitting, limited, refusal?]
  | some limit =>
      have bound := within limit limited
      have short : pipe.fitting waiting.length < waiting.length ↔
          ¬ (pipe.accepted.toList ++ waiting).length ≤ limit := by
        simp only [fitting, limited, List.length_append, Array.length_toList] at bound ⊢
        omega
      simp only [refusal?, short, ite_not]

/-- A limited pipe takes no more bytes than its limit. -/
theorem length_admitted_le {capacity : Option Nat} {limit : Nat} (limited : capacity = some limit)
    (sent : Bytes) : (admitted capacity sent).length ≤ limit := by
  rw [limited, admitted, List.length_take]
  omega

end Pipe

namespace FaultLog

variable {capacity : Option Nat} {reported : List Fault} {log : FaultLog}

/-- A log over a pipe of a capacity that was given these faults since it was new. -/
structure Holds (capacity : Option Nat) (reported : List Fault) (log : FaultLog) : Prop where
  /-- The pipe still has its capacity. -/
  capacity_eq : log.pipe.capacity = capacity
  /-- The pipe has not accepted more than that. -/
  within : log.pipe.WithinCapacity
  /-- No byte of the listing is lost, doubled or out of its place. -/
  sent : log.pipe.accepted.toList ++ log.pending.toList = Text.encode (Fault.listing reported)
  /-- The log knows whether there was a fault. -/
  noted : log.hasFault = !reported.isEmpty

/-- A new log holds nothing. -/
theorem holds_ofPipe (capacity : Option Nat) : Holds capacity [] (.ofPipe (.ofCapacity capacity)) :=
  ⟨rfl, fun _ _ => Nat.zero_le _, rfl, rfl⟩

/-- Faults that a log is given are added to those it holds. -/
theorem Holds.foldl_receive (holds : Holds capacity reported log) (faults : List Fault) :
    Holds capacity (reported ++ faults) (faults.foldl receive log) := by
  rw [FaultLog.foldl_receive]
  refine ⟨holds.capacity_eq, holds.within, ?_, ?_⟩
  · simp only [Array.appendList_eq_append, Array.toList_appendList, Fault.listing_append,
      Text.encode_append, ← holds.sent, List.append_assoc]
  · cases reported <;> simp [holds.noted]

/-- **What a flush has done.** The log holds what it held, the pipe has taken the first bytes
of its listing, and the flush has failed if there are more of them. -/
theorem Holds.flush (holds : Holds capacity reported log) :
    Holds capacity reported log.flush.1 ∧
      log.flush.1.pipe.accepted.toList =
        Pipe.admitted capacity (Text.encode (Fault.listing reported)) ∧
      log.flush.2 = Pipe.refusal? capacity (Text.encode (Fault.listing reported)) := by
  have taken := Pipe.append_take_fitting holds.within log.pending.toList
  have refused := Pipe.refusal?_eq holds.within log.pending.toList
  rw [holds.capacity_eq, holds.sent] at taken refused
  rw [FaultLog.flush, Pipe.pour_eq, refused]
  refine ⟨⟨holds.capacity_eq, ?_, ?_, holds.noted⟩, ?_, rfl⟩
  · intro limit limited
    simp only [Array.appendList_eq_append, Array.toList_appendList, taken]
    exact Pipe.length_admitted_le (holds.capacity_eq ▸ limited) _
  · simp only [Array.appendList_eq_append, Array.toList_appendList, List.append_assoc,
      List.take_append_drop, holds.sent]
  · simp only [Array.appendList_eq_append, Array.toList_appendList, taken]

namespace Session

/-- The faults that a step gives to a log. -/
def Step.faults : Step → List Fault
  | receive fault => [fault]
  | lex source => (LoxLexis.lex source).faults
  | flush | close => []

/-- The answer that is due to a step, by the faults that the log was given up to it, those of
the step included. -/
def Step.due (capacity : Option Nat) (reported : List Fault) : Step → Answer
  | receive _ => .received (!reported.isEmpty)
  | lex source => .lexed (!reported.isEmpty) (LoxLexis.lex source).tokens
  | flush =>
      let sent := Text.encode (Fault.listing reported)
      .flushed (!reported.isEmpty) (Pipe.refusal? capacity sent) (Pipe.admitted capacity sent)
  | close =>
      let sent := Text.encode (Fault.listing reported)
      .closed (Pipe.refusal? capacity sent) (Pipe.admitted capacity sent)

/-- What an answer says about whether the log was given a fault. -/
def Answer.hasFault? : Answer → Option Bool
  | received hasFault | lexed hasFault _ | flushed hasFault _ _ => some hasFault
  | closed _ _ | unavailable => none

/-- A step is given the answer that is due. -/
theorem step_eq_due (holds : Holds capacity reported log) (step : Step) :
    (Session.step (taking log) step).1 = step.due capacity (reported ++ step.faults) := by
  cases step with
  | receive fault => exact congrArg Answer.received (holds.foldl_receive [fault]).noted
  | lex source =>
      have received := holds.foldl_receive (LoxLexis.lex source).faults
      simp only [Session.step, lexInto_eq_foldl]
      exact congrArg (Answer.lexed · _) received.noted
  | flush =>
      obtain ⟨flushed, accepted, failure⟩ := holds.flush
      simp only [Session.step, Step.due, Step.faults, List.append_nil, accepted, failure,
        flushed.noted]
  | close =>
      obtain ⟨-, accepted, failure⟩ := holds.flush
      simp only [Session.step, Step.due, Step.faults, List.append_nil, FaultLog.close, accepted,
        failure]

/-- Behind a step that does not close the log, the log holds the faults of the step too. -/
theorem step_holds (holds : Holds capacity reported log) {step : Step} (more : step ≠ .close) :
    ∃ following, (Session.step (taking log) step).2 = taking following ∧
      Holds capacity (reported ++ step.faults) following := by
  cases step with
  | receive fault => exact ⟨_, rfl, holds.foldl_receive [fault]⟩
  | lex source =>
      refine ⟨_, rfl, ?_⟩
      rw [lexInto_eq_foldl]
      exact holds.foldl_receive (LoxLexis.lex source).faults
  | flush =>
      refine ⟨_, rfl, ?_⟩
      rw [Step.faults, List.append_nil]
      exact holds.flush.1
  | close => exact absurd rfl more

/-- A closed log answers nothing. -/
theorem answers_closed (steps : List Step) :
    answers closed steps = steps.mapIdx fun _ _ => .unavailable := by
  induction steps with
  | nil => rfl
  | cons first others ih =>
      rw [List.mapIdx_cons, ← ih]
      rfl

/-- Every step of a session that has a log is given the answer that is due, until the log is
closed. -/
theorem answers_eq_due (holds : Holds capacity reported log) (steps : List Step) :
    answers (taking log) steps = steps.mapIdx fun index step =>
      if .close ∈ steps.take index then .unavailable
      else step.due capacity (reported ++ (steps.take (index + 1)).flatMap Step.faults) := by
  induction steps generalizing reported log with
  | nil => rfl
  | cons first others ih =>
      rw [answers, step_eq_due holds, List.mapIdx_cons]
      by_cases last : first = .close
      · subst last
        simp [Session.step, answers_closed]
      · obtain ⟨following, stands, kept⟩ := step_holds holds last
        rw [stands, ih kept]
        simp [Ne.symm last]

/-- An answer that tells whether there was a fault tells of the faults reported so far. -/
theorem hasFault?_due {step : Step} {hasFault : Bool}
    (said : (step.due capacity reported).hasFault? = some hasFault) :
    hasFault = !reported.isEmpty := by
  cases step <;> cases said <;> rfl

/-- **A log accounts for every byte.** Whatever a session over a pipe of a capacity does, each
step is given the answer that the faults reported so far call for: sources have the tokens
that they have anywhere, a flush has written the listing of these faults up to the capacity
and has failed if there is more of it, and the log knows of a fault once there was one. Which
flushes went before, and which of them failed, makes no difference. -/
theorem run_eq_due (capacity : Option Nat) (steps : List Step) :
    (run capacity steps = steps.mapIdx fun index step =>
      if .close ∈ steps.take index then .unavailable
      else step.due capacity ((steps.take (index + 1)).flatMap Step.faults)) ∧
    ((run capacity steps).filterMap Answer.hasFault?).Pairwise
      fun earlier later => earlier = true → later = true := by
  have answered := answers_eq_due (holds_ofPipe capacity) steps
  simp only [List.nil_append] at answered
  refine ⟨answered, ?_⟩
  have flag : ∀ index (inside : index < (run capacity steps).length) hasFault,
      ((run capacity steps)[index]).hasFault? = some hasFault →
        hasFault = !((steps.take (index + 1)).flatMap Step.faults).isEmpty := by
    intro index inside hasFault said
    simp only [run, start, answered, List.getElem_mapIdx] at said
    split_ifs at said
    · cases said
    · exact hasFault?_due said
  rw [List.pairwise_filterMap, List.pairwise_iff_getElem]
  intro first second inside outside before earlier saidEarlier later saidLater known
  -- The faults up to the earlier step are among those up to the later one.
  obtain ⟨between, whole⟩ : steps.take (first + 1) <+: steps.take (second + 1) :=
    List.take_prefix_take_left (Nat.succ_le_succ (Nat.le_of_lt before))
  rw [flag first inside earlier saidEarlier] at known
  rw [flag second outside later saidLater, ← whole, List.flatMap_append]
  simp only [Bool.not_eq_eq_eq_not, Bool.not_true, List.isEmpty_eq_false_iff] at known ⊢
  exact List.append_ne_nil_of_left_ne_nil known _

end Session

end FaultLog

end LoxLexis
