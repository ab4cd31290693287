import LoxLexis.Proofs.FaultLog.Lines
import LoxLexis.Proofs.Reader.Tape

/-!
# Whoever receives the faults

Reading does not depend on the receiver. Two readings of one source with different
receivers yield the same tokens at the same places (`Reader.next_independent`), and each
receiver is given the same faults in the same order (`lexInto_parametric`). Receivers may
be referred to, chosen by a tag, or write to a stream that fails.
-/

namespace LoxLexis

namespace Receive

variable {State Frame Tag Stream : Type} {Held : Tag → Type}

/-- Receiving into a part of what is held, which leaves the other part alone. -/
def borrowed (receive : Receive State) : Receive (State × Frame) :=
  fun held fault => (receive held.1 fault, held.2)

/-- Receiving in the way that goes with the tag of what is held. -/
def dispatched (receive : (tag : Tag) → Receive (Held tag)) : Receive ((tag : Tag) × Held tag) :=
  fun held fault => ⟨held.1, receive held.1 held.2 fault⟩

/-- Receiving by writing a line to a stream, and noting that there was a fault. What comes
of the writing is not looked at. -/
def telling (write : Stream → Bytes → Stream × Option IoCause) : Receive (Stream × Bool) :=
  fun held fault => ((write held.1 (Text.encode (Text.ofLines [fault.display]))).1, true)

/-- Receiving into a part of what is held changes that part as receiving alone would. -/
theorem foldl_borrowed (receive : Receive State) (faults : List Fault) (state : State)
    (frame : Frame) :
    faults.foldl (borrowed receive) (state, frame) = (faults.foldl receive state, frame) := by
  induction faults generalizing state with
  | nil => rfl
  | cons fault others ih => exact ih (receive state fault)

/-- Receiving by a tag keeps the tag, and changes what it holds as receiving alone would. -/
theorem foldl_dispatched (receive : (tag : Tag) → Receive (Held tag)) (faults : List Fault)
    (tag : Tag) (state : Held tag) :
    faults.foldl (dispatched receive) ⟨tag, state⟩ = ⟨tag, faults.foldl (receive tag) state⟩ := by
  induction faults generalizing state with
  | nil => rfl
  | cons fault others ih => exact ih (receive tag state fault)

end Receive

namespace Reader

variable {State Other : Type}

section Step

variable {character : Char} {rest : Text} {position : Position} {receive : Receive State}
  {received : State}

/-- When the first word is a token, a reader yields it and stops behind it. -/
theorem next_of_token {token : Token}
    (read : (Word.first character rest).1.event? position = some (.token token)) :
    next receive ⟨character :: rest, position⟩ received =
      ⟨token, ⟨(Word.first character rest).2,
        position.after (Word.first character rest).1.spelling⟩, received⟩ := by
  rw [next]
  simp only [read]

/-- When the first word is a fault, it is received and the reading goes on behind it. -/
theorem next_of_fault {fault : Fault}
    (met : (Word.first character rest).1.event? position = some (.fault fault)) :
    next receive ⟨character :: rest, position⟩ received =
      next receive ⟨(Word.first character rest).2,
        position.after (Word.first character rest).1.spelling⟩ (receive received fault) := by
  rw [next]
  simp only [met]

/-- When the first word is neither, the reading goes on behind it. -/
theorem next_of_silent (silent : (Word.first character rest).1.event? position = none) :
    next receive ⟨character :: rest, position⟩ received =
      next receive ⟨(Word.first character rest).2,
        position.after (Word.first character rest).1.spelling⟩ received := by
  rw [next]
  simp only [silent]

end Step

/-- Two readings with different receivers yield the same token and stop at the same place. -/
theorem next_independent (receive : Receive State) (receiveOther : Receive Other) (reader : Reader)
    (received : State) (other : Other) :
    (reader.next receive received).token = (reader.next receiveOther other).token ∧
      (reader.next receive received).reader = (reader.next receiveOther other).reader := by
  -- Which branch a reading takes is settled by the word alone, so the other reading takes it too.
  fun_induction next receive reader received generalizing other with
  | case1 position received => exact ⟨by rw [next], by rw [next]⟩
  | case2 character rest position received found reached token read =>
      rw [next_of_token read]
      exact ⟨rfl, rfl⟩
  | case3 character rest position received found reached fault met ih =>
      rw [next_of_fault met]
      exact ih (receiveOther other fault)
  | case4 character rest position received found reached silent ih =>
      rw [next_of_silent silent]
      exact ih other

/-- A reading is the reading that collects, with the collected faults received. -/
theorem next_eq_foldl_collected (receive : Receive State) (reader : Reader) (received : State) :
    let collected := reader.next Receive.collecting #[]
    reader.next receive received =
      ⟨collected.token, collected.reader, collected.received.toList.foldl receive received⟩ := by
  intro collected
  obtain ⟨token, place⟩ := next_independent receive Receive.collecting reader received #[]
  obtain ⟨-, -, heard⟩ := next_plays receive reader received
  have faults : collected.received.toList = reader.tape.faults := by
    obtain ⟨-, -, gathered⟩ := next_plays Receive.collecting reader #[]
    rw [gathered, Receive.foldl_collecting, Array.empty_append]
  rw [← faults] at heard
  rw [← token, ← place, ← heard]

end Reader

/-- **Receivers have no influence.** With any receiver in any state, a source has the same
tokens, and the receiver is given the faults of the source, each once and in order; one
token at a time the same holds of the faults before each token. So it is for receivers
that collect, ignore, are referred to, are chosen by a tag, or write to a stream that may
fail. A log over an unlimited pipe has a fault exactly when the source has one, and holds
their listing once it is flushed. -/
theorem lexInto_parametric (source : Text) :
    (∀ {State : Type} (receive : Receive State) (received : State),
      lexInto receive source received =
        ((lex source).tokens, (lex source).faults.foldl receive received)) ∧
    (∀ {State : Type} (receive : Receive State) (reader : Reader) (received : State),
      reader.next receive received =
        let collected := reader.next Receive.collecting #[]
        ⟨collected.token, collected.reader, collected.received.toList.foldl receive received⟩) ∧
    (∀ collected, lexInto Receive.collecting source collected =
      ((lex source).tokens, collected ++ (lex source).faults.toArray)) ∧
    lexInto Receive.ignoring source () = ((lex source).tokens, ()) ∧
    (∀ {State Frame : Type} (receive : Receive State) (state : State) (frame : Frame),
      lexInto (Receive.borrowed receive) source (state, frame) =
        ((lex source).tokens, (lex source).faults.foldl receive state, frame)) ∧
    (∀ {Tag : Type} {Held : Tag → Type} (receive : (tag : Tag) → Receive (Held tag)) (tag : Tag)
        (state : Held tag),
      lexInto (Receive.dispatched receive) source ⟨tag, state⟩ =
        ((lex source).tokens, ⟨tag, (lex source).faults.foldl (receive tag) state⟩)) ∧
    (∀ {Stream : Type} (write : Stream → Bytes → Stream × Option IoCause) (held : Stream × Bool),
      (lexInto (Receive.telling write) source held).1 = (lex source).tokens) ∧
    (∀ log : FaultLog, (lexInto FaultLog.receive source log).1 = (lex source).tokens) ∧
    let log := (lexInto FaultLog.receive source (.ofPipe (.ofCapacity none))).2
    (log.hasFault = true ↔ (lex source).faults ≠ []) ∧ log.flush.2 = none ∧
      log.flush.1.pipe.accepted.toList = Text.encode (Fault.listing (lex source).faults) := by
  refine ⟨fun receive received => lexInto_eq_foldl receive source received,
    fun receive reader received => reader.next_eq_foldl_collected receive received, ?_, ?_, ?_, ?_,
    ?_, ?_, ?_⟩
  · intro collected
    rw [lexInto_eq_foldl, Receive.foldl_collecting]
  · exact lexInto_eq_foldl Receive.ignoring source ()
  · intro State Frame receive state frame
    rw [lexInto_eq_foldl, Receive.foldl_borrowed]
  · intro Tag Held receive tag state
    rw [lexInto_eq_foldl, Receive.foldl_dispatched]
  · intro Stream write held
    rw [lexInto_eq_foldl]
  · intro log
    rw [lexInto_eq_foldl]
  · intro log
    have kept : log = (lex source).faults.foldl FaultLog.receive (.ofPipe (.ofCapacity none)) :=
      congrArg Prod.snd (lexInto_eq_foldl ..)
    rw [FaultLog.foldl_receive] at kept
    have unlimited : log.pipe.capacity = none := by rw [kept]; rfl
    rw [FaultLog.flush_of_unlimited unlimited, kept]
    simp [FaultLog.ofPipe, Pipe.ofCapacity]

end LoxLexis
