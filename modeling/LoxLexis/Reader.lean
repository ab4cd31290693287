import LoxLexis.Event

/-!
# Reading a source token by token

A reader stands somewhere in a source and yields one token at a time. Faults that it
meets on the way go to a receiver, which is any state together with a way to receive
(`Receive`); what the receiver does with them has no influence on the reader. At the
end of the source the reader yields the end-of-file token, every time it is asked.
-/

namespace LoxLexis

/-- A way to receive faults into a state. -/
abbrev Receive (State : Type) := State → Fault → State

namespace Receive

/-- Receiving by collecting. -/
def collecting : Receive (Array Fault) := Array.push

/-- Receiving by letting go. -/
def ignoring : Receive Unit := fun _ _ => ()

end Receive

/-- A place in a source from which it is being read. -/
structure Reader where
  /-- The text that is still to be read. -/
  rest : Text
  /-- Where that text starts. -/
  position : Position
  deriving DecidableEq, Repr

/-- What comes of reading a token: the token, where the reader stands after it, and what
the receiver holds then. -/
structure Reading (State : Type) where
  /-- The token that was read. -/
  token : Token
  /-- The reader after the token. -/
  reader : Reader
  /-- The receiver after the faults that were met before the token. -/
  received : State

namespace Reader

/-- The reader at the start of a source. -/
def ofSource (source : Text) : Reader := ⟨source, .origin⟩

variable {State : Type}

/-- Read up to the next token, giving the faults on the way to the receiver. -/
def next (receive : Receive State) : Reader → State → Reading State
  | ⟨[], position⟩, received => ⟨.endOfFile position, ⟨[], position⟩, received⟩
  | ⟨character :: rest, position⟩, received =>
      let found := Word.first character rest
      let reached : Reader := ⟨found.2, position.after found.1.spelling⟩
      match found.1.event? position with
      | some (.token token) => ⟨token, reached, received⟩
      | some (.fault fault) => next receive reached (receive received fault)
      | none => next receive reached received
termination_by reader => reader.rest.length
decreasing_by all_goals exact Word.first_length_lt character rest

/-- Only the end of the source makes the end-of-file token. -/
theorem kind_of_event? {position : Position} {word : Word} {token : Token}
    (read : word.event? position = some (.token token)) : token.kind ≠ .endOfFile := by
  cases word <;> simp only [Word.event?, Option.some.injEq, Event.token.injEq, reduceCtorEq] at read
  all_goals
    subst read
    simp

/-- Reading a token that is not the end of the source leaves less to read. -/
theorem next_length_lt (receive : Receive State) (reader : Reader) (received : State)
    (more : (reader.next receive received).token.kind ≠ .endOfFile) :
    (reader.next receive received).reader.rest.length < reader.rest.length := by
  fun_induction next receive reader received with
  | case1 position received => exact absurd rfl more
  | case2 character rest position received found reached token read =>
      exact Word.first_length_lt character rest
  | case3 character rest position received found reached fault met ih =>
      exact Nat.lt_trans (ih more) (Word.first_length_lt character rest)
  | case4 character rest position received found reached silent ih =>
      exact Nat.lt_trans (ih more) (Word.first_length_lt character rest)

end Reader

end LoxLexis
