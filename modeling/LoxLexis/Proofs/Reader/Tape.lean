import LoxLexis.Proofs.Tape

/-!
# The tape that a reader plays

What a reader has still before it is a tape (`Reader.tape`): the events of the words that
are left, and the token of the end of the source. Reading one token plays the tape up to
that token, and the faults on the way are received one after the other
(`Reader.next_plays`). Reading to the end plays the whole tape (`Feed.collect_plays`), so
a receiver only ever sees the faults of the source, each once and in order
(`lexInto_eq_foldl`).
-/

namespace LoxLexis

variable {State : Type}

/-- Collecting faults puts them behind those that were collected before. -/
theorem Receive.foldl_collecting (faults : List Fault) (collected : Array Fault) :
    faults.foldl Receive.collecting collected = collected ++ faults.toArray :=
  List.foldl_push_eq_append'

namespace Reader

/-- The events that a reader has still before it. -/
def tape (reader : Reader) : Tape where
  events := (Event.ofWords reader.position (Word.words reader.rest)).dropLast
  ending := .endOfFile (reader.position.after reader.rest)

@[simp] theorem tape_ofSource (source : Text) : (ofSource source).tape = .ofSource source := rfl

theorem tape_nil (position : Position) : tape ⟨[], position⟩ = ⟨[], .endOfFile position⟩ := by
  rw [tape, Word.words]
  rfl

/-- Before the events of what follows a reader's next word comes the event of that word. -/
theorem tape_cons (character : Char) (rest : Text) (position : Position) :
    let found := Word.first character rest
    let reached : Reader := ⟨found.2, position.after found.1.spelling⟩
    tape ⟨character :: rest, position⟩ =
      ⟨(found.1.event? position).toList ++ reached.tape.events, reached.tape.ending⟩ := by
  intro found reached
  have whole : found.1.spelling ++ found.2 = character :: rest := Word.first_spelling character rest
  have ending : position.after (character :: rest) = reached.position.after reached.rest := by
    rw [← whole, Position.after_append]
  rw [tape, Word.words, ending]
  exact congrArg (Tape.mk · _) (List.dropLast_append_of_ne_nil (Event.ofWords_ne_nil _ _))

/-- **Reading plays the tape.** A reader yields the next token of its tape, has the tape
after that token still before it, and gives its receiver the faults before the token. -/
theorem next_plays (receive : Receive State) (reader : Reader) (received : State) :
    (reader.next receive received).token = reader.tape.token ∧
      (reader.next receive received).reader.tape = reader.tape.advance ∧
      (reader.next receive received).received = reader.tape.faults.foldl receive received := by
  fun_induction next receive reader received with
  | case1 position received =>
      rw [tape_nil]
      exact ⟨rfl, rfl, rfl⟩
  | case2 character rest position received found reached token read =>
      rw [tape_cons, read]
      exact ⟨rfl, rfl, rfl⟩
  | case3 character rest position received found reached fault met ih =>
      rw [tape_cons, met]
      exact ih
  | case4 character rest position received found reached silent ih =>
      rw [tape_cons, silent]
      exact ih

/-- Reading to the end of a source yields its end exactly once. -/
theorem tape_endsOnce (reader : Reader) : reader.tape.EndsOnce := by
  refine ⟨rfl, fun read member => ?_⟩
  rw [tape, Event.dropLast_ofWords] at member
  obtain ⟨place, -, event⟩ := List.mem_filterMap.mp member
  exact kind_of_event? event

/-- A reader that has yielded the end of the source stands there. -/
theorem exists_end_of_endOfFile {receive : Receive State} {reader : Reader} {received : State}
    (last : (reader.next receive received).token.kind = .endOfFile) :
    ∃ position, (reader.next receive received).token = .endOfFile position ∧
      (reader.next receive received).reader = ⟨[], position⟩ := by
  fun_induction next receive reader received with
  | case1 position received => exact ⟨position, rfl, rfl⟩
  | case2 character rest position received found reached token read =>
      exact absurd last (kind_of_event? read)
  | case3 character rest position received found reached fault met ih => exact ih last
  | case4 character rest position received found reached silent ih => exact ih last

/-- A reader that has yielded the end of the source yields it again, without moving and
without a fault, whoever receives. -/
theorem next_of_endOfFile {receive : Receive State} {reader : Reader} {received : State}
    (last : (reader.next receive received).token.kind = .endOfFile) {Other : Type}
    (receiveNext : Receive Other) (receivedNext : Other) :
    (reader.next receive received).reader.next receiveNext receivedNext =
      ⟨(reader.next receive received).token, (reader.next receive received).reader,
        receivedNext⟩ := by
  obtain ⟨position, token, stands⟩ := exists_end_of_endOfFile last
  rw [stands, token, next]

end Reader

namespace Feed

/-- A feed that has ended gives nothing, and stays as it is. -/
theorem next_of_ended (receive : Receive State) {feed : Feed State} (ended : feed.ended = true) :
    feed.next receive = (none, feed) := by
  rw [next, if_pos ended]

/-- A feed that has not yielded the end of its source yields the next token of its tape,
and has ended when this is the end. -/
theorem next_plays (receive : Receive State) (feed : Feed State) (unended : feed.ended = false) :
    (feed.next receive).1 = some feed.reader.tape.token ∧
      (feed.next receive).2.reader.tape = feed.reader.tape.advance ∧
      (feed.next receive).2.received = feed.reader.tape.faults.foldl receive feed.received ∧
      (feed.next receive).2.ended = feed.reader.tape.token.kind.isEndOfFile := by
  obtain ⟨token, tape, heard⟩ := feed.reader.next_plays receive feed.received
  rw [next, if_neg (Bool.eq_false_iff.mp unended), ← token]
  exact ⟨rfl, tape, heard, rfl⟩

/-- A feed that has yielded the end of its source has nothing left. -/
theorem collect_of_ended (receive : Receive State) {feed : Feed State} (ended : feed.ended = true) :
    feed.collect receive = ([], feed) := by
  rw [collect]
  split
  · next following yielded =>
      rw [next_of_ended receive ended] at yielded
      rw [← (Prod.mk.inj yielded).2]
  · next token following yielded =>
      rw [next_of_ended receive ended] at yielded
      cases yielded

/-- **Collecting plays the tape to its end.** A feed that has not yielded the end of its
source yields every token of its tape, and its receiver is given every fault. -/
theorem collect_plays (receive : Receive State) (feed : Feed State) (unended : feed.ended = false) :
    (feed.collect receive).1 = feed.reader.tape.allTokens ∧
      (feed.collect receive).2.reader.tape = feed.reader.tape.atEnd ∧
      (feed.collect receive).2.received = feed.reader.tape.allFaults.foldl receive feed.received ∧
      (feed.collect receive).2.ended = true := by
  have ends := feed.reader.tape_endsOnce
  fun_induction collect receive feed with
  | case1 feed following yielded =>
      rw [next, unended] at yielded
      cases yielded
  | case2 feed token following yielded others ih =>
      obtain ⟨read, tape, heard, ended⟩ := next_plays receive feed unended
      rw [yielded] at read tape heard ended
      have sameToken : token = feed.reader.tape.token := Option.some.inj read
      rw [← sameToken] at ended
      by_cases last : token.kind = .endOfFile
      · -- The end of the source is the only token left, so what is collected behind it is empty.
        have nothing : others = ([], following) :=
          collect_of_ended receive (ended.trans (decide_eq_true last))
        obtain ⟨atEnd, ending, allTokens⟩ := Tape.advance_eq_atEnd ends (sameToken ▸ last)
        have allFaults : feed.reader.tape.allFaults = feed.reader.tape.faults := by
          rw [Tape.allFaults_eq_append, atEnd]
          exact List.append_nil _
        rw [nothing, allTokens, allFaults, ← ending, ← sameToken, ← atEnd]
        exact ⟨rfl, tape, heard, ended.trans (decide_eq_true last)⟩
      · have allTokens := Tape.allTokens_eq_cons ends (sameToken ▸ last)
        obtain ⟨tokens, stands, received, done⟩ :=
          ih (ended.trans (decide_eq_false last)) following.reader.tape_endsOnce
        rw [tape] at tokens stands received
        rw [heard, ← List.foldl_append, ← Tape.allFaults_eq_append] at received
        rw [allTokens, ← tokens, ← sameToken]
        exact ⟨rfl, stands, received, done⟩

end Feed

/-- Reading everything that is left plays the tape of a reader. -/
theorem Reader.drain_plays (receive : Receive State) (reader : Reader) (received : State) :
    reader.drain receive received =
      (reader.tape.allTokens, reader.tape.allFaults.foldl receive received) := by
  obtain ⟨tokens, -, heard, -⟩ := Feed.collect_plays receive (.start reader received) rfl
  exact Prod.ext tokens heard

namespace Tape

/-- The tokens on the tape of a source are those of the source. -/
theorem allTokens_ofSource (source : Text) : (ofSource source).allTokens = (lex source).tokens := by
  simp only [lex, Event.ofSource_eq_tape, List.filterMap_append]
  rfl

/-- The faults on the tape of a source are those of the source. -/
theorem allFaults_ofSource (source : Text) : (ofSource source).allFaults = (lex source).faults := by
  simp only [lex, Event.ofSource_eq_tape, List.filterMap_append]
  exact (List.append_nil _).symm

end Tape

/-- A receiver is given the faults of a source one after the other, and has no influence
on the tokens. -/
theorem lexInto_eq_foldl (receive : Receive State) (source : Text) (received : State) :
    lexInto receive source received =
      ((lex source).tokens, (lex source).faults.foldl receive received) := by
  rw [lexInto, Reader.drain_plays, Reader.tape_ofSource, Tape.allTokens_ofSource,
    Tape.allFaults_ofSource]

end LoxLexis
