import LoxLexis.Reader

/-!
# Reading a source to its end

A feed is a reader that carries its receiver along and stops after it has yielded the end
of the source once. A new feed may start at any reader, also at one that has reached the
end. Every token that a feed yields lowers a bound on those still to come
(`Feed.bound_next_lt`), so all of them can be collected.
-/

namespace LoxLexis

/-- A reader on its way through a source, with its receiver. -/
structure Feed (State : Type) where
  /-- Where the feed stands. -/
  reader : Reader
  /-- What the receiver holds. -/
  received : State
  /-- Whether the feed has yielded the end of the source. -/
  ended : Bool

namespace Feed

variable {State : Type}

/-- A feed that starts at a reader. -/
def start (reader : Reader) (received : State) : Feed State := ⟨reader, received, false⟩

/-- The next token of a feed, until it has yielded the end of the source. -/
def next (receive : Receive State) (feed : Feed State) : Option Token × Feed State :=
  if feed.ended then (none, feed)
  else
    let reading := feed.reader.next receive feed.received
    (some reading.token, ⟨reading.reader, reading.received, reading.token.kind.isEndOfFile⟩)

/-- A bound on the tokens that a feed can still yield. -/
def bound (feed : Feed State) : Nat :=
  if feed.ended then 0 else feed.reader.rest.length + 1

/-- Every token that a feed yields lowers the bound on the others. -/
theorem bound_next_lt {receive : Receive State} {feed following : Feed State} {token : Token}
    (yielded : feed.next receive = (some token, following)) : following.bound < feed.bound := by
  unfold next at yielded
  split at yielded
  · simp at yielded
  · next unended =>
      simp only [Prod.mk.injEq, Option.some.injEq] at yielded
      obtain ⟨rfl, rfl⟩ := yielded
      by_cases last : (feed.reader.next receive feed.received).token.kind = .endOfFile
      · simp [bound, unended, Kind.isEndOfFile, last]
      · have shorter := Reader.next_length_lt receive feed.reader feed.received last
        simp only [bound, unended, Kind.isEndOfFile, last, decide_false, Bool.false_eq_true,
          ↓reduceIte]
        omega

/-- Every token that a feed still yields, and the feed after them. -/
def collect (receive : Receive State) (feed : Feed State) : List Token × Feed State :=
  match _yielded : feed.next receive with
  | (none, following) => ([], following)
  | (some token, following) =>
      let others := collect receive following
      (token :: others.1, others.2)
termination_by feed.bound
decreasing_by exact bound_next_lt _yielded

end Feed

/-- Read everything that a reader has still before it. -/
def Reader.drain {State : Type} (receive : Receive State) (reader : Reader) (received : State) :
    List Token × State :=
  let drained := (Feed.start reader received).collect receive
  (drained.1, drained.2.received)

/-- The tokens of a source, with its faults given to a receiver. -/
def lexInto {State : Type} (receive : Receive State) (source : Text) (received : State) :
    List Token × State :=
  (Reader.ofSource source).drain receive received

end LoxLexis
