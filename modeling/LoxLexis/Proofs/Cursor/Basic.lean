import LoxLexis.Feed
import LoxLexis.Text.Slice

/-!
# Reading in place

A cursor reads a source without taking it apart. It knows where the current word starts and
how far it has come, as byte offsets, and it counts lines. It looks at a text only by cutting
the source at these offsets, which is refused anywhere but between two characters
(`Text.splitAt?`), and it counts no further than to a greatest number. Reading goes in steps
so small that each of them changes one count (`Cursor.step`); every place at which a reading
can be is a point that such steps reach (`Cursor.Reached`).
-/

namespace LoxLexis

/-- Where the reading of a source is. -/
structure Cursor where
  /-- The offset at which the current word starts. -/
  start : Nat
  /-- The offset of the next character. -/
  current : Nat
  /-- The line, counting the newlines read so far. -/
  line : Nat
  /-- The line on which the current word starts. -/
  startLine : Nat
  deriving DecidableEq, Repr

namespace Cursor

/-- What a cursor cannot do. -/
inductive Refusal
  /-- Cutting the source where no character ends. -/
  | cut
  /-- Counting below zero, or beyond the greatest number. -/
  | count
  deriving DecidableEq, Repr

/-- How much of a word has been read. -/
inductive Stage
  /-- Nothing is being read. -/
  | between
  /-- It is known where the word starts. -/
  | marked
  /-- It is known on which line too. -/
  | opened
  /-- The first character has been read. -/
  | read (character : Char)
  /-- A symbol has been read together with the equals sign behind it. -/
  | grown (long : Symbol)
  /-- A comment is being read. -/
  | comment
  /-- A string is being read. -/
  | string
  /-- A newline in a string has been counted, but not been read. -/
  | breaking
  /-- A string has been read with both quotes. -/
  | closed
  deriving DecidableEq, Repr

/-- A place in the reading of a source. -/
structure Point where
  /-- How much of a word has been read. -/
  stage : Stage
  /-- The offsets and the lines. -/
  cursor : Cursor
  deriving DecidableEq, Repr

/-- The point before anything is read. -/
def Point.origin : Point := ⟨.between, ⟨0, 0, 1, 1⟩⟩

/-- A count raised by a number, as far as there are numbers. -/
def raise (limit count more : Nat) : Except Refusal Nat :=
  if count + more ≤ limit then .ok (count + more) else .error .count

/-- A count lowered by a number. -/
def lower (count less : Nat) : Except Refusal Nat :=
  if less ≤ count then .ok (count - less) else .error .count

/-- The part of a source between two offsets. -/
def part (source : Text) (start stop : Nat) : Except Refusal Text :=
  match source.slice? start stop with
  | some text => .ok text
  | none => .error .cut

/-- The next character, if there is one. -/
def peek (source : Text) (cursor : Cursor) : Except Refusal (Option Char) :=
  match source.splitAt? cursor.current with
  | some (_, behind) => .ok behind.head?
  | none => .error .cut

/-- The next character, and the cursor behind it. -/
def advance (source : Text) (limit : Nat) (cursor : Cursor) :
    Except Refusal (Option Char × Cursor) := do
  match ← cursor.peek source with
  | some character =>
      return (some character,
        { cursor with current := ← raise limit cursor.current character.utf8Size })
  | none => return (none, cursor)

/-- The cursor with one more line counted. -/
def countLine (limit : Nat) (cursor : Cursor) : Except Refusal Cursor := do
  return { cursor with line := ← raise limit cursor.line 1 }

/-- The bytes of the current word, as far as it has been read. -/
def span (cursor : Cursor) : Span := ⟨cursor.start, cursor.current⟩

/-- The token of the current word. -/
def token (source : Text) (cursor : Cursor) (kind : Kind) (literal : Option Text) :
    Except Refusal Token := do
  let lexeme ← part source cursor.start cursor.current
  return ⟨kind, lexeme, literal, cursor.startLine, cursor.span⟩

/-- What comes of a step: the event that it has, if it has one, and the next point. -/
abbrev Outcome := Except Refusal (Option Event × Point)

/-- The step that ends a word with its token. -/
def finish (source : Text) (cursor : Cursor) (kind : Kind) (literal : Option Text) : Outcome := do
  return (some (.token (← cursor.token source kind literal)), ⟨.between, cursor⟩)

/-- The step that ends a word with a fault. -/
def fail (cursor : Cursor) (cause : Cause) : Outcome :=
  .ok (some (.fault ⟨cause, cursor.line, cursor.span⟩), ⟨.between, cursor⟩)

/-- The step that reads one more character. -/
def proceed (source : Text) (limit : Nat) (cursor : Cursor) (stage : Stage) : Outcome := do
  return (none, ⟨stage, (← cursor.advance source limit).2⟩)

/-- The step behind a character that is a symbol. -/
def symbol (source : Text) (limit : Nat) (cursor : Cursor) (mark : Symbol) : Outcome :=
  match mark.withEqual? with
  | none => cursor.finish source (.symbol mark) none
  | some long => do
      if (← cursor.peek source) = some '=' then cursor.proceed source limit (.grown long)
      else cursor.finish source (.symbol mark) none

/-- The step behind the first character of a word. -/
def dispatch (source : Text) (limit : Nat) (cursor : Cursor) (character : Char) : Outcome :=
  if character = '"' then .ok (none, ⟨.string, cursor⟩)
  else if character = '/' then do
    if (← cursor.peek source) = some '/' then cursor.proceed source limit .comment
    else cursor.finish source (.symbol .slash) none
  else if character = '\n' then do return (none, ⟨.between, ← cursor.countLine limit⟩)
  else if Word.isBlank character then .ok (none, ⟨.between, cursor⟩)
  else
    match Symbol.ofChar? character with
    | some mark => cursor.symbol source limit mark
    | none => cursor.fail (.unexpected character)

/-- The step at the end of the characters of a string. -/
def endString (source : Text) (limit : Nat) (cursor : Cursor) : Outcome :=
  if source.byteLength ≤ cursor.current then cursor.fail .unterminated
  else cursor.proceed source limit .closed

/-- One step of reading a source. -/
def step (source : Text) (limit : Nat) : Point → Outcome
  | ⟨.between, cursor⟩ =>
      if source.byteLength ≤ cursor.current then
        .ok (some (.token (.endOfFile ⟨source.byteLength, cursor.line⟩)), ⟨.between, cursor⟩)
      else .ok (none, ⟨.marked, { cursor with start := cursor.current }⟩)
  | ⟨.marked, cursor⟩ => .ok (none, ⟨.opened, { cursor with startLine := cursor.line }⟩)
  | ⟨.opened, cursor⟩ => do
      match ← cursor.advance source limit with
      | (some character, moved) => return (none, ⟨.read character, moved⟩)
      | (none, stayed) => return (none, ⟨.between, stayed⟩)
  | ⟨.read character, cursor⟩ => cursor.dispatch source limit character
  | ⟨.grown long, cursor⟩ => cursor.finish source (.symbol long) none
  | ⟨.comment, cursor⟩ => do
      if (← cursor.peek source).any Word.isInComment then cursor.proceed source limit .comment
      else return (none, ⟨.between, cursor⟩)
  | ⟨.string, cursor⟩ => do
      match ← cursor.peek source with
      | some '"' => cursor.endString source limit
      | some '\n' => return (none, ⟨.breaking, ← cursor.countLine limit⟩)
      | some _ => cursor.proceed source limit .string
      | none => cursor.endString source limit
  | ⟨.breaking, cursor⟩ => cursor.proceed source limit .string
  | ⟨.closed, cursor⟩ => do
      let value ← part source (← raise limit cursor.start 1) (← lower cursor.current 1)
      cursor.finish source .string (some value)

/-- The points that the reading of a source can come to. -/
inductive Reached (source : Text) (limit : Nat) : Point → Prop
  /-- Reading begins before anything is read. -/
  | origin : Reached source limit .origin
  /-- Every step leads on. -/
  | step {point following : Point} {event? : Option Event} :
      Reached source limit point → step source limit point = .ok (event?, following) →
        Reached source limit following

/-- Steps that lead from a point to another one, and the events on the way. -/
inductive Runs (source : Text) (limit : Nat) : Point → List Event → Point → Prop
  /-- No step leads anywhere. -/
  | nil (point : Point) : Runs source limit point [] point
  /-- A step leads on to others. -/
  | cons {point between following : Point} {event? : Option Event} {events : List Event} :
      step source limit point = .ok (event?, between) → Runs source limit between events following →
        Runs source limit point (event?.toList ++ events) following

variable {source : Text} {limit : Nat} {point between following : Point}

/-- A single step is a run, with its event if it has one. -/
theorem Runs.single {event? : Option Event}
    (stepped : step source limit point = .ok (event?, following)) :
    Runs source limit point event?.toList following := by
  have run := Runs.cons stepped (.nil following)
  rwa [List.append_nil] at run

/-- A step without an event may go before any run. -/
theorem Runs.quiet {events : List Event} (stepped : step source limit point = .ok (none, between))
    (onward : Runs source limit between events following) :
    Runs source limit point events following :=
  .cons stepped onward

/-- Runs that follow each other are one run, with the events of both. -/
theorem Runs.trans {events others : List Event} (first : Runs source limit point events between)
    (second : Runs source limit between others following) :
    Runs source limit point (events ++ others) following := by
  induction first with
  | nil => exact second
  | cons stepped _ ih =>
      rw [List.append_assoc]
      exact .cons stepped (ih second)

/-- A run from a point that reading comes to ends at such a point. -/
theorem Reached.of_runs {events : List Event} (reached : Reached source limit point)
    (runs : Runs source limit point events following) : Reached source limit following := by
  induction runs with
  | nil => exact reached
  | cons stepped _ ih => exact ih (reached.step stepped)

end Cursor

end LoxLexis
