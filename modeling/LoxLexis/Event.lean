import LoxLexis.Fault
import LoxLexis.Token.Basic
import LoxLexis.Word.Basic

/-!
# Events

Reading a source has events: a token is read, or a fault is met. `Event.ofSource` lists
them in the order of the source, with the end of the source as the last one, and `lex`
sorts them into tokens and faults.
-/

namespace LoxLexis

/-- What happens at a word that is neither blank nor comment, or at the end of a source. -/
inductive Event
  /-- A token is read. -/
  | token (token : Token)
  /-- A fault is met. -/
  | fault (fault : Fault)
  deriving DecidableEq, Repr

/-- The event of a word that starts at a position, if it has one. -/
def Word.event? (position : Position) : Word → Option Event
  | symbol mark =>
      some (.token
        { kind := .symbol mark
          lexeme := mark.spelling
          literal := none
          line := position.line
          span := position.spanOf mark.spelling })
  | string value =>
      some (.token
        { kind := .string
          lexeme := (string value).spelling
          literal := some value
          line := position.line
          span := position.spanOf (string value).spelling })
  | openString value =>
      some (.fault
        { cause := .unterminated
          line := (position.after (openString value).spelling).line
          span := position.spanOf (openString value).spelling })
  | stray character =>
      some (.fault
        { cause := .unexpected character
          line := position.line
          span := position.spanOf [character] })
  | comment _ => none
  | blank _ => none

namespace Event

/-- The token of an event that reads one. -/
def token? : Event → Option Token
  | token read => some read
  | fault _ => none

/-- The fault of an event that meets one. -/
def fault? : Event → Option Fault
  | token _ => none
  | fault met => some met

/-- The events of words that stand one after the other from a position on, and the event
of the end that they reach. -/
def ofWords (position : Position) : List Word → List Event
  | [] => [token (.endOfFile position)]
  | word :: rest => (word.event? position).toList ++ ofWords (position.after word.spelling) rest

/-- The events of reading a source. -/
def ofSource (source : Text) : List Event :=
  ofWords .origin (Word.words source)

end Event

/-- What a source holds. -/
structure Lexed where
  /-- Its tokens in order, the end of the source last. -/
  tokens : List Token
  /-- Its faults in order. -/
  faults : List Fault
  deriving DecidableEq, Repr

/-- The tokens and the faults of a source. -/
def lex (source : Text) : Lexed where
  tokens := (Event.ofSource source).filterMap Event.token?
  faults := (Event.ofSource source).filterMap Event.fault?

end LoxLexis
