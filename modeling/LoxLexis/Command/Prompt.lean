import LoxLexis.Command.Outcome
import LoxLexis.Event
import LoxLexis.Text.Encoding
import LoxLexis.Text.Pieces

/-!
# The prompt

The prompt answers the input line by line, each line as a source of its own without the
line break at its end. Faults are told and the prompt goes on; a line that is no text
ends it. When the input ends, so does the line of the last prompt.
-/

namespace LoxLexis

namespace Prompt

/-- What is shown before a line is read. -/
def invitation : Text := "> ".toList

/-- The byte that ends a line. -/
def isLineEnd (byte : UInt8) : Bool := byte = 10

/-- The lines of an input; a last line that is not ended counts when it has a byte. -/
def linesOf (input : Bytes) : List Bytes := cutAfter isLineEnd input

/-- Whether a character is part of the line break at the end of a line. -/
def isBreak (character : Char) : Bool := character = '\n' || character = '\r'

/-- The source that a line holds, if it is a text. -/
def sourceOf (line : Bytes) : Except IoCause Text :=
  match Text.decode? line with
  | some text => .ok (Text.trimEnd isBreak text)
  | none => .error .invalidUtf8

/-- What a line is answered with: the listing of its tokens, and that of its faults. -/
def answer (line : Bytes) : Except IoCause (Text × Text) :=
  (sourceOf line).map fun source =>
    let lexed := lex source
    (Token.listing lexed.tokens, Fault.listing lexed.faults)

/-- What the prompt leaves behind when no line is left. -/
def farewell : Outcome := .success (invitation ++ ['\n']) []

/-- What the prompt leaves behind when a line could not be read. -/
def broken (cause : IoCause) : Outcome := .failed invitation [] (.io cause)

/-- The outcome of prompting for lines. -/
def runLines : List Bytes → Outcome
  | [] => farewell
  | line :: others =>
      match answer line with
      | .ok (listing, faults) => (runLines others).after (invitation ++ listing) faults
      | .error cause => broken cause

/-- The outcome of prompting on an input. -/
def run (input : Bytes) : Outcome := runLines (linesOf input)

end Prompt

end LoxLexis
