import LoxLexis.Command.Outcome
import LoxLexis.Event
import LoxLexis.Report.Basic
import LoxLexis.Text.Encoding

/-!
# Scripts

A script is read as a whole. Its tokens are listed whatever its faults; then the faults
are told, each in a line or in a drawn report, and a script with faults fails.
-/

namespace LoxLexis

namespace Script

/-- The source of a script, from what reading its file has given. -/
def sourceOf (content : Except IoCause Bytes) : Except IoCause Text := do
  match Text.decode? (← content) with
  | some source => .ok source
  | none => .error .invalidUtf8

/-- What is told of the faults of a source. A report that is refused is told by the
refusal, which the faults of the source itself never come to. -/
def tell (pretty : Bool) (filename source : Text) (faults : List Fault) : Text :=
  if pretty then
    match Report.drawAll .coloured source filename faults with
    | .ok reports => reports
    | .error refusal => refusal.message
  else Fault.listing faults

/-- The outcome of a script whose source was read. -/
def runSource (pretty : Bool) (filename source : Text) : Outcome :=
  let lexed := lex source
  let listing := Token.listing lexed.tokens
  if lexed.faults.isEmpty then .success listing []
  else
    .failed listing (tell pretty filename source lexed.faults) (.lexical lexed.faults.length)

/-- The outcome of a script, from what reading its file has given. -/
def run (pretty : Bool) (filename : Text) (content : Except IoCause Bytes) : Outcome :=
  match sourceOf content with
  | .ok source => runSource pretty filename source
  | .error cause => .failed [] [] (.io cause)

end Script

end LoxLexis
