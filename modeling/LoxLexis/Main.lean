import LoxLexis.Command.Basic

/-!
# The program

The command on the real standard streams and the real file system. It reads and writes;
what it writes, and with which exit code it ends, is decided by `LoxLexis.Command` and
`LoxLexis.Prompt`.
-/

namespace LoxLexis

namespace Program

/-- The cause that the operating system gives by a code, which may come negated, and its
own words. -/
def causeOfCode (code : UInt32) (details : String) : IoCause :=
  let code := if code < 0x80000000 then code else 0 - code
  if code = 2 then .notFound
  else if code = 20 then .notADirectory
  else if code = 21 then .isADirectory
  else .other (details.capitalize.toList ++ " (os error ".toList ++ Text.ofNat code.toNat ++ [')'])

/-- The cause behind an error of reading. -/
def causeOf : IO.Error → IoCause
  | .noFileOrDirectory _ code details => causeOfCode code details
  | .inappropriateType _ code details => causeOfCode code details
  | .permissionDenied _ code details => causeOfCode code details
  | .invalidArgument _ code details => causeOfCode code details
  | .hardwareFault code details => causeOfCode code details
  | .otherError code details => causeOfCode code details
  | error => .other error.toString.toList

/-- The bytes of a file. -/
def readFile (path : Text) : IO (Except IoCause Bytes) := do
  try
    return .ok (← IO.FS.readBinFile (String.ofList path)).toList
  catch error =>
    return .error (causeOf error)

/-- Write texts to the two output streams. -/
def write (output errors : Text) : IO Unit := do
  let stdout ← IO.getStdout
  stdout.putStr (String.ofList output)
  stdout.flush
  let stderr ← IO.getStderr
  stderr.putStr (String.ofList errors)
  stderr.flush

/-- Write what an outcome holds, and end with its exit code. -/
def finish (outcome : Outcome) : IO UInt32 := do
  write outcome.output outcome.errors
  return outcome.exitCode.toUInt32

/-- The next line of the standard input, without bytes when the input has ended. -/
partial def readLine (line : Array UInt8) : IO Bytes := do
  let bytes ← (← IO.getStdin).read 1
  match bytes.toList with
  | [] => return line.toList
  | byte :: _ =>
      let longer := line.push byte
      if Prompt.isLineEnd byte then return longer.toList else readLine longer

/-- Prompt for lines until the input ends or a line cannot be read. -/
partial def prompt : IO UInt32 := do
  write Prompt.invitation []
  match ← readLine #[] with
  | [] => finish (.success ['\n'] [])
  | line =>
      match Prompt.answer line with
      | .ok (listing, faults) => write listing faults; prompt
      | .error cause => finish (.failed [] [] (.io cause))

/-- Do what the arguments ask for. -/
def run (arguments : List Text) : IO UInt32 := do
  match Request.ofArguments arguments with
  | .run _ none => prompt
  | .run pretty (some script) => finish (Script.run pretty script (← readFile script))
  | request => finish (Command.fulfil (fun _ => .error .notFound) [] request)

end Program

end LoxLexis

/-- The command line. -/
def main (arguments : List String) : IO UInt32 :=
  LoxLexis.Program.run (arguments.map String.toList)
