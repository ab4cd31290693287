import LoxLexis.Command.Folder
import LoxLexis.Command.Prompt
import LoxLexis.Command.Request
import LoxLexis.Command.Script

/-!
# The command

The command shows its help, refuses arguments that it does not understand, lists the
tokens of a script, or prompts for lines.
-/

namespace LoxLexis

namespace Command

/-- How the command is used. -/
def usage : Text := "lox [--pretty] [SCRIPT]".toList

/-- The help text of the command. -/
def help : Text :=
  Text.ofLines (List.map String.toList
    ["lox - the Lox scanner",
      "",
      "    USAGE:",
      "        lox [--pretty] [SCRIPT]",
      "",
      "    OPTIONS:",
      "        --pretty            Render lexical errors with source context.",
      "        -h, --help          Print this help.",
      "",
      "    ARGS:",
      "        SCRIPT              The Lox file to scan. Without it, an interactive prompt scans " ++
        "each",
      "                            line as it is entered."])

/-- The outcome of a request, given a way to read files and the standard input. -/
def fulfil (read : Text → Except IoCause Bytes) (input : Bytes) : Request → Outcome
  | .help => .success help []
  | .misuse => .failed [] [] (.usage usage)
  | .run pretty (some script) => Script.run pretty script (read script)
  | .run _ none => Prompt.run input

/-- The outcome of the command in a folder. -/
def run (folder : Folder) (input : Bytes) (arguments : List Text) : Outcome :=
  fulfil folder.read input (.ofArguments arguments)

end Command

end LoxLexis
