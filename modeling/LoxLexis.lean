import LoxLexis.CharClass.Basic
import LoxLexis.CharClass.Combining
import LoxLexis.CharClass.Extending
import LoxLexis.CharClass.Ignorable
import LoxLexis.CharClass.Joining
import LoxLexis.CharClass.Unprintable
import LoxLexis.CharClass.WhiteSpace
import LoxLexis.CharClass.Wide
import LoxLexis.Command.Basic
import LoxLexis.Command.Failure
import LoxLexis.Command.Folder
import LoxLexis.Command.Outcome
import LoxLexis.Command.Prompt
import LoxLexis.Command.Request
import LoxLexis.Command.Script
import LoxLexis.Event
import LoxLexis.Fault
import LoxLexis.FaultLog.Basic
import LoxLexis.FaultLog.Session
import LoxLexis.Feed
import LoxLexis.IoCause
import LoxLexis.Main
import LoxLexis.Pipe
import LoxLexis.Position
import LoxLexis.Proofs.Command.LineByLine
import LoxLexis.Proofs.Command.Prompt
import LoxLexis.Proofs.Command.Request
import LoxLexis.Proofs.Command.Script
import LoxLexis.Proofs.Cursor.Basic
import LoxLexis.Proofs.Cursor.Reading
import LoxLexis.Proofs.Cursor.Safety
import LoxLexis.Proofs.Cursor.Step
import LoxLexis.Proofs.FaultLog.Ledger
import LoxLexis.Proofs.FaultLog.Lines
import LoxLexis.Proofs.Lexing.Blanking
import LoxLexis.Proofs.Lexing.Context
import LoxLexis.Proofs.Lexing.Grammar
import LoxLexis.Proofs.Lexing.Joint
import LoxLexis.Proofs.Lexing.Layout
import LoxLexis.Proofs.Lexing.Line
import LoxLexis.Proofs.Lexing.Listing
import LoxLexis.Proofs.Lexing.Order
import LoxLexis.Proofs.Lexing.Stability
import LoxLexis.Proofs.Lexing.Trailing
import LoxLexis.Proofs.Pipe
import LoxLexis.Proofs.Reader.Receiving
import LoxLexis.Proofs.Reader.Tape
import LoxLexis.Proofs.Report.Alignment
import LoxLexis.Proofs.Report.Characters
import LoxLexis.Proofs.Report.Drawing
import LoxLexis.Proofs.Report.Ends
import LoxLexis.Proofs.Report.Erasure
import LoxLexis.Proofs.Report.Lines
import LoxLexis.Proofs.Report.OpenString
import LoxLexis.Proofs.Report.Picture
import LoxLexis.Proofs.Report.Place
import LoxLexis.Proofs.Session.Playback
import LoxLexis.Proofs.Tape
import LoxLexis.Proofs.Text.Blanking
import LoxLexis.Proofs.Text.Columns
import LoxLexis.Proofs.Text.Line
import LoxLexis.Proofs.Text.Pieces
import LoxLexis.Proofs.Word.Cut
import LoxLexis.Proofs.Word.Lookahead
import LoxLexis.Proofs.Word.Placed
import LoxLexis.Proofs.Word.Symbol
import LoxLexis.Reader
import LoxLexis.Report.Basic
import LoxLexis.Report.Erasure
import LoxLexis.Report.Frame
import LoxLexis.Report.Region
import LoxLexis.Report.Row
import LoxLexis.Report.SourceLine
import LoxLexis.Session.Basic
import LoxLexis.Session.Playback
import LoxLexis.Span
import LoxLexis.Text.Basic
import LoxLexis.Text.Encoding
import LoxLexis.Text.Escape
import LoxLexis.Text.Pieces
import LoxLexis.Text.Slice
import LoxLexis.Text.Width
import LoxLexis.Token.Basic
import LoxLexis.Token.Kind
import LoxLexis.Token.Symbol
import LoxLexis.Word.Basic
import LoxLexis.Word.Grammar
