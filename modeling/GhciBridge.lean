import GhciBridge.Main
import GhciBridge.Exchange.Recorder
import GhciBridge.Proofs.Wire.Lines
import GhciBridge.Proofs.Wire.Prompt
import GhciBridge.Proofs.Wire.Stream
import GhciBridge.Proofs.Wire.Reader
import GhciBridge.Proofs.Wire.Decoration
import GhciBridge.Proofs.Exchange.Execution
import GhciBridge.Proofs.Exchange.Record
import GhciBridge.Proofs.Exchange.Retirement
import GhciBridge.Proofs.Exchange.Input
import GhciBridge.Proofs.Exchange.Transcript
import GhciBridge.Proofs.Exchange.Closing
import GhciBridge.Proofs.Text.Squeeze
import GhciBridge.Proofs.Text.ShellWords
import GhciBridge.Proofs.Literal.Piece
import GhciBridge.Proofs.Literal.Shown
import GhciBridge.Proofs.Literal.Number
import GhciBridge.Proofs.Literal.Spelling
import GhciBridge.Proofs.Literal.Complete
import GhciBridge.Proofs.Annotation.Balance
import GhciBridge.Proofs.Binding.Rendering
import GhciBridge.Proofs.Annotation.Expression
import GhciBridge.Proofs.Annotation.Literal
import GhciBridge.Proofs.Span.Layout
import GhciBridge.Proofs.Span.Parts
import GhciBridge.Proofs.Answer.Buffer
import GhciBridge.Proofs.Answer.Routines
import GhciBridge.Proofs.Answer.Readings
import GhciBridge.Proofs.Diagnostic.Error
import GhciBridge.Proofs.Diagnostic.Warning
import GhciBridge.Proofs.Binding.Listed
import GhciBridge.Proofs.Binding.Legible
import GhciBridge.Proofs.Binding.Quoted
import GhciBridge.Proofs.Answer.Stop
import GhciBridge.Proofs.Answer.Unambiguous
import GhciBridge.Proofs.Answer.History
import GhciBridge.Proofs.Answer.Typed
import GhciBridge.Proofs.Session.Dialogue
import GhciBridge.Proofs.Session.Opening
import GhciBridge.Proofs.Config.Prompt
import GhciBridge.Proofs.Session.Operation
import GhciBridge.Proofs.Session.Outcome
import GhciBridge.Proofs.Session.Forgetting
import GhciBridge.Proofs.Session.Report
import GhciBridge.Proofs.Session.Refusal
import GhciBridge.Proofs.Diagnostic.Place
import GhciBridge.Proofs.Session.Running
import GhciBridge.Proofs.Session.Trail
import GhciBridge.Proofs.Session.Trace
import GhciBridge.Proofs.Session.Registry
import GhciBridge.Proofs.Session.Custody
import GhciBridge.Proofs.Session.Delivery
import GhciBridge.Proofs.Session.Lives
import GhciBridge.Proofs.Session.Pairing
import GhciBridge.Proofs.Console.Course
import GhciBridge.Proofs.Console.Ending
import GhciBridge.Proofs.Console.Wording
import GhciBridge.Proofs.Console.Sending
