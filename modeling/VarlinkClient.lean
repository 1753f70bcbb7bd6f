import VarlinkClient.Options
import VarlinkClient.Palette
import VarlinkClient.Sink
import VarlinkClient.Text.Blank
import VarlinkClient.Decimal.Binary64
import VarlinkClient.Decimal.Shortest
import VarlinkClient.Json.Basic
import VarlinkClient.Json.Fault
import VarlinkClient.Json.Printer
import VarlinkClient.Json.Reader
import VarlinkClient.Json.Skip
import VarlinkClient.Text.Alphanumeric
import VarlinkClient.Text.Extending
import VarlinkClient.Text.Printable
import VarlinkClient.Call
import VarlinkClient.Failure
import VarlinkClient.Json.Field
import VarlinkClient.Json.Layout
import VarlinkClient.Parameters
import VarlinkClient.Reply
import VarlinkClient.Connection
import VarlinkClient.Peer
import VarlinkClient.ReplyStream
import VarlinkClient.Script
import VarlinkClient.Description.Basic
import VarlinkClient.Description.Parser
import VarlinkClient.Text.BreakClass
import VarlinkClient.Text.WidthTable
import VarlinkClient.Text.Breaks
import VarlinkClient.Text.Minima
import VarlinkClient.Text.Width
import VarlinkClient.Text.Wrap
import VarlinkClient.Description.Layout
import VarlinkClient.Session
import VarlinkClient.Command.Arguments
import VarlinkClient.Completion
import VarlinkClient.Address.Encoding
import VarlinkClient.CommandLine.Flag
import VarlinkClient.CommandLine.Split
import VarlinkClient.Config.Basic
import VarlinkClient.CommandLine.Flags
import VarlinkClient.Toml.Basic
import VarlinkClient.Toml.Document
import VarlinkClient.Config.Environment
import VarlinkClient.Config.Files
import VarlinkClient.Config.Load
import VarlinkClient.Command.Call
import VarlinkClient.Command.Help
import VarlinkClient.Command.Info
import VarlinkClient.CommandLine.Run
import VarlinkClient.Main
import VarlinkClient.Proofs.Connection.Frames
import VarlinkClient.Proofs.Connection.Framing
import VarlinkClient.Proofs.Wait
import VarlinkClient.Proofs.CallOutcome
import VarlinkClient.Proofs.Text.Lines
import VarlinkClient.Proofs.Text.Wrap
import VarlinkClient.Proofs.Description.Signature
import VarlinkClient.Proofs.Description.Parser
import VarlinkClient.Proofs.Description.Spread
import VarlinkClient.Proofs.Description.Declarations
import VarlinkClient.Proofs.Description.Layout
import VarlinkClient.Proofs.Description.Source
import VarlinkClient.Proofs.Text.Utf8
import VarlinkClient.Proofs.Text.Cuts
import VarlinkClient.Proofs.Text.Percent
import VarlinkClient.Proofs.Json.Strings
import VarlinkClient.Proofs.Address
import VarlinkClient.Proofs.CommandLine.Reader
import VarlinkClient.Proofs.CommandLine.Split
import VarlinkClient.Proofs.CommandLine.Settings
import VarlinkClient.Proofs.Config.Resolver
import VarlinkClient.Proofs.Config.Layers
import VarlinkClient.Proofs.Visits
import VarlinkClient.Proofs.Interruption
import VarlinkClient.Proofs.Resolution
import VarlinkClient.Proofs.Json.Numbers
import VarlinkClient.Proofs.Json.Members
import VarlinkClient.Proofs.Json.Numeral
import VarlinkClient.Proofs.Json.Spelling
import VarlinkClient.Proofs.Palette
import VarlinkClient.Proofs.Json.Layout
import VarlinkClient.Proofs.Json.Documents
import VarlinkClient.Proofs.Colour
import VarlinkClient.Proofs.Diagnostics
import VarlinkClient.Proofs.Json.Compact
import VarlinkClient.Proofs.Call
import VarlinkClient.Proofs.Json.Grammar
import VarlinkClient.Proofs.Json.Skip
import VarlinkClient.Proofs.Json.Encoding
import VarlinkClient.Proofs.Json.Field
import VarlinkClient.Proofs.Reply
import VarlinkClient.Proofs.Refusal
import VarlinkClient.Proofs.ReplyStream.Settling
import VarlinkClient.Proofs.ReplyStream.Overflow
import VarlinkClient.Proofs.Exchange
import VarlinkClient.Proofs.Text.Block
import VarlinkClient.Proofs.Text.Minima
import VarlinkClient.Proofs.Text.Width
import VarlinkClient.Proofs.Text.Cost
import VarlinkClient.Proofs.Text.Fit
import VarlinkClient.Proofs.Description.Sections
import VarlinkClient.Proofs.Description.Documentation
import VarlinkClient.Proofs.Description.Relayout
import VarlinkClient.Proofs.Description.Width
import VarlinkClient.Proofs.Address.Survival
import VarlinkClient.Proofs.Address.Grammar
import VarlinkClient.Proofs.Options
import VarlinkClient.Proofs.Target
import VarlinkClient.Proofs.Options.LeftToRight
import VarlinkClient.Proofs.CommandLine.Shares
import VarlinkClient.Proofs.Json.Extent
import VarlinkClient.Proofs.Json.Moving
import VarlinkClient.Proofs.Json.Reread
import VarlinkClient.Proofs.Reply.Members
import VarlinkClient.Proofs.Completion
import VarlinkClient.Proofs.Json.Written
import VarlinkClient.Proofs.Parameters
import VarlinkClient.Proofs.Answer
import VarlinkClient.Proofs.Completion.Lines
import VarlinkClient.Proofs.Description.Spacing
