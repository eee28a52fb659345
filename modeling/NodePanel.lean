import NodePanel.Command.Arguments
import NodePanel.Command.Checkup
import NodePanel.Command.Invocation
import NodePanel.Command.Run
import NodePanel.Command.Setup
import NodePanel.Command.Terminal
import NodePanel.Command.TypedHit
import NodePanel.Console.Markup
import NodePanel.Console.Output
import NodePanel.Console.Printed
import NodePanel.Console.View
import NodePanel.Encoding.Detect
import NodePanel.Encoding.Fault
import NodePanel.Encoding.Utf8
import NodePanel.EnvFile.Bindings
import NodePanel.EnvFile.Interpolation
import NodePanel.EnvFile.Lines
import NodePanel.Files.Path
import NodePanel.Files.Tree
import NodePanel.Http.Client
import NodePanel.Http.Headers
import NodePanel.Http.HostName
import NodePanel.Http.IpAddress
import NodePanel.Http.Label
import NodePanel.Http.LabelPoint
import NodePanel.Http.SendError
import NodePanel.Http.Url
import NodePanel.Json.Basic
import NodePanel.Json.Reader
import NodePanel.Json.Strict
import NodePanel.Json.Writer
import NodePanel.Keyed
import NodePanel.Log
import NodePanel.Machine
import NodePanel.Main
import NodePanel.Number.Binary64
import NodePanel.Number.Numeral
import NodePanel.Number.Shortest
import NodePanel.Panel.Endpoint
import NodePanel.Panel.Envelope
import NodePanel.Panel.Error
import NodePanel.Panel.Projection
import NodePanel.Proofs.Command.Answers
import NodePanel.Proofs.Command.Checkup
import NodePanel.Proofs.Command.Line
import NodePanel.Proofs.Command.Report
import NodePanel.Proofs.Command.Secrecy
import NodePanel.Proofs.Command.Setup
import NodePanel.Proofs.Command.Terminal
import NodePanel.Proofs.Console.Markup
import NodePanel.Proofs.Encoding.Detect
import NodePanel.Proofs.Encoding.Lossy
import NodePanel.Proofs.Encoding.Utf8
import NodePanel.Proofs.EnvFile.Assignment
import NodePanel.Proofs.EnvFile.Bindings
import NodePanel.Proofs.EnvFile.Failure
import NodePanel.Proofs.EnvFile.Interpolation
import NodePanel.Proofs.EnvFile.Kept
import NodePanel.Proofs.EnvFile.LineStart
import NodePanel.Proofs.EnvFile.Lines
import NodePanel.Proofs.EnvFile.Plain
import NodePanel.Proofs.EnvFile.Quoted
import NodePanel.Proofs.EnvFile.ReadBack
import NodePanel.Proofs.EnvFile.Store
import NodePanel.Proofs.EnvFile.Written
import NodePanel.Proofs.Files.Path
import NodePanel.Proofs.Files.Tree
import NodePanel.Proofs.Files.Unchanged
import NodePanel.Proofs.Http.Address
import NodePanel.Proofs.Http.Base
import NodePanel.Proofs.Http.Headers
import NodePanel.Proofs.Http.Host
import NodePanel.Proofs.Http.Path
import NodePanel.Proofs.Json.Change
import NodePanel.Proofs.Json.Compact
import NodePanel.Proofs.Json.Lexemes
import NodePanel.Proofs.Json.Limits
import NodePanel.Proofs.Json.Literal
import NodePanel.Proofs.Json.ReadBack
import NodePanel.Proofs.Json.Word
import NodePanel.Proofs.Json.Written
import NodePanel.Proofs.Keyed
import NodePanel.Proofs.Number.Binary64
import NodePanel.Proofs.Number.Digits
import NodePanel.Proofs.Number.Integer
import NodePanel.Proofs.Number.Nearest
import NodePanel.Proofs.Number.Shortest
import NodePanel.Proofs.Panel.Body
import NodePanel.Proofs.Panel.Envelope
import NodePanel.Proofs.Panel.Header
import NodePanel.Proofs.Panel.Lenient
import NodePanel.Proofs.Panel.Message
import NodePanel.Proofs.Panel.NodeFields
import NodePanel.Proofs.Panel.Report
import NodePanel.Proofs.Panel.SpeedLimit
import NodePanel.Proofs.Panel.Users
import NodePanel.Proofs.Record.Checked
import NodePanel.Proofs.Record.Coercion
import NodePanel.Proofs.Result
import NodePanel.Proofs.Rules.Lines
import NodePanel.Proofs.Rules.Load
import NodePanel.Proofs.Session.Exchange
import NodePanel.Proofs.Session.Failure
import NodePanel.Proofs.Session.Opening
import NodePanel.Proofs.Session.Operation
import NodePanel.Proofs.Session.Own
import NodePanel.Proofs.Session.Prepare
import NodePanel.Proofs.Session.Rules
import NodePanel.Proofs.Session.Run
import NodePanel.Proofs.Session.Secrecy
import NodePanel.Proofs.Session.Tracing
import NodePanel.Proofs.Session.Transports
import NodePanel.Proofs.Settings.Again
import NodePanel.Proofs.Settings.Fields
import NodePanel.Proofs.Settings.Given
import NodePanel.Proofs.Settings.Host
import NodePanel.Proofs.Settings.NewFile
import NodePanel.Proofs.Settings.Others
import NodePanel.Proofs.Settings.Setting
import NodePanel.Proofs.Settings.Sources
import NodePanel.Proofs.Settings.Update
import NodePanel.Proofs.Settings.Variables
import NodePanel.Proofs.SortedKeys
import NodePanel.Proofs.Text.Basic
import NodePanel.Proofs.Text.Lines
import NodePanel.Proofs.Text.Masked
import NodePanel.Proofs.Text.Quoted
import NodePanel.Proofs.Text.Split
import NodePanel.Proofs.Text.Surrogate
import NodePanel.Record.Checked
import NodePanel.Record.Coercion
import NodePanel.Record.Exchange
import NodePanel.Record.Node
import NodePanel.Record.Rule
import NodePanel.Record.User
import NodePanel.Rules.Local
import NodePanel.Session.Basic
import NodePanel.Session.Channel
import NodePanel.Session.Run
import NodePanel.Session.Transport
import NodePanel.Settings.Basic
import NodePanel.Settings.Given
import NodePanel.Settings.Location
import NodePanel.Text.Basic
import NodePanel.Text.Blank
import NodePanel.Text.Composed
import NodePanel.Text.Digit
import NodePanel.Text.Direction
import NodePanel.Text.Lines
import NodePanel.Text.LowerCase
import NodePanel.Text.Mark
import NodePanel.Text.Masked
import NodePanel.Text.Printable
import NodePanel.Text.Punycode
import NodePanel.Text.Quoted
import NodePanel.Text.Runs
