import GraphPath.Client
import GraphPath.Decimal.Binary64
import GraphPath.Decimal.Digit
import GraphPath.Decimal.Rounded
import GraphPath.Decimal.Shortest
import GraphPath.Demo.Arguments
import GraphPath.Demo.Run
import GraphPath.Domain.Composed
import GraphPath.Domain.Context
import GraphPath.Domain.Direction
import GraphPath.Domain.Joining
import GraphPath.Domain.Label
import GraphPath.Domain.Mark
import GraphPath.Domain.Name
import GraphPath.Domain.Point
import GraphPath.Domain.Punycode
import GraphPath.Endpoint
import GraphPath.Fields
import GraphPath.Gremlin
import GraphPath.Json.Encoding
import GraphPath.Json.Printer
import GraphPath.Json.Reader
import GraphPath.Json.Strict
import GraphPath.Json.Value
import GraphPath.Log.Hole
import GraphPath.Log.Level
import GraphPath.Log.Logger
import GraphPath.Log.Record
import GraphPath.Log.Template
import GraphPath.Main
import GraphPath.Path.Build
import GraphPath.Path.Call
import GraphPath.Path.Equality
import GraphPath.Path.Expression
import GraphPath.Path.Fault
import GraphPath.Path.Kind
import GraphPath.Path.Selector
import GraphPath.Path.Shown
import GraphPath.Proofs.Client.Correlation
import GraphPath.Proofs.Client.Exchange
import GraphPath.Proofs.Client.Failure
import GraphPath.Proofs.Client.Session
import GraphPath.Proofs.Gremlin.Arguments
import GraphPath.Proofs.Gremlin.Calls
import GraphPath.Proofs.Gremlin.Literals
import GraphPath.Proofs.Gremlin.Program
import GraphPath.Proofs.Gremlin.Rendering
import GraphPath.Proofs.Gremlin.Respelling
import GraphPath.Proofs.Gremlin.Script
import GraphPath.Proofs.Gremlin.Separators
import GraphPath.Proofs.Gremlin.Unambiguous
import GraphPath.Proofs.Json.Digits
import GraphPath.Proofs.Json.Legible
import GraphPath.Proofs.Json.Printing
import GraphPath.Proofs.Json.Proper
import GraphPath.Proofs.Json.Reading
import GraphPath.Proofs.Json.Spelling
import GraphPath.Proofs.Json.Strict
import GraphPath.Proofs.Json.Unambiguity
import GraphPath.Proofs.Json.Visible
import GraphPath.Proofs.Json.Writing
import GraphPath.Proofs.Log.Line
import GraphPath.Proofs.Log.SetUp
import GraphPath.Proofs.Outcome
import GraphPath.Proofs.Path.Built
import GraphPath.Proofs.Path.Equality
import GraphPath.Proofs.Registry
import GraphPath.Proofs.Registry.WriteOnce
import GraphPath.Proofs.Result.Answer
import GraphPath.Proofs.Result.Complaint
import GraphPath.Proofs.Result.Decoding
import GraphPath.Proofs.Result.Exactness
import GraphPath.Proofs.Result.Rows
import GraphPath.Proofs.Result.Search
import GraphPath.Proofs.Result.Slice
import GraphPath.Proofs.Run
import GraphPath.Proofs.Text.Joined
import GraphPath.Proofs.Text.Utf8
import GraphPath.Proofs.Transport.Http
import GraphPath.Proofs.Transport.Memory
import GraphPath.Proofs.Transport.Url
import GraphPath.Proofs.Wire.Agreement
import GraphPath.Proofs.Wire.ByName
import GraphPath.Proofs.Wire.Canonical
import GraphPath.Proofs.Wire.Concatenation
import GraphPath.Proofs.Wire.Cycle
import GraphPath.Proofs.Wire.Derivation
import GraphPath.Proofs.Wire.Extension
import GraphPath.Proofs.Wire.Grammar
import GraphPath.Proofs.Wire.Lossless
import GraphPath.Proofs.Wire.Meeting
import GraphPath.Proofs.Wire.Offences
import GraphPath.Proofs.Wire.Reached
import GraphPath.Proofs.Wire.Recursion
import GraphPath.Proofs.Wire.Serialization
import GraphPath.Proofs.Wire.Standalone
import GraphPath.Proofs.Wire.Validity
import GraphPath.Proofs.Wire.Walk
import GraphPath.Registry
import GraphPath.Result.Decode
import GraphPath.Result.Row
import GraphPath.Result.Rows
import GraphPath.Settings.Basic
import GraphPath.Settings.Dotenv
import GraphPath.Settings.Port
import GraphPath.Text.Blank
import GraphPath.Text.Case
import GraphPath.Text.CodePoint
import GraphPath.Text.Printable
import GraphPath.Text.Quoted
import GraphPath.Text.Ranges
import GraphPath.Text.Utf8
import GraphPath.Text.Wide
import GraphPath.Transport.Basic
import GraphPath.Transport.Host
import GraphPath.Transport.Http
import GraphPath.Transport.Memory
import GraphPath.Transport.Status
import GraphPath.Transport.Url
import GraphPath.Wire.Compile
import GraphPath.Wire.Query
