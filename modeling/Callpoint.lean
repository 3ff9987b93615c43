import Callpoint.Access
import Callpoint.Assoc
import Callpoint.Cancellation
import Callpoint.Context
import Callpoint.Distinct
import Callpoint.Document.Basic
import Callpoint.Document.Build
import Callpoint.Document.Decode
import Callpoint.Endpoint.Spec
import Callpoint.Errors.Body
import Callpoint.Errors.Chain
import Callpoint.Errors.Definition
import Callpoint.Exchange.Body
import Callpoint.Exchange.Course
import Callpoint.Exchange.Failure
import Callpoint.Exchange.Gates
import Callpoint.Exchange.Policy
import Callpoint.Exchange.Request
import Callpoint.Exchange.Response
import Callpoint.Exchange.Serve
import Callpoint.Http.Form
import Callpoint.Http.Headers
import Callpoint.Http.Status
import Callpoint.Http.Uri
import Callpoint.Identity
import Callpoint.Json.Decode
import Callpoint.Json.Fault
import Callpoint.Json.Numeral
import Callpoint.Json.Reading
import Callpoint.Json.StringToken
import Callpoint.Json.Text
import Callpoint.Json.Value
import Callpoint.Logging.Config
import Callpoint.Logging.Filter
import Callpoint.Number.Binary64
import Callpoint.Number.Literal
import Callpoint.Number.Shortest
import Callpoint.Observer
import Callpoint.Params
import Callpoint.Probe.Draft
import Callpoint.Probe.Reply
import Callpoint.Proofs.Errors.Chain
import Callpoint.Proofs.Exchange.Admission
import Callpoint.Proofs.Exchange.Answers
import Callpoint.Proofs.Exchange.Course
import Callpoint.Proofs.Exchange.Gates
import Callpoint.Proofs.Exchange.Reach
import Callpoint.RequestId
import Callpoint.Schema.Basic
import Callpoint.Schema.Catalog
import Callpoint.Schema.Decode
import Callpoint.Schema.Descriptions
import Callpoint.Schema.Facets
import Callpoint.Schema.Field
import Callpoint.Schema.FieldType
import Callpoint.Schema.Rules
import Callpoint.Schema.TagText
import Callpoint.Schema.TypeExpr
import Callpoint.Settings.Basic
import Callpoint.Settings.Decode
import Callpoint.Settings.Loader
import Callpoint.Settings.Variables
import Callpoint.Signal
import Callpoint.Stream.Callback
import Callpoint.Stream.Channel
import Callpoint.Stream.Endpoint
import Callpoint.Stream.Frame
import Callpoint.Stream.Live
import Callpoint.Stream.ServerEvent
import Callpoint.Text.Blank
import Callpoint.Text.Case
import Callpoint.Text.Codepoints
import Callpoint.Text.Hex
import Callpoint.Text.Letter
import Callpoint.Text.Pieces
import Callpoint.Text.Quoted
import Callpoint.Text.Utf8
import Callpoint.Text.Visible
import Callpoint.Text.Word
import Callpoint.Toml.Document
import Callpoint.Toml.Quoted
import Callpoint.Toml.Scalar
import Callpoint.Toml.Tables
import Callpoint.Toml.Value
import Callpoint.TypeName
import Callpoint.Proofs.Exchange.Secrecy
import Callpoint.Proofs.Access
import Callpoint.Proofs.Document.Paths
import Callpoint.Proofs.Document.Responses
import Callpoint.Proofs.Exchange.Statuses
import Callpoint.Proofs.Schema.DepthFirst
import Callpoint.Proofs.Schema.Catalog
import Callpoint.Proofs.Endpoint.Clauses
import Callpoint.Proofs.Stream.Statuses
import Callpoint.Stream.Usage
import Callpoint.Proofs.Text.Lines
import Callpoint.Proofs.Json.OneLine
import Callpoint.Proofs.Stream.Frames
import Callpoint.Proofs.Stream.Usage
import Callpoint.Stream.Shared
import Callpoint.Proofs.Stream.Delivery
import Callpoint.Proofs.Exchange.Traces
import Callpoint.Proofs.Stream.Traces
import Callpoint.Proofs.FirstUses
import Callpoint.Proofs.Document.Operations
import Callpoint.Proofs.Schema.Nodes
import Callpoint.Proofs.Document.Components
import Callpoint.Proofs.Document.References
import Callpoint.Proofs.Document.ReservedNames
import Callpoint.Proofs.Stream.Failures
import Callpoint.Proofs.Http.Headers
import Callpoint.Proofs.RequestId
import Callpoint.Proofs.Exchange.Headers
import Callpoint.Proofs.Stream.Headers
import Callpoint.Proofs.Document.KeptResponses
import Callpoint.Proofs.Schema.Shapes
import Callpoint.Proofs.Document.Shapes
import Callpoint.Proofs.TypeName
import Callpoint.Proofs.Text.Blank
import Callpoint.Proofs.Schema.TypeText
import Callpoint.Proofs.Schema.Lowering
import Callpoint.Proofs.Document.Details
import Callpoint.Proofs.Number.Exact
import Callpoint.Proofs.Number.Literal
import Callpoint.Proofs.Schema.Bounds
import Callpoint.Proofs.Results
import Callpoint.Proofs.Json.Decode
import Callpoint.Proofs.Settings.Loading
import Callpoint.Proofs.Settings.Headers
import Callpoint.Proofs.Text.Breaks
import Callpoint.Proofs.Stream.Payloads
import Callpoint.Proofs.Exchange.Body
import Callpoint.Proofs.Stream.Parameters
import Callpoint.Proofs.Schema.Objects
import Callpoint.Proofs.Schema.Tokens
import Callpoint.Proofs.Schema.Layers
import Callpoint.Proofs.Schema.TagText
import Callpoint.Proofs.Schema.Pointers
import Callpoint.Proofs.Happened
import Callpoint.Proofs.Cancellation
import Callpoint.Proofs.Stream.Disconnection
import Callpoint.Proofs.Document.Placeholders
import Callpoint.Proofs.Document.Names
import Callpoint.Proofs.Settings.Variables
import Callpoint.Proofs.Schema.SharedNames
import Callpoint.Proofs.Number.Decimal
import Callpoint.Proofs.Schema.Integers
import Callpoint.Proofs.Text.Utf8
import Callpoint.Proofs.Http.Form
import Callpoint.Proofs.Http.Uri
import Callpoint.Proofs.Probe.Query
import Callpoint.Proofs.Json.Roundtrip
import Callpoint.Proofs.Errors.Body
import Callpoint.Proofs.Stream.WholeFrames
