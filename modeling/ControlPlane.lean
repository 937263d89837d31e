import ControlPlane.CallOptions
import ControlPlane.Client.Fault
import ControlPlane.Client.Method
import ControlPlane.Client.Session
import ControlPlane.CommandLine.Fault
import ControlPlane.CommandLine.Grammar
import ControlPlane.CommandLine.Help
import ControlPlane.CommandLine.Invocation
import ControlPlane.CommandLine.Parse
import ControlPlane.CommandLine.Style
import ControlPlane.Connection
import ControlPlane.Endpoint
import ControlPlane.Event
import ControlPlane.Json
import ControlPlane.KeyOrder
import ControlPlane.Labels
import ControlPlane.Main
import ControlPlane.Message
import ControlPlane.Metadata
import ControlPlane.Number.Binary64
import ControlPlane.Pager.Basic
import ControlPlane.Pager.Server
import ControlPlane.Pager.Stream
import ControlPlane.Program
import ControlPlane.Proofs.Client.Called
import ControlPlane.Proofs.Client.Crash
import ControlPlane.Proofs.Client.Outcomes
import ControlPlane.Proofs.Client.Paging
import ControlPlane.Proofs.Client.Script
import ControlPlane.Proofs.Client.Session
import ControlPlane.Proofs.Client.Timeout
import ControlPlane.Proofs.CommandLine.Accepted
import ControlPlane.Proofs.CommandLine.Line
import ControlPlane.Proofs.CommandLine.Placement
import ControlPlane.Proofs.CommandLine.Scanned
import ControlPlane.Proofs.CommandLine.Settings
import ControlPlane.Proofs.CommandLine.Written
import ControlPlane.Proofs.Connection.Accounts
import ControlPlane.Proofs.Connection.Ending
import ControlPlane.Proofs.Connection.Handles
import ControlPlane.Proofs.Connection.Outlook
import ControlPlane.Proofs.Connection.Permanence
import ControlPlane.Proofs.Connection.Single
import ControlPlane.Proofs.Connection.Slot
import ControlPlane.Proofs.Json.Grammar
import ControlPlane.Proofs.Json.Printed
import ControlPlane.Proofs.Number.Binary64
import ControlPlane.Proofs.Options.Deadline
import ControlPlane.Proofs.Options.Headers
import ControlPlane.Proofs.Options.Metadata
import ControlPlane.Proofs.Options.Precision
import ControlPlane.Proofs.Pager.Accord
import ControlPlane.Proofs.Pager.Conversation
import ControlPlane.Proofs.Pager.Delivery
import ControlPlane.Proofs.Pager.Extent
import ControlPlane.Proofs.Pager.Failure
import ControlPlane.Proofs.Pager.Faithful
import ControlPlane.Proofs.Pager.History
import ControlPlane.Proofs.Pager.Likeness
import ControlPlane.Proofs.Pager.Limit
import ControlPlane.Proofs.Pager.PlainList
import ControlPlane.Proofs.Pager.Resumption
import ControlPlane.Proofs.Pager.Rounds
import ControlPlane.Proofs.Pager.Sizes
import ControlPlane.Proofs.Pager.Standing
import ControlPlane.Proofs.Pager.Tokens
import ControlPlane.Proofs.Program.Crash
import ControlPlane.Proofs.Program.Listing
import ControlPlane.Proofs.Program.Printing
import ControlPlane.Proofs.Program.ReadBack
import ControlPlane.Proofs.Program.Reporting
import ControlPlane.Proofs.Render.CreatedAt
import ControlPlane.Proofs.Render.Direct
import ControlPlane.Proofs.Render.Lossless
import ControlPlane.Proofs.Report.Failed
import ControlPlane.Proofs.Text.Decimal
import ControlPlane.Proofs.Text.Pieces
import ControlPlane.Proofs.Text.Quoted
import ControlPlane.Proofs.Time.Calendar
import ControlPlane.Proofs.Time.Instant
import ControlPlane.Proofs.Time.Seconds
import ControlPlane.Proofs.Time.Stamp
import ControlPlane.Proofs.Wire.Accepted
import ControlPlane.Proofs.Wire.Arrangement
import ControlPlane.Proofs.Wire.Bounds
import ControlPlane.Proofs.Wire.Interchange
import ControlPlane.Proofs.Wire.Length
import ControlPlane.Proofs.Wire.Leniency
import ControlPlane.Proofs.Wire.Locality
import ControlPlane.Proofs.Wire.Messages
import ControlPlane.Proofs.Wire.Reading
import ControlPlane.Proofs.Wire.Record
import ControlPlane.Proofs.Wire.RoundTrip
import ControlPlane.Proofs.Wire.Scalar
import ControlPlane.Render
import ControlPlane.Report
import ControlPlane.Schema
import ControlPlane.Status
import ControlPlane.Text.Blank
import ControlPlane.Text.HiddenTable
import ControlPlane.Text.Integer
import ControlPlane.Text.Quoted
import ControlPlane.Text.Similarity
import ControlPlane.Text.Utf8
import ControlPlane.Text.Visible
import ControlPlane.Time.Calendar
import ControlPlane.Time.Duration
import ControlPlane.Time.Instant
import ControlPlane.Time.Seconds
import ControlPlane.Wire.Decode
import ControlPlane.Wire.Encode
import ControlPlane.Wire.Fault
import ControlPlane.Wire.Varint
