import HostAlert.Address.Ip
import HostAlert.Address.Notation
import HostAlert.Address.Selection
import HostAlert.Alert.Evaluation
import HostAlert.Alert.State
import HostAlert.Cli.Arguments
import HostAlert.Cli.EnvFile
import HostAlert.Cli.Launch
import HostAlert.Codec.Config
import HostAlert.Codec.Document
import HostAlert.Codec.FilterUpdate
import HostAlert.Codec.Snapshot
import HostAlert.Config
import HostAlert.Config.Settings
import HostAlert.Config.Submission
import HostAlert.Control.Connection
import HostAlert.Control.Endpoint
import HostAlert.Control.Guard
import HostAlert.Control.MediaType
import HostAlert.Control.Request
import HostAlert.Control.Route
import HostAlert.Control.Target
import HostAlert.Decimal.Double
import HostAlert.Decimal.Shortest
import HostAlert.Delivery
import HostAlert.Domain.Label
import HostAlert.Domain.Mapping
import HostAlert.Domain.Punycode
import HostAlert.FilterUpdate
import HostAlert.Host
import HostAlert.Http.Exchange
import HostAlert.Http.Form
import HostAlert.Http.Url
import HostAlert.Json.Number
import HostAlert.Json.Record
import HostAlert.Json.Skip
import HostAlert.Json.Token
import HostAlert.Json.Typed
import HostAlert.Json.Value
import HostAlert.Main
import HostAlert.Manager.Check
import HostAlert.Manager.Loop
import HostAlert.Manager.Notice
import HostAlert.Manager.Shared
import HostAlert.Manager.Supervisor
import HostAlert.Manager.System
import HostAlert.Manager.Trial
import HostAlert.Message.Amount
import HostAlert.Message.Compose
import HostAlert.Metric
import HostAlert.Proofs.Address.Reading
import HostAlert.Proofs.Address.Selection
import HostAlert.Proofs.Address.Spelling
import HostAlert.Proofs.Alert.Cooling
import HostAlert.Proofs.Alert.Effect
import HostAlert.Proofs.Alert.Hysteresis
import HostAlert.Proofs.Cli.Secret
import HostAlert.Proofs.Codec.Config
import HostAlert.Proofs.Codec.Partial
import HostAlert.Proofs.Codec.Snapshot
import HostAlert.Proofs.Codec.Stored
import HostAlert.Proofs.Config.Rules
import HostAlert.Proofs.Config.Validation
import HostAlert.Proofs.Control.Guard
import HostAlert.Proofs.Control.Handler
import HostAlert.Proofs.Control.Origin
import HostAlert.Proofs.Control.Repetition
import HostAlert.Proofs.Control.Replacement
import HostAlert.Proofs.Control.Testing
import HostAlert.Proofs.Control.Writers
import HostAlert.Proofs.Decimal.Comparison
import HostAlert.Proofs.Decimal.Finite
import HostAlert.Proofs.Decimal.Nearest
import HostAlert.Proofs.Decimal.Numeral
import HostAlert.Proofs.Decimal.Order
import HostAlert.Proofs.Decimal.Rounding
import HostAlert.Proofs.Decimal.Shown
import HostAlert.Proofs.Decimal.Significand
import HostAlert.Proofs.Decimal.Value
import HostAlert.Proofs.Decimal.Whole
import HostAlert.Proofs.Delivery.Acknowledged
import HostAlert.Proofs.Delivery.Front
import HostAlert.Proofs.Delivery.Post
import HostAlert.Proofs.Delivery.Refused
import HostAlert.Proofs.Delivery.Target
import HostAlert.Proofs.Http.Authority
import HostAlert.Proofs.Http.Form
import HostAlert.Proofs.Http.Path
import HostAlert.Proofs.Http.Percent
import HostAlert.Proofs.Json.Decoded
import HostAlert.Proofs.Json.Grammar
import HostAlert.Proofs.Json.Object
import HostAlert.Proofs.Json.Partial
import HostAlert.Proofs.Json.Refusal
import HostAlert.Proofs.Json.Rereading
import HostAlert.Proofs.Json.Scan
import HostAlert.Proofs.Json.Steady
import HostAlert.Proofs.Json.Written
import HostAlert.Proofs.Manager.Acknowledged
import HostAlert.Proofs.Manager.Alone
import HostAlert.Proofs.Manager.Confirmed
import HostAlert.Proofs.Manager.Cooldown
import HostAlert.Proofs.Manager.Copy
import HostAlert.Proofs.Manager.DeliveryTime
import HostAlert.Proofs.Manager.Disabling
import HostAlert.Proofs.Manager.Dispatch
import HostAlert.Proofs.Manager.Episode
import HostAlert.Proofs.Manager.Independence
import HostAlert.Proofs.Manager.Invariant
import HostAlert.Proofs.Manager.Overlap
import HostAlert.Proofs.Manager.Replay
import HostAlert.Proofs.Manager.Run
import HostAlert.Proofs.Manager.Schedule
import HostAlert.Proofs.Manager.Step
import HostAlert.Proofs.Manager.Treatment
import HostAlert.Proofs.Manager.Trial
import HostAlert.Proofs.Manager.Turn
import HostAlert.Proofs.Manager.Undisturbed
import HostAlert.Proofs.Manager.Watch
import HostAlert.Proofs.Manager.Writers
import HostAlert.Proofs.Message.Carry
import HostAlert.Proofs.Message.Headline
import HostAlert.Proofs.Message.Layout
import HostAlert.Proofs.Message.Percentage
import HostAlert.Proofs.Message.Size
import HostAlert.Proofs.Message.Substance
import HostAlert.Proofs.Message.Uptime
import HostAlert.Proofs.PublicIp.Body
import HostAlert.Proofs.PublicIp.Lookups
import HostAlert.Proofs.Rehearsal.Faithful
import HostAlert.Proofs.Text.Digits
import HostAlert.Proofs.Text.Grouped
import HostAlert.Proofs.Text.Trim
import HostAlert.Proofs.Text.Utf8
import HostAlert.Proofs.Time.Packed
import HostAlert.Proofs.Time.Spacing
import HostAlert.PublicIp
import HostAlert.PublicIp.Resolver
import HostAlert.Rehearsal.Control
import HostAlert.Rehearsal.Folder
import HostAlert.Rehearsal.Peer
import HostAlert.Rehearsal.Session
import HostAlert.Snapshot
import HostAlert.Text.Alphanumeric
import HostAlert.Text.Blank
import HostAlert.Text.Combining
import HostAlert.Text.Composite
import HostAlert.Text.Direction
import HostAlert.Text.Joining
import HostAlert.Text.Normal
import HostAlert.Text.Numeral
import HostAlert.Text.Split
import HostAlert.Text.Table
import HostAlert.Text.Utf8
import HostAlert.Time.Calendar
import HostAlert.Time.Instant
import HostAlert.Time.Span
