import Telemetry.Config.Options
import Telemetry.Config.Payload
import Telemetry.Hub.Scopes
import Telemetry.Hub.Switch
import Telemetry.Hub.Tracing
import Telemetry.Init
import Telemetry.Json.Reader
import Telemetry.Json.Snapshot
import Telemetry.Recover
import Telemetry.Proofs.Emitter.History
import Telemetry.Proofs.Emitter.Conservation
import Telemetry.Proofs.Trace.Collection
import Telemetry.Proofs.Number.Whole
import Telemetry.Proofs.Payload.Reading
import Telemetry.Proofs.Payload.Records
import Telemetry.Proofs.Json.Distinct
import Telemetry.Proofs.Payload.Decoded
import Telemetry.Proofs.Payload.RoundTrip
import Telemetry.Proofs.Client.Order
import Telemetry.Proofs.Envelope.Framing
import Telemetry.Proofs.Url.Address
import Telemetry.Proofs.Url.Percent
import Telemetry.Proofs.Url.Words
import Telemetry.Proofs.Url.Host
import Telemetry.Proofs.Url.Path
import Telemetry.Proofs.Url.RoundTrip
import Telemetry.Proofs.Dsn.RoundTrip
import Telemetry.Proofs.Transport.History
import Telemetry.Proofs.Transport.Order
import Telemetry.Proofs.Transport.Operations
import Telemetry.Proofs.Emitter.Callers
import Telemetry.Proofs.Transport.Ledger
import Telemetry.Proofs.Client.Barrier
import Telemetry.Proofs.Client.Closing
import Telemetry.Proofs.Hub.Passing
import Telemetry.Proofs.Hub.Identifier
import Telemetry.Proofs.Hub.Closing
import Telemetry.Proofs.Hub.CheckIn
import Telemetry.Proofs.Trace.Distributed
import Telemetry.Proofs.Hub.Isolation
import Telemetry.Proofs.Payload.Context
import Telemetry.Proofs.Payload.Log
import Telemetry.Proofs.Trace.Propagation
import Telemetry.Proofs.Transport.Flushed
import Telemetry.Proofs.RateLimit.Coverage
import Telemetry.Proofs.Client.Configuration
import Telemetry.Proofs.Trace.Starting
import Telemetry.Proofs.Hub.Initialized
import Telemetry.Proofs.RateLimit.Groups
import Telemetry.Proofs.RateLimit.Cooldown
import Telemetry.Proofs.Scope.Merge
import Telemetry.Proofs.Hub.Contract
import Telemetry.Proofs.Hub.Restoring
import Telemetry.Proofs.Trace.Continuation
import Telemetry.Proofs.Dsn.Endpoint
import Telemetry.Proofs.Hub.Guards
import Telemetry.Proofs.Number.Seconds
import Telemetry.Proofs.Payload.Visiting
import Telemetry.Proofs.Payload.Overflow
import Telemetry.Proofs.Text.Spelling
import Telemetry.Proofs.Trace.Grammar
import Telemetry.Proofs.Trace.Incoming
import Telemetry.Proofs.Hub.Trail
import Telemetry.Proofs.Hub.Indifference
import Telemetry.Proofs.Transport.Traffic
import Telemetry.Proofs.Transport.Backpressure
import Telemetry.Proofs.Hub.Inert
import Telemetry.Proofs.Envelope.Filter
import Telemetry.Proofs.Backtrace
import Telemetry.Proofs.Recover.StackTraces
import Telemetry.Proofs.Hub.Reentry
