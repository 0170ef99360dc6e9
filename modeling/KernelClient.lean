import KernelClient.Binary64
import KernelClient.Binary64.Shortest
import KernelClient.Error
import KernelClient.Http
import KernelClient.Json.Basic
import KernelClient.Json.Equality
import KernelClient.Json.Numeral
import KernelClient.Json.Printer
import KernelClient.Json.Reader
import KernelClient.Json.Token
import KernelClient.Kernel.Connection.Basic
import KernelClient.Kernel.Connection.Comms
import KernelClient.Kernel.Connection.Control
import KernelClient.Kernel.Connection.Inbound
import KernelClient.Kernel.Connection.Lifetime
import KernelClient.Kernel.Connection.Send
import KernelClient.Kernel.Model
import KernelClient.Kernel.Options
import KernelClient.Kernel.Reply
import KernelClient.Kernel.Request
import KernelClient.Kernel.Spec
import KernelClient.Kernel.Status
import KernelClient.Manager.Basic
import KernelClient.Manager.Kernels
import KernelClient.Manager.Poll
import KernelClient.Manager.Sessions
import KernelClient.Message.Basic
import KernelClient.Message.Channel
import KernelClient.Message.Content
import KernelClient.Message.Error
import KernelClient.Message.Frame.Basic
import KernelClient.Message.Frame.Codec
import KernelClient.Message.Frame.Legacy
import KernelClient.Message.Frame.Segmented
import KernelClient.Message.Frame.Words
import KernelClient.Message.Shape
import KernelClient.Payload
import KernelClient.Proofs.Connection.Announcement
import KernelClient.Proofs.Connection.Attempts
import KernelClient.Proofs.Connection.Coherence
import KernelClient.Proofs.Connection.CommEvents
import KernelClient.Proofs.Connection.Completion
import KernelClient.Proofs.Connection.Composition
import KernelClient.Proofs.Connection.Correlation
import KernelClient.Proofs.Connection.DeadKernels
import KernelClient.Proofs.Connection.Disposal
import KernelClient.Proofs.Connection.Identity
import KernelClient.Proofs.Connection.Inbound
import KernelClient.Proofs.Connection.KernelRestarts
import KernelClient.Proofs.Connection.Numbering
import KernelClient.Proofs.Connection.Openings
import KernelClient.Proofs.Connection.Outbound
import KernelClient.Proofs.Connection.Outcomes
import KernelClient.Proofs.Connection.Reception
import KernelClient.Proofs.Connection.Refusals
import KernelClient.Proofs.Connection.Requests
import KernelClient.Proofs.Connection.Routes
import KernelClient.Proofs.Connection.Run
import KernelClient.Proofs.Connection.SocketLife
import KernelClient.Proofs.Connection.SocketStates
import KernelClient.Proofs.Connection.Statuses
import KernelClient.Proofs.Connection.Stillness
import KernelClient.Proofs.Connection.Unencodable
import KernelClient.Proofs.Connection.Waiting
import KernelClient.Proofs.Connection.Withdrawal
import KernelClient.Proofs.Json.ReadBack
import KernelClient.Proofs.Manager.Copies
import KernelClient.Proofs.Manager.Disposal
import KernelClient.Proofs.Manager.Readiness
import KernelClient.Proofs.Manager.Run
import KernelClient.Proofs.Message.Acceptance
import KernelClient.Proofs.Message.ByteOrder
import KernelClient.Proofs.Message.Layout
import KernelClient.Proofs.Message.Places
import KernelClient.Proofs.Message.ReadByPlace
import KernelClient.Proofs.Message.RoundTrip
import KernelClient.Proofs.Message.Transcoding
import KernelClient.Proofs.Payload.Listings
import KernelClient.Proofs.Payload.Revalidation
import KernelClient.Proofs.Payload.Steps
import KernelClient.Proofs.Session.Announcing
import KernelClient.Proofs.Session.Handover
import KernelClient.Proofs.Session.Identity
import KernelClient.Proofs.Signal.Keeping
import KernelClient.Proofs.Signal.Waiting
import KernelClient.Proofs.Simulation.Acts
import KernelClient.Proofs.Simulation.Answers
import KernelClient.Proofs.Simulation.Deletions
import KernelClient.Proofs.Simulation.Dialogue
import KernelClient.Proofs.Simulation.Evolution
import KernelClient.Proofs.Simulation.Forgetting
import KernelClient.Proofs.Simulation.Freezing
import KernelClient.Proofs.Simulation.Hearing
import KernelClient.Proofs.Simulation.LateFailures
import KernelClient.Proofs.Simulation.LateLists
import KernelClient.Proofs.Simulation.Loading
import KernelClient.Proofs.Simulation.Mirroring
import KernelClient.Proofs.Simulation.Objects
import KernelClient.Proofs.Simulation.Owning
import KernelClient.Proofs.Simulation.PollTurns
import KernelClient.Proofs.Simulation.Polling
import KernelClient.Proofs.Simulation.Proceeding
import KernelClient.Proofs.Simulation.Reconnecting
import KernelClient.Proofs.Simulation.Refresh
import KernelClient.Proofs.Simulation.Refusals
import KernelClient.Proofs.Simulation.Releasing
import KernelClient.Proofs.Simulation.Restarts
import KernelClient.Proofs.Simulation.Revival
import KernelClient.Proofs.Simulation.Scripts
import KernelClient.Proofs.Simulation.Settling
import KernelClient.Proofs.Simulation.Shutdowns
import KernelClient.Proofs.Simulation.SocketTurns
import KernelClient.Proofs.Simulation.Steps
import KernelClient.Proofs.Simulation.Stopping
import KernelClient.Proofs.Simulation.Tables
import KernelClient.Proofs.Simulation.Tasks
import KernelClient.Proofs.Time.Backoff
import KernelClient.Proofs.Time.Timestamp
import KernelClient.Proofs.Url.Encoding
import KernelClient.Proofs.Url.Resources
import KernelClient.Proofs.Url.Segments
import KernelClient.Rest.Exchange
import KernelClient.Rest.Kernels
import KernelClient.Rest.Sessions
import KernelClient.Rest.Specs
import KernelClient.Rest.Terminals
import KernelClient.Session.Connection
import KernelClient.Session.Model
import KernelClient.Settings
import KernelClient.Signal
import KernelClient.Simulation.Background
import KernelClient.Simulation.Calls
import KernelClient.Simulation.Changes
import KernelClient.Simulation.Holding
import KernelClient.Simulation.Naming
import KernelClient.Simulation.Objects
import KernelClient.Simulation.Operation
import KernelClient.Simulation.Readiness
import KernelClient.Simulation.Report
import KernelClient.Simulation.Schedule
import KernelClient.Simulation.Server
import KernelClient.Simulation.Task
import KernelClient.Simulation.World
import KernelClient.Terminal
import KernelClient.Text.Blank
import KernelClient.Text.Composition
import KernelClient.Text.Hex
import KernelClient.Text.Mark
import KernelClient.Text.Printable
import KernelClient.Text.Quoted
import KernelClient.Text.RandomId
import KernelClient.Text.Table
import KernelClient.Time.Calendar
import KernelClient.Time.Duration
import KernelClient.Time.Instant
import KernelClient.Url.Address
import KernelClient.Url.Basic
import KernelClient.Url.Domain
import KernelClient.Url.Domain.Direction
import KernelClient.Url.Domain.Joining
import KernelClient.Url.Domain.Mapping
import KernelClient.Url.Domain.Punycode
import KernelClient.Url.Parser
import KernelClient.Url.Percent
import KernelClient.Url.Segments
