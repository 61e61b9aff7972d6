import AgentComm.Lib.Dict
import AgentComm.Lib.Fallible
import AgentComm.Lib.Deques
import AgentComm.Lib.Lts
import AgentComm.Lib.Fifo
import AgentComm.Python
import AgentComm.Protocol.Serialization
import AgentComm.Transport.Delivery
import AgentComm.Url
import AgentComm.Broker.Stores
import AgentComm.Broker.Register
import AgentComm.Broker.Handler
import AgentComm.Broker.Sweep
import AgentComm.Broker.Config
import AgentComm.Broker.Threads
import AgentComm.Table
import AgentComm.Proofs.RoundTrip
import AgentComm.Proofs.Decoding
import AgentComm.Proofs.Sections
import AgentComm.Proofs.Mailbox
import AgentComm.Proofs.Phases
import AgentComm.Proofs.Quiescence
import AgentComm.Proofs.SweepRace
import AgentComm.Proofs.SelfHeal
import AgentComm.Proofs.Entries
import AgentComm.Proofs.Effects
import AgentComm.Proofs.Isolation
import AgentComm.Proofs.Refinement
import AgentComm.Proofs.Takeover
import AgentComm.Proofs.Authentication
import AgentComm.Proofs.Production
import AgentComm.Proofs.Alone
import AgentComm.Lib.Mealy
import AgentComm.Lifecycle.Supervision
import AgentComm.Proofs.Watches
import AgentComm.Proofs.Streaks
import AgentComm.Proofs.Escalation
import AgentComm.Proofs.Recovery
import AgentComm.Proofs.Answers
import AgentComm.Sdk.Agent
import AgentComm.Proofs.Polling
import AgentComm.Proofs.KeepAlive
import AgentComm.Proofs.Replies
import AgentComm.Sdk.Exchange
import AgentComm.Proofs.Exchanges
import AgentComm.Proofs.Modes
import AgentComm.Proofs.Vacancy
import AgentComm.Sdk.Shutdown
import AgentComm.Proofs.Departure
import AgentComm.Proofs.Eviction
import AgentComm.Proofs.Admission
import AgentComm.Proofs.Ledger
import AgentComm.Proofs.Acceptance
import AgentComm.Transport.Requests
import AgentComm.Lib.Trim
import AgentComm.Proofs.Texts
import AgentComm.Proofs.InlineTokens
import AgentComm.Proofs.Identity
import AgentComm.Proofs.Undeliverable
import AgentComm.Proofs.Building
import AgentComm.Transport.Routing
import AgentComm.Proofs.PostAnswers
import AgentComm.Proofs.Contract
import AgentComm.Sdk.Inbox
import AgentComm.Proofs.Ordering
import AgentComm.Lib.Crew
import AgentComm.Lifecycle.Background
import AgentComm.Proofs.Loops
import AgentComm.Proofs.BackoffLaw
import AgentComm.Proofs.BodyLimit
import AgentComm.Proofs.Schema
import AgentComm.Proofs.ReplyRouting
import AgentComm.Sdk.StartStop
import AgentComm.Proofs.Atomicity
import AgentComm.Sdk.Responder
import AgentComm.Proofs.Dispatching
import AgentComm.Proofs.Retries
import AgentComm.Lib.Bucket
import AgentComm.Proofs.Marks
import AgentComm.Proofs.RateLimit
import AgentComm.Proofs.Traffic
import AgentComm.Lib.Unwinding
import AgentComm.Proofs.Serving
import AgentComm.Proofs.Noninterference
import AgentComm.Proofs.Inboxes
import AgentComm.Transport.Discovery
import AgentComm.Proofs.Discovery
import AgentComm.Proofs.Advertising
import AgentComm.Lifecycle.Status
import AgentComm.Proofs.StatusPage
import AgentComm.Proofs.Embedding
import AgentComm.Sdk.Notification
import AgentComm.Proofs.Notifying
import AgentComm.Sdk.Requester
import AgentComm.Proofs.Remote
import AgentComm.Lifecycle.Server
import AgentComm.Proofs.Tracing
import AgentComm.Proofs.Forgetting
import AgentComm.Broker.StartStop
import AgentComm.Proofs.ServerLoops
import AgentComm.Proofs.ServerStops
import AgentComm.Proofs.Confinement
import AgentComm.Lib.Words
import AgentComm.Lifecycle.Environment
import AgentComm.Proofs.Environment
