import Ticketbus.Concurrency.Program
import Ticketbus.Concurrency.Path
import Ticketbus.Concurrency.Pool
import Ticketbus.Concurrency.Ownership
import Ticketbus.Concurrency.Crew
import Ticketbus.Concurrency.Sequential
import Ticketbus.Concurrency.Conversation
import Ticketbus.Concurrency.Locks
import Ticketbus.Concurrency.Mirror
import Ticketbus.Relational.Table
import Ticketbus.Relational.Statement
import Ticketbus.Relational.Paging
import Ticketbus.Outbox
import Ticketbus.Outbox.Worker
import Ticketbus.Outbox.Backlog
import Ticketbus.Outbox.Passes
import Ticketbus.Outbox.Host
import Ticketbus.Kafka.Consumer
import Ticketbus.Kafka.Bus
import Ticketbus.Json.Unmarshal
import Ticketbus.Http.Routing
import Ticketbus.Http.Validation
import Ticketbus.Auth.Schema
import Ticketbus.Auth.Statement
import Ticketbus.Auth.AuthService
import Ticketbus.Auth.Footprint
import Ticketbus.Auth.Rotation
import Ticketbus.Auth.FailedRefresh
import Ticketbus.Auth.Accounts
import Ticketbus.Auth.AuthHandler
import Ticketbus.Ticketing.Schema
import Ticketbus.Ticketing.Statement
import Ticketbus.Ticketing.Repository
import Ticketbus.Ticketing.PaymentClient
import Ticketbus.Ticketing.BookingService
import Ticketbus.Ticketing.EventService
import Ticketbus.Ticketing.Service
import Ticketbus.Ticketing.Handlers
import Ticketbus.Ticketing.Effects
import Ticketbus.Ticketing.Footprint
import Ticketbus.Ticketing.PartialEvents
import Ticketbus.Ticketing.EventPages
import Ticketbus.Ticketing.Snapshots
import Ticketbus.Ticketing.Seats
import Ticketbus.Ticketing.Loaders
import Ticketbus.Ticketing.Rollback
import Ticketbus.Ticketing.SettledMessages
import Ticketbus.Ticketing.BookingLifecycle
import Ticketbus.Ticketing.Releases
import Ticketbus.Ticketing.EventLifecycle
import Ticketbus.Ticketing.Edits
import Ticketbus.Ticketing.Authorship
import Ticketbus.Ticketing.EventCancellation
import Ticketbus.Ticketing.LiveEvents
import Ticketbus.Ticketing.Capacity
import Ticketbus.Ticketing.Isolation
import Ticketbus.Ticketing.Totals
import Ticketbus.Ticketing.PaymentRequests
import Ticketbus.Ticketing.ExactPrices
import Ticketbus.Ticketing.OrderLimits
import Ticketbus.Ticketing.Announcements
import Ticketbus.Ticketing.Deadlock
import Ticketbus.Payment.Schema
import Ticketbus.Payment.Statement
import Ticketbus.Payment.PaymentService
import Ticketbus.Payment.PaymentHandler
import Ticketbus.Payment.Service
import Ticketbus.Payment.Effects
import Ticketbus.Payment.Footprint
import Ticketbus.Payment.Snapshots
import Ticketbus.Payment.Settlement
import Ticketbus.Payment.LatePayments
import Ticketbus.Payment.Refunds
import Ticketbus.Payment.CancelledRefunds
import Ticketbus.Payment.ExpiryBacklog
import Ticketbus.Payment.Initiation
import Ticketbus.Payment.Sessions
import Ticketbus.Payment.LosingRequests
import Ticketbus.Payment.PaymentAttempts
import Ticketbus.Payment.Webhooks
import Ticketbus.Gateway.Identity
import Ticketbus.Gateway.Callers
import Ticketbus.Deployment.System
import Ticketbus.Deployment.Agreement
import Ticketbus.Deployment.ChargedAmounts
import Ticketbus.Deployment.FailedReservations
import Ticketbus.Deployment.Completeness
import Ticketbus.Deployment.TruncatedReads
import Ticketbus.Ticketing.Tickets
import Ticketbus.Deployment.Wire
import Ticketbus.Deployment.Network
import Ticketbus.Deployment.Refinement
import Ticketbus.Deployment.Transactions
import Ticketbus.Deployment.Site
import Ticketbus.Deployment.Access
import Ticketbus.Deployment.Sessions
