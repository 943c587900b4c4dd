import Hanbova.Library.Transition
import Hanbova.Library.History
import Hanbova.Library.Simulation
import Hanbova.Library.Service
import Hanbova.Library.Effect
import Hanbova.Library.Stages
import Hanbova.Library.Windows
import Hanbova.Library.Pool
import Hanbova.Library.Rowwise
import Hanbova.Library.Table
import Hanbova.Library.Total
import Hanbova.Library.Alike
import Hanbova.Library.Ranking
import Hanbova.Library.Text
import Hanbova.Library.Lowercase
import Hanbova.Library.Uppercase
import Hanbova.Library.Uuid
import Hanbova.Library.Hex
import Hanbova.Library.UuidParse
import Hanbova.Library.Chrono
import Hanbova.Library.Rounding
import Hanbova.Library.Decimal
import Hanbova.Library.CStr
import Hanbova.Core.PaymentStatus
import Hanbova.Core.PaymentIntent
import Hanbova.Core.Display
import Hanbova.Api.Error
import Hanbova.Payments.Repository
import Hanbova.Payments.Service
import Hanbova.Payments.System
import Hanbova.Payments.Agreement
import Hanbova.Payments.Provenance
import Hanbova.Payments.WellFormed
import Hanbova.Payments.Locked
import Hanbova.Payments.Locktime
import Hanbova.Payments.Postgres
import Hanbova.Payments.Transactions
import Hanbova.Payments.LockOrder
import Hanbova.Payments.Refinement
import Hanbova.Payments.Calls
import Hanbova.Payments.Serial
import Hanbova.Accounts.Repository
import Hanbova.Accounts.Service
import Hanbova.Accounts.System
import Hanbova.Accounts.Identity
import Hanbova.Accounts.Lookup
import Hanbova.Accounts.Ambiguity
import Hanbova.Accounts.OwnNames
import Hanbova.Accounts.Tokens
import Hanbova.Accounts.Login
import Hanbova.Accounts.Sessions
import Hanbova.Accounts.OneTime
import Hanbova.Accounts.SingleUse
import Hanbova.Accounts.Postgres
import Hanbova.Accounts.ResetLinks
import Hanbova.Accounts.Credentials
import Hanbova.Accounts.Known
import Hanbova.Accounts.SessionEnd
import Hanbova.Accounts.Passwords
import Hanbova.Accounts.Lineage
import Hanbova.Accounts.Jwt
import Hanbova.Accounts.PgUsers
import Hanbova.Accounts.PgService
import Hanbova.Accounts.PgSessions
import Hanbova.Accounts.PgHistory
import Hanbova.Payments.Views
import Hanbova.Payments.Outsiders
import Hanbova.Payments.Listing
import Hanbova.Payments.PgListing
import Hanbova.Payments.References
import Hanbova.Payments.PgReferences
import Hanbova.Payments.PgService
import Hanbova.Payments.PgSystem
import Hanbova.Messages.Repository
import Hanbova.Messages.Handlers
import Hanbova.Messages.Keys
import Hanbova.Messages.Delivery
import Hanbova.Messages.System
import Hanbova.Messages.Progress
import Hanbova.Messages.Acknowledgement
import Hanbova.Messages.PgSystem
import Hanbova.Messages.Postgres
import Hanbova.Messages.Refinement
import Hanbova.Messages.Overtaken
import Hanbova.Api.System
import Hanbova.Api.RateLimiter
import Hanbova.Api.Burst
import Hanbova.Api.Config
import Hanbova.Api.State
import Hanbova.Api.Bearer
import Hanbova.Api.Server
import Hanbova.Api.Refinement
import Hanbova.Api.Orphans
import Hanbova.Api.PgServer
import Hanbova.Api.PgOrphans
import Hanbova.Messages.Link
import Hanbova.Messages.Directory
import Hanbova.Messages.Misdirected
import Hanbova.Messages.Views
import Hanbova.Messages.Boxes
import Hanbova.Messages.Outsiders
import Hanbova.Escrow.Models
import Hanbova.Escrow.Cdk
import Hanbova.Escrow.Cashu
import Hanbova.Escrow.Settle
import Hanbova.Escrow.System
import Hanbova.Escrow.Invariant
import Hanbova.Escrow.Settlement
import Hanbova.Escrow.Reconcile
import Hanbova.Escrow.Tracking
import Hanbova.Escrow.Mock
import Hanbova.Escrow.MockRuns
import Hanbova.Escrow.Kept
import Hanbova.Escrow.Observed
import Hanbova.Escrow.FailedSwap
import Hanbova.Escrow.Creation
import Hanbova.Escrow.Ledger
import Hanbova.Escrow.Conservation
import Hanbova.Escrow.Locktimes
import Hanbova.Escrow.Twins
import Hanbova.Escrow.Twinned
import Hanbova.Escrow.Simulated
import Hanbova.Ffi.P2pkSend
import Hanbova.Ffi.Locks
import Hanbova.Lightning.Invoices
import Hanbova.Lightning.Payments
import Hanbova.Rates.Service
import Hanbova.Rates.Display
import Hanbova.Providers.Quotes
import Hanbova.Providers.Charges
import Hanbova.Rates.System
import Hanbova.Rates.Staleness
import Hanbova.Rates.LastWriter
import Hanbova.Rates.Batch
import Hanbova.Rates.Bitnob
