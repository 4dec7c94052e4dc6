import MoneyMovement.Requests
import MoneyMovement.Effects
import MoneyMovement.ExecuteSpec
import MoneyMovement.Licences
import MoneyMovement.ServicePaths
import MoneyMovement.LendingPaths
import MoneyMovement.SafePayPaths
import MoneyMovement.RequestPaths
import MoneyMovement.Books
import MoneyMovement.Chart
import MoneyMovement.Routes
import MoneyMovement.Holds
import MoneyMovement.Lending
import MoneyMovement.Provenance
import MoneyMovement.Invariants
import MoneyMovement.Reconciliation
import MoneyMovement.Settlement
import MoneyMovement.Entitlements
import MoneyMovement.Replay
import MoneyMovement.MoneyRequests
import MoneyMovement.Sessions
import MoneyMovement.Fees
import MoneyMovement.Retries
import MoneyMovement.Announcements
import MoneyMovement.OutboxRelay
import MoneyMovement.CourierEvents
import MoneyMovement.Acceptance
import MoneyMovement.LienSweep
import MoneyMovement.Stranding
import MoneyMovement.DeferredSend
import MoneyMovement.CourierSignature
import MoneyMovement.NotificationWorker
import MoneyMovement.Statement
import MoneyMovement.BanFinality
import MoneyMovement.DailyLimit
import MoneyMovement.Waterfall
import MoneyMovement.Repayments
import MoneyMovement.FundsErrors
import MoneyMovement.LienExactness
import MoneyMovement.SendKeys
import MoneyMovement.ExactShortfall
import MoneyMovement.NetPosition
import MoneyMovement.UndoSpec
import MoneyMovement.PoolSpec
import MoneyMovement.ReportedBalances
import MoneyMovement.AlikeTables
import MoneyMovement.Lockstep
import MoneyMovement.Views
import MoneyMovement.ViewedTransfers
import MoneyMovement.ViewedRequests
import MoneyMovement.MoneyText
import MoneyMovement.Keyset
import MoneyMovement.StatementPages
import MoneyMovement.FixedWindow
import MoneyMovement.RateLimit
import MoneyMovement.QueueClocks
import MoneyMovement.ReconciliationCoverage
import MoneyMovement.Guards
import MoneyMovement.GuardedServices
import MoneyMovement.PinLockout
import MoneyMovement.RequestExpiry
import MoneyMovement.CodeLockout
import MoneyMovement.Directory
import MoneyMovement.Fingerprints
import MoneyMovement.Queries
import MoneyMovement.KeyFootprint
import MoneyMovement.CodeSecrecy
import MoneyMovement.Timers
import MoneyMovement.SchedulerProgress
import MoneyMovement.UnitOfWork
import MoneyMovement.DisputeResolution
import MoneyMovement.LogRedaction
import MoneyMovement.TableHistory
import MoneyMovement.History
import MoneyMovement.Acknowledgements
import MoneyMovement.TakaText
import MoneyMovement.SendScreen
import MoneyMovement.SendProtocol
