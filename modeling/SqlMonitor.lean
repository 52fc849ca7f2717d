import SqlMonitor.Shared.InsertionDict
import SqlMonitor.Shared.ParentGraph
import SqlMonitor.Collector.BlockingGraph
import SqlMonitor.Collector.BlockingWalk
import SqlMonitor.Collector.BlockingEdges
import SqlMonitor.Collector.BlockingForest
import SqlMonitor.Collector.BlockingCycles
import SqlMonitor.Collector.BlockingRoots
import SqlMonitor.Collector.BlockingChain
import SqlMonitor.Collector.BlockingImpact
import SqlMonitor.Collector.Dmv
import SqlMonitor.Collector.Snapshots
import SqlMonitor.Collector.BlockedRequests
import SqlMonitor.Services.Blocking
import SqlMonitor.Services.BlockingPages
import SqlMonitor.Services.SessionCounts
import SqlMonitor.Shared.UnitOfWork
import SqlMonitor.Collector.CollectCycle
import SqlMonitor.Collector.CollectIsolation
import SqlMonitor.Shared.Calendar
import SqlMonitor.Collector.Partitions
import SqlMonitor.Services.IndexCatalog
import SqlMonitor.Collector.IndexCollection
import SqlMonitor.Collector.IndexConsistency
import SqlMonitor.Collector.IndexRuns
import SqlMonitor.Shared.Attempts
import SqlMonitor.Collector.IndexHistories
import SqlMonitor.Collector.IndexScheduler
import SqlMonitor.Collector.SchedulerInvariant
import SqlMonitor.Collector.SchedulerProgress
import SqlMonitor.Collector.SchedulerTimeouts
import SqlMonitor.Shared.Buffered
import SqlMonitor.Collector.IndexBackground
import SqlMonitor.Collector.IndexDurability
import SqlMonitor.Collector.IndexSpacing
import SqlMonitor.Services.InstanceLifecycle
import SqlMonitor.Services.DisabledInstances
import SqlMonitor.Collector.FrameRuns
import SqlMonitor.Collector.FrameConsistency
import SqlMonitor.Collector.CallOutcomes
import SqlMonitor.Collector.SqlTextRuns
import SqlMonitor.Collector.SqlPreview
import SqlMonitor.Collector.IndexTasks
import SqlMonitor.Services.SnapshotRepository
import SqlMonitor.Services.NetworkRates
import SqlMonitor.Services.Sessions
import SqlMonitor.Services.Sqls
import SqlMonitor.Services.Replay
import SqlMonitor.Services.ReplayFuture
import SqlMonitor.Services.ReplayComplete
import SqlMonitor.Services.InstancePages
import SqlMonitor.Services.CollectedPages
import SqlMonitor.Services.ReplayRuns
import SqlMonitor.Services.IndexOperations
import SqlMonitor.Services.IndexRunOutcome
import SqlMonitor.Services.AuditedDdl
import SqlMonitor.Services.DdlProtocol
import SqlMonitor.Services.Kill
import SqlMonitor.Services.KillTerminating
import SqlMonitor.Services.KillImpact
import SqlMonitor.Services.InstanceDsn
import SqlMonitor.Services.InstanceAdministration
import SqlMonitor.Services.ConnectionHistory
import SqlMonitor.Services.ConnectionTests
import SqlMonitor.Services.KillAccounts
import SqlMonitor.Collector.ServerSessions
import SqlMonitor.Services.KillIdentity
import SqlMonitor.Services.KillAudits
import SqlMonitor.Services.ActiveAdmins
import SqlMonitor.Services.DisclosedTexts
import SqlMonitor.Services.TokenKinds
import SqlMonitor.Frontend.KillViews
import SqlMonitor.Frontend.KillAddress
import SqlMonitor.Frontend.SettledScreens
import SqlMonitor.Collector.SqlText
import SqlMonitor.Collector.NumericLiterals
import SqlMonitor.Collector.Characters
import SqlMonitor.Collector.WhitespaceRuns
import SqlMonitor.Collector.QuotedLiterals
import SqlMonitor.Collector.NormalizeTwice
import SqlMonitor.Collector.AlikeTexts
import SqlMonitor.Collector.StatementTemplates
import SqlMonitor.Services.Tokens
import SqlMonitor.Shared.TSql
import SqlMonitor.Shared.Replacement
import SqlMonitor.Services.IndexStatements
import SqlMonitor.Services.ColumnLists
import SqlMonitor.Services.OfferedIndexes
import SqlMonitor.Shared.Pages
import SqlMonitor.Services.IndexPaging
import SqlMonitor.Services.SessionPages
import SqlMonitor.Services.SessionRequests
import SqlMonitor.Shared.Decimals
import SqlMonitor.Services.IndexPages
import SqlMonitor.Services.OfferedDatabases
import SqlMonitor.Services.OfferedMaintenance
import SqlMonitor.Frontend.IndexViews
import SqlMonitor.Frontend.IndexScreens
import SqlMonitor.Frontend.IndexPosts
import SqlMonitor.Frontend.IndexTurns
import SqlMonitor.Shared.LastWrites
import SqlMonitor.Services.UserHistory
import SqlMonitor.Services.Logins
import SqlMonitor.Services.LoginRuns
import SqlMonitor.Services.Captchas
import SqlMonitor.Frontend.SignedIn
import SqlMonitor.Services.DashboardFigures
import SqlMonitor.Services.DdlOutcomes
import SqlMonitor.Frontend.IndexProgress
import SqlMonitor.Frontend.InstanceForms
import SqlMonitor.Frontend.InstanceEdits
import SqlMonitor.Frontend.InstanceDialog
