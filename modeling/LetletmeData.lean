import LetletmeData.Library.Runs
import LetletmeData.Library.SharedRanks
import LetletmeData.Library.Tables
import LetletmeData.Library.KeyedTables
import LetletmeData.Library.Transactions
import LetletmeData.Library.Procedures
import LetletmeData.Library.IsoTimestamps
import LetletmeData.Library.Brackets
import LetletmeData.Domain.Tournament
import LetletmeData.Domain.Seeding
import LetletmeData.Library.JavaScript
import LetletmeData.Domain.TournamentPlan
import LetletmeData.Domain.BracketShape
import LetletmeData.Domain.GroupDraw
import LetletmeData.Domain.CoreSnapshot
import LetletmeData.Cache.PublicationManifest
import LetletmeData.Cache.DataPublication
import LetletmeData.Cache.PointerContents
import LetletmeData.Cache.PersistentItems
import LetletmeData.Cache.LiveSnapshotCache
import LetletmeData.Cache.HeartbeatRaces
import LetletmeData.Cache.RepeatedDelivery
import LetletmeData.Repositories.PublicationTables
import LetletmeData.Cache.PreparedPublication
import LetletmeData.Repositories.SyncOperations
import LetletmeData.Repositories.DataPublicationOutbox
import LetletmeData.Repositories.PublicationCalls
import LetletmeData.Repositories.RunStatus
import LetletmeData.Repositories.PublicationHistory
import LetletmeData.Repositories.PublicationItems
import LetletmeData.Repositories.OutboxDelivery
import LetletmeData.Repositories.PublicationOrigins
import LetletmeData.Repositories.EntryEventResults
import LetletmeData.Repositories.SchedulerObligations
import LetletmeData.Repositories.ObligationFencing
import LetletmeData.Services.CoreSnapshotPersistence
import LetletmeData.Services.LiveSnapshotSync
import LetletmeData.Services.DataPublicationReconciler
import LetletmeData.Services.ReconcilerRaces
import LetletmeData.Services.LiveSnapshotOrder
import LetletmeData.Services.SnapshotSync
import LetletmeData.Services.SnapshotRecovery
import LetletmeData.Services.SnapshotSyncFailures
import LetletmeData.Library.Texts
import LetletmeData.Services.TournamentPointsRace
import LetletmeData.Services.PointsRaceOrder
import LetletmeData.Services.TournamentSeed
import LetletmeData.Services.Qualification
import LetletmeData.Services.TournamentBattleRace
import LetletmeData.Services.BattleRaceCounters
import LetletmeData.Services.BattleRaceScores
import LetletmeData.Services.BattleRaceRuns
import LetletmeData.Services.BattleRaceConvergence
import LetletmeData.Services.TournamentKnockoutResults
import LetletmeData.Services.KnockoutBracket
import LetletmeData.Services.KnockoutRounds
import LetletmeData.Services.BracketCoherence
import LetletmeData.Services.KnockoutRuns
import LetletmeData.Content.WeekContract
import LetletmeData.Content.WeekPublication
import LetletmeData.Content.WeekPointerOrder
import LetletmeData.Library.OrderedLocks
import LetletmeData.Domain.MutationScope
import LetletmeData.Utils.MutationScopes
import LetletmeData.Library.TokenBuckets
import LetletmeData.Utils.FplAdmission
import LetletmeData.Utils.FplAdmissionLeases
import LetletmeData.Utils.FplAdmissionRate
import LetletmeData.Library.Ledgers
import LetletmeData.Content.AcquisitionPhase
import LetletmeData.Content.XBudget
import LetletmeData.Content.XBudgetBalance
import LetletmeData.Content.XBudgetReservations
import LetletmeData.Services.MyFplSnapshotPublication
import LetletmeData.Services.MyFplSnapshotOverrides
import LetletmeData.Services.MyFplSnapshotDispatch
import LetletmeData.Services.MyFplSnapshotOrder
import LetletmeData.Library.JsonTexts
import LetletmeData.Repositories.TournamentOfficialH2H
import LetletmeData.Services.TournamentOfficialH2H
import LetletmeData.Services.OfficialH2HPermanence
import LetletmeData.Content.RecurringRuns
import LetletmeData.Content.RequestFits
import LetletmeData.Content.FeedAdapter
import LetletmeData.Content.FeedPolls
import LetletmeData.Content.FeedReadings
import LetletmeData.Content.FeedInvariant
import LetletmeData.Content.FeedCheckpoint
import LetletmeData.Repositories.ProviderIdentity
import LetletmeData.Services.ProviderMatcher
import LetletmeData.Jobs.TournamentSync
import LetletmeData.Workers.TournamentSync
import LetletmeData.Workers.CascadeBarrier
import LetletmeData.Repositories.EntryEventTransfers
import LetletmeData.Repositories.TransferHistory
import LetletmeData.Library.StampedWrites
import LetletmeData.Repositories.LiveWindow
import LetletmeData.Services.ManagerLive
import LetletmeData.Services.ManagerLiveOrder
import LetletmeData.Content.MediaBudget
import LetletmeData.Content.MediaBudgetWindows
import LetletmeData.Content.TranscriptRuns
import LetletmeData.Content.RunReservations
import LetletmeData.Content.TranscriptCredits
import LetletmeData.Content.TranscriptBilling
import LetletmeData.Content.AcquisitionItems
import LetletmeData.Content.AcquisitionResults
import LetletmeData.Content.ReceiptRevisions
import LetletmeData.Content.ResultClosing
import LetletmeData.Content.PersistWorld
import LetletmeData.Content.ReceiptHistory
import LetletmeData.Content.RepeatedFacts
import LetletmeData.Repositories.UnderstatSync
import LetletmeData.Repositories.UnderstatCompletion
import LetletmeData.Domain.EntryPicks
import LetletmeData.Domain.Freshness
import LetletmeData.Repositories.EntryResultRows
import LetletmeData.Repositories.EntryResultUpserts
import LetletmeData.Repositories.EntryResultOrder
import LetletmeData.Services.EntryInfo
import LetletmeData.Services.EntryCheckpoint
import LetletmeData.Utils.Errors
import LetletmeData.Services.TournamentEventResults
import LetletmeData.Services.FinalEvidence
import LetletmeData.Scheduler.SchedulerPass
import LetletmeData.Domain.CoreSnapshotRefresh
import LetletmeData.Scheduler.CoreLifecycle
import LetletmeData.Scheduler.LiveFinalization
import LetletmeData.Library.NestedLocks
import LetletmeData.Services.TournamentSetup
import LetletmeData.Services.SetupScopes
import LetletmeData.Workers.SetupDeadlocks
import LetletmeData.Content.WeekHistory
import LetletmeData.Services.TournamentTrends
import LetletmeData.Services.TrendsRuns
import LetletmeData.Services.TrendsFingerprint
import LetletmeData.Services.TrendsPublications
import LetletmeData.Services.BalancedGroups
import LetletmeData.Services.RoundWinners
import LetletmeData.Content.WeekLocalePairs
import LetletmeData.Library.Assignments
import LetletmeData.Services.OfficialH2HSchedules
import LetletmeData.Services.OfficialH2HBrackets
import LetletmeData.Workers.EntrySync
import LetletmeData.Workers.EntryScans
import LetletmeData.Services.EntryDetailSync
import LetletmeData.Services.EntryDetailSavepoints
import LetletmeData.Repositories.TournamentInfos
import LetletmeData.Workers.SetupAttempts
import LetletmeData.Workers.SetupAttemptBounds
import LetletmeData.Domain.TournamentSetupIssue
import LetletmeData.Repositories.TournamentSetupIssues
import LetletmeData.Services.TournamentAudit
import LetletmeData.Services.SetupIssueRuns
import LetletmeData.Services.SetupIssueEvidence
import LetletmeData.Services.GroupRanks
import LetletmeData.Services.ProviderAssignments
import LetletmeData.Domain.LiveBonus
import LetletmeData.Library.RoundRobins
import LetletmeData.Domain.FixtureCoverage
import LetletmeData.Services.LiveSnapshotPreparation
import LetletmeData.Library.NumberTexts
import LetletmeData.Library.BoundedSums
import LetletmeData.Domain.SelectionRules
import LetletmeData.Library.Urls
import LetletmeData.Domain.LeagueUrls
import LetletmeData.Library.Decimals
import LetletmeData.Library.JsonReading
import LetletmeData.Library.CalendarDates
import LetletmeData.Library.SortedEntries
import LetletmeData.Library.ScriptValues
import LetletmeData.Library.ScriptObjects
import LetletmeData.Library.PrintedNumbers
import LetletmeData.Library.ScriptReading
import LetletmeData.Utils.ContentHash
import LetletmeData.Domain.Understat
import LetletmeData.Services.UnderstatStaging
import LetletmeData.Services.StagedUnderstat
import LetletmeData.Cache.ManifestTexts
import LetletmeData.Cache.ManifestRoundTrips
import LetletmeData.Library.Permits
import LetletmeData.Services.InProcessPermits
import LetletmeData.Content.ManifestReconciler
import LetletmeData.Services.UnderstatMatchSelection
import LetletmeData.Scheduler.LiveSnapshotJobs
import LetletmeData.Library.FormQueries
import LetletmeData.Library.UrlTexts
import LetletmeData.Content.PublicUrls
import LetletmeData.Clients.UnderstatRequests
import LetletmeData.Cache.PublicationReads
import LetletmeData.Utils.Async
import LetletmeData.Utils.Conditions
