import DeviceUsageStats.Proofs.ForegroundTime
import DeviceUsageStats.Proofs.NoLostFlush
import DeviceUsageStats.Proofs.PackageQueries
import DeviceUsageStats.Proofs.SharedFiles
import DeviceUsageStats.Proofs.Reload
import DeviceUsageStats.Proofs.TableSelection
import DeviceUsageStats.Proofs.RecordRoundTrip
import DeviceUsageStats.Proofs.RenewTables
import DeviceUsageStats.Proofs.CacheInvariant
import DeviceUsageStats.Proofs.ForcedGroup
import DeviceUsageStats.Proofs.GroupAgeing
import DeviceUsageStats.Proofs.ScreenTime
import DeviceUsageStats.Proofs.HistorySaves
import DeviceUsageStats.Proofs.Uninstall
import DeviceUsageStats.Proofs.GroupCallbacks
import DeviceUsageStats.Proofs.WindowSessions
import DeviceUsageStats.Proofs.CloneSessions
import DeviceUsageStats.Proofs.PackageUpserts
import DeviceUsageStats.Proofs.UserRemoval
import DeviceUsageStats.Proofs.UninstallFrame
import DeviceUsageStats.Proofs.ModuleParcel
import DeviceUsageStats.Proofs.LostEvents
import DeviceUsageStats.Proofs.RenewFailures
import DeviceUsageStats.Proofs.EventOrder
import DeviceUsageStats.Sanity.Sessions
import DeviceUsageStats.Sanity.UidSets
import DeviceUsageStats.Proofs.RunningSessions
import DeviceUsageStats.Proofs.FlushQueries
import DeviceUsageStats.Proofs.BundleGroups
import DeviceUsageStats.Spec.GroupQueries
import DeviceUsageStats.Proofs.GroupUninstall
import DeviceUsageStats.Spec.ShutDown
import DeviceUsageStats.Proofs.ShutDown
import DeviceUsageStats.Lib.TaskPool
import DeviceUsageStats.Spec.UninstallGuard
import DeviceUsageStats.Proofs.UninstallGuard
import DeviceUsageStats.Spec.EventHandler
import DeviceUsageStats.Proofs.EventHandler
import DeviceUsageStats.Spec.CheckBundle
import DeviceUsageStats.Proofs.CheckBundle
import DeviceUsageStats.Spec.ObserverRegistry
import DeviceUsageStats.Proofs.ObserverRegistry
import DeviceUsageStats.Spec.FormHistory
import DeviceUsageStats.Proofs.FormRemoval
import DeviceUsageStats.Spec.UsePeriod
import DeviceUsageStats.Sanity.CivilDays
import DeviceUsageStats.Proofs.UsePeriod
import DeviceUsageStats.Lib.KeyedFold
import DeviceUsageStats.Lib.LeastScan
import DeviceUsageStats.Spec.MergeStats
import DeviceUsageStats.Proofs.MergeStats
import DeviceUsageStats.Proofs.OptimalInterval
import DeviceUsageStats.Proofs.StartUpTables
import DeviceUsageStats.Spec.HighFrequency
import DeviceUsageStats.Lib.TopElements
import DeviceUsageStats.Proofs.SessionTallies
import DeviceUsageStats.Proofs.TopHours
import DeviceUsageStats.Lib.Unwinding
import DeviceUsageStats.Sanity.PeriodEntries
import DeviceUsageStats.Proofs.BundleIdentity
import DeviceUsageStats.Lib.CarriedFill
import DeviceUsageStats.Spec.FirstUseUpgrade
import DeviceUsageStats.Proofs.FirstUseUpgrade
import DeviceUsageStats.Lib.ZoneRule
import DeviceUsageStats.Spec.CivilPeriods
import DeviceUsageStats.Proofs.CalendarStarts
import DeviceUsageStats.Proofs.DailyExpiry
import DeviceUsageStats.Lib.InsertionOrder
import DeviceUsageStats.Proofs.EventListRuns
import DeviceUsageStats.Lib.Histories
import DeviceUsageStats.Proofs.Trackers
import DeviceUsageStats.Proofs.FormClicks
import DeviceUsageStats.Spec.ClientMerge
import DeviceUsageStats.Proofs.ClientMerge
import DeviceUsageStats.Proofs.PackageParcel
import DeviceUsageStats.Spec.CommandLine
import DeviceUsageStats.Proofs.CommandLine
import DeviceUsageStats.Spec.PackageParcel
import DeviceUsageStats.Proofs.OneUid
import DeviceUsageStats.Proofs.FrontTime
import DeviceUsageStats.Spec.DailyHistory
import DeviceUsageStats.Proofs.DailyTables
import DeviceUsageStats.Proofs.DailyConservation
import DeviceUsageStats.Spec.Subscription
import DeviceUsageStats.Proofs.Subscription
import DeviceUsageStats.Sanity.Observers
import DeviceUsageStats.Spec.GroupNotices
import DeviceUsageStats.Proofs.GroupNotices
import DeviceUsageStats.Proofs.ActiveUntil
import DeviceUsageStats.Spec.Service
import DeviceUsageStats.Proofs.Service
import DeviceUsageStats.Proofs.TopRecords
import DeviceUsageStats.Spec.GroupHandler
import DeviceUsageStats.Proofs.GroupHandler
import DeviceUsageStats.Proofs.UsedBundles
import DeviceUsageStats.Proofs.EntryRuns
import DeviceUsageStats.Lib.LeadingInteger
import DeviceUsageStats.Spec.TableNames
import DeviceUsageStats.Sanity.TableNames
import DeviceUsageStats.Proofs.TableNames
import DeviceUsageStats.Lib.Restart
import DeviceUsageStats.Spec.Upgrade
import DeviceUsageStats.Sanity.UpgradeStatements
import DeviceUsageStats.Proofs.Upgrade
import DeviceUsageStats.Spec.DataSize
import DeviceUsageStats.Proofs.DataSize
import DeviceUsageStats.Spec.PeriodParcel
import DeviceUsageStats.Proofs.PeriodParcel
