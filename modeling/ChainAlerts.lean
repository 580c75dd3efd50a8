import ChainAlerts.Console
import ChainAlerts.ReadWriteLock
import ChainAlerts.SideBySide
import ChainAlerts.DeliveriesSideBySide
import ChainAlerts.Report.Event
import ChainAlerts.Report.Pipeline
import ChainAlerts.Proofs.IntegerText
import ChainAlerts.Proofs.DoubleBounds
import ChainAlerts.Proofs.DecimalText
import ChainAlerts.Proofs.Tables
import ChainAlerts.Proofs.JsonReading
import ChainAlerts.Proofs.JsonDocument
import ChainAlerts.Proofs.TokenKeys
import ChainAlerts.Proofs.AttachmentOrder
import ChainAlerts.Proofs.SubscriberCodec
import ChainAlerts.Proofs.RecordCodecs
import ChainAlerts.Proofs.Rows
import ChainAlerts.Proofs.StoreRuns
import ChainAlerts.Proofs.Followers
import ChainAlerts.Proofs.IndexCalls
import ChainAlerts.Proofs.IndexRuns
import ChainAlerts.Proofs.LimiterKeys
import ChainAlerts.Proofs.LimiterChecks
import ChainAlerts.Proofs.LimiterRuns
import ChainAlerts.Proofs.CandidateJudging
import ChainAlerts.Proofs.FullScan
import ChainAlerts.Proofs.ChatLockKeeping
import ChainAlerts.Proofs.CallsUnderWay
import ChainAlerts.Proofs.EditRequests
import ChainAlerts.Proofs.EditsSideBySide
import ChainAlerts.Proofs.IndexDuties
import ChainAlerts.Proofs.IndexSideBySide
import ChainAlerts.Proofs.BotIsolation
import ChainAlerts.Proofs.TokenMoves
import ChainAlerts.Proofs.Listings
import ChainAlerts.Proofs.FailingWrites
import ChainAlerts.Proofs.Launches
import ChainAlerts.Proofs.LaunchFailures
import ChainAlerts.Proofs.UnreadableRows
import ChainAlerts.Proofs.FailedCalls
import ChainAlerts.Proofs.DoubleOverflow
import ChainAlerts.Proofs.MessageBatches
import ChainAlerts.Proofs.TasksSideBySide
import ChainAlerts.Proofs.SharedLimiters
import ChainAlerts.Proofs.DeliveryStages
import ChainAlerts.Proofs.DeliveryLedger
import ChainAlerts.Proofs.DeliveryQuota
import ChainAlerts.Proofs.WrittenRecords
import ChainAlerts.Proofs.SubscriptionBook
import ChainAlerts.Proofs.BookCalls
import ChainAlerts.Proofs.PayloadIntake
import ChainAlerts.Proofs.LaunchedAccounts
import ChainAlerts.Proofs.NetChanges
import ChainAlerts.Proofs.FollowedTokens
import ChainAlerts.Proofs.FilterPredicates
import ChainAlerts.Proofs.FilterCalls
import ChainAlerts.Proofs.LogFanOut
import ChainAlerts.Proofs.StrayPayloads
import ChainAlerts.Proofs.EndedRounds
import ChainAlerts.Proofs.FilterRuns
import ChainAlerts.Proofs.AlertOrigins
import ChainAlerts.Proofs.AggregateChats
import ChainAlerts.Proofs.DistinctDeliveries
import ChainAlerts.Proofs.JsonScalars
import ChainAlerts.Proofs.JsonText
import ChainAlerts.Proofs.ViewCache
import ChainAlerts.Proofs.LogMarkup
import ChainAlerts.Proofs.DecimalOrder
import ChainAlerts.Proofs.DecimalRounding
import ChainAlerts.Proofs.AttachmentChoice
import ChainAlerts.Proofs.DollarValues
import ChainAlerts.Proofs.TradeSizes
import ChainAlerts.Proofs.TradeMarkup
import ChainAlerts.Proofs.PriceEntries
import ChainAlerts.Proofs.PriceRefreshes
import ChainAlerts.Proofs.ListedPrices
import ChainAlerts.Proofs.NotificationParts
import ChainAlerts.Proofs.SwapLegs
import ChainAlerts.Proofs.FailedMatching
import ChainAlerts.Proofs.AlikePayloads
import ChainAlerts.Proofs.ComponentMoves
import ChainAlerts.Proofs.DoubleValues
import ChainAlerts.Proofs.DoubledDelays
import ChainAlerts.Proofs.CallRetries
import ChainAlerts.Proofs.Reconnects
import ChainAlerts.Proofs.CounterExpiry
import ChainAlerts.Proofs.SummarySecrets
import ChainAlerts.Proofs.LockQueues
