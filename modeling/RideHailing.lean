import RideHailing.KeyedTable
import RideHailing.HistoryLogic
import RideHailing.Application
import RideHailing.BackendHistories
import RideHailing.RequestLaws
import RideHailing.LawfulHistories
import RideHailing.StableFacts
import RideHailing.BackendTriples
import RideHailing.RideTriples
import RideHailing.AccountTriples
import RideHailing.RequestGuarantees
import RideHailing.RideLifecycle
import RideHailing.AcceptExclusion
import RideHailing.RideRecords
import RideHailing.ActiveRides
import RideHailing.StrandedDrivers
import RideHailing.RatingCounts
import RideHailing.DriverRole
import RideHailing.SequentialTurns
import RideHailing.SoloTriples
import RideHailing.Fleet
import RideHailing.FleetTriples
import RideHailing.FleetRequests
import RideHailing.FleetRuns
import RideHailing.DriverExclusivity
import RideHailing.OfflineDrivers
import RideHailing.TerminalRides
import RideHailing.EventStreams
import RideHailing.LiveStreams
import RideHailing.RejectedRequests
import RideHailing.CallFailures
import RideHailing.InterruptedRequests
import RideHailing.CallMonitors
import RideHailing.RequestConduct
import RideHailing.AvailabilityAgreement
import RideHailing.Deployment
import RideHailing.DeploymentRuns
import RideHailing.ConsumerConduct
import RideHailing.RideOffers
import RideHailing.DeploymentStreams
import RideHailing.OfferOrder
import RideHailing.OfferWithdrawals
import RideHailing.RideTracking
import RideHailing.Routes
import RideHailing.RouteConduct
import RideHailing.DriverMode
import RideHailing.ErasedTasks
import RideHailing.AvailabilityLockstep
import RideHailing.RatingAvailability
import RideHailing.BackgroundLoops
import RideHailing.RatingAggregates
import RideHailing.OneAtATime
import RideHailing.RatingRecords
import RideHailing.OwnRides
import RideHailing.RatingBackfill
import RideHailing.RowNames
import RideHailing.LocationConduct
import RideHailing.FaithfulRounding
import RideHailing.PricingArithmetic
import RideHailing.LocationSharing
import RideHailing.NearbySearch
import RideHailing.Responses
import RideHailing.RideRequests
import RideHailing.DelimitedText
import RideHailing.EventFrames
import RideHailing.GridKeys
import RideHailing.DecimalText
import RideHailing.SurgeCaching
import RideHailing.KeyedQuotas
import RideHailing.AuthThrottling
import RideHailing.KafkaProducers
import RideHailing.RequestAuthority
import RideHailing.PoolProgress
import RideHailing.RequestProgress
import RideHailing.RouteAuthority
import RideHailing.GuardedRuns
import RideHailing.RoutedRuns
import RideHailing.Credentials
import RideHailing.PermanentRecords
import RideHailing.StreamHistories
import RideHailing.StreamTexts
import RideHailing.ExplainedFares
import RideHailing.RideThrottling
import RideHailing.CompleteDispatch
import RideHailing.Announcements
