import NodeRedBull.Library.OrderedMap
import NodeRedBull.Library.Store
import NodeRedBull.Library.Transition
import NodeRedBull.Library.Async
import NodeRedBull.Library.Pool
import NodeRedBull.Library.Trace
import NodeRedBull.Js.Number
import NodeRedBull.Js.Value
import NodeRedBull.Js.Heap
import NodeRedBull.Acknowledgements
import NodeRedBull.AcknowledgementInvariant
import NodeRedBull.AcknowledgementCreation
import NodeRedBull.AcknowledgementEffect
import NodeRedBull.AcknowledgementRun
import NodeRedBull.Serialization
import NodeRedBull.JobRuntime
import NodeRedBull.JobInvariant
import NodeRedBull.JobOutline
import NodeRedBull.TerminalActions
import NodeRedBull.Cancellation
import NodeRedBull.Connections
import NodeRedBull.ClusterPrefix
import NodeRedBull.FlowDefaults
import NodeRedBull.FlowTrees
import NodeRedBull.FlowQueues
import NodeRedBull.FlowRetention
import NodeRedBull.ConfigNode
import NodeRedBull.ConfigBooks
import NodeRedBull.ConfigStep
import NodeRedBull.ConfigAccounts
import NodeRedBull.ConfigPairs
import NodeRedBull.FailedConstruction
import NodeRedBull.ConfigCalls
import NodeRedBull.BackendHistory
import NodeRedBull.BackendStatus
import NodeRedBull.CloseHandlers
import NodeRedBull.CloseReports
import NodeRedBull.ClosingOutline
import NodeRedBull.NothingOutlives
import NodeRedBull.AtomicActions
import NodeRedBull.HiddenFields
import NodeRedBull.ForcedShutdown
import NodeRedBull.AcknowledgementTimers
import NodeRedBull.StatusRecovery
import NodeRedBull.JobFrames
import NodeRedBull.AcknowledgementLifetime
import NodeRedBull.Library.Part
import NodeRedBull.RuntimeNodes
import NodeRedBull.NodesSteps
import NodeRedBull.ClosedNodes
import NodeRedBull.LiveStatus
import NodeRedBull.Library.Once
import NodeRedBull.StartupFailures
import NodeRedBull.Library.Twins
import NodeRedBull.Commands
import NodeRedBull.MessageNodes
import NodeRedBull.Erasure
import NodeRedBull.JobTwins
import NodeRedBull.MessageTwins
import NodeRedBull.CommandGuards
import NodeRedBull.DataRoundTrip
import NodeRedBull.EventFilter
import NodeRedBull.Endpoints
import NodeRedBull.Library.Results
import NodeRedBull.EndpointLists
import NodeRedBull.FlowTraversal
import NodeRedBull.FlowPrecedence
import NodeRedBull.Addresses
import NodeRedBull.EndpointSecrets
import NodeRedBull.RedisNormalization
import NodeRedBull.HiddenTopologies
import NodeRedBull.Js.Fields
import NodeRedBull.ConnectionOptions
import NodeRedBull.UsableTargets
import NodeRedBull.IPv6Texts
import NodeRedBull.Js.Decimal
import NodeRedBull.EndpointTexts
import NodeRedBull.TlsVerification
import NodeRedBull.NumericSettings
import NodeRedBull.Library.Outcome
import NodeRedBull.ExactIds
import NodeRedBull.Credentials
import NodeRedBull.Library.Mirror
import NodeRedBull.CredentialFrames
import NodeRedBull.CredentialRuns
import NodeRedBull.Wiring
import NodeRedBull.Library.Timed
import NodeRedBull.CloseTimes
import NodeRedBull.Library.Script
import NodeRedBull.Library.Reporter
import NodeRedBull.CommandEffects
import NodeRedBull.MessageReports
import NodeRedBull.Library.Drain
import NodeRedBull.NodeShutdown
import NodeRedBull.Quiescence
import NodeRedBull.Library.OneShot
import NodeRedBull.AcknowledgementCells
import NodeRedBull.Library.Registers
import NodeRedBull.EditorDialog
import NodeRedBull.EditorRows
import NodeRedBull.EditorChecks
