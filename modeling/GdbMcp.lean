import GdbMcp.TransportMatching
import GdbMcp.TransportCompletion
import GdbMcp.RuntimeMirror
import GdbMcp.SessionFailedStart
import GdbMcp.SessionTerminal
import GdbMcp.SessionLive
import GdbMcp.SessionLastEvent
import GdbMcp.InspectionQueries
import GdbMcp.BaseTransition
import GdbMcp.SchemaWidening
import GdbMcp.SchemaPublished
import GdbMcp.SchemaClosed
import GdbMcp.SchemaPreserved
import GdbMcp.InspectionContext
import GdbMcp.DaemonShared
import GdbMcp.RegistryClosing
import GdbMcp.InspectionSource
import GdbMcp.WorkflowAgreement
import GdbMcp.CampaignStarts
import GdbMcp.RuntimeCount
import GdbMcp.RuntimeSelection
import GdbMcp.SessionSteps
import GdbMcp.SessionRefusal
import GdbMcp.RuntimeHistory
import GdbMcp.WorkflowStops
import GdbMcp.SessionAcknowledged
import GdbMcp.SessionFinish
import GdbMcp.InferiorKept
import GdbMcp.TransportConservation
import GdbMcp.RunnerExitCodes
import GdbMcp.MiArguments
import GdbMcp.TransportExternal
import GdbMcp.SessionSends
import GdbMcp.StartEnvironment
import GdbMcp.InspectionWindow
import GdbMcp.InspectionLocation
import GdbMcp.BreakpointCreated
import GdbMcp.SessionOneLine
import GdbMcp.InferiorFollowed
import GdbMcp.StartDebuggerArgs
import GdbMcp.WorkflowAccounting
import GdbMcp.CampaignAccounting
import GdbMcp.CampaignCriteria
import GdbMcp.SchemaRequirements
import GdbMcp.InspectionLookup
import GdbMcp.InspectionPosition
import GdbMcp.SessionCapture
import GdbMcp.CaptureConfined
import GdbMcp.CaptureElsewhere
import GdbMcp.ValidationErrors
import GdbMcp.RunnerNarrowing
import GdbMcp.InspectionLegacy
import GdbMcp.InspectionRegisters
import GdbMcp.RegistryActivity
import GdbMcp.DaemonStop
import GdbMcp.ClientAssign
import GdbMcp.ClientDotted
import GdbMcp.ServerStdin
import GdbMcp.ServerIdle
import GdbMcp.TransportEndpoint
import GdbMcp.CampaignShorthand
import GdbMcp.ClientCoercion
import GdbMcp.ClientSteps
import GdbMcp.ClientDefault
import GdbMcp.ClientQueries
import GdbMcp.ClientGroups
import GdbMcp.ContextFollowed
import GdbMcp.BreakpointStore
import GdbMcp.ClientForms
