import CoolProof.Library.JsonDocument
import CoolProof.Library.PythonText
import CoolProof.Library.JsonText
import CoolProof.Library.Calendar
import CoolProof.Library.Uuid
import CoolProof.Library.Tables
import CoolProof.Library.Runs
import CoolProof.Library.Sessions
import CoolProof.Library.Replay
import CoolProof.Library.BinaryProgram
import CoolProof.Library.Loops
import CoolProof.Library.SlidingWindow
import CoolProof.Library.TextWords
import CoolProof.Library.LetterCase
import CoolProof.Library.PosixPath
import CoolProof.Library.UnitOfWork
import CoolProof.Library.WeightedSums
import CoolProof.Models
import CoolProof.ProviderQuery
import CoolProof.FortyGuardClient
import CoolProof.QueryCache
import CoolProof.HeatService
import CoolProof.HeatHistory
import CoolProof.HeatPolls
import CoolProof.HeatEnds
import CoolProof.QueryCharging
import CoolProof.HeatRetention
import CoolProof.HeatOutcomes
import CoolProof.ProviderTraffic
import CoolProof.HeatDelays
import CoolProof.HeatSchedule
import CoolProof.HeatRetries
import CoolProof.HeatSessions
import CoolProof.HeatSequential
import CoolProof.HeatConcurrency
import CoolProof.HeatTerminal
import CoolProof.Grounding
import CoolProof.GroundingIsolation
import CoolProof.GroundingSources
import CoolProof.PersistedReferences
import CoolProof.GroundingReferences
import CoolProof.HeatScope
import CoolProof.AgentRuntime
import CoolProof.AgentSessions
import CoolProof.ApprovalSafety
import CoolProof.EventReplay
import CoolProof.Portfolio
import CoolProof.PortfolioOptimality
import CoolProof.PortfolioReadback
import CoolProof.AgentGraph
import CoolProof.ProviderText
import CoolProof.AgentExecution
import CoolProof.ProviderAdapters
import CoolProof.CompiledGraph
import CoolProof.AgentLifecycle
import CoolProof.AgentFailures
import CoolProof.CitationHistory
import CoolProof.AgentContexts
import CoolProof.AgentDurability
import CoolProof.Reexecution
import CoolProof.DocumentText
import CoolProof.EvidenceRetention
import CoolProof.Projects
import CoolProof.PortfolioRuns
import CoolProof.PairConstraints
import CoolProof.VerificationRuns
import CoolProof.VerificationSessions
import CoolProof.ReportArtifacts
import CoolProof.VerificationCalculation
import CoolProof.HeatRequests
import CoolProof.AgentScope
import CoolProof.Workspace
import CoolProof.TenantRows
import CoolProof.TenantIntegrity
import CoolProof.VerificationStorage
import CoolProof.RequestGuard
import CoolProof.DocumentChunking
import CoolProof.SearchDeterminism
import CoolProof.SearchWords
import CoolProof.ObjectKeys
import CoolProof.VectorWrites
import CoolProof.HeatExposure
import CoolProof.VerificationLaws
import CoolProof.Telemetry
import CoolProof.ReferenceScrubbing
import CoolProof.Library.JsonReader
import CoolProof.Library.EventStream
import CoolProof.EventFrames
import CoolProof.Library.Slices
import CoolProof.TenantSlices
import CoolProof.Authorization
import CoolProof.TenantReads
import CoolProof.DocumentEmbedding
import CoolProof.PollingWorker
import CoolProof.PortfolioRelaxation
import CoolProof.Library.Journal
import CoolProof.AuditTrail
import CoolProof.RowRetention
import CoolProof.StoredPlans
