import CoolProof.Library.Calendar
import CoolProof.Library.JsonDocument
import CoolProof.Library.Uuid

/-! Rows of the application database. Only columns that a modelled function reads
or writes appear. A nullable column is an `Option`, a JSON object column a `Dict`,
a timestamp an instant in microseconds. -/

namespace CoolProof.Models
open Calendar JsonDocument Uuid

inductive Role where
  | viewer
  | analyst
  | manager
  | admin
deriving DecidableEq

structure AuditEvent where
  organizationId : UUID
  actorUserId : Option UUID
  eventType : String
  resourceType : String
  resourceId : String
  metadata : Dict
  occurredAt : Instant
deriving DecidableEq

structure Project where
  id : UUID
  organizationId : UUID
  name : String
  description : Option String
deriving DecidableEq

structure Zone where
  id : UUID
  organizationId : UUID
  projectId : UUID
  name : String
  geometry : Dict
deriving DecidableEq

/-! ## Heat analyses -/

inductive HeatAnalysisStatus where
  | queued
  | running
  | succeeded
  | failed
deriving DecidableEq

def HeatAnalysisStatus.value : HeatAnalysisStatus → String
  | .queued => "queued"
  | .running => "running"
  | .succeeded => "succeeded"
  | .failed => "failed"

/-- Statuses a worker and the recovery scan treat as finished. -/
def HeatAnalysisStatus.terminal : HeatAnalysisStatus → Bool
  | .succeeded | .failed => true
  | .queued | .running => false

structure HeatAnalysis where
  id : UUID
  organizationId : UUID
  projectId : UUID
  zoneId : UUID
  idempotencyKey : String
  requestPayload : Dict
  providerActivityId : Option String
  status : HeatAnalysisStatus
  result : Option Dict
  errorCode : Option String
  errorMessage : Option String
  sourceUpdatedAt : Option Instant
  expiresAt : Option Instant
  createdAt : Instant
deriving DecidableEq

/-- The text column of an activity: the analysis status, or a retry that is pending. -/
inductive ActivityStatus where
  | analysis (status : HeatAnalysisStatus)
  | retrying
deriving DecidableEq

structure FortyGuardActivity where
  analysisId : UUID
  providerActivityId : String
  status : ActivityStatus
  attempts : Nat
  nextPollAt : Option Instant
  lastPayload : Option Dict
deriving DecidableEq

/-- The row of `provider_circuits` whose provider is `fortyguard`. -/
structure ProviderCircuit where
  consecutiveFailures : Nat
  openUntil : Option Instant
  isOpen : Bool
deriving DecidableEq

/-! ## Catalogue, evidence and portfolios -/

inductive DocumentStatus where
  | pending
  | ready
  | failed
deriving DecidableEq

structure Document where
  id : UUID
  organizationId : UUID
  projectId : Option UUID
  filename : String
  contentType : String
  s3Key : String
  sha256 : String
  status : DocumentStatus
  metadata : Dict
  version : Int
deriving DecidableEq

/-- A chunk of a document; the embedding is a JSON list of floats. -/
structure DocumentChunk where
  id : UUID
  organizationId : UUID
  documentId : UUID
  ordinal : Nat
  pageNumber : Option Int
  text : String
  lexicalText : String
  embedding : Option (List FloatLiteral)
  metadata : Dict
deriving DecidableEq

structure Intervention where
  id : UUID
  organizationId : UUID
  name : String
  category : String
  unitCost : FloatLiteral
  coolingScore : FloatLiteral
  eligibleLandUses : List String
  evidenceDocumentId : Option UUID
  active : Bool
deriving DecidableEq

structure InterventionEvidence where
  id : UUID
  organizationId : UUID
  interventionId : UUID
  documentId : UUID
  chunkId : UUID
  claim : String
  sourceLabel : Option String
  metadata : Dict
  createdAt : Instant
deriving DecidableEq

structure PortfolioRun where
  id : UUID
  organizationId : UUID
  projectId : Option UUID
  budget : FloatLiteral
  resultJson : Json
  createdAt : Instant
deriving DecidableEq

structure PortfolioAllocation where
  id : UUID
  organizationId : UUID
  portfolioRunId : UUID
  zoneId : UUID
  interventionId : UUID
  quantity : Int
  cost : FloatLiteral
deriving DecidableEq

structure VerificationRun where
  id : UUID
  organizationId : UUID
  projectId : Option UUID
  portfolioRunId : Option UUID
  idempotencyKey : String
  resultJson : Dict
  reportS3Key : Option String
deriving DecidableEq

/-! ## Agent runs -/

inductive AgentRunStatus where
  | queued
  | running
  | waitingApproval
  | approved
  | rejected
  | completed
  | failed
deriving DecidableEq

structure AgentRun where
  id : UUID
  organizationId : UUID
  projectId : Option UUID
  threadId : String
  status : AgentRunStatus
  inputJson : Dict
  stateJson : Dict
  currentNode : Option String
  revision : Nat
  errorCode : Option String
  errorMessage : Option String
deriving DecidableEq

structure AgentEvent where
  runId : UUID
  organizationId : UUID
  sequence : Nat
  eventType : String
  node : Option String
  payloadJson : Dict
  safeSummary : String
deriving DecidableEq

structure AgentApproval where
  runId : UUID
  organizationId : UUID
  decision : String
  reviewerUserId : UUID
  comment : Option String
  revision : Nat
deriving DecidableEq

end CoolProof.Models
