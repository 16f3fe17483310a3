import CoolProof.DocumentText
import CoolProof.Library.Tables
import CoolProof.Models

/-! Documents, their chunks, the intervention catalogue and its evidence: the four tables
with their keys, and the requests that write them. Each request reads the tables, and
commits new ones if the database takes them. -/

namespace CoolProof.Documents
open Calendar JsonDocument PythonText Uuid Models Tables

/-! ## Tables -/

structure CatalogueTables where
  documents : List Document
  chunks : List DocumentChunk
  interventions : List Intervention
  evidence : List InterventionEvidence

def evidenceKey (e : InterventionEvidence) : UUID × UUID × UUID × UUID :=
  (e.organizationId, e.interventionId, e.documentId, e.chunkId)

/-- Primary keys, unique constraints and foreign keys. -/
structure CatalogueTables.Constraints (t : CatalogueTables) : Prop where
  documentId : (t.documents.map Document.id).Nodup
  objectKey : (t.documents.map Document.s3Key).Nodup
  chunkId : (t.chunks.map DocumentChunk.id).Nodup
  chunkOrdinal : (t.chunks.map fun c => (c.documentId, c.ordinal)).Nodup
  chunkDocument : ∀ c ∈ t.chunks, c.documentId ∈ t.documents.map Document.id
  interventionId : (t.interventions.map Intervention.id).Nodup
  interventionDocument : ∀ i ∈ t.interventions, ∀ d ∈ i.evidenceDocumentId,
    d ∈ t.documents.map Document.id
  evidenceId : (t.evidence.map InterventionEvidence.id).Nodup
  evidenceUnique : (t.evidence.map evidenceKey).Nodup
  evidenceIntervention : ∀ e ∈ t.evidence, e.interventionId ∈ t.interventions.map Intervention.id
  evidenceDocument : ∀ e ∈ t.evidence, e.documentId ∈ t.documents.map Document.id
  evidenceChunk : ∀ e ∈ t.evidence, e.chunkId ∈ t.chunks.map DocumentChunk.id

theorem CatalogueTables.constraints_iff (t : CatalogueTables) : t.Constraints ↔
    (t.documents.map Document.id).Nodup ∧ (t.documents.map Document.s3Key).Nodup ∧
    (t.chunks.map DocumentChunk.id).Nodup ∧
    (t.chunks.map fun c => (c.documentId, c.ordinal)).Nodup ∧
    (∀ c ∈ t.chunks, c.documentId ∈ t.documents.map Document.id) ∧
    (t.interventions.map Intervention.id).Nodup ∧
    (∀ i ∈ t.interventions, ∀ d ∈ i.evidenceDocumentId, d ∈ t.documents.map Document.id) ∧
    (t.evidence.map InterventionEvidence.id).Nodup ∧ (t.evidence.map evidenceKey).Nodup ∧
    (∀ e ∈ t.evidence, e.interventionId ∈ t.interventions.map Intervention.id) ∧
    (∀ e ∈ t.evidence, e.documentId ∈ t.documents.map Document.id) ∧
    ∀ e ∈ t.evidence, e.chunkId ∈ t.chunks.map DocumentChunk.id :=
  ⟨fun ⟨a, b, c, d, e, f, g, h, i, j, k, l⟩ => ⟨a, b, c, d, e, f, g, h, i, j, k, l⟩,
    fun ⟨a, b, c, d, e, f, g, h, i, j, k, l⟩ => ⟨a, b, c, d, e, f, g, h, i, j, k, l⟩⟩

instance (t : CatalogueTables) : Decidable t.Constraints :=
  decidable_of_iff _ t.constraints_iff.symm

structure CatalogueStore extends CatalogueTables where
  wf : toCatalogueTables.Constraints

def CatalogueStore.empty : CatalogueStore where
  documents := []
  chunks := []
  interventions := []
  evidence := []
  wf := by
    constructor <;> simp

def CatalogueTables.document (t : CatalogueTables) (id : UUID) : Option Document :=
  find Document.id id t.documents

/-- The chunks of a document in scan order. -/
def CatalogueTables.chunksOf (t : CatalogueTables) (id : UUID) : List DocumentChunk :=
  t.chunks.filter fun c => c.documentId = id

/-! ## Requests -/

structure TenantContext where
  organizationId : UUID
  userId : UUID
  role : Role

inductive Refusal where
  | apiError (statusCode : Nat) (code message : String)
  | httpException (statusCode : Nat) (detail : String)
  | invalidBody
  /-- The database does not take the transaction, and it is rolled back. -/
  | database
deriving DecidableEq

/-- Every request here is open to analysts, managers and admins. -/
def mayWrite (tenant : TenantContext) : Bool :=
  [Role.analyst, .manager, .admin].contains tenant.role

def insufficientRole : Refusal :=
  .apiError 403 "insufficient_role" "Your organization role cannot perform this action"

/-- What is left to libraries and to the database: the text of PDF pages, case folding, the
embedding, the digest, and which texts a text column takes. -/
structure Ingestion where
  pdfPages : Bytes → Option (List String)
  casefold : String → String
  embedText : String → List FloatLiteral
  sha256 : Bytes → String
  storable : String → Bool

/-- A commit of new tables with the texts that are new in them. -/
def CatalogueStore.save {β : Type} (s : CatalogueStore) (ing : Ingestion) (texts : List String)
    (t : CatalogueTables) (answer : Except Refusal β) : CatalogueStore × Except Refusal β :=
  if wf : t.Constraints ∧ texts.all ing.storable = true then (⟨t, wf.1⟩, answer)
  else (s, .error .database)

/-! ## Uploads -/

structure CreateDocumentRequest where
  filename : String
  contentType : String
  projectId : Option UUID

def CreateDocumentRequest.validBody (request : CreateDocumentRequest) : Bool :=
  1 ≤ request.filename.length && request.filename.length ≤ 255 &&
    allowedContentTypes.contains request.contentType

structure UploadOut where
  documentId : UUID
  objectKey : String
  status : String
deriving DecidableEq

/-- A project that is named is one of the organization. -/
def projectFound (projects : List Project) (organizationId : UUID) : Option UUID → Bool
  | some id => projects.any fun p => p.id = id && p.organizationId = organizationId
  | none => true

def newDocument (tenant : TenantContext) (request : CreateDocumentRequest) (id : UUID) :
    Document where
  id := id
  organizationId := tenant.organizationId
  projectId := request.projectId
  filename := request.filename
  contentType := request.contentType
  s3Key := s3ObjectKey tenant.organizationId id request.filename
  sha256 := "pending"
  status := .pending
  metadata := []
  version := 1

/-- `create_upload`; `bucket` says that document storage is configured. -/
def createUpload (ing : Ingestion) (bucket : Bool) (projects : List Project) (s : CatalogueStore)
    (tenant : TenantContext) (request : CreateDocumentRequest) (newId : UUID) :
    CatalogueStore × Except Refusal UploadOut :=
  if !mayWrite tenant then (s, .error insufficientRole)
  else if !request.validBody then (s, .error .invalidBody)
  else if !bucket then
    (s, .error (.apiError 503 "document_storage_unavailable"
      "Document storage is not configured"))
  else if !projectFound projects tenant.organizationId request.projectId then
    (s, .error (.apiError 404 "project_not_found" "Project was not found"))
  else
    let document := newDocument tenant request newId
    s.save ing [document.filename, document.s3Key]
      { s.toCatalogueTables with documents := s.documents ++ [document] }
      (.ok ⟨document.id, document.s3Key, "pending"⟩)

/-! ## Finalisation -/

/-- The row of one chunk; its id is drawn for it. -/
def newChunk (ing : Ingestion) (document : Document) (newIds : Nat → UUID)
    (chunk : PageText × Nat) : DocumentChunk where
  id := newIds chunk.2
  organizationId := document.organizationId
  documentId := document.id
  ordinal := chunk.2
  pageNumber := chunk.1.1
  text := chunk.1.2
  lexicalText := ing.casefold chunk.1.2
  embedding := some (ing.embedText chunk.1.2)
  metadata := [("extractor", .str "text"), ("ordinal", .int chunk.2)]

def finalizedDocument (ing : Ingestion) (document : Document) (content : Bytes)
    (chunks : List PageText) : Document :=
  { document with
    sha256 := ing.sha256 content
    status := if chunks.isEmpty then .failed else .ready
    metadata :=
      if chunks.isEmpty then
        [("error", .str "no_extractable_text"), ("version", .int document.version)]
      else document.metadata }

/-- The tables after the chunks of a document are deleted, with the evidence on them, and
written anew. -/
def finalizedTables (ing : Ingestion) (t : CatalogueTables) (document : Document)
    (content : Bytes) (chunks : List PageText) (newIds : Nat → UUID) : CatalogueTables where
  documents := update Document.id (finalizedDocument ing document content chunks) t.documents
  chunks := (t.chunks.filter fun c => c.documentId ≠ document.id) ++
    chunks.zipIdx.map (newChunk ing document newIds)
  interventions := t.interventions
  evidence := t.evidence.filter fun e =>
    !t.chunks.any fun c => c.id = e.chunkId && c.documentId = document.id

/-- Evidence that finalising keeps cites no chunk of the document. -/
theorem other_of_uncited {t : CatalogueTables} {document : Document} {e : InterventionEvidence}
    {c : DocumentChunk}
    (uncited : (!t.chunks.any fun c => c.id = e.chunkId && c.documentId = document.id) = true)
    (stored : c ∈ t.chunks) (same : c.id = e.chunkId) : c.documentId ≠ document.id := by
  intro own
  have cited : (t.chunks.any fun c => c.id = e.chunkId && c.documentId = document.id) = true :=
    List.any_eq_true.mpr ⟨c, stored, by simp [same, own]⟩
  rw [cited] at uncited
  cases uncited

/-- What `finalize_document` checks and extracts; an error is a `ValueError`. -/
def documentChunks (ing : Ingestion) (document : Document) (content : Bytes) :
    Except String (List PageText) :=
  if maxUploadBytes < content.length then .error "document exceeds 25 MiB limit"
  else if !allowedContentTypes.contains document.contentType then
    .error "unsupported document content type"
  else if document.contentType = "application/pdf" ∧ startsWithPdf content = false then
    .error "PDF magic bytes are invalid"
  else extractTextChunks ing.pdfPages content

/-- `prepare_upload`, then the checks and the extraction of `finalize_document`. -/
def validatedChunks (ing : Ingestion) (tenant : TenantContext) (document : Document)
    (content : Bytes) : Except String (List PageText) := do
  let _ ← prepareUpload ing.sha256 tenant.organizationId document.id document.filename content
    document.contentType
  documentChunks ing document content

structure FinalizeDocumentRequest where
  text : Option String

def FinalizeDocumentRequest.validBody (request : FinalizeDocumentRequest) : Bool :=
  (request.text.getD "").length ≤ 25000000

structure FinalizeOut where
  documentId : UUID
  status : DocumentStatus
  chunkCount : Nat
deriving DecidableEq

/-- What the storage answers a finalisation: whether a bucket is configured, the bytes it
has, if any, and the ids drawn for the chunks. -/
structure FinalizeEnv where
  bucket : Bool
  fetched : Option Bytes
  newIds : Nat → UUID

/-- A document is marked failed, and the request ends with an error. -/
def CatalogueStore.markFailed (s : CatalogueStore) (ing : Ingestion) (document : Document)
    (error : Refusal) : CatalogueStore × Except Refusal FinalizeOut :=
  s.save ing [] { s.toCatalogueTables with
      documents := update Document.id { document with status := .failed } s.documents }
    (.error error)

/-- The part of `finalize` after the content is at hand. -/
def finalizeContent (ing : Ingestion) (s : CatalogueStore) (tenant : TenantContext)
    (document : Document) (content : Bytes) (newIds : Nat → UUID) :
    CatalogueStore × Except Refusal FinalizeOut :=
  match validatedChunks ing tenant document content with
  | .error text => s.markFailed ing document (.apiError 422 "document_validation_failed" text)
  | .ok chunks =>
      s.save ing (chunks.map Prod.snd)
        (finalizedTables ing s.toCatalogueTables document content chunks newIds)
        (.ok ⟨document.id, (finalizedDocument ing document content chunks).status,
          chunks.length⟩)

/-- `finalize` -/
def finalize (ing : Ingestion) (s : CatalogueStore) (tenant : TenantContext) (documentId : UUID)
    (request : FinalizeDocumentRequest) (env : FinalizeEnv) :
    CatalogueStore × Except Refusal FinalizeOut :=
  if !mayWrite tenant then (s, .error insufficientRole)
  else if !request.validBody then (s, .error .invalidBody)
  else match s.document documentId with
    | none => (s, .error (.httpException 404 "Document not found"))
    | some document =>
        if document.organizationId ≠ tenant.organizationId then
          (s, .error (.httpException 404 "Document not found"))
        else match request.text with
          | some text => finalizeContent ing s tenant document (encodeUtf8 text) env.newIds
          | none =>
              if !env.bucket then
                (s, .error (.apiError 503 "document_storage_unavailable"
                  "Document storage is not configured"))
              else match env.fetched with
                | none => s.markFailed ing document
                    (.apiError 502 "document_fetch_failed" "Unable to retrieve uploaded document")
                | some content => finalizeContent ing s tenant document content env.newIds

/-! ## Interventions and evidence -/

def isZero (x : FloatLiteral) : Bool :=
  ((Binary64.dropSign x.text).takeWhile fun c => c ≠ 'e').all fun c => c == '0' || c == '.'

def isNegative (x : FloatLiteral) : Bool := x.text.head? == some '-' && !isZero x

structure InterventionRequest where
  name : String
  category : String
  unitCost : FloatLiteral
  coolingScore : FloatLiteral
  eligibleLandUses : List String
  evidenceDocumentId : Option UUID

def InterventionRequest.validBody (request : InterventionRequest) : Bool :=
  (1 ≤ request.name.length && request.name.length ≤ 180) &&
    (1 ≤ request.category.length && request.category.length ≤ 80) &&
    (!isZero request.unitCost && !isNegative request.unitCost) &&
    !isNegative request.coolingScore && !request.eligibleLandUses.isEmpty

def newIntervention (tenant : TenantContext) (request : InterventionRequest) (id : UUID) :
    Intervention where
  id := id
  organizationId := tenant.organizationId
  name := request.name
  category := request.category
  unitCost := request.unitCost
  coolingScore := request.coolingScore
  eligibleLandUses := request.eligibleLandUses
  evidenceDocumentId := request.evidenceDocumentId
  active := true

/-- A document that is named is one of the organization. -/
def CatalogueTables.documentFound (t : CatalogueTables) (organizationId : UUID) :
    Option UUID → Bool
  | some id => (t.document id).any fun d => d.organizationId = organizationId
  | none => true

/-- `create_intervention` -/
def createIntervention (ing : Ingestion) (s : CatalogueStore) (tenant : TenantContext)
    (request : InterventionRequest) (newId : UUID) : CatalogueStore × Except Refusal UUID :=
  if !mayWrite tenant then (s, .error insufficientRole)
  else if !request.validBody then (s, .error .invalidBody)
  else if !s.documentFound tenant.organizationId request.evidenceDocumentId then
    (s, .error (.httpException 404 "Evidence document not found"))
  else
    s.save ing (request.name :: request.category :: request.eligibleLandUses)
      { s.toCatalogueTables with
        interventions := s.interventions ++ [newIntervention tenant request newId] }
      (.ok newId)

structure EvidenceRequest where
  documentId : UUID
  chunkId : UUID
  claim : String
  sourceLabel : Option String
  metadata : Dict

def EvidenceRequest.validBody (request : EvidenceRequest) : Bool :=
  (1 ≤ request.claim.length && request.claim.length ≤ 1000) &&
    (request.sourceLabel.getD "").length ≤ 255

def newEvidence (tenant : TenantContext) (interventionId : UUID) (request : EvidenceRequest)
    (id : UUID) (now : Instant) : InterventionEvidence where
  id := id
  organizationId := tenant.organizationId
  interventionId := interventionId
  documentId := request.documentId
  chunkId := request.chunkId
  claim := request.claim
  sourceLabel := request.sourceLabel
  metadata := request.metadata
  createdAt := now

/-- The three rows that evidence names belong to the organization, and the chunk to the
document. -/
def CatalogueTables.sourceFound (t : CatalogueTables) (organizationId interventionId : UUID)
    (request : EvidenceRequest) : Bool :=
  match find Intervention.id interventionId t.interventions, t.document request.documentId,
      find DocumentChunk.id request.chunkId t.chunks with
  | some i, some d, some c =>
      i.organizationId = organizationId && (d.organizationId = organizationId &&
        (c.organizationId = organizationId && c.documentId = d.id))
  | _, _, _ => false

/-- `add_evidence` -/
def addEvidence (ing : Ingestion) (s : CatalogueStore) (tenant : TenantContext)
    (interventionId : UUID) (request : EvidenceRequest) (newId : UUID) (now : Instant) :
    CatalogueStore × Except Refusal UUID :=
  if !mayWrite tenant then (s, .error insufficientRole)
  else if !request.validBody then (s, .error .invalidBody)
  else if !s.sourceFound tenant.organizationId interventionId request then
    (s, .error (.httpException 404 "Intervention evidence source not found"))
  else
    s.save ing (request.claim :: request.sourceLabel.toList)
      { s.toCatalogueTables with
        evidence := s.evidence ++ [newEvidence tenant interventionId request newId now] }
      (.ok newId)

/-- `remove_evidence` -/
def removeEvidence (ing : Ingestion) (s : CatalogueStore) (tenant : TenantContext)
    (interventionId evidenceId : UUID) : CatalogueStore × Except Refusal Unit :=
  if !mayWrite tenant then (s, .error insufficientRole)
  else match find InterventionEvidence.id evidenceId s.evidence with
    | none => (s, .error (.httpException 404 "Intervention evidence not found"))
    | some e =>
        if e.interventionId ≠ interventionId ∨ e.organizationId ≠ tenant.organizationId then
          (s, .error (.httpException 404 "Intervention evidence not found"))
        else
          s.save ing [] { s.toCatalogueTables with
            evidence := s.evidence.filter fun x => x.id ≠ evidenceId } (.ok ())

/-! ## What a request writes -/

inductive CatalogueRequest where
  | createUpload (bucket : Bool) (request : CreateDocumentRequest) (newId : UUID)
  | finalize (documentId : UUID) (request : FinalizeDocumentRequest) (env : FinalizeEnv)
  | createIntervention (request : InterventionRequest) (newId : UUID)
  | addEvidence (interventionId : UUID) (request : EvidenceRequest) (newId : UUID)
      (now : Instant)
  | removeEvidence (interventionId evidenceId : UUID)

def serveCatalogue (ing : Ingestion) (projects : List Project) (s : CatalogueStore)
    (tenant : TenantContext) : CatalogueRequest → CatalogueStore
  | .createUpload bucket request newId =>
      (createUpload ing bucket projects s tenant request newId).1
  | .finalize documentId request env => (finalize ing s tenant documentId request env).1
  | .createIntervention request newId => (createIntervention ing s tenant request newId).1
  | .addEvidence interventionId request newId now =>
      (addEvidence ing s tenant interventionId request newId now).1
  | .removeEvidence interventionId evidenceId =>
      (removeEvidence ing s tenant interventionId evidenceId).1

/-- The tables a request of a tenant may commit, with what it checked. -/
inductive Writes (ing : Ingestion) (projects : List Project) (s : CatalogueStore)
    (tenant : TenantContext) : CatalogueTables → Prop where
  | nothing : Writes ing projects s tenant s.toCatalogueTables
  | uploaded {request newId} :
      projectFound projects tenant.organizationId request.projectId = true →
      Writes ing projects s tenant { s.toCatalogueTables with
        documents := s.documents ++ [newDocument tenant request newId] }
  | failed {document} : s.document document.id = some document →
      document.organizationId = tenant.organizationId →
      Writes ing projects s tenant { s.toCatalogueTables with
        documents := update Document.id { document with status := .failed } s.documents }
  | finalized {document content chunks newIds} : s.document document.id = some document →
      document.organizationId = tenant.organizationId →
      validatedChunks ing tenant document content = .ok chunks →
      (chunks.map Prod.snd).all ing.storable = true → Writes ing projects s tenant
        (finalizedTables ing s.toCatalogueTables document content chunks newIds)
  | intervention {request newId} :
      s.documentFound tenant.organizationId request.evidenceDocumentId = true →
      Writes ing projects s tenant { s.toCatalogueTables with
        interventions := s.interventions ++ [newIntervention tenant request newId] }
  | evidence {interventionId request newId now} :
      s.sourceFound tenant.organizationId interventionId request = true →
      Writes ing projects s tenant { s.toCatalogueTables with
        evidence := s.evidence ++ [newEvidence tenant interventionId request newId now] }
  | removed (evidenceId : UUID) : Writes ing projects s tenant { s.toCatalogueTables with
      evidence := s.evidence.filter fun x => x.id ≠ evidenceId }

/-- A transaction leaves the new tables or the old ones. -/
theorem save_cases {β : Type} (s : CatalogueStore) (ing : Ingestion) (texts : List String)
    (t : CatalogueTables) (answer : Except Refusal β) :
    (s.save ing texts t answer).1.toCatalogueTables = t ∨ (s.save ing texts t answer).1 = s := by
  unfold CatalogueStore.save
  split
  · exact .inl rfl
  · exact .inr rfl

theorem Writes.save {β : Type} {ing : Ingestion} {projects : List Project} {s : CatalogueStore}
    {tenant : TenantContext} {t : CatalogueTables} (writes : Writes ing projects s tenant t)
    (texts : List String) (answer : Except Refusal β) :
    Writes ing projects s tenant (s.save ing texts t answer).1.toCatalogueTables := by
  rcases save_cases s ing texts t answer with same | same
  · rw [same]
    exact writes
  · rw [same]
    exact .nothing

theorem finalizeContent_writes (ing : Ingestion) (projects : List Project) (s : CatalogueStore)
    (tenant : TenantContext) {document : Document}
    (stored : s.document document.id = some document)
    (owner : document.organizationId = tenant.organizationId) (content : Bytes)
    (newIds : Nat → UUID) : Writes ing projects s tenant
      (finalizeContent ing s tenant document content newIds).1.toCatalogueTables := by
  unfold finalizeContent
  cases valid : validatedChunks ing tenant document content with
  | error text => exact (Writes.failed stored owner).save _ _
  | ok chunks =>
    dsimp only [CatalogueStore.save]
    split
    · rename_i taken
      exact .finalized stored owner valid taken.2
    · exact .nothing

theorem finalize_writes (ing : Ingestion) (projects : List Project) (s : CatalogueStore)
    (tenant : TenantContext) (documentId : UUID) (request : FinalizeDocumentRequest)
    (env : FinalizeEnv) : Writes ing projects s tenant
      (finalize ing s tenant documentId request env).1.toCatalogueTables := by
  unfold finalize
  split
  · exact .nothing
  split
  · exact .nothing
  cases found : s.document documentId with
  | none => exact .nothing
  | some document =>
    have same : document.id = documentId := (find_some found).2
    have stored : s.document document.id = some document := same ▸ found
    dsimp only
    split
    · exact .nothing
    rename_i owner
    have owner := not_not.mp owner
    cases request.text with
    | some text => exact finalizeContent_writes ing projects s tenant stored owner _ _
    | none =>
      dsimp only
      split
      · exact .nothing
      cases env.fetched with
      | none => exact (Writes.failed stored owner).save _ _
      | some content => exact finalizeContent_writes ing projects s tenant stored owner _ _

/-- Every request writes one of these. -/
theorem serveCatalogue_writes (ing : Ingestion) (projects : List Project) (s : CatalogueStore)
    (tenant : TenantContext) (request : CatalogueRequest) :
    Writes ing projects s tenant
      (serveCatalogue ing projects s tenant request).toCatalogueTables := by
  cases request with
  | createUpload bucket request newId =>
    simp only [serveCatalogue]
    unfold createUpload
    split
    · exact .nothing
    split
    · exact .nothing
    split
    · exact .nothing
    split
    · exact .nothing
    · rename_i found
      exact (Writes.uploaded (by simpa using found)).save _ _
  | finalize documentId request env => exact finalize_writes ing projects s tenant _ _ _
  | createIntervention request newId =>
    simp only [serveCatalogue]
    unfold createIntervention
    split
    · exact .nothing
    split
    · exact .nothing
    split
    · exact .nothing
    · rename_i found
      exact (Writes.intervention (by simpa using found)).save _ _
  | addEvidence interventionId request newId now =>
    simp only [serveCatalogue]
    unfold addEvidence
    split
    · exact .nothing
    split
    · exact .nothing
    split
    · exact .nothing
    · rename_i found
      exact (Writes.evidence (by simpa using found)).save _ _
  | removeEvidence interventionId evidenceId =>
    simp only [serveCatalogue]
    unfold removeEvidence
    split
    · exact .nothing
    cases find InterventionEvidence.id evidenceId s.evidence with
    | none => exact .nothing
    | some e =>
      dsimp only
      split
      · exact .nothing
      · exact (Writes.removed evidenceId).save _ _

end CoolProof.Documents
