import CoolProof.DocumentSearch
import Mathlib.Data.List.Induction

/-! Ready documents match their bytes. A finalisation that ends well writes the digest, the
status and all chunks of a document together; every other way a finalisation ends leaves the
document failed or the tables as they were. -/

namespace CoolProof.Documents
open JsonDocument Uuid Models Tables

/-- A document as its last finalisation left it, from the given bytes. -/
structure Finalised (ing : Ingestion) (t : CatalogueTables) (d : Document) (content : Bytes)
    (chunks : List PageText) : Prop where
  valid : ∀ tenant, validatedChunks ing tenant d content = .ok chunks
  storable : (chunks.map Prod.snd).all ing.storable = true
  sha256 : d.sha256 = ing.sha256 content
  nonempty : chunks ≠ []
  ordinals : (t.chunksOf d.id).map DocumentChunk.ordinal = List.range chunks.length
  texts : ((t.chunksOf d.id).map fun c => (c.pageNumber, c.text)) = chunks
  organization : ∀ c ∈ t.chunksOf d.id, c.organizationId = d.organizationId
  lexical : ∀ c ∈ t.chunksOf d.id, c.lexicalText = ing.casefold c.text

/-- Every ready document is as a finalisation of some bytes left it. -/
def Faithful (ing : Ingestion) (t : CatalogueTables) : Prop :=
  ∀ d ∈ t.documents, d.status = .ready → ∃ content chunks, Finalised ing t d content chunks

/-! ## Validation -/

theorem prepareUpload_ok {sha256 : Bytes → String} {organizationId documentId : UUID}
    {filename contentType : String} {content : Bytes} {upload : SafeUpload}
    (h : prepareUpload sha256 organizationId documentId filename content contentType = .ok upload)
    (organizationId' documentId' : UUID) (filename' : String) :
    ∃ upload', prepareUpload sha256 organizationId' documentId' filename' content contentType =
      .ok upload' := by
  unfold prepareUpload at h ⊢
  split at h
  · cases h
  split at h
  · cases h
  split at h
  · cases h
  split at h
  · cases h
  rename_i nonempty allowed small magic
  exact ⟨_, by rw [if_neg nonempty, if_neg allowed, if_neg small, if_neg magic]⟩

/-- What is valid was prepared for storage and split into chunks. -/
theorem validatedChunks_ok {ing : Ingestion} {tenant : TenantContext} {d : Document}
    {content : Bytes} {chunks : List PageText}
    (valid : validatedChunks ing tenant d content = .ok chunks) :
    (∃ upload, prepareUpload ing.sha256 tenant.organizationId d.id d.filename content
      d.contentType = .ok upload) ∧ documentChunks ing d content = .ok chunks := by
  unfold validatedChunks at valid
  cases prepared : prepareUpload ing.sha256 tenant.organizationId d.id d.filename content
      d.contentType with
  | error text =>
    rw [prepared] at valid
    cases valid
  | ok upload =>
    rw [prepared] at valid
    exact ⟨⟨upload, rfl⟩, valid⟩

/-- Validation looks at the bytes and the content type only. -/
theorem validatedChunks_of_contentType {ing : Ingestion} {tenant : TenantContext}
    {d : Document} {content : Bytes} {chunks : List PageText}
    (valid : validatedChunks ing tenant d content = .ok chunks) {d' : Document}
    (same : d'.contentType = d.contentType) (tenant' : TenantContext) :
    validatedChunks ing tenant' d' content = .ok chunks := by
  obtain ⟨⟨upload, prepared⟩, extracted⟩ := validatedChunks_ok valid
  obtain ⟨upload', again⟩ := prepareUpload_ok prepared tenant'.organizationId d'.id d'.filename
  unfold validatedChunks
  rw [same, again]
  change documentChunks ing d' content = .ok chunks
  unfold documentChunks at extracted ⊢
  rwa [same]

/-- What is valid was extracted. -/
theorem extracted_of_validatedChunks {ing : Ingestion} {tenant : TenantContext} {d : Document}
    {content : Bytes} {chunks : List PageText}
    (valid : validatedChunks ing tenant d content = .ok chunks) :
    extractTextChunks ing.pdfPages content = .ok chunks := by
  have checked := (validatedChunks_ok valid).2
  unfold documentChunks at checked
  split at checked
  · cases checked
  split at checked
  · cases checked
  split at checked
  · cases checked
  · exact checked

/-! ## The rows of one document -/

theorem Finalised.of_chunks {ing : Ingestion} {s t : CatalogueTables} {d : Document}
    {content : Bytes} {chunks : List PageText} (finalised : Finalised ing s d content chunks)
    (same : t.chunksOf d.id = s.chunksOf d.id) : Finalised ing t d content chunks where
  valid := finalised.valid
  storable := finalised.storable
  sha256 := finalised.sha256
  nonempty := finalised.nonempty
  ordinals := same ▸ finalised.ordinals
  texts := same ▸ finalised.texts
  organization := same ▸ finalised.organization
  lexical := same ▸ finalised.lexical

/-- The new rows of a document, one for each extracted chunk. -/
def newChunks (ing : Ingestion) (document : Document) (chunks : List PageText)
    (newIds : Nat → UUID) : List DocumentChunk :=
  chunks.zipIdx.map (newChunk ing document newIds)

theorem chunksOf_finalized_self (ing : Ingestion) (t : CatalogueTables) (document : Document)
    (content : Bytes) (chunks : List PageText) (newIds : Nat → UUID) :
    (finalizedTables ing t document content chunks newIds).chunksOf document.id =
      newChunks ing document chunks newIds := by
  have old : ((t.chunks.filter fun c => c.documentId ≠ document.id).filter fun c =>
      c.documentId = document.id) = [] := by
    rw [List.filter_filter, List.filter_eq_nil_iff]
    simp
  have new : (newChunks ing document chunks newIds).filter (fun c =>
      c.documentId = document.id) = newChunks ing document chunks newIds := by
    rw [List.filter_eq_self]
    intro c member
    obtain ⟨chunk, -, rfl⟩ := List.mem_map.mp member
    exact decide_eq_true rfl
  change ((t.chunks.filter fun c => c.documentId ≠ document.id) ++
    newChunks ing document chunks newIds).filter _ = _
  rw [List.filter_append, old, new, List.nil_append]

theorem chunksOf_finalized_other (ing : Ingestion) (t : CatalogueTables) {document : Document}
    (content : Bytes) (chunks : List PageText) (newIds : Nat → UUID) {id : UUID}
    (other : id ≠ document.id) :
    (finalizedTables ing t document content chunks newIds).chunksOf id = t.chunksOf id := by
  have new : (newChunks ing document chunks newIds).filter (fun c => c.documentId = id) = [] := by
    rw [List.filter_eq_nil_iff]
    intro c member own
    obtain ⟨chunk, -, rfl⟩ := List.mem_map.mp member
    exact other (of_decide_eq_true own).symm
  have old : ((t.chunks.filter fun c => c.documentId ≠ document.id).filter fun c =>
      c.documentId = id) = t.chunksOf id := by
    rw [List.filter_filter]
    apply List.filter_congr
    intro c _
    by_cases own : c.documentId = id
    · simp [own, other]
    · simp [own]
  change ((t.chunks.filter fun c => c.documentId ≠ document.id) ++
    newChunks ing document chunks newIds).filter _ = _
  rw [List.filter_append, old, new, List.append_nil]

/-- A finalisation that finds text leaves a document that matches its bytes. -/
theorem finalised_self {ing : Ingestion} (t : CatalogueTables) {tenant : TenantContext}
    {document : Document} {content : Bytes} {chunks : List PageText} (newIds : Nat → UUID)
    (valid : validatedChunks ing tenant document content = .ok chunks)
    (storable : (chunks.map Prod.snd).all ing.storable = true) (nonempty : chunks ≠ []) :
    Finalised ing (finalizedTables ing t document content chunks newIds)
      (finalizedDocument ing document content chunks) content chunks := by
  have rows := chunksOf_finalized_self ing t document content chunks newIds
  have made : ∀ c ∈ newChunks ing document chunks newIds,
      c.organizationId = document.organizationId ∧ c.lexicalText = ing.casefold c.text := by
    intro c member
    obtain ⟨chunk, -, rfl⟩ := List.mem_map.mp member
    exact ⟨rfl, rfl⟩
  refine ⟨fun tenant' => validatedChunks_of_contentType valid rfl tenant', storable, rfl,
    nonempty, ?_, ?_, fun c member => (made c (rows ▸ member)).1,
    fun c member => (made c (rows ▸ member)).2⟩
  · change ((finalizedTables ing t document content chunks newIds).chunksOf document.id).map _ = _
    rw [rows, newChunks, List.map_map, List.range_eq_range', ← List.zipIdx_map_snd 0 chunks]
    rfl
  · change ((finalizedTables ing t document content chunks newIds).chunksOf document.id).map _ = _
    rw [rows, newChunks, List.map_map]
    exact List.zipIdx_map_fst 0 chunks

/-! ## Every request keeps it -/

theorem Faithful.of_same {ing : Ingestion} {s t : CatalogueTables} (faithful : Faithful ing s)
    (documents : t.documents = s.documents) (chunks : t.chunks = s.chunks) : Faithful ing t := by
  intro d member ready
  obtain ⟨content, texts, finalised⟩ := faithful d (documents ▸ member) ready
  have same : t.chunksOf d.id = s.chunksOf d.id := by
    rw [CatalogueTables.chunksOf, chunks]
    rfl
  exact ⟨content, texts, finalised.of_chunks same⟩

theorem faithful_writes {ing : Ingestion} {projects : List Project} {s : CatalogueStore}
    {tenant : TenantContext} {t : CatalogueTables} (writes : Writes ing projects s tenant t)
    (faithful : Faithful ing s.toCatalogueTables) : Faithful ing t := by
  cases writes with
  | nothing => exact faithful
  | uploaded found =>
    intro d member ready
    rcases List.mem_append.mp member with old | new
    · obtain ⟨bytes, texts, finalised⟩ := faithful d old ready
      exact ⟨bytes, texts, finalised.of_chunks rfl⟩
    · rw [List.mem_singleton.mp new] at ready
      cases ready
  | @failed document stored owner =>
    intro d member ready
    rcases mem_update member with rfl | ⟨old, other⟩
    · cases ready
    · obtain ⟨bytes, texts, finalised⟩ := faithful d old ready
      exact ⟨bytes, texts, finalised.of_chunks rfl⟩
  | @finalized document content chunks newIds stored owner valid storable =>
    intro d member ready
    rcases mem_update member with rfl | ⟨old, other⟩
    · have nonempty : chunks ≠ [] := by
        rintro rfl
        cases ready
      exact ⟨content, chunks, finalised_self _ newIds valid storable nonempty⟩
    · obtain ⟨bytes, texts, finalised⟩ := faithful d old ready
      exact ⟨bytes, texts,
        finalised.of_chunks (chunksOf_finalized_other ing _ content chunks newIds other)⟩
  | intervention found => exact faithful.of_same rfl rfl
  | evidence found => exact faithful.of_same rfl rfl
  | removed evidenceId => exact faithful.of_same rfl rfl

/-- A request of a tenant, with the projects as they are then. -/
structure CatalogueCall where
  tenant : TenantContext
  projects : List Project
  request : CatalogueRequest

/-- Calls that do not overlap, from empty tables. -/
def serveCalls (ing : Ingestion) (calls : List CatalogueCall) : CatalogueStore :=
  calls.foldl (fun s call => serveCatalogue ing call.projects s call.tenant call.request)
    CatalogueStore.empty

theorem faithful_serveCalls (ing : Ingestion) (calls : List CatalogueCall) :
    Faithful ing (serveCalls ing calls).toCatalogueTables := by
  induction calls using List.reverseRecOn with
  | nil => exact fun d member => nomatch member
  | append_singleton calls call ih =>
    rw [serveCalls, List.foldl_append]
    exact faithful_writes (serveCatalogue_writes ing call.projects _ call.tenant call.request) ih

/-- After any calls, whatever they upload and however they fail, every ready document has the
chunks of the bytes whose digest it carries, numbered in order, and search results are chunks
of ready documents. -/
theorem ready_documents_match (ing : Ingestion) (calls : List CatalogueCall) :
    (∀ d ∈ (serveCalls ing calls).documents, d.status = .ready →
      ∃ content chunks, extractTextChunks ing.pdfPages content = .ok chunks ∧
        Finalised ing (serveCalls ing calls).toCatalogueTables d content chunks) ∧
    ∀ rk postgresql query, ∀ hit ∈ search rk postgresql
        (serveCalls ing calls).toCatalogueTables query,
      ∀ d ∈ (serveCalls ing calls).documents, d.id = hit.documentId → d.status = .ready := by
  constructor
  · intro d member ready
    obtain ⟨content, chunks, finalised⟩ := faithful_serveCalls ing calls d member ready
    have valid := finalised.valid ⟨0, 0, .viewer⟩
    exact ⟨content, chunks, extracted_of_validatedChunks valid, finalised⟩
  · intro rk postgresql query hit member d stored same
    obtain ⟨c, -, d', stored', -, owner, -, -, ready⟩ := search_ready member
    have unique := (serveCalls ing calls).wf.documentId
    have twin : d = d' := List.inj_on_of_nodup_map unique stored stored' (same.trans owner)
    rw [twin]
    exact ready

end CoolProof.Documents
