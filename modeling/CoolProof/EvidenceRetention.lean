import CoolProof.DocumentFidelity

/-! Finalising a document again. The chunks are deleted and written anew, and the evidence
on a deleted chunk goes with it, so the same bytes leave the same texts but keep only what
cites no chunk of the document. -/

namespace CoolProof.Documents
open JsonDocument Uuid Models Tables

/-- The document is ready with the ordinals and texts it had, and the evidence on its chunks
is still there, on a chunk of the document with the text it cited. -/
structure Retained (s t : CatalogueTables) (d : Document) : Prop where
  ready : ∃ d' ∈ t.documents, d'.id = d.id ∧ d'.status = .ready
  chunks : ((t.chunksOf d.id).map fun c => (c.ordinal, c.text)) =
    (s.chunksOf d.id).map fun c => (c.ordinal, c.text)
  evidence : ∀ e ∈ s.evidence, ∀ c ∈ s.chunksOf d.id, c.id = e.chunkId →
    e ∈ t.evidence ∧ ∃ c' ∈ t.chunksOf d.id, c'.id = e.chunkId ∧ c'.text = c.text

/-- No evidence cites a chunk of the document. -/
def Uncited (t : CatalogueTables) (d : Document) : Prop :=
  ∀ e ∈ t.evidence, ∀ c ∈ t.chunksOf d.id, c.id ≠ e.chunkId

/-- The ids drawn for the chunks are new. -/
structure FreshIds (t : CatalogueTables) (newIds : Nat → UUID) (count : Nat) : Prop where
  distinct : ∀ i j, i < count → j < count → newIds i = newIds j → i = j
  unused : ∀ i, i < count → ∀ c ∈ t.chunks, c.id ≠ newIds i

/-- The bytes a finalisation works on: the text of the request, or what the storage has. -/
def contentOf (request : FinalizeDocumentRequest) (env : FinalizeEnv) : Option Bytes :=
  match request.text with
  | some text => some (encodeUtf8 text)
  | none => if env.bucket then env.fetched else none

/-! ## The database takes it -/

theorem mem_newChunks {ing : Ingestion} {document : Document} {chunks : List PageText}
    {newIds : Nat → UUID} {c : DocumentChunk} (member : c ∈ newChunks ing document chunks newIds) :
    c.documentId = document.id ∧ c.ordinal < chunks.length ∧ c.id = newIds c.ordinal := by
  obtain ⟨⟨chunk, k⟩, listed, rfl⟩ := List.mem_map.mp member
  have bound : k < chunks.length := by simpa using List.snd_lt_of_mem_zipIdx listed
  exact ⟨rfl, bound, rfl⟩

theorem ordinals_newChunks (ing : Ingestion) (document : Document) (chunks : List PageText)
    (newIds : Nat → UUID) :
    (newChunks ing document chunks newIds).map DocumentChunk.ordinal =
      List.range chunks.length := by
  rw [newChunks, List.map_map, List.range_eq_range', ← List.zipIdx_map_snd 0 chunks]
  rfl

theorem ordinals_nodup (ing : Ingestion) (document : Document) (chunks : List PageText)
    (newIds : Nat → UUID) :
    ((newChunks ing document chunks newIds).map DocumentChunk.ordinal).Nodup := by
  rw [ordinals_newChunks]
  exact List.nodup_range

/-- The chunks of the other documents. -/
theorem mem_otherChunks {t : CatalogueTables} {d : Document} {c : DocumentChunk}
    (member : c ∈ t.chunks.filter fun c => c.documentId ≠ d.id) :
    c ∈ t.chunks ∧ c.documentId ≠ d.id := by
  obtain ⟨old, other⟩ := List.mem_filter.mp member
  exact ⟨old, of_decide_eq_true other⟩

theorem chunkIds_finalized (ing : Ingestion) (s : CatalogueStore) (d : Document)
    {chunks : List PageText} {newIds : Nat → UUID}
    (fresh : FreshIds s.toCatalogueTables newIds chunks.length) :
    (((s.chunks.filter fun c => c.documentId ≠ d.id) ++
      newChunks ing d chunks newIds).map DocumentChunk.id).Nodup := by
  have ordinals := ordinals_nodup ing d chunks newIds
  rw [List.map_append, List.nodup_append]
  refine ⟨s.wf.chunkId.sublist (List.filter_sublist.map _), ?_, ?_⟩
  · rw [List.nodup_map_iff_inj_on (List.Nodup.of_map _ ordinals)]
    intro a inA b inB same
    obtain ⟨-, boundA, idA⟩ := mem_newChunks inA
    obtain ⟨-, boundB, idB⟩ := mem_newChunks inB
    have equal := fresh.distinct _ _ boundA boundB (idA ▸ idB ▸ same)
    exact List.inj_on_of_nodup_map ordinals inA inB equal
  · rintro id old id' new rfl
    obtain ⟨c, member, rfl⟩ := List.mem_map.mp old
    obtain ⟨c', member', same⟩ := List.mem_map.mp new
    obtain ⟨-, bound, drawn⟩ := mem_newChunks member'
    exact fresh.unused _ bound c (mem_otherChunks member).1 (same.symm.trans drawn)

theorem chunkOrdinals_finalized (ing : Ingestion) (s : CatalogueStore) (d : Document)
    (chunks : List PageText) (newIds : Nat → UUID) :
    (((s.chunks.filter fun c => c.documentId ≠ d.id) ++
      newChunks ing d chunks newIds).map fun c => (c.documentId, c.ordinal)).Nodup := by
  rw [List.map_append, List.nodup_append]
  refine ⟨s.wf.chunkOrdinal.sublist (List.filter_sublist.map _), ?_, ?_⟩
  · refine List.Nodup.of_map Prod.snd ?_
    rw [List.map_map]
    exact ordinals_nodup ing d chunks newIds
  · rintro key old key' new rfl
    obtain ⟨c, member, rfl⟩ := List.mem_map.mp old
    obtain ⟨c', member', same⟩ := List.mem_map.mp new
    have owner : c'.documentId = c.documentId := congrArg Prod.fst same
    exact (mem_otherChunks member).2 (owner ▸ (mem_newChunks member').1)

/-- Evidence that is kept cites a chunk that is kept. -/
theorem evidenceChunks_finalized (ing : Ingestion) (s : CatalogueStore) (d : Document)
    (content : Bytes) (chunks : List PageText) (newIds : Nat → UUID) :
    ∀ e ∈ (finalizedTables ing s.toCatalogueTables d content chunks newIds).evidence,
      e.chunkId ∈ ((s.chunks.filter fun c => c.documentId ≠ d.id) ++
        newChunks ing d chunks newIds).map DocumentChunk.id := by
  intro e member
  obtain ⟨inEvidence, uncited⟩ := List.mem_filter.mp member
  obtain ⟨c, inChunks, same⟩ := List.mem_map.mp (s.wf.evidenceChunk e inEvidence)
  have other : c.documentId ≠ d.id := other_of_uncited uncited inChunks same
  rw [← same]
  exact List.mem_map_of_mem (List.mem_append_left _
    (List.mem_filter.mpr ⟨inChunks, decide_eq_true other⟩))

theorem finalizedTables_constraints (ing : Ingestion) (s : CatalogueStore) {d : Document}
    (stored : s.document d.id = some d) (content : Bytes) {chunks : List PageText}
    {newIds : Nat → UUID} (fresh : FreshIds s.toCatalogueTables newIds chunks.length) :
    (finalizedTables ing s.toCatalogueTables d content chunks newIds).Constraints := by
  have wf := s.wf
  have documentIds : (finalizedTables ing s.toCatalogueTables d content chunks newIds).documents.map
      Document.id = s.documents.map Document.id := map_update ..
  have known : d.id ∈ s.documents.map Document.id := List.mem_map_of_mem (find_some stored).1
  have keys : (finalizedTables ing s.toCatalogueTables d content chunks newIds).documents.map
      Document.s3Key = s.documents.map Document.s3Key := by
    refine map_update_of_eq fun r member same => ?_
    have twin : r = d :=
      List.inj_on_of_nodup_map wf.documentId member (find_some stored).1 same
    rw [twin]
    rfl
  refine ⟨documentIds ▸ wf.documentId, keys ▸ wf.objectKey, chunkIds_finalized ing s d fresh,
    chunkOrdinals_finalized ing s d chunks newIds, ?_, wf.interventionId,
    documentIds ▸ wf.interventionDocument, ?_, ?_, ?_, ?_,
    evidenceChunks_finalized ing s d content chunks newIds⟩
  · intro c member
    rw [documentIds]
    rcases List.mem_append.mp member with old | new
    · exact wf.chunkDocument c (mem_otherChunks old).1
    · rw [(mem_newChunks new).1]
      exact known
  · exact wf.evidenceId.sublist (List.filter_sublist.map _)
  · exact wf.evidenceUnique.sublist (List.filter_sublist.map _)
  · intro e member
    exact wf.evidenceIntervention e (List.mem_of_mem_filter member)
  · intro e member
    rw [documentIds]
    exact wf.evidenceDocument e (List.mem_of_mem_filter member)

/-! ## Finalising again -/

/-- The same bytes are finalised again; nothing stands in the way of the commit. -/
theorem finalize_again {ing : Ingestion} {s : CatalogueStore} {tenant : TenantContext}
    {d : Document} {request : FinalizeDocumentRequest} {env : FinalizeEnv} {content : Bytes}
    {chunks : List PageText} (stored : s.document d.id = some d)
    (finalised : Finalised ing s.toCatalogueTables d content chunks)
    (role : mayWrite tenant = true) (owner : d.organizationId = tenant.organizationId)
    (body : request.validBody = true) (same : contentOf request env = some content)
    (fresh : FreshIds s.toCatalogueTables env.newIds chunks.length) :
    (finalize ing s tenant d.id request env).1.toCatalogueTables =
      finalizedTables ing s.toCatalogueTables d content chunks env.newIds := by
  have taken := finalizedTables_constraints ing s stored content fresh
  have written : (finalizeContent ing s tenant d content env.newIds).1.toCatalogueTables =
      finalizedTables ing s.toCatalogueTables d content chunks env.newIds := by
    rw [finalizeContent, finalised.valid tenant]
    dsimp only [CatalogueStore.save]
    rw [dif_pos ⟨taken, finalised.storable⟩]
  unfold finalize
  rw [role, body, stored]
  dsimp only
  rw [if_neg (by decide), if_neg (by decide), if_neg (not_not.mpr owner)]
  cases given : request.text with
  | some text =>
    have encoded : encodeUtf8 text = content := by
      simpa [contentOf, given] using same
    dsimp only
    rw [encoded]
    exact written
  | none =>
    have fetched : env.bucket = true ∧ env.fetched = some content := by
      simpa [contentOf, given] using same
    dsimp only
    rw [fetched.1, if_neg (by decide), fetched.2]
    exact written

theorem Finalised.numbered {ing : Ingestion} {t : CatalogueTables} {d : Document}
    {content : Bytes} {chunks : List PageText} (finalised : Finalised ing t d content chunks) :
    ((t.chunksOf d.id).map fun c => (c.ordinal, c.text)) =
      (List.range chunks.length).zip (chunks.map Prod.snd) := by
  have texts : (t.chunksOf d.id).map DocumentChunk.text = chunks.map Prod.snd := by
    rw [← finalised.texts, List.map_map]
    rfl
  rw [← finalised.ordinals, ← texts, List.zip_map']

/-- Finalising a ready document again with the same bytes keeps it ready with the same
texts, and keeps the evidence exactly when none cites one of its chunks. -/
theorem evidence_retained_iff {ing : Ingestion} {s : CatalogueStore} {tenant : TenantContext}
    {d : Document} {request : FinalizeDocumentRequest} {env : FinalizeEnv} {content : Bytes}
    {chunks : List PageText} (stored : s.document d.id = some d)
    (finalised : Finalised ing s.toCatalogueTables d content chunks)
    (role : mayWrite tenant = true) (owner : d.organizationId = tenant.organizationId)
    (body : request.validBody = true) (same : contentOf request env = some content)
    (fresh : FreshIds s.toCatalogueTables env.newIds chunks.length) :
    Retained s.toCatalogueTables (finalize ing s tenant d.id request env).1.toCatalogueTables d ↔
      Uncited s.toCatalogueTables d := by
  have valid := finalised.valid tenant
  rw [finalize_again stored finalised role owner body same fresh]
  constructor
  · intro retained e cites c member points
    have kept := (retained.evidence e cites c member points).1
    obtain ⟨inChunks, own⟩ := List.mem_filter.mp member
    obtain ⟨-, uncited⟩ := List.mem_filter.mp kept
    exact other_of_uncited uncited inChunks points (of_decide_eq_true own)
  · intro uncited
    have again := finalised_self s.toCatalogueTables env.newIds valid finalised.storable
      finalised.nonempty
    refine ⟨?_, ?_, ?_⟩
    · refine ⟨finalizedDocument ing d content chunks, ?_, rfl, ?_⟩
      · exact List.mem_map.mpr ⟨d, (find_some stored).1, if_pos rfl⟩
      · exact if_neg (by simpa using finalised.nonempty)
    · exact again.numbered.trans finalised.numbered.symm
    · intro e cites c member points
      exact absurd points (uncited e cites c member)

/-! ### A paper of one page, cited once -/

/-- The reader finds one word on one page. -/
def roofsIngestion : Ingestion where
  pdfPages _ := some ["Roofs"]
  casefold := id
  embedText _ := []
  sha256 _ := "digest"
  storable _ := true

def roofsManager : TenantContext := ⟨1, 2, .manager⟩

def roofsTexts : List PageText := [(some 1, "Roofs")]

def roofsPaper : Document :=
  finalizedDocument roofsIngestion
    (newDocument roofsManager ⟨"roofs.pdf", "application/pdf", none⟩ 3) pdfMagic roofsTexts

def roofsTables : CatalogueTables where
  documents := [roofsPaper]
  chunks := newChunks roofsIngestion roofsPaper roofsTexts fun _ => 4
  interventions :=
    [newIntervention roofsManager ⟨"Cool roofs", "roof", .one, .one, ["residential"], none⟩ 5]
  evidence := []

def citedTables : CatalogueTables :=
  { roofsTables with evidence := [newEvidence roofsManager 5 ⟨3, 4, "Roofs cool", none, []⟩ 6 0] }

/-- Another paper of the organization. -/
def streetsPaper : Document :=
  finalizedDocument roofsIngestion
    (newDocument roofsManager ⟨"streets.pdf", "application/pdf", none⟩ 8) pdfMagic roofsTexts

/-- The other paper is the one that is cited. -/
def streetsTables : CatalogueTables :=
  { roofsTables with
    documents := [roofsPaper, streetsPaper]
    chunks := roofsTables.chunks ++ newChunks roofsIngestion streetsPaper roofsTexts fun _ => 9
    evidence := [newEvidence roofsManager 5 ⟨8, 9, "Streets cool", none, []⟩ 6 0] }

def citedStore : CatalogueStore where
  toCatalogueTables := citedTables
  wf := by
    constructor <;> simp [citedTables, roofsTables, newChunks, newChunk, roofsTexts,
      newIntervention, newEvidence, roofsPaper, finalizedDocument, newDocument]

def streetsStore : CatalogueStore where
  toCatalogueTables := streetsTables
  wf := by
    have keys : roofsPaper.s3Key ≠ streetsPaper.s3Key := by decide +kernel
    constructor <;> simp_all [streetsTables, roofsTables, newChunks, newChunk, roofsTexts,
      newIntervention, newEvidence, roofsPaper, streetsPaper, finalizedDocument, newDocument]

/-- The stored bytes are fetched, and the next chunk gets a new id. -/
def roofsEnv : FinalizeEnv := ⟨true, some pdfMagic, fun _ => 7⟩

theorem roofs_valid : validatedChunks roofsIngestion roofsManager roofsPaper pdfMagic =
    .ok roofsTexts := by
  obtain ⟨upload, prepared⟩ : ∃ upload, prepareUpload roofsIngestion.sha256
      roofsManager.organizationId roofsPaper.id roofsPaper.filename pdfMagic
      roofsPaper.contentType = .ok upload := ⟨_, rfl⟩
  have extracted : documentChunks roofsIngestion roofsPaper pdfMagic = .ok roofsTexts := by decide
  rw [validatedChunks, prepared]
  exact extracted

theorem roofs_finalised {t : CatalogueTables}
    (same : t.chunksOf roofsPaper.id = roofsTables.chunksOf roofsPaper.id) :
    Finalised roofsIngestion t roofsPaper pdfMagic roofsTexts := by
  have finalised : Finalised roofsIngestion roofsTables roofsPaper pdfMagic roofsTexts :=
    ⟨validatedChunks_of_contentType roofs_valid rfl, rfl, rfl, by decide, rfl, rfl, by decide,
      by decide⟩
  exact finalised.of_chunks same

theorem roofs_fresh {t : CatalogueTables} (unused : ∀ c ∈ t.chunks, c.id ≠ 7) :
    FreshIds t roofsEnv.newIds roofsTexts.length where
  distinct i j hi hj _ := by
    simp only [roofsTexts, List.length_singleton] at hi hj
    omega
  unused _ _ := unused

theorem roofs_body : FinalizeDocumentRequest.validBody ⟨none⟩ = true :=
  decide_eq_true (Nat.zero_le _)

/-- Only the other paper is cited: finalising this one again loses nothing. -/
theorem evidence_retained_iff_uncited :
    streetsStore.evidence.length = 1 ∧
    Retained streetsTables (finalize roofsIngestion streetsStore roofsManager roofsPaper.id ⟨none⟩
      roofsEnv).1.toCatalogueTables roofsPaper := by
  have stored : streetsStore.document roofsPaper.id = some roofsPaper := rfl
  have finalised : Finalised roofsIngestion streetsStore.toCatalogueTables roofsPaper pdfMagic
      roofsTexts := roofs_finalised rfl
  have fresh : FreshIds streetsStore.toCatalogueTables roofsEnv.newIds roofsTexts.length :=
    roofs_fresh (by decide)
  have uncited : Uncited streetsStore.toCatalogueTables roofsPaper := by
    unfold Uncited
    decide
  exact ⟨rfl, (evidence_retained_iff stored finalised rfl rfl roofs_body rfl fresh).mpr uncited⟩

/-- Once it is cited, finalising it again deletes the evidence. -/
theorem evidence_destroyed :
    citedStore.evidence.length = 1 ∧
    (finalize roofsIngestion citedStore roofsManager roofsPaper.id ⟨none⟩ roofsEnv).1.evidence =
      [] ∧
    ¬ ∀ (ing : Ingestion) (s : CatalogueStore) (tenant : TenantContext) (d : Document)
        (request : FinalizeDocumentRequest) (env : FinalizeEnv) (content : Bytes)
        (chunks : List PageText), s.document d.id = some d →
        Finalised ing s.toCatalogueTables d content chunks → mayWrite tenant = true →
        d.organizationId = tenant.organizationId → request.validBody = true →
        contentOf request env = some content →
        FreshIds s.toCatalogueTables env.newIds chunks.length →
        Retained s.toCatalogueTables (finalize ing s tenant d.id request env).1.toCatalogueTables
          d := by
  have stored : citedStore.document roofsPaper.id = some roofsPaper := rfl
  have finalised : Finalised roofsIngestion citedStore.toCatalogueTables roofsPaper pdfMagic
      roofsTexts := roofs_finalised rfl
  have fresh : FreshIds citedStore.toCatalogueTables roofsEnv.newIds roofsTexts.length :=
    roofs_fresh (by decide)
  have fetched : contentOf ⟨none⟩ roofsEnv = some pdfMagic := rfl
  have role : mayWrite roofsManager = true := rfl
  have again := finalize_again stored finalised role rfl roofs_body fetched fresh
  have gone : (finalize roofsIngestion citedStore roofsManager roofsPaper.id ⟨none⟩
      roofsEnv).1.evidence = [] := (congrArg CatalogueTables.evidence again).trans rfl
  refine ⟨rfl, gone, fun claim => ?_⟩
  have retained := claim roofsIngestion citedStore roofsManager roofsPaper ⟨none⟩ roofsEnv
    pdfMagic roofsTexts stored finalised role rfl roofs_body fetched fresh
  have kept := (retained.evidence _ (List.mem_singleton_self _) _ (List.mem_singleton_self _)
    rfl).1
  change _ ∈ (finalize roofsIngestion citedStore roofsManager roofsPaper.id ⟨none⟩
    roofsEnv).1.evidence at kept
  rw [gone] at kept
  exact nomatch kept

end CoolProof.Documents
