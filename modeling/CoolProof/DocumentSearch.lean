import CoolProof.Catalogue

/-! Hybrid search over the chunks of ready documents. Scores are the interpreter's floats,
rounded to millionths; the native query of PostgreSQL compares the status with a label that
the enum type does not have, so the portable ranking answers there as well. -/

namespace CoolProof.Documents
open JsonDocument PythonText Uuid Models Tables

structure RetrievalQuery where
  organizationId : UUID
  text : String
  embedding : Option (List FloatLiteral)
  limit : Nat
  projectId : Option UUID

/-- A hit; its score counts millionths. -/
structure Citation where
  documentId : UUID
  chunkId : UUID
  filename : String
  pageNumber : Option Int
  excerpt : String
  score : Int
deriving DecidableEq

/-- What is left to the interpreter and the database: letter case, the rounded hybrid score of
a number of matched terms among all terms and of two embeddings, `none` unless it is
positive, and the score of the native query for a chunk that has a vector. -/
structure Ranking where
  lower : String → String
  casefold : String → String
  hybrid : (found terms : Nat) → Option (List FloatLiteral) → Option (List FloatLiteral) →
    Option Int
  native : RetrievalQuery → DocumentChunk → Option Int

/-- The name of a status, which is its label in the enum type of the column. -/
def statusLabel : DocumentStatus → String
  | .pending => "PENDING"
  | .ready => "READY"
  | .failed => "FAILED"

/-- The rows of a query on chunks joined with their documents. -/
def joined (t : CatalogueTables) (keep : DocumentChunk → Document → Bool) :
    List (DocumentChunk × Document) :=
  t.chunks.flatMap fun c =>
    (t.documents.filter fun d => d.id = c.documentId && keep c d).map fun d => (c, d)

def ofTenant (query : RetrievalQuery) (c : DocumentChunk) (d : Document) : Bool :=
  c.organizationId = query.organizationId && (d.organizationId = query.organizationId &&
    match query.projectId with
    | some id => decide (d.projectId = some id)
    | none => true)

def citation (c : DocumentChunk) (d : Document) (score : Int) : Citation :=
  ⟨d.id, c.id, d.filename, c.pageNumber, c.text, score⟩

/-! ## The native query -/

/-- `None` is an error of the database: the label is not one of the enum type. -/
def nativeSearch (rk : Ranking) (t : CatalogueTables) (query : RetrievalQuery) :
    Option (List Citation) :=
  if ([DocumentStatus.pending, .ready, .failed].map statusLabel).contains "ready" then
    let rows := joined t fun c d => ofTenant query c d && statusLabel d.status = "ready"
    let ranked := rows.filterMap fun row => (rk.native query row.1).map (citation row.1 row.2)
    some ((ranked.insertionSort (descending Citation.score)).take (max 1 query.limit))
  else none

/-! ## The portable ranking -/

def words (text : String) : List String := (split text.toList).map String.ofList

/-- The terms of a query and the words of a chunk that are among them. -/
def terms (rk : Ranking) (query : RetrievalQuery) : List String :=
  ((words query.text).map rk.lower).dedup

def matchedTerms (rk : Ranking) (query : RetrievalQuery) (c : DocumentChunk) : List String :=
  (terms rk query).filter fun term => (words (rk.casefold c.lexicalText)).contains term

/-- `(-score, str(document_id), str(chunk_id))`, in increasing order. -/
def ranksBefore (a b : Citation) : Prop :=
  b.score < a.score ∨ (b.score = a.score ∧
    (Uuid.toString a.documentId < Uuid.toString b.documentId ∨
      (Uuid.toString a.documentId = Uuid.toString b.documentId ∧
        Uuid.toString a.chunkId ≤ Uuid.toString b.chunkId)))

instance : DecidableRel ranksBefore := fun _ _ => inferInstanceAs (Decidable (_ ∨ _))

def portableSearch (rk : Ranking) (t : CatalogueTables) (query : RetrievalQuery) :
    List Citation :=
  let rows := joined t fun c d => ofTenant query c d && d.status = .ready
  let ranked := rows.filterMap fun row =>
    (rk.hybrid (matchedTerms rk query row.1).length (terms rk query).length row.1.embedding
      query.embedding).map (citation row.1 row.2)
  (ranked.insertionSort ranksBefore).take (max 1 query.limit)

/-- `HybridRetriever.search`; rows of the native query are an answer, no rows are not. -/
def search (rk : Ranking) (postgresql : Bool) (t : CatalogueTables) (query : RetrievalQuery) :
    List Citation :=
  if (strip isBlank query.text.toList).isEmpty then []
  else match if postgresql then nativeSearch rk t query else none with
    | some (hit :: hits) => (hit :: hits).filter fun c => 0 < c.score
    | some [] | none => portableSearch rk t query

/-! ## Where results come from -/

theorem nativeSearch_none (rk : Ranking) (t : CatalogueTables) (query : RetrievalQuery) :
    nativeSearch rk t query = none := by
  have unknown : ([DocumentStatus.pending, .ready, .failed].map statusLabel).contains "ready" =
      false := by decide
  rw [nativeSearch, if_neg (by simpa using unknown)]

theorem mem_joined {t : CatalogueTables} {keep : DocumentChunk → Document → Bool}
    {c : DocumentChunk} {d : Document} (member : (c, d) ∈ joined t keep) :
    c ∈ t.chunks ∧ d ∈ t.documents ∧ d.id = c.documentId ∧ keep c d = true := by
  obtain ⟨chunk, inChunks, paired⟩ := List.mem_flatMap.mp member
  obtain ⟨document, inDocuments, same⟩ := List.mem_map.mp paired
  cases same
  obtain ⟨stored, kept⟩ := List.mem_filter.mp inDocuments
  rw [Bool.and_eq_true, decide_eq_true_eq] at kept
  exact ⟨inChunks, stored, kept.1, kept.2⟩

/-- A result is a chunk of a ready document of the organization. -/
theorem search_ready {rk : Ranking} {postgresql : Bool} {t : CatalogueTables}
    {query : RetrievalQuery} {hit : Citation} (member : hit ∈ search rk postgresql t query) :
    ∃ c ∈ t.chunks, ∃ d ∈ t.documents, hit.chunkId = c.id ∧ hit.documentId = d.id ∧
      c.documentId = d.id ∧ d.organizationId = query.organizationId ∧ d.status = .ready := by
  have portable : hit ∈ portableSearch rk t query := by
    unfold search at member
    split at member
    · cases member
    · have native : (if postgresql then nativeSearch rk t query else none) = none := by
        rw [nativeSearch_none, ite_self]
      rw [native] at member
      exact member
  have ranked := (List.mem_insertionSort ranksBefore).mp (List.mem_of_mem_take portable)
  obtain ⟨⟨c, d⟩, row, scored⟩ := List.mem_filterMap.mp ranked
  obtain ⟨score, -, rfl⟩ := Option.map_eq_some_iff.mp scored
  obtain ⟨inChunks, inDocuments, same, kept⟩ := mem_joined row
  rw [Bool.and_eq_true, decide_eq_true_eq] at kept
  have owner : d.organizationId = query.organizationId := by
    have tenant := kept.1
    simp only [ofTenant, Bool.and_eq_true, decide_eq_true_eq] at tenant
    exact tenant.2.1
  exact ⟨c, inChunks, d, inDocuments, rfl, rfl, same.symm, owner, kept.2⟩

end CoolProof.Documents
