import CoolProof.DocumentFidelity
import CoolProof.Library.UnitOfWork

/-! The vectors of stored chunks. A chunk waits in the session while the text that writes its
vector is already sent, so the text meets no row, and all chunks are committed without one. -/

namespace CoolProof.Documents
open JsonDocument UnitOfWork Uuid Models Tables

/-! ## Finalisation in a session -/

/-- A row of `document_chunks`, with the vector column that the mapped class does not have. -/
structure ChunkRow (V : Type) where
  chunk : DocumentChunk
  vector : Option V

variable {V : Type}

/-- `UPDATE document_chunks SET embedding_vector = ... WHERE id = :id` -/
def writeVector (id : UUID) (vector : V) (rows : List (ChunkRow V)) : List (ChunkRow V) :=
  rows.map fun row => if row.chunk.id = id then { row with vector := some vector } else row

/-- `delete(DocumentChunk).where(DocumentChunk.document_id == document.id)` -/
def deleteChunks (documentId : UUID) (rows : List (ChunkRow V)) : List (ChunkRow V) :=
  rows.filter fun row => row.chunk.documentId ≠ documentId

/-- One turn of the loop over the chunks; `vectorOf` is what the cast makes of an embedding. -/
def chunkCommands (ing : Ingestion) (postgresql : Bool) (vectorOf : List FloatLiteral → V)
    (document : Document) (newIds : Nat → UUID) (chunk : PageText × Nat) :
    List (Command (ChunkRow V)) :=
  if postgresql then
    [.add ⟨newChunk ing document newIds chunk, none⟩,
      .textual (writeVector (newIds chunk.2) (vectorOf (ing.embedText chunk.1.2)))]
  else [.add ⟨newChunk ing document newIds chunk, none⟩]

def finalizeCommands (ing : Ingestion) (postgresql : Bool) (vectorOf : List FloatLiteral → V)
    (document : Document) (newIds : Nat → UUID) (chunks : List PageText) :
    List (Command (ChunkRow V)) :=
  .mapped (deleteChunks document.id) ::
    (chunks.zipIdx.flatMap (chunkCommands ing postgresql vectorOf document newIds) ++ [.commit])

/-- `finalize_document` on the chunk rows: the session after it and the number of chunks. An
error of the checks comes first; `none` is one of the database. -/
def finalizeDocument (ing : Ingestion) (postgresql : Bool) (vectorOf : List FloatLiteral → V)
    (valid : List (ChunkRow V) → Bool) (s : Session (ChunkRow V)) (document : Document)
    (content : Bytes) (newIds : Nat → UUID) :
    Except String (Option (Session (ChunkRow V) × Nat)) :=
  (documentChunks ing document content).map fun chunks =>
    (execAll valid s (finalizeCommands ing postgresql vectorOf document newIds chunks)).map
      fun t => (t, chunks.length)

/-- What the native query asks of the chunks of a document: `embedding_vector IS NOT NULL`. -/
def nativeChunks (documentId : UUID) (rows : List (ChunkRow V)) : List DocumentChunk :=
  (rows.filter fun row => row.chunk.documentId = documentId && row.vector.isSome).map
    ChunkRow.chunk

/-- Every chunk of a document has its embedding as a vector. -/
def VectorsWritten (vectorOf : List FloatLiteral → V) (documentId : UUID)
    (rows : List (ChunkRow V)) : Prop :=
  ∀ row ∈ rows, row.chunk.documentId = documentId →
    row.vector = row.chunk.embedding.map vectorOf

/-! ## What is committed -/

/-- The rows that wait at the end of the loop. -/
def newRows (ing : Ingestion) (document : Document) (newIds : Nat → UUID)
    (chunks : List PageText) : List (ChunkRow V) :=
  (newChunks ing document chunks newIds).map fun chunk => ⟨chunk, none⟩

section Committed

variable {ing : Ingestion} {postgresql : Bool} {vectorOf : List FloatLiteral → V}
  {valid : List (ChunkRow V) → Bool} {s t : Session (ChunkRow V)} {document : Document}
  {newIds : Nat → UUID} {chunks : List PageText}

theorem writeVector_map_chunk (id : UUID) (vector : V) (rows : List (ChunkRow V)) :
    (writeVector id vector rows).map ChunkRow.chunk = rows.map ChunkRow.chunk := by
  rw [writeVector, List.map_map]
  apply List.map_congr_left
  intro row _
  rw [Function.comp_apply]
  split <;> rfl

theorem newRows_map_chunk : (newRows (V := V) ing document newIds chunks).map ChunkRow.chunk =
    newChunks ing document chunks newIds := by
  rw [newRows, List.map_map]
  exact List.map_id _

theorem mem_newRows {row : ChunkRow V} (member : row ∈ newRows ing document newIds chunks) :
    row.chunk.documentId = document.id ∧ row.vector = none ∧ row.chunk.embedding.isSome := by
  obtain ⟨chunk, made, rfl⟩ := List.mem_map.mp member
  obtain ⟨item, -, rfl⟩ := List.mem_map.mp made
  exact ⟨rfl, rfl, rfl⟩

/-- The loop leaves the chunks of all rows in the table as they are, and its own rows wait. -/
theorem execAll_chunkCommands (ing : Ingestion) (postgresql : Bool)
    (vectorOf : List FloatLiteral → V) (valid : List (ChunkRow V) → Bool) (document : Document)
    (newIds : Nat → UUID) (chunks : List PageText) (rows : List (ChunkRow V)) :
    ∃ rows', execAll valid ⟨rows, []⟩
        (chunks.zipIdx.flatMap (chunkCommands ing postgresql vectorOf document newIds)) =
      some ⟨rows', newRows ing document newIds chunks⟩ ∧
      rows'.map ChunkRow.chunk = rows.map ChunkRow.chunk := by
  have waiting : chunks.zipIdx.map (fun chunk =>
      (⟨newChunk ing document newIds chunk, none⟩ : ChunkRow V)) =
        newRows ing document newIds chunks := by
    rw [newRows, newChunks, List.map_map]
    rfl
  cases postgresql with
  | true =>
    refine ⟨_, ?_, map_foldl_statements ChunkRow.chunk chunks.zipIdx
      (fun chunk => writeVector (newIds chunk.2) (vectorOf (ing.embedText chunk.1.2)))
      (fun chunk rows => writeVector_map_chunk _ _ rows) rows⟩
    rw [← waiting]
    exact execAll_add_textual ⟨rows, []⟩ chunks.zipIdx _ _
  | false =>
    refine ⟨rows, ?_, rfl⟩
    rw [← waiting]
    exact execAll_add ⟨rows, []⟩ chunks.zipIdx _

/-- A finalisation commits the rows of other documents with their chunks as they were, and
after them the new rows without vectors. -/
theorem committed_rows (committed : execAll valid s
      (finalizeCommands ing postgresql vectorOf document newIds chunks) = some t) :
    ∃ others, t.rows = others ++ newRows ing document newIds chunks ∧
      others.map ChunkRow.chunk =
        (deleteChunks document.id (s.rows ++ s.pending)).map ChunkRow.chunk := by
  rw [finalizeCommands, execAll] at committed
  obtain ⟨deleted, mapped, rest⟩ := Option.bind_eq_some_iff.mp committed
  obtain ⟨flushed, done, rfl⟩ := Option.map_eq_some_iff.mp mapped
  rw [flush_some done, execAll_append] at rest
  obtain ⟨rows, loop, same⟩ := execAll_chunkCommands ing postgresql vectorOf valid document
    newIds chunks (deleteChunks document.id (s.rows ++ s.pending))
  rw [loop, Option.bind_some, execAll] at rest
  obtain ⟨last, stop, finished⟩ := Option.bind_eq_some_iff.mp rest
  cases finished
  rw [flush_some stop]
  exact ⟨rows, rfl, same⟩

/-- The rows of the document after it, which are the new ones. -/
theorem committed_own_rows (committed : execAll valid s
      (finalizeCommands ing postgresql vectorOf document newIds chunks) = some t) :
    (t.rows.filter fun row => row.chunk.documentId = document.id) =
      newRows ing document newIds chunks := by
  obtain ⟨others, rows, kept⟩ := committed_rows committed
  have foreign : ∀ row ∈ others, row.chunk.documentId ≠ document.id := by
    intro row member
    have same : row.chunk ∈ (deleteChunks document.id (s.rows ++ s.pending)).map
        ChunkRow.chunk := kept ▸ List.mem_map_of_mem member
    obtain ⟨old, survived, chunk⟩ := List.mem_map.mp same
    rw [← chunk]
    exact of_decide_eq_true (List.mem_filter.mp survived).2
  have none : (others.filter fun row => row.chunk.documentId = document.id) = [] := by
    rw [List.filter_eq_nil_iff]
    intro row member own
    exact foreign row member (of_decide_eq_true own)
  have all : ((newRows ing document newIds chunks).filter fun row : ChunkRow V =>
      row.chunk.documentId = document.id) = newRows ing document newIds chunks := by
    rw [List.filter_eq_self]
    intro row member
    exact decide_eq_true (mem_newRows member).1
  rw [rows, List.filter_append, none, all, List.nil_append]

theorem committed_without_vectors (committed : execAll valid s
      (finalizeCommands ing postgresql vectorOf document newIds chunks) = some t) :
    ∀ row ∈ t.rows, row.chunk.documentId = document.id → row.vector = none := by
  intro row member same
  have new : row ∈ newRows ing document newIds chunks :=
    committed_own_rows committed ▸ List.mem_filter.mpr ⟨member, decide_eq_true same⟩
  exact (mem_newRows new).2.1

theorem not_vectorsWritten (committed : execAll valid s
      (finalizeCommands ing postgresql vectorOf document newIds chunks) = some t)
    (positive : 1 ≤ chunks.length) : ¬VectorsWritten vectorOf document.id t.rows := by
  intro written
  have length : (newRows (V := V) ing document newIds chunks).length = chunks.length := by
    rw [newRows, List.length_map, newChunks, List.length_map, List.length_zipIdx]
  obtain ⟨row, member⟩ := List.exists_mem_of_length_pos (length ▸ positive)
  obtain ⟨same, none, embedded⟩ := mem_newRows member
  have stored : row ∈ t.rows := (List.mem_filter.mp (committed_own_rows committed ▸ member)).1
  have equal := written row stored same
  rw [none] at equal
  rw [Option.map_eq_none_iff.mp equal.symm] at embedded
  cases embedded

/-- The chunks in the table are those of the finalisation without vectors. -/
theorem committed_chunks (tables : CatalogueTables) (content : Bytes)
    (stored : (s.rows ++ s.pending).map ChunkRow.chunk = tables.chunks)
    (committed : execAll valid s
      (finalizeCommands ing postgresql vectorOf document newIds chunks) = some t) :
    t.rows.map ChunkRow.chunk =
      (finalizedTables ing tables document content chunks newIds).chunks := by
  obtain ⟨others, rows, kept⟩ := committed_rows committed
  have deleted : (deleteChunks document.id (s.rows ++ s.pending)).map ChunkRow.chunk =
      tables.chunks.filter fun c => c.documentId ≠ document.id := by
    rw [← stored, deleteChunks, List.filter_map]
    rfl
  rw [rows, List.map_append, kept, deleted, newRows_map_chunk]
  rfl

theorem finalizeDocument_ok {content : Bytes} {n : Nat}
    (done : finalizeDocument ing postgresql vectorOf valid s document content newIds =
      .ok (some (t, n))) :
    ∃ chunks, documentChunks ing document content = .ok chunks ∧ chunks.length = n ∧
      execAll valid s (finalizeCommands ing postgresql vectorOf document newIds chunks) =
        some t := by
  unfold finalizeDocument at done
  cases split : documentChunks ing document content with
  | error text =>
    rw [split] at done
    cases done
  | ok chunks =>
    rw [split] at done
    obtain ⟨u, committed, same⟩ := Option.map_eq_some_iff.mp (Except.ok.inj done)
    obtain ⟨rfl, rfl⟩ := Prod.mk.inj same
    exact ⟨chunks, rfl, rfl, committed⟩

end Committed

/-- On PostgreSQL a finalisation with chunks commits every one of them, and every one of them
without a vector, so the native query meets none of them. -/
theorem no_vector_is_written (ing : Ingestion) (vectorOf : List FloatLiteral → V)
    (valid : List (ChunkRow V) → Bool) (s t : Session (ChunkRow V)) (document : Document)
    (content : Bytes) (newIds : Nat → UUID) (n : Nat) (positive : 1 ≤ n)
    (done : finalizeDocument ing true vectorOf valid s document content newIds =
      .ok (some (t, n))) :
    (∃ chunks, documentChunks ing document content = .ok chunks ∧ chunks.length = n ∧
      ((t.rows.filter fun row => row.chunk.documentId = document.id).map ChunkRow.chunk) =
        newChunks ing document chunks newIds) ∧
    (∀ row ∈ t.rows, row.chunk.documentId = document.id → row.vector = none) ∧
    nativeChunks document.id t.rows = [] ∧ ¬VectorsWritten vectorOf document.id t.rows := by
  obtain ⟨chunks, split, rfl, committed⟩ := finalizeDocument_ok done
  have without := committed_without_vectors committed
  refine ⟨⟨chunks, split, rfl, ?_⟩, without, ?_, not_vectorsWritten committed positive⟩
  · rw [committed_own_rows committed, newRows_map_chunk]
  · rw [nativeChunks, List.map_eq_nil_iff, List.filter_eq_nil_iff]
    intro row member both
    rw [Bool.and_eq_true, decide_eq_true_eq] at both
    rw [without row member both.1] at both
    exact Bool.false_ne_true both.2

/-! ## One word -/

/-- A text document of one word, still without chunks. -/
def wordDocument : Document :=
  ⟨5, 1, none, "word.txt", "text/plain", "organizations/1/documents/5/word.txt", "digest",
    .pending, [], 1⟩

/-- The embedding of every text is a unit vector. -/
def unitIngestion : Ingestion where
  pdfPages _ := none
  casefold := id
  embedText _ := [.one]
  sha256 _ := "digest"
  storable _ := true

def wordRow : ChunkRow (List FloatLiteral) :=
  ⟨newChunk unitIngestion wordDocument (fun _ => 7) ((none, "a"), 0), none⟩

theorem finalizeDocument_word :
    finalizeDocument unitIngestion true id (fun _ => true) ⟨[], []⟩ wordDocument [0x61]
      (fun _ => 7) = .ok (some (⟨[wordRow], []⟩, 1)) := by
  have split : documentChunks unitIngestion wordDocument [0x61] = .ok [(none, "a")] := by decide
  rw [finalizeDocument, split]
  rfl

/-- After a finalisation of the text "a" its chunk has an embedding and no vector. -/
theorem vectors_need_not_be_written :
    ¬ ∀ (ing : Ingestion) (vectorOf : List FloatLiteral → List FloatLiteral)
      (valid : List (ChunkRow (List FloatLiteral)) → Bool)
      (s t : Session (ChunkRow (List FloatLiteral))) (document : Document) (content : Bytes)
      (newIds : Nat → UUID) (n : Nat), 1 ≤ n →
      finalizeDocument ing true vectorOf valid s document content newIds = .ok (some (t, n)) →
      VectorsWritten vectorOf document.id t.rows := by
  intro claimed
  have written := claimed _ _ _ _ _ _ _ _ 1 (le_refl 1) finalizeDocument_word
  have vector := written wordRow (List.mem_singleton.mpr rfl) rfl
  cases vector

theorem no_vector_is_written_word :
    nativeChunks wordDocument.id [wordRow] = [] ∧
      ¬VectorsWritten id wordDocument.id [wordRow] := by
  have stated := no_vector_is_written _ _ _ _ _ _ _ _ 1 (le_refl 1) finalizeDocument_word
  exact ⟨stated.2.2.1, stated.2.2.2⟩

end CoolProof.Documents
