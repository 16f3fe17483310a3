import CoolProof.DocumentSearch
import Mathlib.Data.Prod.Lex
import Mathlib.Data.String.Basic

/-! The portable search is a function of the ready chunks of the tenant and of the names of
their documents: neither the order in which the database returns rows nor the rows of other
tenants matter, and a smaller limit cuts the same list earlier. -/

namespace CoolProof.Documents
open PythonText Uuid Models Tables

/-! ## Rows -/

/-- The rows of the portable query, in the order of a scan. -/
def readyRows (t : CatalogueTables) (query : RetrievalQuery) : List (DocumentChunk × Document) :=
  joined t fun c d => ofTenant query c d && d.status = .ready

/-- The chunk rows that belong to ready documents of the tenant. -/
def readyChunks (t : CatalogueTables) (query : RetrievalQuery) : List DocumentChunk :=
  (readyRows t query).map Prod.fst

/-- What a row adds to the ranking: a hit, if its score is positive. -/
def hitOf (rk : Ranking) (query : RetrievalQuery) (row : DocumentChunk × Document) :
    Option Citation :=
  (rk.hybrid (matchedTerms rk query row.1).length (terms rk query).length row.1.embedding
    query.embedding).map (citation row.1 row.2)

/-- The portable path, on the rows as the database returns them. -/
def answerRows (rk : Ranking) (query : RetrievalQuery) (rows : List (DocumentChunk × Document)) :
    List Citation :=
  if (strip isBlank query.text.toList).isEmpty then []
  else ((rows.filterMap (hitOf rk query)).insertionSort ranksBefore).take (max 1 query.limit)

theorem search_eq_answerRows (rk : Ranking) (t : CatalogueTables) (query : RetrievalQuery) :
    search rk false t query = answerRows rk query (readyRows t query) := by
  unfold search answerRows
  split <;> rfl

/-! ## The sort key -/

/-- The key of the sort as a value of a linear order. -/
def rankKey (c : Citation) : ℤ ×ₗ String ×ₗ String :=
  toLex (-c.score, toLex (Uuid.toString c.documentId, Uuid.toString c.chunkId))

theorem ranksBefore_iff (a b : Citation) : ranksBefore a b ↔ rankKey a ≤ rankKey b := by
  have lower : -a.score < -b.score ↔ b.score < a.score := by omega
  have same : -a.score = -b.score ↔ b.score = a.score := by omega
  rw [rankKey, rankKey, Prod.Lex.toLex_le_toLex, Prod.Lex.toLex_le_toLex, ranksBefore]
  dsimp only
  rw [lower, same]

instance : Std.Total ranksBefore where
  total a b := by
    rw [ranksBefore_iff, ranksBefore_iff]
    exact le_total _ _

instance : IsTrans Citation ranksBefore where
  trans a b c := by
    rw [ranksBefore_iff, ranksBefore_iff, ranksBefore_iff]
    exact le_trans

/-- Hits that rank the same cite the same chunk. -/
theorem chunkId_eq_of_ranksBefore {a b : Citation} (before : ranksBefore a b)
    (after : ranksBefore b a) : a.chunkId = b.chunkId := by
  rw [ranksBefore_iff] at before after
  have same : rankKey a = rankKey b := le_antisymm before after
  have ids := congrArg (fun key => (ofLex (ofLex key).2).2) same
  exact toString_injective ids

/-- Sorted hits do not depend on their order, when each chunk is cited once. -/
theorem insertionSort_eq_of_perm {hits hits' : List Citation} (perm : hits.Perm hits')
    (once : (hits.map Citation.chunkId).Nodup) :
    hits.insertionSort ranksBefore = hits'.insertionSort ranksBefore := by
  have sameHits : (hits.insertionSort ranksBefore).Perm (hits'.insertionSort ranksBefore) :=
    (List.perm_insertionSort _ _).trans (perm.trans (List.perm_insertionSort _ _).symm)
  apply List.Perm.eq_of_pairwise _ (List.pairwise_insertionSort _ _)
    (List.pairwise_insertionSort _ _) sameHits
  intro a b inFirst inSecond before after
  have inHits : a ∈ hits := (List.mem_insertionSort _).mp inFirst
  have alsoInHits : b ∈ hits := perm.mem_iff.mpr ((List.mem_insertionSort _).mp inSecond)
  exact List.inj_on_of_nodup_map once inHits alsoInHits (chunkId_eq_of_ranksBefore before after)

/-! ## Two stores -/

/-- A chunk is joined with one document at most. -/
theorem readyRows_pairwise (s : CatalogueStore) (query : RetrievalQuery) :
    (readyRows s.toCatalogueTables query).Pairwise fun row row' => row.1.id ≠ row'.1.id := by
  rw [readyRows, joined, List.pairwise_flatMap]
  constructor
  · intro c _
    rw [List.pairwise_map]
    have ids : s.documents.Pairwise fun d e => d.id ≠ e.id := List.pairwise_map.mp s.wf.documentId
    apply (ids.filter _).imp_of_mem
    intro d e inFirst inSecond other
    have first := (List.mem_filter.mp inFirst).2
    have second := (List.mem_filter.mp inSecond).2
    simp only [Bool.and_eq_true, decide_eq_true_eq] at first second
    exact absurd (first.1.trans second.1.symm) other
  · have ids : s.chunks.Pairwise fun c d => c.id ≠ d.id := List.pairwise_map.mp s.wf.chunkId
    apply ids.imp
    intro c d other row inFirst row' inSecond
    obtain ⟨_, -, rfl⟩ := List.mem_map.mp inFirst
    obtain ⟨_, -, rfl⟩ := List.mem_map.mp inSecond
    exact other

/-- A chunk with the name of its document, which is all that a hit shows. -/
def named (row : DocumentChunk × Document) : DocumentChunk × String := (row.1, row.2.filename)

def hitOfNamed (rk : Ranking) (query : RetrievalQuery) (entry : DocumentChunk × String) :
    Option Citation :=
  (rk.hybrid (matchedTerms rk query entry.1).length (terms rk query).length entry.1.embedding
    query.embedding).map fun score =>
      ⟨entry.1.documentId, entry.1.id, entry.2, entry.1.pageNumber, entry.1.text, score⟩

theorem hitOf_eq_hitOfNamed (rk : Ranking) {query : RetrievalQuery} {t : CatalogueTables}
    {row : DocumentChunk × Document} (member : row ∈ readyRows t query) :
    hitOf rk query row = hitOfNamed rk query (named row) := by
  have same : row.2.id = row.1.documentId := (mem_joined member).2.2.1
  have shown : citation row.1 row.2 = fun score => ⟨row.1.documentId, row.1.id, row.2.filename,
      row.1.pageNumber, row.1.text, score⟩ := by
    funext score
    rw [citation, same]
  rw [hitOf, shown]
  rfl

section Stores

variable {rk : Ranking} {query : RetrievalQuery} {s t : CatalogueStore}
  {rows rows' : List (DocumentChunk × Document)}

theorem hits_eq_named (order : rows.Perm (readyRows s.toCatalogueTables query)) :
    rows.filterMap (hitOf rk query) = (rows.map named).filterMap (hitOfNamed rk query) := by
  rw [List.filterMap_map]
  exact List.filterMap_congr fun row member =>
    hitOf_eq_hitOfNamed rk (order.mem_iff.mp member)

theorem hits_once (order : rows.Perm (readyRows s.toCatalogueTables query)) :
    ((rows.filterMap (hitOf rk query)).map Citation.chunkId).Nodup := by
  have apart : rows.Pairwise fun row row' => row.1.id ≠ row'.1.id :=
    (order.pairwise_iff fun other same => other same.symm).mpr (readyRows_pairwise s query)
  rw [List.Nodup, List.pairwise_map, List.pairwise_filterMap]
  apply apart.imp
  intro row row' other hit shown hit' shown'
  obtain ⟨_, -, rfl⟩ := Option.map_eq_some_iff.mp shown
  obtain ⟨_, -, rfl⟩ := Option.map_eq_some_iff.mp shown'
  exact other

/-- The order of the rows is not seen in the answer. -/
theorem answerRows_eq_search (order : rows.Perm (readyRows s.toCatalogueTables query)) :
    answerRows rk query rows = search rk false s.toCatalogueTables query := by
  rw [search_eq_answerRows, answerRows, answerRows,
    insertionSort_eq_of_perm (order.filterMap _) (hits_once order)]

/-- Ready chunks that are the same and carry the same names give the same named rows. -/
theorem named_subset
    (sameChunks : ∀ c ∈ readyChunks s.toCatalogueTables query,
      c ∈ readyChunks t.toCatalogueTables query)
    (sameNames : ∀ row ∈ readyRows s.toCatalogueTables query,
      ∀ row' ∈ readyRows t.toCatalogueTables query, row.1 = row'.1 →
        row.2.filename = row'.2.filename) :
    (readyRows s.toCatalogueTables query).map named ⊆
      (readyRows t.toCatalogueTables query).map named := by
  intro entry member
  obtain ⟨row, inRows, rfl⟩ := List.mem_map.mp member
  have chunk := sameChunks row.1 (List.mem_map_of_mem inRows)
  obtain ⟨row', inOther, same⟩ := List.mem_map.mp chunk
  refine List.mem_map.mpr ⟨row', inOther, ?_⟩
  rw [named, named, same, sameNames row inRows row' inOther same.symm]

theorem named_nodup (s : CatalogueStore) (query : RetrievalQuery) :
    ((readyRows s.toCatalogueTables query).map named).Nodup := by
  rw [List.Nodup, List.pairwise_map]
  apply (readyRows_pairwise s query).imp
  intro row row' other same
  exact other (congrArg (fun entry => entry.1.id) same)

theorem search_congr
    (sameChunks : ∀ c, c ∈ readyChunks s.toCatalogueTables query ↔
      c ∈ readyChunks t.toCatalogueTables query)
    (sameNames : ∀ row ∈ readyRows s.toCatalogueTables query,
      ∀ row' ∈ readyRows t.toCatalogueTables query, row.1 = row'.1 →
        row.2.filename = row'.2.filename) :
    search rk false s.toCatalogueTables query = search rk false t.toCatalogueTables query := by
  have there := named_subset (fun c => (sameChunks c).mp) sameNames
  have back := named_subset (fun c => (sameChunks c).mpr)
    fun row member row' other same => (sameNames row' other row member same.symm).symm
  have perm : ((readyRows s.toCatalogueTables query).map named).Perm
      ((readyRows t.toCatalogueTables query).map named) :=
    (List.perm_ext_iff_of_nodup (named_nodup s query) (named_nodup t query)).mpr
      fun entry => ⟨fun member => there member, fun member => back member⟩
  have hits : ((readyRows s.toCatalogueTables query).filterMap (hitOf rk query)).Perm
      ((readyRows t.toCatalogueTables query).filterMap (hitOf rk query)) := by
    rw [hits_eq_named (.refl _), hits_eq_named (.refl _)]
    exact perm.filterMap _
  rw [search_eq_answerRows, search_eq_answerRows, answerRows, answerRows,
    insertionSort_eq_of_perm hits (hits_once (.refl _))]

/-- A smaller limit cuts the same list earlier. -/
theorem search_take (rk : Ranking) (t : CatalogueTables) (query : RetrievalQuery) {k m : Nat}
    (positive : 1 ≤ k) (le : k ≤ m) :
    search rk false t { query with limit := k } =
      (search rk false t { query with limit := m }).take k := by
  have few : max 1 k = k := max_eq_right positive
  have many : max 1 m = m := max_eq_right (positive.trans le)
  rw [search_eq_answerRows, search_eq_answerRows, answerRows, answerRows]
  by_cases blank : (strip isBlank query.text.toList).isEmpty = true
  · rw [if_pos blank, if_pos blank, List.take_nil]
  · rw [if_neg blank, if_neg blank, few, many, List.take_take, min_eq_left le]
    rfl

end Stores

/-- Two stores with the same ready chunks of the tenant, whose documents carry the same names,
give the same answer in whatever order the database returns their rows, and the answer with a
limit is the beginning of that with any larger one. -/
theorem portable_search_deterministic (rk : Ranking) (query : RetrievalQuery)
    (s t : CatalogueStore) (rows rows' : List (DocumentChunk × Document))
    (order : rows.Perm (readyRows s.toCatalogueTables query))
    (order' : rows'.Perm (readyRows t.toCatalogueTables query))
    (sameChunks : ∀ c, c ∈ readyChunks s.toCatalogueTables query ↔
      c ∈ readyChunks t.toCatalogueTables query)
    (sameNames : ∀ row ∈ readyRows s.toCatalogueTables query,
      ∀ row' ∈ readyRows t.toCatalogueTables query, row.1 = row'.1 →
        row.2.filename = row'.2.filename) :
    answerRows rk query rows = search rk false s.toCatalogueTables query ∧
    answerRows rk query rows = answerRows rk query rows' ∧
    ∀ k m, 1 ≤ k → k ≤ m →
      search rk false s.toCatalogueTables { query with limit := k } =
        (search rk false s.toCatalogueTables { query with limit := m }).take k := by
  have first := @answerRows_eq_search rk query s rows order
  have second := @answerRows_eq_search rk query t rows' order'
  refine ⟨first, ?_, fun k m positive le => search_take rk _ query positive le⟩
  rw [first, second, search_congr sameChunks sameNames]

/-! ## Names of documents -/

/-- One word found of one, and no embeddings. -/
def wordRanking : Ranking where
  lower := id
  casefold := id
  hybrid found _ _ _ := if found = 0 then none else some 400000
  native _ _ := none

def roofsChunk : DocumentChunk := ⟨7, 1, 5, 0, none, "roofs", "roofs", none, []⟩

def roofsNamed (filename : String) : Document :=
  ⟨5, 1, none, filename, "text/plain", "organizations/1/documents/5/roofs.txt", "digest", .ready,
    [], 1⟩

def storeNamed (filename : String) : CatalogueStore where
  documents := [roofsNamed filename]
  chunks := [roofsChunk]
  interventions := []
  evidence := []
  wf := by
    constructor <;> simp [roofsNamed, roofsChunk]

def roofsQuery : RetrievalQuery := ⟨1, "roofs", none, 8, none⟩

theorem search_storeNamed (filename : String) :
    search wordRanking false (storeNamed filename).toCatalogueTables roofsQuery =
      [⟨5, 7, filename, none, "roofs", 400000⟩] := by
  have rows : readyRows (storeNamed filename).toCatalogueTables roofsQuery =
      [(roofsChunk, roofsNamed filename)] := rfl
  have hit : hitOf wordRanking roofsQuery (roofsChunk, roofsNamed filename) =
      some ⟨5, 7, filename, none, "roofs", 400000⟩ := by
    have found : matchedTerms wordRanking roofsQuery roofsChunk = ["roofs"] := by decide
    rw [hitOf, found]
    rfl
  have asked : ¬ (strip isBlank roofsQuery.text.toList).isEmpty = true := by decide
  rw [search_eq_answerRows, rows, answerRows, if_neg asked, List.filterMap_cons_some hit]
  rfl

/-- The name of a document is shown in a hit and is not in its chunks. -/
theorem ready_chunks_do_not_determine_names :
    ¬ ∀ (rk : Ranking) (query : RetrievalQuery) (s t : CatalogueStore),
      (∀ c, c ∈ readyChunks s.toCatalogueTables query ↔
        c ∈ readyChunks t.toCatalogueTables query) →
      search rk false s.toCatalogueTables query = search rk false t.toCatalogueTables query := by
  intro claimed
  have chunks : ∀ filename,
      readyChunks (storeNamed filename).toCatalogueTables roofsQuery = [roofsChunk] :=
    fun filename => rfl
  have same := claimed wordRanking roofsQuery (storeNamed "old.txt") (storeNamed "new.txt")
    (fun c => by rw [chunks, chunks])
  rw [search_storeNamed, search_storeNamed] at same
  have names := congrArg (List.map Citation.filename) same
  exact absurd names (by decide)

/-! ## Two stores, two hits -/

def alsoRoofsChunk : DocumentChunk := ⟨8, 1, 6, 0, none, "roofs", "roofs", none, []⟩

def alsoRoofs : Document :=
  { roofsNamed "second.txt" with id := 6, s3Key := "organizations/1/documents/6/second.txt" }

/-- A chunk of another organization. -/
def foreignChunk : DocumentChunk := ⟨10, 2, 9, 0, none, "roofs", "roofs", none, []⟩

def foreignDocument : Document :=
  { roofsNamed "theirs.txt" with
    id := 9
    organizationId := 2
    s3Key := "organizations/2/documents/9/theirs.txt" }

def twoRoofs : CatalogueStore where
  documents := [roofsNamed "first.txt", alsoRoofs]
  chunks := [roofsChunk, alsoRoofsChunk]
  interventions := []
  evidence := []
  wf := by
    constructor <;> simp [roofsNamed, alsoRoofs, roofsChunk, alsoRoofsChunk]

/-- The same two chunks in another order, among rows of another organization. -/
def sharedRoofs : CatalogueStore where
  documents := [foreignDocument, alsoRoofs, roofsNamed "first.txt"]
  chunks := [alsoRoofsChunk, foreignChunk, roofsChunk]
  interventions := []
  evidence := []
  wf := by
    constructor <;>
      simp [roofsNamed, alsoRoofs, foreignDocument, roofsChunk, alsoRoofsChunk, foreignChunk]

theorem readyRows_twoRoofs : readyRows twoRoofs.toCatalogueTables roofsQuery =
    [(roofsChunk, roofsNamed "first.txt"), (alsoRoofsChunk, alsoRoofs)] := rfl

theorem readyRows_sharedRoofs : readyRows sharedRoofs.toCatalogueTables roofsQuery =
    [(alsoRoofsChunk, alsoRoofs), (roofsChunk, roofsNamed "first.txt")] := rfl

/-- Both stores answer with the same two hits of one score, and one hit is the first of them. -/
theorem portable_search_deterministic_two_stores :
    answerRows wordRanking roofsQuery (readyRows twoRoofs.toCatalogueTables roofsQuery) =
        answerRows wordRanking roofsQuery (readyRows sharedRoofs.toCatalogueTables roofsQuery) ∧
      search wordRanking false twoRoofs.toCatalogueTables { roofsQuery with limit := 1 } =
        (search wordRanking false twoRoofs.toCatalogueTables { roofsQuery with limit := 2 }).take 1 ∧
      (answerRows wordRanking roofsQuery (readyRows twoRoofs.toCatalogueTables roofsQuery)).map
        (fun hit => (hit.chunkId, hit.score)) = [(7, 400000), (8, 400000)] := by
  have sameChunks : ∀ c, c ∈ readyChunks twoRoofs.toCatalogueTables roofsQuery ↔
      c ∈ readyChunks sharedRoofs.toCatalogueTables roofsQuery := by
    intro c
    rw [readyChunks, readyChunks, readyRows_twoRoofs, readyRows_sharedRoofs]
    simp [or_comm]
  have sameNames : ∀ row ∈ readyRows twoRoofs.toCatalogueTables roofsQuery,
      ∀ row' ∈ readyRows sharedRoofs.toCatalogueTables roofsQuery, row.1 = row'.1 →
        row.2.filename = row'.2.filename := by
    rw [readyRows_twoRoofs, readyRows_sharedRoofs]
    decide
  obtain ⟨_, same, cut⟩ := portable_search_deterministic wordRanking roofsQuery twoRoofs
    sharedRoofs _ _ (.refl _) (.refl _) sameChunks sameNames
  exact ⟨same, cut 1 2 (by decide) (by decide), by decide +kernel⟩

end CoolProof.Documents
