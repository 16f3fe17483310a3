import CoolProof.SearchDeterminism
import CoolProof.SearchWords
import Mathlib.Algebra.BigOperators.Group.List.Basic
import Mathlib.Data.List.Perm.Basic
import Mathlib.Tactic.Linarith

/-! The local embedding of a text: its runs of letters and digits are hashed to signed places of a
vector, which is then scaled. The vector holds whole numbers that a double holds exactly, and
neither it nor the lexical part of a score depends on the order of words. -/

namespace CoolProof.Documents
open JsonDocument PythonText Uuid Models Tables

/-! ## Tokens -/

/-- `[a-z0-9]` -/
def isTokenCharacter (c : Char) : Bool :=
  (0x61 ≤ c.toNat && c.toNat ≤ 0x7A) || (0x30 ≤ c.toNat && c.toNat ≤ 0x39)

/-- `re.findall(r"[a-z0-9]+", text)` -/
def tokens (text : List Char) : List (List Char) :=
  (text.splitOnP fun c => !isTokenCharacter c).filter fun token => !token.isEmpty

theorem tokens_append {c : Char} (outside : isTokenCharacter c = false)
    (before after : List Char) : tokens (before ++ c :: after) = tokens before ++ tokens after := by
  rw [tokens, List.splitOnP_append_cons _ _ (by simp [outside]), List.filter_append]
  rfl

theorem isTokenCharacter_of_isBlank {c : Char} (blank : isBlank c = true) :
    isTokenCharacter c = false := by
  simp only [isBlank, isSpace, Bool.or_eq_true, Bool.and_eq_true, decide_eq_true_eq,
    beq_iff_eq] at blank
  simp only [isTokenCharacter, Bool.or_eq_false_iff, Bool.and_eq_false_iff, decide_eq_false_iff_not]
  omega

/-- The tokens of a text are those of its words. -/
theorem split_flatMap_tokens (text : List Char) : (split text).flatMap tokens = tokens text :=
  split_flatMap_reading rfl (fun _ blank => tokens_append (isTokenCharacter_of_isBlank blank)) text

/-! ## Embeddings -/

/-- `EMBEDDING_DIMENSIONS` -/
def embeddingDimensions : Nat := 1536

/-- The digest of a token, and the floats: a whole number, and one divided by a root. -/
structure Embedder where
  blake2b : Bytes → Bytes
  float : Int → FloatLiteral
  scaled : (value squares : Int) → FloatLiteral

/-- `int.from_bytes(bytes, "big")` -/
def fromBytes (bytes : Bytes) : Nat := bytes.foldl (fun n b => n * 256 + b.toNat) 0

def tokenDigest (e : Embedder) (token : List Char) : Bytes :=
  e.blake2b (encodeUtf8 (String.ofList token))

def tokenIndex (e : Embedder) (token : List Char) : Nat :=
  fromBytes ((tokenDigest e token).take 8) % embeddingDimensions

def tokenSign (e : Embedder) (token : List Char) : Int :=
  if ((tokenDigest e token).getD 8 0).toNat % 2 = 1 then 1 else -1

/-- `vector[index] += sign` -/
def counted (e : Embedder) (vector : List Int) (token : List Char) : List Int :=
  vector.modify (tokenIndex e token) (· + tokenSign e token)

def counts (e : Embedder) (ts : List (List Char)) : List Int :=
  ts.foldl (counted e) (List.replicate embeddingDimensions 0)

def squares (vector : List Int) : Int := (vector.map fun v => v * v).sum

/-- `embed_text` with the default dimensions. -/
def embedText (e : Embedder) (text : String) : List FloatLiteral :=
  let vector := counts e (tokens (casefold text.toList))
  if squares vector = 0 then vector.map e.float
  else vector.map fun v => e.scaled v (squares vector)

/-! ## Whole numbers -/

def magnitude (vector : List Int) : Nat := (vector.map Int.natAbs).sum

theorem natAbs_tokenSign (e : Embedder) (token : List Char) : (tokenSign e token).natAbs = 1 := by
  unfold tokenSign
  split <;> rfl

theorem magnitude_modify (vector : List Int) (i : Nat) (d : Int) :
    magnitude (vector.modify i (· + d)) ≤ magnitude vector + d.natAbs := by
  induction vector generalizing i with
  | nil => simp [magnitude]
  | cons v vector ih =>
    cases i with
    | zero =>
      have step := Int.natAbs_add_le v d
      simp only [List.modify_zero_cons, magnitude, List.map_cons, List.sum_cons]
      omega
    | succ i =>
      have later := ih i
      simp only [List.modify_succ_cons, magnitude, List.map_cons, List.sum_cons] at later ⊢
      omega

theorem magnitude_counted (e : Embedder) (ts : List (List Char)) (vector : List Int) :
    magnitude (ts.foldl (counted e) vector) ≤ magnitude vector + ts.length := by
  induction ts generalizing vector with
  | nil => exact Nat.le_add_right _ _
  | cons t ts ih =>
    have one := magnitude_modify vector (tokenIndex e t) (tokenSign e t)
    have rest := ih (counted e vector t)
    rw [natAbs_tokenSign] at one
    rw [List.foldl_cons, List.length_cons]
    exact rest.trans (by unfold counted; omega)

theorem squares_le (vector : List Int) : squares vector ≤ (magnitude vector : Int) ^ 2 := by
  induction vector with
  | nil => simp [squares, magnitude]
  | cons v vector ih =>
    have own : v * v = (v.natAbs : Int) * v.natAbs := by
      rw [← Int.natAbs_mul_self' v]
    have cross : 0 ≤ (v.natAbs : Int) * magnitude vector := by positivity
    simp only [squares, magnitude, List.map_cons, List.sum_cons, Nat.cast_add] at ih cross ⊢
    rw [own]
    nlinarith

/-- Fewer than 2 ^ 26 tokens make numbers that a double holds exactly, the sum of squares
included. -/
theorem counts_exact (e : Embedder) {ts : List (List Char)} (few : ts.length < 2 ^ 26) :
    magnitude (counts e ts) < 2 ^ 53 ∧ squares (counts e ts) < 2 ^ 53 := by
  have zeros : ∀ n, magnitude (List.replicate n 0) = 0 := by
    intro n
    simp [magnitude]
  have bound : magnitude (counts e ts) ≤ ts.length := by
    have counted := magnitude_counted e ts (List.replicate embeddingDimensions 0)
    rwa [zeros, Nat.zero_add] at counted
  have small : (magnitude (counts e ts) : Int) < 2 ^ 26 := by exact_mod_cast bound.trans_lt few
  refine ⟨by omega, (squares_le _).trans_lt ?_⟩
  nlinarith [Int.natCast_nonneg (magnitude (counts e ts))]

/-! ## The order of words -/

instance (e : Embedder) : RightCommutative (counted e) where
  right_comm vector s t := by
    refine List.ext_getElem? fun i => ?_
    simp only [counted, List.getElem?_modify, Option.map_eq_map]
    cases vector[i]? with
    | none => rfl
    | some v =>
      simp only [Option.map_some]
      split <;> split <;> simp [add_right_comm]

theorem counts_perm (e : Embedder) {s t : List (List Char)} (perm : s.Perm t) :
    counts e s = counts e t := perm.foldl_eq _

/-- Texts with the same words, each as often, in any order. -/
def SameWords (a b : String) : Prop := (split a.toList).Perm (split b.toList)

theorem embedText_congr (e : Embedder) {a b : String} (same : SameWords a b) :
    embedText e a = embedText e b := by
  have folded : (tokens (casefold a.toList)).Perm (tokens (casefold b.toList)) := by
    rw [← split_flatMap_tokens, ← split_flatMap_tokens, split_casefold, split_casefold]
    exact (same.map casefold).flatMap_right tokens
  rw [embedText, embedText, counts_perm e folded]

/-! ## Search -/

section Search

variable {rk : Ranking} {postgresql : Bool} {e : Embedder} {k : UUID} {projectId : Option UUID}
  {limit : Nat} {t : CatalogueTables}

/-- The query that `search_documents` makes of a text. -/
def textQuery (e : Embedder) (k : UUID) (text : String) (projectId : Option UUID) (limit : Nat) :
    RetrievalQuery := ⟨k, text, some (embedText e text), limit, projectId⟩

theorem terms_perm {q q' : RetrievalQuery} (same : SameWords q.text q'.text) :
    (terms rk q).Perm (terms rk q') :=
  ((same.map String.ofList).map rk.lower).dedup

theorem hitOf_congr {a b : String} (same : SameWords a b) (row : DocumentChunk × Document) :
    hitOf rk (textQuery e k a projectId limit) row =
      hitOf rk (textQuery e k b projectId limit) row := by
  have asked := @terms_perm rk (textQuery e k a projectId limit) (textQuery e k b projectId limit)
    same
  have found := (asked.filter fun term =>
    (words (rk.casefold row.1.lexicalText)).contains term).length_eq
  have embedding : (textQuery e k a projectId limit).embedding =
      (textQuery e k b projectId limit).embedding := congrArg some (embedText_congr e same)
  rw [hitOf, hitOf, matchedTerms, matchedTerms, found, asked.length_eq, embedding]

theorem search_postgresql (rk : Ranking) (postgresql : Bool) (t : CatalogueTables)
    (query : RetrievalQuery) : search rk postgresql t query = search rk false t query := by
  unfold search
  rw [nativeSearch_none, ite_self, ite_self]

theorem search_congr_words {a b : String} (same : SameWords a b) :
    search rk postgresql t (textQuery e k a projectId limit) =
      search rk postgresql t (textQuery e k b projectId limit) := by
  have words : (split a.toList).Perm (split b.toList) := same
  have blank : (strip isBlank a.toList).isEmpty = (strip isBlank b.toList).isEmpty := by
    rw [Bool.eq_iff_iff, List.isEmpty_iff, List.isEmpty_iff, strip_eq_nil_iff, strip_eq_nil_iff]
    exact ⟨fun none => List.perm_nil.mp (none ▸ words.symm),
      fun none => List.perm_nil.mp (none ▸ words)⟩
  have hits : hitOf rk (textQuery e k a projectId limit) =
      hitOf rk (textQuery e k b projectId limit) := funext (hitOf_congr same)
  rw [search_postgresql rk postgresql t (textQuery e k a projectId limit),
    search_postgresql rk postgresql t (textQuery e k b projectId limit), search_eq_answerRows,
    search_eq_answerRows, answerRows, answerRows, hits]
  change (if (strip isBlank a.toList).isEmpty then _ else _) = _
  rw [blank]
  rfl

/-- The columns that `finalize_document` makes of the text of a chunk. -/
structure IndexedAs (e : Embedder) (c : DocumentChunk) (text : String) : Prop where
  lexical : c.lexicalText = String.ofList (casefold text.toList)
  embedding : c.embedding = some (embedText e text)

/-- The rounded score of a chunk, if it is positive. -/
def scoreOf (rk : Ranking) (query : RetrievalQuery) (c : DocumentChunk) : Option Int :=
  rk.hybrid (matchedTerms rk query c).length (terms rk query).length c.embedding query.embedding

theorem scoreOf_congr {classes : LetterClasses} {query : RetrievalQuery} {c d : DocumentChunk}
    {a b : String} (first : IndexedAs e c a) (second : IndexedAs e d b) (same : SameWords a b) :
    scoreOf (rk.withLetterCase classes) query c = scoreOf (rk.withLetterCase classes) query d := by
  have lexical : ∀ {row : DocumentChunk} {text : String}, IndexedAs e row text →
      words ((rk.withLetterCase classes).casefold row.lexicalText) =
        ((split text.toList).map casefold).map String.ofList := by
    intro row text indexed
    change words (String.ofList (casefold row.lexicalText.toList)) = _
    rw [indexed.lexical, String.toList_ofList, casefold_casefold, words, String.toList_ofList,
      split_casefold]
  have bags := (same.map casefold).map String.ofList
  have found : matchedTerms (rk.withLetterCase classes) query c =
      matchedTerms (rk.withLetterCase classes) query d := by
    refine List.filter_congr fun term _ => ?_
    rw [lexical first, lexical second, Bool.eq_iff_iff, List.contains_iff_mem,
      List.contains_iff_mem]
    exact bags.mem_iff
  rw [scoreOf, scoreOf, found, first.embedding, second.embedding, embedText_congr e same]

/-- A chunk as `finalize_document` makes it, and one that it makes of the same words in another
order. -/
structure Reworded (e : Embedder) (c d : DocumentChunk) : Prop where
  id : d.id = c.id
  organization : d.organizationId = c.organizationId
  document : d.documentId = c.documentId
  page : d.pageNumber = c.pageNumber
  first : IndexedAs e c c.text
  second : IndexedAs e d d.text
  words : SameWords c.text d.text

def Citation.withoutExcerpt (hit : Citation) : Citation := { hit with excerpt := "" }

theorem hitOf_reworded {classes : LetterClasses} {query : RetrievalQuery} {c d : DocumentChunk}
    (reworded : Reworded e c d) (document : Document) :
    (hitOf (rk.withLetterCase classes) query (c, document)).map Citation.withoutExcerpt =
      (hitOf (rk.withLetterCase classes) query (d, document)).map Citation.withoutExcerpt := by
  have score := @scoreOf_congr rk e classes query c d _ _ reworded.first reworded.second
    reworded.words
  have shown : Citation.withoutExcerpt ∘ citation c document =
      Citation.withoutExcerpt ∘ citation d document := by
    funext score
    simp only [Function.comp_apply, citation, Citation.withoutExcerpt, reworded.id, reworded.page]
  change ((scoreOf _ query c).map (citation c document)).map _ =
    ((scoreOf _ query d).map (citation d document)).map _
  rw [Option.map_map, Option.map_map, shown, score]

/-- The hits of one chunk, with the documents that it is joined with. -/
theorem hitsOf_reworded {classes : LetterClasses} {query : RetrievalQuery} {c d : DocumentChunk}
    (reworded : Reworded e c d) (documents : List Document) :
    (((documents.filter fun x => x.id = c.documentId &&
        (ofTenant query c x && x.status = .ready)).map fun x => (c, x)).filterMap
          (hitOf (rk.withLetterCase classes) query)).map Citation.withoutExcerpt =
      (((documents.filter fun x => x.id = d.documentId &&
        (ofTenant query d x && x.status = .ready)).map fun x => (d, x)).filterMap
          (hitOf (rk.withLetterCase classes) query)).map Citation.withoutExcerpt := by
  simp only [ofTenant, reworded.document, reworded.organization, List.filterMap_map,
    List.map_filterMap, Function.comp_def, hitOf_reworded reworded]

theorem hits_reworded {classes : LetterClasses} {query : RetrievalQuery} {s t : CatalogueTables}
    (documents : s.documents = t.documents)
    (chunks : List.Forall₂ (Reworded e) s.chunks t.chunks) :
    ((readyRows s query).filterMap (hitOf (rk.withLetterCase classes) query)).map
        Citation.withoutExcerpt =
      ((readyRows t query).filterMap (hitOf (rk.withLetterCase classes) query)).map
        Citation.withoutExcerpt := by
  unfold readyRows joined
  rw [documents]
  generalize s.chunks = before, t.chunks = after at chunks
  induction chunks with
  | nil => rfl
  | cons reworded _ ih =>
    rw [List.flatMap_cons, List.flatMap_cons, List.filterMap_append, List.filterMap_append,
      List.map_append, List.map_append, hitsOf_reworded reworded, ih]

/-- The excerpt has no part in the order of hits. -/
theorem search_reworded {classes : LetterClasses} {query : RetrievalQuery}
    {s t : CatalogueTables} (documents : s.documents = t.documents)
    (chunks : List.Forall₂ (Reworded e) s.chunks t.chunks) :
    (search (rk.withLetterCase classes) postgresql s query).map Citation.withoutExcerpt =
      (search (rk.withLetterCase classes) postgresql t query).map Citation.withoutExcerpt := by
  have sorted : ∀ hits : List Citation,
      (hits.insertionSort ranksBefore).map Citation.withoutExcerpt =
        (hits.map Citation.withoutExcerpt).insertionSort ranksBefore := fun hits =>
    List.map_insertionSort ranksBefore ranksBefore _ hits fun _ _ _ _ => Iff.rfl
  rw [search_postgresql _ postgresql s, search_postgresql _ postgresql t, search_eq_answerRows,
    search_eq_answerRows, answerRows, answerRows]
  split
  · rfl
  · rw [List.map_take, List.map_take, sorted, sorted, hits_reworded documents chunks]

end Search

/-- A search sees bags of words. The order of the words of a query, and what blanks stand between
them, makes no difference; where the words of indexed chunks are in another order, the same chunks
are cited, in the same order and with the same scores, and only the excerpts differ. -/
theorem search_bag_of_words (rk : Ranking) (classes : LetterClasses) (e : Embedder) :
    (∀ a b, SameWords a b → embedText e a = embedText e b ∧
      ∀ postgresql t k projectId limit,
        search rk postgresql t (textQuery e k a projectId limit) =
          search rk postgresql t (textQuery e k b projectId limit)) ∧
    ∀ postgresql query (s t : CatalogueTables), s.documents = t.documents →
      List.Forall₂ (Reworded e) s.chunks t.chunks →
        (search (rk.withLetterCase classes) postgresql s query).map Citation.withoutExcerpt =
          (search (rk.withLetterCase classes) postgresql t query).map Citation.withoutExcerpt :=
  ⟨fun _ _ same => ⟨embedText_congr e same, fun _ _ _ _ _ => search_congr_words same⟩,
    fun _ _ _ _ documents chunks => search_reworded documents chunks⟩

/-- Every digest is its token. -/
def plainEmbedder : Embedder := ⟨id, fun _ => .one, fun _ _ => .one⟩

def countingRanking : Ranking := ⟨id, id, fun found _ _ _ => some found, fun _ _ => none⟩

/-- A chunk of a document, as it is indexed. -/
def indexedChunk (text : String) : DocumentChunk :=
  ⟨7, 1, 5, 0, none, text, String.ofList (casefold text.toList),
    some (embedText plainEmbedder text), []⟩

def indexedTables (text : String) : CatalogueTables :=
  { documents := [roofsNamed "roofs.txt"], chunks := [indexedChunk text], interventions := [],
    evidence := [] }

theorem search_bag_of_words_roofs :
    SameWords "cool white roofs" " white roofs\tcool" ∧
    embedText plainEmbedder "cool white roofs" = embedText plainEmbedder " white roofs\tcool" ∧
    (search (countingRanking.withLetterCase plainClasses) false (indexedTables "cool white roofs")
        (queryWithText "cool roofs")).map Citation.withoutExcerpt =
      (search (countingRanking.withLetterCase plainClasses) false
        (indexedTables " white roofs\tcool") (queryWithText "cool roofs")).map
          Citation.withoutExcerpt := by
  have same : SameWords "cool white roofs" " white roofs\tcool" := by
    unfold SameWords
    decide
  obtain ⟨words, chunks⟩ := search_bag_of_words countingRanking plainClasses plainEmbedder
  refine ⟨same, (words _ _ same).1, chunks false (queryWithText "cool roofs") _ _ rfl ?_⟩
  exact .cons ⟨rfl, rfl, rfl, rfl, ⟨rfl, rfl⟩, ⟨rfl, rfl⟩, same⟩ .nil

end CoolProof.Documents
