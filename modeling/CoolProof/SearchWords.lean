import CoolProof.DocumentSearch
import CoolProof.Library.LetterCase
import Mathlib.Algebra.Order.Field.Rat
import Mathlib.Tactic.FieldSimp

/-! A chunk and a query with the words of the chunk. The words of a chunk are case folded when
it is stored, the terms of a query are put in lower case; the two agree on a word unless it has
a character with a folding of its own, or ends with a sigma. -/

namespace CoolProof.Documents
open PythonText Models

/-- The letter case of the interpreter, next to the rest of a ranking. -/
def Ranking.withLetterCase (rk : Ranking) (classes : LetterClasses) : Ranking :=
  { rk with
    lower := fun text => String.ofList (PythonText.lower classes text.toList)
    casefold := fun text => String.ofList (PythonText.casefold text.toList) }

/-- `len(terms & words) / len(terms) if terms else 0.0` -/
def lexicalRank (found terms : Nat) : ℚ := if terms = 0 then 0 else found / terms

/-- Every word of a query is a word of a text in some casing. -/
def HasWordsOf (query : RetrievalQuery) (text : String) : Prop :=
  ∀ w ∈ split query.text.toList, ∃ v ∈ split text.toList, casefold w = casefold v

section Terms

variable {rk : Ranking} {classes : LetterClasses} {query : RetrievalQuery} {c : DocumentChunk}

theorem mem_terms {term : String} : term ∈ terms (rk.withLetterCase classes) query ↔
    ∃ w ∈ split query.text.toList, term = String.ofList (lower classes w) := by
  rw [terms, List.mem_dedup, List.mem_map]
  constructor
  · rintro ⟨word, member, rfl⟩
    obtain ⟨w, inText, rfl⟩ := List.mem_map.mp member
    exact ⟨w, inText, congrArg (fun cs => String.ofList (lower classes cs)) String.toList_ofList⟩
  · rintro ⟨w, inText, rfl⟩
    refine ⟨String.ofList w, List.mem_map_of_mem inText, ?_⟩
    exact congrArg (fun cs => String.ofList (lower classes cs)) String.toList_ofList

/-- The words of a stored chunk are the folded words of its text. -/
theorem mem_chunkWords (stored : c.lexicalText = String.ofList (casefold c.text.toList))
    {cs : List Char} :
    String.ofList cs ∈ words ((rk.withLetterCase classes).casefold c.lexicalText) ↔
      ∃ v ∈ split c.text.toList, cs = casefold v := by
  have text : (String.ofList (casefold c.lexicalText.toList)).toList =
      casefold c.text.toList := by
    rw [String.toList_ofList, stored, String.toList_ofList, casefold_casefold]
  change String.ofList cs ∈ words (String.ofList (casefold c.lexicalText.toList)) ↔ _
  rw [words, text, split_casefold, List.map_map]
  constructor
  · intro member
    obtain ⟨v, inText, same⟩ := List.mem_map.mp member
    exact ⟨v, inText, (String.ofList_injective same).symm⟩
  · rintro ⟨v, inText, rfl⟩
    exact List.mem_map.mpr ⟨v, inText, rfl⟩

/-- A term made of a word of the text is found exactly if its lower case is its folding. -/
theorem term_found_iff (stored : c.lexicalText = String.ofList (casefold c.text.toList))
    {w v : List Char} (inText : v ∈ split c.text.toList) (same : casefold w = casefold v) :
    String.ofList (lower classes w) ∈
        words ((rk.withLetterCase classes).casefold c.lexicalText) ↔
      FoldsAsLower classes [] w := by
  rw [mem_chunkWords stored, ← lowerFrom_eq_casefold_iff]
  constructor
  · rintro ⟨u, -, found⟩
    have folded : casefold (lower classes w) = lower classes w := by
      rw [found, casefold_casefold]
    rw [lower, casefold_lowerFrom] at folded
    exact folded.symm
  · intro folds
    exact ⟨v, inText, folds.trans same⟩

theorem matchedTerms_eq_iff (stored : c.lexicalText = String.ofList (casefold c.text.toList))
    (own : HasWordsOf query c.text) :
    matchedTerms (rk.withLetterCase classes) query c = terms (rk.withLetterCase classes) query ↔
      ∀ w ∈ split query.text.toList, FoldsAsLower classes [] w := by
  rw [matchedTerms, List.filter_eq_self]
  constructor
  · intro all w member
    obtain ⟨v, inText, same⟩ := own w member
    have found := all _ (mem_terms.mpr ⟨w, member, rfl⟩)
    exact (term_found_iff stored inText same).mp (List.contains_iff_mem.mp found)
  · intro folds term member
    obtain ⟨w, inQuery, rfl⟩ := mem_terms.mp member
    obtain ⟨v, inText, same⟩ := own w inQuery
    exact List.contains_iff_mem.mpr ((term_found_iff stored inText same).mpr (folds w inQuery))

end Terms

theorem lexicalRank_eq_one_iff {found terms : Nat} (some : terms ≠ 0) :
    lexicalRank found terms = 1 ↔ found = terms := by
  have nonzero : (terms : ℚ) ≠ 0 := by exact_mod_cast some
  rw [lexicalRank, if_neg some, div_eq_one_iff_eq nonzero]
  exact_mod_cast Iff.rfl

/-- A query of words of a chunk matches it with every term exactly if no word of the query has
a character that is folded otherwise than to its lower case, or a sigma that ends the word. -/
theorem own_words_match_iff (rk : Ranking) (classes : LetterClasses) (query : RetrievalQuery)
    (c : DocumentChunk) (stored : c.lexicalText = String.ofList (casefold c.text.toList))
    (own : HasWordsOf query c.text) :
    (matchedTerms (rk.withLetterCase classes) query c =
        terms (rk.withLetterCase classes) query ↔
      ∀ w ∈ split query.text.toList, FoldsAsLower classes [] w) ∧
    (split query.text.toList ≠ [] →
      (lexicalRank (matchedTerms (rk.withLetterCase classes) query c).length
          (terms (rk.withLetterCase classes) query).length = 1 ↔
        ∀ w ∈ split query.text.toList, FoldsAsLower classes [] w)) := by
  have all := @matchedTerms_eq_iff rk classes query c stored own
  refine ⟨all, fun asked => ?_⟩
  obtain ⟨w, member⟩ := List.exists_mem_of_ne_nil _ asked
  have some : (terms (rk.withLetterCase classes) query).length ≠ 0 :=
    (List.length_pos_of_mem (mem_terms.mpr ⟨w, member, rfl⟩)).ne'
  rw [lexicalRank_eq_one_iff some, ← all]
  constructor
  · exact fun lengths => List.filter_sublist.eq_of_length lengths
  · exact fun same => congrArg List.length same

/-! ## A sharp s -/

/-- Letters are cased, and nothing is ignored. -/
def plainClasses : LetterClasses := ⟨Char.isAlpha, fun _ => false⟩

def unitRanking : Ranking := ⟨id, id, fun _ _ _ _ => none, fun _ _ => none⟩

/-- A chunk as it is stored for a text. -/
def chunkWithText (text : String) : DocumentChunk :=
  ⟨7, 1, 5, 0, none, text, String.ofList (casefold text.toList), none, []⟩

def queryWithText (text : String) : RetrievalQuery := ⟨1, text, none, 8, none⟩

/-- The chunk "Straße" is not found by the query "Straße": its only word is stored as
"strasse", and the only term is "straße". -/
theorem own_words_need_not_match :
    ¬ ∀ (rk : Ranking) (classes : LetterClasses) (query : RetrievalQuery) (c : DocumentChunk),
      c.lexicalText = String.ofList (casefold c.text.toList) → HasWordsOf query c.text →
      matchedTerms (rk.withLetterCase classes) query c =
        terms (rk.withLetterCase classes) query := by
  intro claimed
  have own : HasWordsOf (queryWithText "Straße") (chunkWithText "Straße").text := by
    intro w member
    exact ⟨w, member, rfl⟩
  have matched := claimed unitRanking plainClasses (queryWithText "Straße")
    (chunkWithText "Straße") rfl own
  exact absurd matched (by decide)

theorem own_words_match_iff_roofs :
    matchedTerms (unitRanking.withLetterCase plainClasses) (queryWithText "ROOFS")
        (chunkWithText "Cool roofs") =
      terms (unitRanking.withLetterCase plainClasses) (queryWithText "ROOFS") ↔
    ∀ w ∈ split "ROOFS".toList, FoldsAsLower plainClasses [] w := by
  have own : HasWordsOf (queryWithText "ROOFS") (chunkWithText "Cool roofs").text := by
    unfold HasWordsOf
    decide
  exact (own_words_match_iff unitRanking plainClasses (queryWithText "ROOFS")
    (chunkWithText "Cool roofs") rfl own).1

end CoolProof.Documents
