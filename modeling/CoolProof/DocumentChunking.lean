import CoolProof.DocumentText
import CoolProof.Library.TextWords

/-! Chunking keeps the words of a text: none is lost or comes twice, whatever the size of the
chunks and wherever its pages end. -/

namespace CoolProof.Documents
open PythonText

def wordCount (c : PageText) : Nat := (split c.2.toList).length

/-- The words of chunks, in order. -/
def wordsOf (chunks : List PageText) : List (List Char) :=
  chunks.flatMap fun c => split c.2.toList

theorem wordsOf_append (first second : List PageText) :
    wordsOf (first ++ second) = wordsOf first ++ wordsOf second := List.flatMap_append

theorem wordsOf_cons (c : PageText) (chunks : List PageText) :
    wordsOf (c :: chunks) = split c.2.toList ++ wordsOf chunks := List.flatMap_cons

/-! ## One page -/

/-- A group of words as a chunk. -/
def chunkOf (number : Option Int) (words : List (List Char)) : PageText :=
  (number, String.ofList (strip isBlank (spaced words)))

theorem split_chunkOf (number : Option Int) {words : List (List Char)}
    (all : ∀ w ∈ words, IsWord w) : split (chunkOf number words).2.toList = words := by
  rw [chunkOf, String.toList_ofList, split_strip, split_spaced all]

theorem isWord_of_mem_slices {size : Nat} (positive : 1 ≤ size) (page : List Char) :
    ∀ group ∈ slices size (split page), ∀ w ∈ group, IsWord w := by
  intro group member w inGroup
  apply isWord_of_mem_split w
  rw [← flatten_slices positive (split page)]
  exact List.mem_flatten.mpr ⟨group, member, inGroup⟩

/-- No group of words is blank, so each is a chunk. -/
theorem pageChunks_eq {size : Nat} (positive : 1 ≤ size) (number : Option Int)
    (page : List Char) :
    pageChunks size number page = (slices size (split page)).map (chunkOf number) := by
  rw [pageChunks, List.filterMap_map, ← List.filterMap_eq_map]
  apply List.filterMap_congr
  intro group member
  have all := isWord_of_mem_slices positive page group member
  have some : strip isBlank (spaced group) ≠ [] := by
    intro blank
    have none : split (strip isBlank (spaced group)) = group := by
      rw [split_strip, split_spaced all]
    have length := (length_of_mem_slices positive (split page) group member).1
    rw [blank] at none
    rw [← none] at length
    exact absurd length (by decide)
  rw [Function.comp_apply, Function.comp_apply, if_neg (by simpa using some)]
  rfl

/-- The chunks of a page: all its words, in chunks that are full up to the last one. -/
structure PageChunks (size : Nat) (number : Option Int) (page : List Char)
    (chunks : List PageText) : Prop where
  words : wordsOf chunks = split page
  number : ∀ c ∈ chunks, c.1 = number
  small : ∀ c ∈ chunks, 1 ≤ wordCount c ∧ wordCount c ≤ size
  full : chunks.IsChain fun c _ => wordCount c = size

theorem pageChunks_spec {size : Nat} (positive : 1 ≤ size) (number : Option Int)
    (page : List Char) : PageChunks size number page (pageChunks size number page) := by
  have all := isWord_of_mem_slices positive page
  have count : ∀ group ∈ slices size (split page),
      wordCount (chunkOf number group) = group.length := by
    intro group member
    rw [wordCount, split_chunkOf number (all group member)]
  rw [pageChunks_eq positive]
  refine ⟨?_, ?_, ?_, ?_⟩
  · have groups : wordsOf ((slices size (split page)).map (chunkOf number)) =
        (slices size (split page)).flatMap id := by
      rw [wordsOf, List.flatMap_map]
      exact List.flatMap_congr fun group member => split_chunkOf number (all group member)
    rw [groups, List.flatMap_id, flatten_slices positive]
  · intro c member
    obtain ⟨group, -, rfl⟩ := List.mem_map.mp member
    rfl
  · intro c member
    obtain ⟨group, inSlices, rfl⟩ := List.mem_map.mp member
    rw [count group inSlices]
    exact length_of_mem_slices positive _ group inSlices
  · rw [List.isChain_map]
    apply (isChain_slices positive (split page)).imp_of_mem_imp
    intro group next inSlices _ length
    rw [count group inSlices, length]

/-! ## Pages -/

theorem formFeed_blank : isBlank '\x0c' = true := by decide

/-- The text of pages, a form feed between any two. -/
def joinedPages (pages : List (List Char)) : List Char := ['\x0c'].intercalate pages

theorem joinedPages_cons (page : List Char) (pages : List (List Char)) :
    ∃ tail, joinedPages (page :: pages) = page ++ tail ∧ split tail = split (joinedPages pages) ∧
      (tail = [] ∨ ∃ c rest, tail = c :: rest ∧ isBlank c = true) ∧
      (pages ≠ [] → tail = '\x0c' :: joinedPages pages) := by
  cases pages with
  | nil => exact ⟨[], by simp [joinedPages], rfl, .inl rfl, fun some => absurd rfl some⟩
  | cons next pages =>
    exact ⟨'\x0c' :: joinedPages (next :: pages), by simp [joinedPages, List.intercalate],
      split_blank_cons formFeed_blank _, .inr ⟨_, _, rfl, formFeed_blank⟩, fun _ => rfl⟩

/-- The chunks of the pages of a text with several, from some page on. -/
def numberedChunks (size first : Nat) (pages : List (List Char)) : List PageText :=
  (pages.zipIdx first).flatMap fun page =>
    pageChunks size (some ((page.2 + 1 : Nat) : Int)) page.1

theorem numberedChunks_cons (size first : Nat) (page : List Char) (pages : List (List Char)) :
    numberedChunks size first (page :: pages) =
      pageChunks size (some ((first + 1 : Nat) : Int)) page ++
        numberedChunks size (first + 1) pages := by
  rw [numberedChunks, List.zipIdx_cons, List.flatMap_cons]
  rfl

section Numbered

variable {size : Nat} (positive : 1 ≤ size)

include positive

theorem wordsOf_numberedChunks (first : Nat) (pages : List (List Char)) :
    wordsOf (numberedChunks size first pages) = split (joinedPages pages) := by
  induction pages generalizing first with
  | nil => rfl
  | cons page pages ih =>
    obtain ⟨tail, joined, rest, border, -⟩ := joinedPages_cons page pages
    rw [numberedChunks_cons, wordsOf_append, (pageChunks_spec positive _ page).words, ih, joined,
      split_append_of_blank_head border, rest]

theorem number_of_mem_numberedChunks (first : Nat) (pages : List (List Char)) :
    ∀ c ∈ numberedChunks size first pages,
      ∃ k : Nat, first < k ∧ c.1 = some (k : Int) := by
  induction pages generalizing first with
  | nil => exact fun c member => nomatch member
  | cons page pages ih =>
    intro c member
    rw [numberedChunks_cons] at member
    rcases List.mem_append.mp member with own | later
    · exact ⟨first + 1, Nat.lt_succ_self _, (pageChunks_spec positive _ page).number c own⟩
    · obtain ⟨k, beyond, number⟩ := ih (first + 1) c later
      exact ⟨k, Nat.lt_of_succ_lt beyond, number⟩

theorem small_of_mem_numberedChunks (first : Nat) (pages : List (List Char)) :
    ∀ c ∈ numberedChunks size first pages, 1 ≤ wordCount c ∧ wordCount c ≤ size := by
  intro c member
  obtain ⟨page, -, own⟩ := List.mem_flatMap.mp member
  exact (pageChunks_spec positive _ page.1).small c own

/-- A chunk that another of its page follows is full. -/
theorem isChain_numberedChunks (first : Nat) (pages : List (List Char)) :
    (numberedChunks size first pages).IsChain fun c next => c.1 = next.1 → wordCount c = size := by
  induction pages generalizing first with
  | nil => exact .nil
  | cons page pages ih =>
    have spec := pageChunks_spec positive (some ((first + 1 : Nat) : Int)) page
    rw [numberedChunks_cons, List.isChain_append]
    refine ⟨spec.full.imp fun c next full _ => full, ih (first + 1), ?_⟩
    intro c last next head same
    obtain ⟨k, beyond, number⟩ := number_of_mem_numberedChunks positive (first + 1) pages next
      (List.mem_of_mem_head? head)
    rw [spec.number c (List.mem_of_mem_getLast? last), number] at same
    have equal : first + 1 = k := by exact_mod_cast Option.some.inj same
    omega

theorem pairwise_numberedChunks (first : Nat) (pages : List (List Char)) :
    (numberedChunks size first pages).Pairwise fun c next =>
      ∃ p q : Int, c.1 = some p ∧ next.1 = some q ∧ p ≤ q := by
  induction pages generalizing first with
  | nil => exact .nil
  | cons page pages ih =>
    have spec := pageChunks_spec positive (some ((first + 1 : Nat) : Int)) page
    rw [numberedChunks_cons, List.pairwise_append]
    refine ⟨?_, ih (first + 1), ?_⟩
    · apply List.pairwise_of_forall_mem_list
      intro c member next nextMember
      exact ⟨_, _, spec.number c member, spec.number next nextMember, le_refl _⟩
    · intro c member next later
      obtain ⟨k, beyond, number⟩ := number_of_mem_numberedChunks positive (first + 1) pages next later
      exact ⟨_, _, spec.number c member, number, by exact_mod_cast Nat.le_of_lt beyond⟩

end Numbered

/-! ## Where a chunk stands -/

/-- A text in three parts: the words before a chunk, those of the chunk, and those after it.
The middle begins with a word of the chunk and lies on one page. -/
structure Stands (front body back : List Char) (before : List PageText) (c : PageText)
    (after : List PageText) : Prop where
  before : split front = wordsOf before
  words : split body = split c.2.toList
  after : split back = wordsOf after
  begins : BeginsWord body
  onePage : '\x0c' ∉ body

theorem stands_of_pageChunks {size : Nat} (positive : 1 ≤ size) {number : Option Int}
    {page : List Char} (noFeed : '\x0c' ∉ page) {before after : List PageText} {c : PageText}
    (parted : pageChunks size number page = before ++ c :: after) :
    ∃ front body back, page = front ++ (body ++ back) ∧ Stands front body back before c after := by
  have spec := pageChunks_spec positive number page
  rw [parted] at spec
  have words := spec.words.symm
  rw [wordsOf_append, wordsOf_cons] at words
  have some : split c.2.toList ≠ [] := by
    have length := (spec.small c (by simp)).1
    exact List.ne_nil_of_length_pos length
  obtain ⟨front, body, back, rfl, first, inside, last, begins⟩ := split_part words some
  have onePage : '\x0c' ∉ body := fun member =>
    noFeed (List.mem_append_right _ (List.mem_append_left _ member))
  exact ⟨front, body, back, rfl, first, inside, last, begins, onePage⟩

/-- A chunk among those of a page and of the pages after it is one of either. -/
theorem parted_cases {own later before after : List PageText} {c : PageText}
    (parted : own ++ later = before ++ c :: after) :
    (∃ rest, own = before ++ c :: rest ∧ after = rest ++ later) ∨
      ∃ between, before = own ++ between ∧ later = between ++ c :: after := by
  rcases List.append_eq_append_iff.mp parted with ⟨between, front, rest⟩ | ⟨rest, front, back⟩
  · exact .inr ⟨between, front, rest⟩
  · cases rest with
    | nil => exact .inr ⟨[], by simpa using front.symm, back.symm⟩
    | cons d rest =>
      cases back
      exact .inl ⟨rest, front, rfl⟩

/-- The number of a chunk is one more than the form feeds before its words. -/
theorem stands_of_numberedChunks {size : Nat} (positive : 1 ≤ size) {first : Nat}
    {pages : List (List Char)} (noFeed : ∀ page ∈ pages, '\x0c' ∉ page)
    {before after : List PageText} {c : PageText}
    (parted : numberedChunks size first pages = before ++ c :: after) :
    ∃ front body back, joinedPages pages = front ++ (body ++ back) ∧
      Stands front body back before c after ∧
      c.1 = some ((first + front.count '\x0c' + 1 : Nat) : Int) := by
  induction pages generalizing first before with
  | nil => simp [numberedChunks] at parted
  | cons page pages ih =>
    obtain ⟨tail, joined, rest, border, later⟩ := joinedPages_cons page pages
    have spec := pageChunks_spec positive (some ((first + 1 : Nat) : Int)) page
    have others := wordsOf_numberedChunks positive (first + 1) pages
    have plain : '\x0c' ∉ page := noFeed page List.mem_cons_self
    rw [numberedChunks_cons] at parted
    rcases parted_cases parted with ⟨own, inPage, rfl⟩ | ⟨between, rfl, inRest⟩
    · obtain ⟨front, body, back, rfl, stands⟩ := stands_of_pageChunks positive plain inPage
      have number := spec.number c (inPage ▸ List.mem_append_right _ List.mem_cons_self)
      have none : front.count '\x0c' = 0 :=
        List.count_eq_zero.mpr fun member => plain (List.mem_append_left _ member)
      refine ⟨front, body, back ++ tail, by rw [joined]; simp, ?_, by rw [none]; exact number⟩
      refine ⟨stands.before, stands.words, ?_, stands.begins, stands.onePage⟩
      rw [split_append_of_blank_head border, rest, stands.after, wordsOf_append, others]
    · have some : pages ≠ [] := by
        rintro rfl
        simp [numberedChunks] at inRest
      obtain ⟨front, body, back, whole, stands, number⟩ :=
        ih (fun next member => noFeed next (List.mem_cons_of_mem _ member)) inRest
      refine ⟨page ++ '\x0c' :: front, body, back, ?_, ?_, ?_⟩
      · rw [joined, later some, whole]
        simp
      · refine ⟨?_, stands.words, stands.after, stands.begins, stands.onePage⟩
        rw [split_append_blank formFeed_blank, ← spec.words, stands.before, wordsOf_append]
      · have none : page.count '\x0c' = 0 := List.count_eq_zero.mpr plain
        rw [number, List.count_append, none, List.count_cons_self]
        congr 2
        omega

/-! ## Texts -/

theorem not_mem_of_mem_splitOn {feed : Char} {cs : List Char} :
    ∀ page ∈ cs.splitOn feed, feed ∉ page := by
  induction cs with
  | nil => simp
  | cons c cs ih =>
    intro page member
    rw [List.splitOn_cons_eq_if_modifyHead] at member
    split at member
    · rcases List.mem_cons.mp member with rfl | later
      · exact List.not_mem_nil
      · exact ih page later
    · rename_i other
      cases pages : cs.splitOn feed with
      | nil =>
        rw [pages] at member
        cases member
      | cons first rest =>
        rw [pages] at member ih
        rcases List.mem_cons.mp member with rfl | later
        · intro inPage
          rcases List.mem_cons.mp inPage with rfl | inFirst
          · exact other (beq_self_eq_true _)
          · exact ih first List.mem_cons_self inFirst
        · exact ih page (List.mem_cons_of_mem _ later)

theorem joinedPages_splitOn (cs : List Char) : joinedPages (cs.splitOn '\x0c') = cs :=
  List.intercalate_splitOn '\x0c'

/-- A text without a form feed is one page, which has no number. -/
theorem textChunks_of_not_mem (size : Nat) {text : List Char}
    (onePage : '\x0c' ∉ unixLines text) :
    textChunks size text = pageChunks size none (unixLines text) := by
  have pages : (unixLines text).splitOn '\x0c' = [unixLines text] :=
    List.splitOn_eq_singleton onePage
  rw [textChunks, pages]
  exact List.append_nil _

/-- The pages of a text with form feeds are numbered. -/
theorem textChunks_of_mem (size : Nat) {text : List Char} (several : '\x0c' ∈ unixLines text) :
    textChunks size text = numberedChunks size 0 ((unixLines text).splitOn '\x0c') := by
  have many : 1 < ((unixLines text).splitOn '\x0c').length := by
    by_contra few
    have joined := joinedPages_splitOn (unixLines text)
    have plain := @not_mem_of_mem_splitOn '\x0c' (unixLines text)
    cases pages : (unixLines text).splitOn '\x0c' with
    | nil => exact List.splitOn_ne_nil _ _ pages
    | cons page rest =>
      rw [pages] at few joined plain
      have none : rest = [] := List.eq_nil_of_length_eq_zero (by
        rw [List.length_cons] at few
        omega)
      rw [none, joinedPages, List.intercalate_singleton] at joined
      exact plain page List.mem_cons_self (joined ▸ several)
  rw [textChunks]
  simp only [many, if_true]
  rfl

theorem formFeed_mem_unixLines {text : List Char} :
    '\x0c' ∈ unixLines text ↔ '\x0c' ∈ text := by
  rw [← List.count_pos_iff, ← List.count_pos_iff, count_unixLines (by decide)]

/-- Parts of a text with other line ends come from parts of the text itself. -/
theorem stands_of_unixLines {text front body back : List Char} {before after : List PageText}
    {c : PageText} (whole : unixLines text = front ++ (body ++ back))
    (stands : Stands front body back before c after) :
    ∃ front' body' back', text = front' ++ (body' ++ back') ∧
      Stands front' body' back' before c after ∧
      front'.count '\x0c' = front.count '\x0c' := by
  obtain ⟨front', rest', rfl, rfl, remaining⟩ := unixLines_append_inv whole
  obtain ⟨body', back', rfl, rfl, rfl⟩ := unixLines_append_inv remaining
  refine ⟨front', body', back', rfl, ?_, (count_unixLines (by decide) front').symm⟩
  refine ⟨?_, ?_, ?_, stands.begins.of_unixLines, ?_⟩
  · rw [← split_unixLines, stands.before]
  · rw [← split_unixLines, stands.words]
  · rw [← split_unixLines, stands.after]
  · exact fun member => stands.onePage (formFeed_mem_unixLines.mpr member)

theorem textChunks_nil (size : Nat) : textChunks size [] = [] := by
  rw [textChunks_of_not_mem size List.not_mem_nil, unixLines, pageChunks]
  have words : split [] = [] := rfl
  rw [words, slices_nil]
  rfl

/-- Bytes that are not a PDF are taken exactly if they are UTF-8 without an early NUL. -/
theorem extractTextChunksOf_ok_iff {size : Nat} {pdfPages : Bytes → Option (List String)}
    {content : Bytes} (notPdf : startsWithPdf content = false) {chunks : List PageText} :
    extractTextChunksOf size pdfPages content = .ok chunks ↔
      (content.take 8192).contains 0 = false ∧
        ∃ text, decodeUtf8 content = some text ∧ chunks = textChunks size text.toList := by
  cases content with
  | nil =>
    have decoded : decodeUtf8 [] = some "" := by decide
    have empty : extractTextChunksOf size pdfPages [] = .ok [] := rfl
    rw [empty, decoded]
    constructor
    · intro same
      rw [← Except.ok.inj same]
      exact ⟨rfl, "", rfl, (textChunks_nil size).symm⟩
    · rintro ⟨-, text, same, rfl⟩
      cases same
      exact congrArg Except.ok (textChunks_nil size).symm
  | cons byte rest =>
    rw [extractTextChunksOf, if_neg (by simp), notPdf, if_neg Bool.false_ne_true]
    cases nul : ((byte :: rest).take 8192).contains 0 with
    | true => simp
    | false =>
      rw [if_neg Bool.false_ne_true]
      cases decoded : decodeUtf8 (byte :: rest) with
      | none => simp
      | some text => simp [eq_comm]

/-- The chunks of accepted bytes have the words of the decoded text in order, in groups that
are full except at the end of a page, and a chunk is numbered by the form feeds before it. -/
theorem chunks_keep_words (size : Nat) (positive : 1 ≤ size)
    (pdfPages : Bytes → Option (List String)) (content : Bytes)
    (notPdf : startsWithPdf content = false) (chunks : List PageText)
    (accepted : extractTextChunksOf size pdfPages content = .ok chunks) :
    ∃ text, decodeUtf8 content = some text ∧
      wordsOf chunks = split text.toList ∧
      (∀ c ∈ chunks, 1 ≤ wordCount c ∧ wordCount c ≤ size) ∧
      (chunks.IsChain fun c next => c.1 = next.1 → wordCount c = size) ∧
      ('\x0c' ∉ text.toList → ∀ c ∈ chunks, c.1 = none) ∧
      ('\x0c' ∈ text.toList →
        (chunks.Pairwise fun c next => ∃ p q : Int, c.1 = some p ∧ next.1 = some q ∧ p ≤ q) ∧
        ∀ before c after, chunks = before ++ c :: after →
          ∃ front body back, text.toList = front ++ (body ++ back) ∧
            Stands front body back before c after ∧
            c.1 = some ((front.count '\x0c' + 1 : Nat) : Int)) := by
  obtain ⟨-, text, decoded, rfl⟩ := (extractTextChunksOf_ok_iff notPdf).mp accepted
  refine ⟨text, decoded, ?_⟩
  by_cases several : '\x0c' ∈ unixLines text.toList
  · have inText := formFeed_mem_unixLines.mp several
    rw [textChunks_of_mem size several]
    refine ⟨?_, small_of_mem_numberedChunks positive 0 _, isChain_numberedChunks positive 0 _,
      fun absent => absurd inText absent, fun _ => ⟨pairwise_numberedChunks positive 0 _, ?_⟩⟩
    · rw [wordsOf_numberedChunks positive, joinedPages_splitOn, split_unixLines]
    · intro before c after parted
      obtain ⟨front, body, back, whole, stands, number⟩ :=
        stands_of_numberedChunks positive not_mem_of_mem_splitOn parted
      rw [joinedPages_splitOn] at whole
      obtain ⟨front', body', back', inOriginal, stands', feeds⟩ := stands_of_unixLines whole stands
      refine ⟨front', body', back', inOriginal, stands', ?_⟩
      rw [number, feeds, Nat.zero_add]
  · have spec := pageChunks_spec positive none (unixLines text.toList)
    rw [textChunks_of_not_mem size several]
    refine ⟨?_, spec.small, spec.full.imp fun _ _ full _ => full, fun _ => spec.number,
      fun inText => absurd (formFeed_mem_unixLines.mpr inText) several⟩
    rw [spec.words, split_unixLines]

/-- `b"a\x0cb c"`, two pages with three words. -/
theorem chunks_keep_words_two_pages :
    ∃ text, decodeUtf8 [0x61, 0x0C, 0x62, 0x20, 0x63] = some text ∧
      wordsOf [(some 1, "a"), (some 2, "b"), (some 2, "c")] = split text.toList := by
  have accepted : extractTextChunksOf 1 (fun _ => none) [0x61, 0x0C, 0x62, 0x20, 0x63] =
      .ok [(some 1, "a"), (some 2, "b"), (some 2, "c")] := by decide
  obtain ⟨text, decoded, words, -⟩ :=
    chunks_keep_words 1 (le_refl 1) (fun _ => none) _ (by decide) _ accepted
  exact ⟨text, decoded, words⟩

end CoolProof.Documents
