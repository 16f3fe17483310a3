import CoolProof.Library.PythonText
import Mathlib.Data.List.Chain
import Mathlib.Data.List.TakeWhile
import Mathlib.Tactic.Ring

/-! Words of a text: what `split` makes of texts put together, of words joined by blanks, and
of texts with other line ends, and where in a text its words stand. -/

namespace PythonText

/-- A word: some characters, none of them blank. -/
structure IsWord (w : List Char) : Prop where
  nonempty : w ≠ []
  solid : ∀ c ∈ w, isBlank c = false

/-! ## Splitting -/

theorem splitFrom_of_solid {w : List Char} (solid : ∀ c ∈ w, isBlank c = false)
    (begun : List Char) (cs : List Char) :
    splitFrom begun (w ++ cs) = splitFrom (w.reverse ++ begun) cs := by
  induction w generalizing begun with
  | nil => rfl
  | cons c w ih =>
    have first : isBlank c = false := solid c List.mem_cons_self
    rw [List.cons_append, splitFrom, first, if_neg Bool.false_ne_true,
      ih (fun d member => solid d (List.mem_cons_of_mem _ member)), List.reverse_cons,
      List.append_assoc]
    rfl

theorem split_blank_cons {c : Char} (blank : isBlank c = true) (cs : List Char) :
    split (c :: cs) = split cs := by
  rw [split, splitFrom, if_pos blank]
  rfl

theorem split_blanks_append {blanks : List Char} (blank : ∀ c ∈ blanks, isBlank c = true)
    (cs : List Char) : split (blanks ++ cs) = split cs := by
  induction blanks with
  | nil => rfl
  | cons c blanks ih =>
    rw [List.cons_append, split_blank_cons (blank c List.mem_cons_self)]
    exact ih fun d member => blank d (List.mem_cons_of_mem _ member)

/-- A blank ends a word, whatever stands before it. -/
theorem splitFrom_append_blank {c : Char} (blank : isBlank c = true) (begun cs ds : List Char) :
    splitFrom begun (cs ++ c :: ds) = splitFrom begun cs ++ split ds := by
  induction cs generalizing begun with
  | nil =>
    rw [List.nil_append, splitFrom, splitFrom, blank, if_pos rfl]
    split <;> rfl
  | cons d cs ih =>
    rw [List.cons_append, splitFrom, splitFrom]
    split
    · split
      · exact ih []
      · rw [ih [], List.cons_append]
    · exact ih (d :: begun)

theorem split_append_blank {c : Char} (blank : isBlank c = true) (cs ds : List Char) :
    split (cs ++ c :: ds) = split cs ++ split ds := splitFrom_append_blank blank [] cs ds

theorem split_append_of_blank_head {cs ds : List Char}
    (border : ds = [] ∨ ∃ c rest, ds = c :: rest ∧ isBlank c = true) :
    split (cs ++ ds) = split cs ++ split ds := by
  rcases border with rfl | ⟨c, rest, rfl, blank⟩
  · rw [List.append_nil]
    exact (List.append_nil _).symm
  · rw [split_append_blank blank, split_blank_cons blank]

theorem split_word {w : List Char} (word : IsWord w) : split w = [w] := by
  have read := splitFrom_of_solid word.solid [] []
  rw [List.append_nil, List.append_nil] at read
  have begun : w.reverse.isEmpty = false := by simpa using word.nonempty
  rw [split, read, splitFrom, begun, List.reverse_reverse]
  rfl

theorem isWord_of_mem_splitFrom {begun cs : List Char}
    (solid : ∀ c ∈ begun, isBlank c = false) : ∀ w ∈ splitFrom begun cs, IsWord w := by
  have ended : ∀ begun : List Char, (∀ c ∈ begun, isBlank c = false) → begun.isEmpty = false →
      IsWord begun.reverse := by
    intro begun solid some
    exact ⟨by simpa using some, fun c member => solid c (List.mem_reverse.mp member)⟩
  induction cs generalizing begun with
  | nil =>
    intro w member
    rw [splitFrom] at member
    split at member
    · cases member
    · rename_i some
      rw [List.mem_singleton.mp member]
      exact ended begun solid (Bool.eq_false_iff.mpr some)
  | cons c cs ih =>
    intro w member
    rw [splitFrom] at member
    split at member
    · split at member
      · exact ih (by simp) w member
      · rename_i some
        rcases List.mem_cons.mp member with rfl | later
        · exact ended begun solid (Bool.eq_false_iff.mpr some)
        · exact ih (by simp) w later
    · rename_i letter
      apply ih _ w member
      intro d inWord
      rcases List.mem_cons.mp inWord with rfl | before
      · exact Bool.eq_false_iff.mpr letter
      · exact solid d before

theorem isWord_of_mem_split {cs : List Char} : ∀ w ∈ split cs, IsWord w :=
  isWord_of_mem_splitFrom (by simp)

/-- A reading that every blank cuts reads the words one by one. -/
theorem splitFrom_flatMap_reading {β : Type*} {read : List Char → List β} (empty : read [] = [])
    (cut : ∀ c, isBlank c = true → ∀ before after,
      read (before ++ c :: after) = read before ++ read after) (begun cs : List Char) :
    (splitFrom begun cs).flatMap read = read (begun.reverse ++ cs) := by
  induction cs generalizing begun with
  | nil =>
    rw [splitFrom, List.append_nil]
    cases begun with
    | nil => exact empty.symm
    | cons c begun =>
      rw [List.isEmpty_cons, if_neg Bool.false_ne_true, List.flatMap_singleton]
  | cons c cs ih =>
    rw [splitFrom]
    split
    · rename_i blank
      have rest : (splitFrom [] cs).flatMap read = read cs := ih []
      rw [cut c blank]
      cases begun with
      | nil =>
        rw [List.isEmpty_nil, if_pos rfl, rest, List.reverse_nil, empty, List.nil_append]
      | cons d begun =>
        rw [List.isEmpty_cons, if_neg Bool.false_ne_true, List.flatMap_cons, rest]
    · rw [ih, List.reverse_cons, List.append_assoc]
      rfl

theorem split_flatMap_reading {β : Type*} {read : List Char → List β} (empty : read [] = [])
    (cut : ∀ c, isBlank c = true → ∀ before after,
      read (before ++ c :: after) = read before ++ read after) (cs : List Char) :
    (split cs).flatMap read = read cs := splitFrom_flatMap_reading empty cut [] cs

/-! ## Joined words -/

theorem split_spaced {words : List (List Char)} (all : ∀ w ∈ words, IsWord w) :
    split (spaced words) = words := by
  induction words with
  | nil => rfl
  | cons w words ih =>
    have first : IsWord w := all w List.mem_cons_self
    have rest := ih fun v member => all v (List.mem_cons_of_mem _ member)
    cases words with
    | nil =>
      have single : spaced [w] = w := by simp [spaced]
      rw [single, split_word first]
    | cons v words =>
      have joined : spaced (w :: v :: words) = w ++ ' ' :: spaced (v :: words) := by
        simp [spaced, List.intercalate]
      rw [joined, split_append_blank rfl, split_word first, rest]
      rfl

/-- What `strip` takes away are characters of its set, on both sides. -/
theorem strip_spec (p : Char → Bool) (cs : List Char) : ∃ front back,
    cs = front ++ (strip p cs ++ back) ∧ (∀ c ∈ front, p c = true) ∧ ∀ c ∈ back, p c = true := by
  refine ⟨cs.takeWhile p, ((cs.dropWhile p).reverse.takeWhile p).reverse, ?_,
    fun c member => List.mem_takeWhile_imp member,
    fun c member => List.mem_takeWhile_imp (List.mem_reverse.mp member)⟩
  have whole : strip p cs ++ ((cs.dropWhile p).reverse.takeWhile p).reverse =
      cs.dropWhile p := by
    rw [strip, ← List.reverse_append, List.takeWhile_append_dropWhile, List.reverse_reverse]
  rw [whole, List.takeWhile_append_dropWhile]

theorem splitFrom_eq_nil {begun cs : List Char} (none : splitFrom begun cs = []) :
    begun = [] ∧ ∀ c ∈ cs, isBlank c = true := by
  induction cs generalizing begun with
  | nil =>
    rw [splitFrom] at none
    split at none
    · rename_i empty
      exact ⟨List.isEmpty_iff.mp empty, fun _ member => absurd member List.not_mem_nil⟩
    · cases none
  | cons c cs ih =>
    rw [splitFrom] at none
    split at none
    · rename_i blank
      split at none
      · rename_i empty
        exact ⟨List.isEmpty_iff.mp empty, List.forall_mem_cons.mpr ⟨blank, (ih none).2⟩⟩
      · cases none
    · exact absurd (ih none).1 (List.cons_ne_nil c begun)

/-- A text has words unless it is blank, which is when nothing is left of it without blanks. -/
theorem strip_eq_nil_iff (cs : List Char) : strip isBlank cs = [] ↔ split cs = [] := by
  constructor
  · intro empty
    obtain ⟨front, back, whole, leading, trailing⟩ := strip_spec isBlank cs
    rw [whole, empty, List.nil_append, split_blanks_append leading, ← List.append_nil back,
      split_blanks_append trailing]
    rfl
  · intro none
    have blank := (splitFrom_eq_nil none).2
    have dropped : cs.dropWhile isBlank = [] := List.dropWhile_eq_nil_iff.mpr blank
    rw [strip, dropped]
    rfl

/-- Blanks around a text are not in its words. -/
theorem split_strip (cs : List Char) : split (strip isBlank cs) = split cs := by
  obtain ⟨front, back, whole, leading, trailing⟩ := strip_spec isBlank cs
  have behind : split back = [] := by
    rw [← List.append_nil back, split_blanks_append trailing]
    rfl
  have border : back = [] ∨ ∃ c rest, back = c :: rest ∧ isBlank c = true := by
    cases back with
    | nil => exact .inl rfl
    | cons c rest => exact .inr ⟨c, rest, rfl, trailing c List.mem_cons_self⟩
  conv_rhs => rw [whole]
  rw [split_blanks_append leading, split_append_of_blank_head border, behind, List.append_nil]

/-- Letters that are replaced by letters, and blanks that stay, keep the words apart. -/
theorem splitFrom_flatMap {f : Char → List Char} (blank : ∀ c, isBlank c = true → f c = [c])
    (letter : ∀ c, isBlank c = false → f c ≠ [] ∧ ∀ d ∈ f c, isBlank d = false)
    {begun : List Char} (solid : ∀ c ∈ begun, isBlank c = false) (cs : List Char) :
    splitFrom (begun.reverse.flatMap f).reverse (cs.flatMap f) =
      (splitFrom begun cs).map fun w => w.flatMap f := by
  have empty : ∀ begun : List Char, (∀ c ∈ begun, isBlank c = false) →
      (begun.reverse.flatMap f).reverse.isEmpty = begun.isEmpty := by
    intro begun solid
    cases begun with
    | nil => rfl
    | cons c begun =>
      have some : f c ≠ [] := (letter c (solid c List.mem_cons_self)).1
      simp [some]
  induction cs generalizing begun with
  | nil =>
    rw [List.flatMap_nil, splitFrom, splitFrom, empty begun solid]
    split
    · rfl
    · rw [List.reverse_reverse]
      rfl
  | cons c cs ih =>
    rw [List.flatMap_cons]
    cases ends : isBlank c with
    | true =>
      have rest : splitFrom [] (cs.flatMap f) = (splitFrom [] cs).map fun w => w.flatMap f :=
        @ih [] (by simp)
      rw [blank c ends, List.singleton_append, splitFrom, splitFrom, ends, if_pos rfl, if_pos rfl,
        empty begun solid]
      split
      · exact rest
      · rw [rest, List.reverse_reverse]
        rfl
    | false =>
      have longer : ∀ d ∈ c :: begun, isBlank d = false := by
        intro d member
        rcases List.mem_cons.mp member with rfl | before
        · exact ends
        · exact solid d before
      have begins : (f c).reverse ++ (begun.reverse.flatMap f).reverse =
          ((c :: begun).reverse.flatMap f).reverse := by simp
      rw [splitFrom_of_solid (letter c ends).2, begins, ih longer]
      conv_rhs => rw [splitFrom, ends, if_neg Bool.false_ne_true]

theorem split_flatMap {f : Char → List Char} (blank : ∀ c, isBlank c = true → f c = [c])
    (letter : ∀ c, isBlank c = false → f c ≠ [] ∧ ∀ d ∈ f c, isBlank d = false)
    (cs : List Char) : split (cs.flatMap f) = (split cs).map fun w => w.flatMap f :=
  @splitFrom_flatMap f blank letter [] (by simp) cs

/-! ## Where words stand -/

/-- A text with words begins with blanks and its first word, and a border follows. -/
theorem splitFrom_cons_inv {begun cs w : List Char} {words : List (List Char)}
    (solid : ∀ c ∈ begun, isBlank c = false) (some : begun ≠ [])
    (found : splitFrom begun cs = w :: words) :
    ∃ letters rest, cs = letters ++ rest ∧ w = begun.reverse ++ letters ∧ split rest = words ∧
      (rest = [] ∨ ∃ c tail, rest = c :: tail ∧ isBlank c = true) := by
  induction cs generalizing begun with
  | nil =>
    rw [splitFrom, if_neg (by simpa using some)] at found
    cases found
    exact ⟨[], [], rfl, (List.append_nil _).symm, rfl, .inl rfl⟩
  | cons c cs ih =>
    rw [splitFrom] at found
    split at found
    · rename_i blank
      rw [if_neg (by simpa using some)] at found
      cases found
      exact ⟨[], c :: cs, rfl, (List.append_nil _).symm, split_blank_cons blank cs,
        .inr ⟨c, cs, rfl, blank⟩⟩
    · rename_i letter
      have longer : ∀ d ∈ c :: begun, isBlank d = false := by
        intro d member
        rcases List.mem_cons.mp member with rfl | before
        · exact Bool.eq_false_iff.mpr letter
        · exact solid d before
      obtain ⟨letters, rest, rfl, rfl, remaining, border⟩ :=
        ih longer (List.cons_ne_nil _ _) found
      exact ⟨c :: letters, rest, rfl, by simp, remaining, border⟩

theorem split_cons_inv {cs w : List Char} {words : List (List Char)}
    (found : split cs = w :: words) : ∃ blanks rest, cs = blanks ++ (w ++ rest) ∧
      (∀ c ∈ blanks, isBlank c = true) ∧ split rest = words ∧
      (rest = [] ∨ ∃ c tail, rest = c :: tail ∧ isBlank c = true) := by
  induction cs with
  | nil => cases found
  | cons c cs ih =>
    by_cases blank : isBlank c = true
    · rw [split_blank_cons blank] at found
      obtain ⟨blanks, rest, rfl, all, remaining, border⟩ := ih found
      refine ⟨c :: blanks, rest, rfl, ?_, remaining, border⟩
      intro d member
      rcases List.mem_cons.mp member with rfl | later
      · exact blank
      · exact all d later
    · rw [split, splitFrom, if_neg blank] at found
      have solid : ∀ d ∈ [c], isBlank d = false := by
        intro d member
        rw [List.mem_singleton.mp member]
        exact Bool.eq_false_iff.mpr blank
      obtain ⟨letters, rest, rfl, rfl, remaining, border⟩ :=
        splitFrom_cons_inv solid (List.cons_ne_nil _ _) found
      exact ⟨[], rest, rfl, by simp, remaining, border⟩

/-- A text begins with a letter. -/
def BeginsWord (cs : List Char) : Prop := ∃ c rest, cs = c :: rest ∧ isBlank c = false

/-- The words of a text are parted where the text is parted before a word. -/
theorem split_append_inv {cs : List Char} {first second : List (List Char)}
    (found : split cs = first ++ second) : ∃ front back, cs = front ++ back ∧
      split front = first ∧ split back = second ∧ (second ≠ [] → BeginsWord back) := by
  induction first generalizing cs with
  | nil =>
    have leading : ∀ c ∈ cs.takeWhile isBlank, isBlank c = true :=
      fun c member => List.mem_takeWhile_imp member
    have parted : cs.takeWhile isBlank ++ cs.dropWhile isBlank = cs :=
      List.takeWhile_append_dropWhile
    have behind : split (cs.dropWhile isBlank) = second := by
      rw [← split_blanks_append leading, parted]
      exact found
    refine ⟨cs.takeWhile isBlank, cs.dropWhile isBlank, parted.symm, ?_, behind, ?_⟩
    · rw [← List.append_nil (cs.takeWhile isBlank), split_blanks_append leading]
      rfl
    · intro some
      cases rest : cs.dropWhile isBlank with
      | nil =>
        rw [rest] at behind
        exact absurd behind.symm some
      | cons c tail =>
        have letter := List.head?_dropWhile_not isBlank cs
        rw [rest] at letter
        exact ⟨c, tail, rfl, by simpa using letter⟩
  | cons w first ih =>
    have words := @isWord_of_mem_split cs
    rw [found] at words
    have word : IsWord w := words w List.mem_cons_self
    obtain ⟨blanks, rest, rfl, all, remaining, border⟩ := split_cons_inv found
    obtain ⟨front, back, rfl, before, after, starts⟩ := ih remaining
    have frontBorder : front = [] ∨ ∃ c tail, front = c :: tail ∧ isBlank c = true := by
      cases front with
      | nil => exact .inl rfl
      | cons c tail =>
        rcases border with none | ⟨d, more, same, blank⟩
        · cases none
        · cases same
          exact .inr ⟨c, tail, rfl, blank⟩
    refine ⟨blanks ++ (w ++ front), back, by simp, ?_, after, starts⟩
    rw [split_blanks_append all, split_append_of_blank_head frontBorder, split_word word, before]
    rfl

/-- Words in the middle stand in a part of the text that begins with the first of them. -/
theorem split_part {cs : List Char} {first middle last : List (List Char)}
    (found : split cs = first ++ (middle ++ last)) (some : middle ≠ []) :
    ∃ front body back, cs = front ++ (body ++ back) ∧ split front = first ∧
      split body = middle ∧ split back = last ∧ BeginsWord body := by
  obtain ⟨front, rest, rfl, before, remaining, starts⟩ := split_append_inv found
  obtain ⟨body, back, rfl, inside, after, -⟩ := split_append_inv remaining
  refine ⟨front, body, back, rfl, before, inside, after, ?_⟩
  obtain ⟨c, tail, same, letter⟩ := starts (List.append_ne_nil_of_left_ne_nil some _)
  cases body with
  | nil => exact absurd inside.symm some
  | cons d body =>
    cases same
    exact ⟨c, body, rfl, letter⟩

/-! ## Slices -/

section Slices

variable {α : Type} {n : Nat}

theorem slices_nil : slices n ([] : List α) = [] := by
  have none : (0 + n - 1) / n = 0 := by
    cases n with
    | zero => rfl
    | succ n => exact Nat.div_eq_of_lt (by omega)
  rw [slices, List.length_nil, none]
  rfl

/-- The first slice is taken off the items, and the others are the slices of the rest. -/
theorem slices_of_ne_nil (positive : 1 ≤ n) {items : List α} (some : items ≠ []) :
    slices n items = items.take n :: slices n (items.drop n) := by
  have length : 0 < items.length := List.length_pos_of_ne_nil some
  have turns : (items.length + n - 1) / n = ((items.drop n).length + n - 1) / n + 1 := by
    have whole : items.length + n - 1 = items.length - 1 + n := by omega
    rw [List.length_drop, whole, Nat.add_div_right _ positive]
    congr 1
    by_cases more : n ≤ items.length
    · congr 1
      omega
    · rw [Nat.div_eq_of_lt (by omega), Nat.div_eq_of_lt (by omega)]
  rw [slices, slices, turns, List.range_succ_eq_map, List.map_cons, List.map_map]
  congr 1
  · rw [Nat.zero_mul, List.drop_zero]
  · apply List.map_congr_left
    intro k _
    have shift : (k + 1) * n = n + k * n := by ring
    rw [Function.comp_apply, Nat.succ_eq_add_one, shift, List.drop_drop]

/-- What holds of no slices, and of a first slice before others, holds of all slices. -/
theorem slices_induction (positive : 1 ≤ n) {motive : List α → List (List α) → Prop}
    (nil : motive [] [])
    (cons : ∀ items, items ≠ [] → motive (items.drop n) (slices n (items.drop n)) →
      motive items (items.take n :: slices n (items.drop n))) (items : List α) :
    motive items (slices n items) := by
  induction length : items.length using Nat.strong_induction_on generalizing items with
  | _ m ih =>
    by_cases empty : items = []
    · rw [empty, slices_nil]
      exact nil
    · have shorter : (items.drop n).length < m := by
        have some : 0 < items.length := List.length_pos_of_ne_nil empty
        rw [List.length_drop]
        omega
      rw [slices_of_ne_nil positive empty]
      exact cons items empty (ih _ shorter _ rfl)

theorem flatten_slices (positive : 1 ≤ n) (items : List α) : (slices n items).flatten = items := by
  induction items using slices_induction positive with
  | nil => rfl
  | cons items _ ih => rw [List.flatten_cons, ih, List.take_append_drop]

theorem length_of_mem_slices (positive : 1 ≤ n) (items : List α) :
    ∀ slice ∈ slices n items, 1 ≤ slice.length ∧ slice.length ≤ n := by
  induction items using slices_induction positive with
  | nil => simp
  | cons items some ih =>
    intro slice member
    rcases List.mem_cons.mp member with rfl | later
    · have length : 0 < items.length := List.length_pos_of_ne_nil some
      rw [List.length_take]
      omega
    · exact ih slice later

/-- Every slice but the last is full. -/
theorem isChain_slices (positive : 1 ≤ n) (items : List α) :
    (slices n items).IsChain fun slice _ => slice.length = n := by
  induction items using slices_induction positive with
  | nil => exact .nil
  | cons items some ih =>
    rw [List.isChain_cons]
    refine ⟨?_, ih⟩
    intro next head
    have more : items.drop n ≠ [] := by
      intro none
      rw [none, slices_nil] at head
      cases head
    have length := List.length_pos_of_ne_nil more
    rw [List.length_drop] at length
    rw [List.length_take]
    omega

end Slices

/-! ## Line ends -/

theorem splitFrom_unixLines (begun cs : List Char) :
    splitFrom begun (unixLines cs) = splitFrom begun cs := by
  induction cs using unixLines.induct generalizing begun with
  | case1 cs ih =>
    have ends : isBlank '\r' = true := by decide
    have line : isBlank '\n' = true := by decide
    rw [unixLines, splitFrom, splitFrom, line, ends, if_pos rfl, if_pos rfl, ih, splitFrom, line,
      if_pos rfl]
    rfl
  | case2 c cs _ ih =>
    rw [unixLines, splitFrom, splitFrom, ih, ih]
    assumption
  | case3 => rfl

theorem split_unixLines (cs : List Char) : split (unixLines cs) = split cs :=
  splitFrom_unixLines [] cs

/-- Line ends do not touch any other character. -/
theorem count_unixLines {c : Char} (plain : c ≠ '\r' ∧ c ≠ '\n') (cs : List Char) :
    (unixLines cs).count c = cs.count c := by
  induction cs using unixLines.induct with
  | case1 cs ih =>
    rw [unixLines, List.count_cons_of_ne (Ne.symm plain.2), List.count_cons_of_ne (Ne.symm plain.1),
      List.count_cons_of_ne (Ne.symm plain.2), ih]
  | case2 d cs _ ih =>
    rw [unixLines, List.count_cons, List.count_cons, ih]
    assumption
  | case3 => rfl

/-- Where the text with other line ends is parted, the text itself is. -/
theorem unixLines_append_inv {cs front back : List Char} (parted : unixLines cs = front ++ back) :
    ∃ front' back', cs = front' ++ back' ∧ unixLines front' = front ∧
      unixLines back' = back := by
  cases front with
  | nil => exact ⟨[], cs, rfl, rfl, parted⟩
  | cons f front =>
    induction cs using unixLines.induct generalizing f front with
    | case1 cs ih =>
      rw [unixLines] at parted
      obtain ⟨rfl, rest⟩ := List.cons.inj parted
      cases front with
      | nil => exact ⟨['\r', '\n'], cs, rfl, rfl, rest⟩
      | cons g front =>
        obtain ⟨front', back', rfl, before, after⟩ := ih g front rest
        exact ⟨'\r' :: '\n' :: front', back', rfl, by rw [unixLines, before], after⟩
    | case2 c cs single ih =>
      have step : unixLines (c :: cs) = c :: unixLines cs := by
        rw [unixLines]
        exact single
      rw [step] at parted
      obtain ⟨rfl, rest⟩ := List.cons.inj parted
      cases front with
      | nil => exact ⟨[c], cs, rfl, by simp [unixLines], rest⟩
      | cons g front =>
        obtain ⟨front', back', rfl, before, after⟩ := ih g front rest
        refine ⟨c :: front', back', rfl, ?_, after⟩
        rw [unixLines, before]
        intro tail carriage same
        cases same
        exact single (tail ++ back') carriage rfl
    | case3 => cases parted

theorem BeginsWord.of_unixLines {cs : List Char} (starts : BeginsWord (unixLines cs)) :
    BeginsWord cs := by
  obtain ⟨c, rest, same, letter⟩ := starts
  cases cs using unixLines.fun_cases with
  | case1 cs =>
    rw [unixLines] at same
    cases same
    cases letter
  | case2 d cs single =>
    have step : unixLines (d :: cs) = d :: unixLines cs := by
      rw [unixLines]
      exact single
    rw [step] at same
    cases same
    exact ⟨c, cs, rfl, letter⟩
  | case3 => cases same

end PythonText
