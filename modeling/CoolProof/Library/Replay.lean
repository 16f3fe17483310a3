import Mathlib.Data.List.Infix
import Mathlib.Data.List.Sort

/-! Replay of a numbered log by cursor. A reader keeps the largest number it has seen and
asks for the entries above it in the order of their numbers. What it has read is the log
as long as the numbers are 1, 2, 3, … in the order of the log. -/

namespace Replay

variable {α : Type*} (number : α → Nat)

/-- The largest number of a list of entries, zero for none. -/
def last (entries : List α) : Nat := (entries.map number).foldl max 0

/-- The answer to a reader: the entries above its cursor by number, equal numbers in any
order. -/
structure Answers (log : List α) (cursor : Nat) (batch : List α) : Prop where
  entries : batch.Perm (log.filter fun e => cursor < number e)
  ordered : batch.Pairwise fun a b => number a ≤ number b

/-- The entries carry 1, 2, 3, … in order. -/
def Numbered (log : List α) : Prop := log.map number = List.range' 1 log.length

variable {number} {log received batch : List α} {e : α}

theorem exists_answers (number : α → Nat) (log : List α) (cursor : Nat) :
    ∃ batch, Answers number log cursor batch := by
  refine ⟨(log.filter fun e => cursor < number e).insertionSort fun a b => number a ≤ number b,
    List.perm_insertionSort _ _, ?_⟩
  have total : Std.Total fun a b : α => number a ≤ number b := ⟨fun a b => Nat.le_total _ _⟩
  have transitive : IsTrans α fun a b => number a ≤ number b := ⟨fun _ _ _ => Nat.le_trans⟩
  exact List.pairwise_insertionSort _ _

/-! ## Numbered logs -/

theorem last_of_numbered (numbered : Numbered number log) : last number log = log.length := by
  have range : ∀ n, (List.range' 1 n).foldl max 0 = n := by
    intro n
    induction n with
    | zero => rfl
    | succ n ih => rw [List.range'_concat, List.foldl_append, ih]; simp; omega
  rw [last, numbered, range]

theorem numbered_append : Numbered number (log ++ [e]) ↔
    Numbered number log ∧ number e = log.length + 1 := by
  unfold Numbered
  rw [List.map_append, List.length_append, List.length_singleton, List.range'_concat]
  constructor
  · intro same
    have parts := List.append_inj same (by simp)
    exact ⟨parts.1, by simpa [Nat.add_comm] using parts.2⟩
  · rintro ⟨front, next⟩
    rw [front]
    simp [next, Nat.add_comm]

theorem numbered_front {first : List α} (numbered : Numbered number log)
    (before : first <+: log) : Numbered number first := by
  obtain ⟨rest, rfl⟩ := before
  induction rest using List.reverseRecOn with
  | nil => rwa [List.append_nil] at numbered
  | append_singleton rest x ih =>
    rw [← List.append_assoc] at numbered
    exact ih (numbered_append.mp numbered).1

/-- The entries of a numbered log above a cursor are those after as many entries. -/
theorem filter_numbered (numbered : Numbered number log) (cursor : Nat) :
    (log.filter fun e => cursor < number e) = log.drop cursor := by
  induction log using List.reverseRecOn with
  | nil => simp
  | append_singleton log x ih =>
    obtain ⟨front, next⟩ := numbered_append.mp numbered
    rw [List.filter_append, ih front, List.drop_append, List.filter_singleton, next]
    by_cases seen : cursor ≤ log.length
    · have above : cursor < log.length + 1 := by omega
      have none_left : cursor - log.length = 0 := by omega
      simp [above, none_left]
    · have below : ¬cursor < log.length + 1 := by omega
      obtain ⟨k, left⟩ : ∃ k, cursor - log.length = k + 1 := ⟨cursor - log.length - 1, by omega⟩
      simp [below, left]

theorem strict_of_numbered (numbered : Numbered number log) :
    log.Pairwise fun a b => number a < number b := by
  have strict : (List.range' 1 log.length).Pairwise (· < ·) := List.pairwise_lt_range'
  rw [← numbered, List.pairwise_map] at strict
  exact strict

/-- A reader that has a beginning of a numbered log has all of it after one more reading. -/
theorem Answers.complete (answers : Answers number log (last number received) batch)
    (numbered : Numbered number log) (before : received <+: log) : received ++ batch = log := by
  have front := numbered_front numbered before
  obtain ⟨rest, split⟩ := before
  have above : (log.filter fun e => last number received < number e) = rest := by
    rw [filter_numbered numbered, last_of_numbered front, ← split, List.drop_left]
  have strict := strict_of_numbered numbered
  rw [← split, List.pairwise_append] at strict
  have same : batch = rest := by
    have entries := answers.entries
    rw [above] at entries
    refine entries.eq_of_pairwise (fun a b left right ab ba => ?_) answers.ordered
      (strict.2.1.imp Nat.le_of_lt)
    have distinct : (rest.map number).Nodup :=
      List.pairwise_map.mpr (strict.2.1.imp Nat.ne_of_lt)
    exact List.inj_on_of_nodup_map distinct (entries.mem_iff.mp left) right (by omega)
  rw [same, split]

end Replay
