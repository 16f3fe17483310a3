import Mathlib.Algebra.Order.Ring.Nat
import Mathlib.Data.List.Basic

/-! The place of an entry in a first-in first-out queue that may lose others. Its place is
where it stands first, and nothing but what stands before it decides when it is taken. -/

namespace WorkQueue

variable {α : Type*} [DecidableEq α] {x y : α} {before between after rest : List α} {m n : Nat}

/-- The entry is still in the queue, and `n` places nearer to its front. -/
def Nearer (x : α) (n : Nat) (before after : List α) : Prop :=
  x ∈ after ∧ n + after.idxOf x ≤ before.idxOf x

theorem Nearer.refl (waits : x ∈ before) : Nearer x 0 before before :=
  ⟨waits, (Nat.zero_add _).le⟩

theorem Nearer.trans (first : Nearer x m before between) (second : Nearer x n between after) :
    Nearer x (m + n) before after := by
  refine ⟨second.1, ?_⟩
  have near := first.2
  have nearer := second.2
  omega

/-- Entries join behind. -/
theorem Nearer.joined (waits : x ∈ before) (more : List α) :
    Nearer x 0 before (before ++ more) := by
  refine ⟨List.mem_append_left _ waits, ?_⟩
  rw [List.idxOf_append_of_mem waits, Nat.zero_add]

/-- Another entry is taken from the front. -/
theorem Nearer.taken (waits : x ∈ y :: rest) (other : y ≠ x) : Nearer x 1 (y :: rest) rest := by
  refine ⟨(List.mem_cons.mp waits).resolve_left other.symm, ?_⟩
  rw [List.idxOf_cons_ne _ other]
  omega

/-- Others are lost, wherever they stand. -/
theorem Nearer.spared (lost : after.Sublist before) (kept : before.count x ≤ after.count x)
    (waits : x ∈ before) : Nearer x 0 before after := by
  have present : x ∈ after := List.count_pos_iff.mp ((List.count_pos_iff.mpr waits).trans_le kept)
  refine ⟨present, ?_⟩
  rw [Nat.zero_add]
  clear waits
  induction lost with
  | slnil => exact le_rfl
  | @cons left queue y lost ih =>
    by_cases same : y = x
    · -- the entry itself would be among the lost
      subst same
      rw [List.count_cons_self] at kept
      have fewer := lost.count_le y
      omega
    · rw [List.count_cons_of_ne same] at kept
      rw [List.idxOf_cons_ne _ same]
      exact (ih kept present).trans (Nat.le_succ _)
  | @cons_cons left queue y lost ih =>
    by_cases same : y = x
    · subst same
      simp
    · rw [List.count_cons_of_ne same, List.count_cons_of_ne same] at kept
      rw [List.idxOf_cons_ne _ same, List.idxOf_cons_ne _ same]
      have tail : x ∈ left := (List.mem_cons.mp present).resolve_left (Ne.symm same)
      exact Nat.succ_le_succ (ih kept tail)

end WorkQueue
