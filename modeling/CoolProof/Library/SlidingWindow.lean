import Mathlib.Algebra.Order.Group.Defs
import Mathlib.Data.List.Induction
import Mathlib.Tactic.Abel

/-! Sliding windows over a list of times. A bucket that drops what is `width` old from its
left end holds the recent part of all times ever added, and a source that adds a time only
while few are recent never has many of them in one window. -/

namespace SlidingWindow

variable {T : Type*} [AddCommGroup T] [LinearOrder T]

/-- The times of a list that are less than `width` before a time. -/
def recent (width now : T) (times : List T) : List T :=
  times.filter fun x => decide (now - width < x)

/-- A bucket after the times that are `width` old or older leave it from the left. -/
def expire (width now : T) (bucket : List T) : List T :=
  bucket.dropWhile fun x => decide (width ≤ now - x)

variable {width now later : T} {times bucket : List T}

theorem recent_append (first second : List T) :
    recent width now (first ++ second) = recent width now first ++ recent width now second :=
  List.filter_append first second

theorem old_iff [IsOrderedAddMonoid T] (x : T) : width ≤ now - x ↔ ¬ now - width < x := by
  rw [not_lt, le_sub_comm]

/-- In a sorted bucket nothing old stands behind a recent time. -/
theorem expire_eq_recent [IsOrderedAddMonoid T] (sorted : bucket.Pairwise (· ≤ ·)) :
    expire width now bucket = recent width now bucket := by
  induction bucket with
  | nil => rfl
  | cons x bucket ih =>
    obtain ⟨first, rest⟩ := List.pairwise_cons.mp sorted
    by_cases kept : now - width < x
    · have young : ¬ width ≤ now - x := fun old => (old_iff x).mp old kept
      have all : ∀ y ∈ x :: bucket, decide (now - width < y) = true := by
        intro y member
        rcases List.mem_cons.mp member with rfl | inBucket
        · exact decide_eq_true kept
        · exact decide_eq_true (kept.trans_le (first y inBucket))
      rw [recent, List.filter_eq_self.mpr all, expire,
        List.dropWhile_cons_of_neg (by simpa using young)]
    · have old : width ≤ now - x := (old_iff x).mpr kept
      rw [recent, List.filter_cons_of_neg (by simpa using kept), expire,
        List.dropWhile_cons_of_pos (by simpa using old)]
      exact ih rest

/-- What is recent later was recent before. -/
theorem recent_recent [IsOrderedAddMonoid T] (after : now ≤ later) :
    recent width later (recent width now times) = recent width later times := by
  rw [recent, recent, List.filter_filter]
  apply List.filter_congr
  intro x _
  by_cases kept : later - width < x
  · have before : now - width < x := (sub_le_sub_right after width).trans_lt kept
    simp [kept, before]
  · simp [kept]

/-- A bucket that has expired and may have taken the time of now stands for the times with it. -/
theorem expire_next [IsOrderedAddMonoid T] (sorted : times.Pairwise (· ≤ ·))
    (past : ∀ x ∈ times, x ≤ now) (kept : expire width now bucket = recent width now times)
    (after : now ≤ later) {added : List T} (new : added = [] ∨ added = [now]) :
    expire width later (expire width now bucket ++ added) =
      recent width later (times ++ added) := by
  have sortedRecent : (recent width now times).Pairwise (· ≤ ·) :=
    sorted.sublist List.filter_sublist
  have sortedNext : (recent width now times ++ added).Pairwise (· ≤ ·) := by
    rcases new with rfl | rfl
    · rwa [List.append_nil]
    · refine List.pairwise_append.mpr ⟨sortedRecent, List.pairwise_singleton _ _, ?_⟩
      intro x member y last
      rw [List.mem_singleton.mp last]
      exact past x (List.mem_filter.mp member).1
  rw [kept, expire_eq_recent sortedNext, recent_append, recent_recent after, ← recent_append]

/-- Each time was added while fewer than `limit` of those before it were recent. -/
def Limited (width : T) (limit : Nat) (times : List T) : Prop :=
  ∀ before x after, times = before ++ x :: after → (recent width x before).length < limit

theorem Limited.nil (limit : Nat) : Limited width limit ([] : List T) := by
  intro before x after split
  simp at split

theorem Limited.append_singleton {limit : Nat} {x : T} (limited : Limited width limit times)
    (few : (recent width x times).length < limit) : Limited width limit (times ++ [x]) := by
  intro before y after split
  rcases List.eq_nil_or_concat after with rfl | ⟨front, last, rfl⟩
  · obtain ⟨rfl, same⟩ := List.append_inj' split rfl
    cases same
    exact few
  · have shape : times ++ [x] = (before ++ y :: front) ++ [last] := by
      rw [split, List.concat_eq_append, List.append_assoc]
      rfl
    exact limited before y front (List.append_inj' shape rfl).1

theorem Limited.of_append_singleton {limit : Nat} {x : T}
    (limited : Limited width limit (times ++ [x])) : Limited width limit times := by
  intro before y after split
  apply limited before y (after ++ [x])
  rw [split, List.append_assoc]
  rfl

/-- Any part of the times that spans less than `width` has at most `limit` of them. -/
theorem Limited.count_le {limit : Nat} (limited : Limited width limit times) (inside : T → Bool)
    (narrow : ∀ x ∈ times, ∀ y ∈ times, inside x → inside y → y - width < x) :
    times.countP inside ≤ limit := by
  induction times using List.reverseRecOn with
  | nil => exact Nat.zero_le _
  | append_singleton times last ih =>
    have fewer := ih limited.of_append_singleton fun x inX y inY =>
      narrow x (List.mem_append_left _ inX) y (List.mem_append_left _ inY)
    rw [List.countP_append, List.countP_singleton]
    by_cases counted : inside last
    · have recentOnly : times.countP inside ≤ (recent width last times).length := by
        rw [recent, ← List.countP_eq_length_filter]
        apply List.countP_mono_left
        intro x inTimes isInside
        exact decide_eq_true (narrow x (List.mem_append_left _ inTimes) last (by simp)
          isInside counted)
      have room := limited times last [] rfl
      rw [if_pos counted]
      omega
    · rw [if_neg counted]
      exact fewer

end SlidingWindow
