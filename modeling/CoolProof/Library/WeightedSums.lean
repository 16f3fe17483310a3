import Mathlib.Algebra.BigOperators.Group.List.Basic
import Mathlib.Algebra.Order.Field.Basic
import Mathlib.Data.List.Forall2
import Mathlib.Tactic.FieldSimp
import Mathlib.Tactic.Linarith

/-! Sums over values with weights, such as measurements with the time they stand for. A sum does
not see in which order the values are listed nor into how many parts a weight is cut, and it
grows with every value when what is summed does. -/

namespace WeightedSums

variable {K : Type*} [Field K]

/-- The sum of `f value * weight`. -/
def weightedSum (f : K → K) (l : List (K × K)) : K := (l.map fun x => f x.1 * x.2).sum

def totalWeight (l : List (K × K)) : K := (l.map Prod.snd).sum

def weightedMean (f : K → K) (l : List (K × K)) : K := weightedSum f l / totalWeight l

@[simp] theorem weightedSum_nil (f : K → K) : weightedSum f [] = 0 := rfl

@[simp] theorem weightedSum_cons (f : K → K) (x : K × K) (l : List (K × K)) :
    weightedSum f (x :: l) = f x.1 * x.2 + weightedSum f l := by
  rw [weightedSum, List.map_cons, List.sum_cons]
  rfl

theorem totalWeight_eq (l : List (K × K)) : totalWeight l = weightedSum (fun _ => 1) l := by
  induction l with
  | nil => rfl
  | cons x l ih =>
    rw [weightedSum_cons, ← ih, one_mul]
    exact List.sum_cons

/-! ## How values are recorded -/

/-- Two lists record the same: the order differs, or the parts into which weights are cut. -/
inductive SameRecord : List (K × K) → List (K × K) → Prop
  | perm {l m} (order : l.Perm m) : SameRecord l m
  | cut (value weight weight' : K) (rest : List (K × K)) :
      SameRecord ((value, weight + weight') :: rest) ((value, weight) :: (value, weight') :: rest)
  | trans {l m n} (first : SameRecord l m) (second : SameRecord m n) : SameRecord l n

/-- A weight in the middle of a list may be cut. -/
theorem SameRecord.cut_at (before after : List (K × K)) (value weight weight' : K) :
    SameRecord (before ++ (value, weight + weight') :: after)
      (before ++ (value, weight) :: (value, weight') :: after) := by
  have front : (before ++ (value, weight + weight') :: after).Perm
      ((value, weight + weight') :: (before ++ after)) := List.perm_middle
  have back : (before ++ (value, weight) :: (value, weight') :: after).Perm
      ((value, weight) :: (value, weight') :: (before ++ after)) :=
    List.perm_middle.trans (List.perm_middle.cons _)
  exact (SameRecord.perm front).trans ((SameRecord.cut _ _ _ _).trans (.perm back.symm))

theorem weightedSum_of_sameRecord (f : K → K) {l m : List (K × K)} (same : SameRecord l m) :
    weightedSum f l = weightedSum f m := by
  induction same with
  | perm order => exact (order.map _).sum_eq
  | cut value weight weight' rest =>
    rw [weightedSum_cons, weightedSum_cons, weightedSum_cons, mul_add, add_assoc]
  | trans _ _ first second => exact first.trans second

theorem totalWeight_of_sameRecord {l m : List (K × K)} (same : SameRecord l m) :
    totalWeight l = totalWeight m := by
  rw [totalWeight_eq, totalWeight_eq, weightedSum_of_sameRecord _ same]

theorem weightedMean_of_sameRecord (f : K → K) {l m : List (K × K)} (same : SameRecord l m) :
    weightedMean f l = weightedMean f m := by
  rw [weightedMean, weightedMean, weightedSum_of_sameRecord f same,
    totalWeight_of_sameRecord same]

/-! ## Order -/

section Order

variable [LinearOrder K]

/-- The same weights, none of them negative, at values that are as high or higher. -/
def Raised (l m : List (K × K)) : Prop :=
  List.Forall₂ (fun x y => x.1 ≤ y.1 ∧ x.2 = y.2 ∧ 0 ≤ x.2) l m

theorem totalWeight_of_raised {l m : List (K × K)} (raised : Raised l m) :
    totalWeight l = totalWeight m := by
  have weights : l.map Prod.snd = m.map Prod.snd := by
    induction raised with
    | nil => rfl
    | cons head _ ih => rw [List.map_cons, List.map_cons, head.2.1, ih]
  exact congrArg List.sum weights

theorem Raised.refl {l : List (K × K)} (weights : ∀ x ∈ l, 0 ≤ x.2) : Raised l l :=
  List.forall₂_same.mpr fun x member => ⟨le_refl x.1, rfl, weights x member⟩

theorem Raised.at {before after : List (K × K)} {value value' weight : K}
    (weights : ∀ x ∈ before ++ (value, weight) :: after, 0 ≤ x.2) (raised : value ≤ value') :
    Raised (before ++ (value, weight) :: after) (before ++ (value', weight) :: after) := by
  have here := weights (value, weight) (List.mem_append_right _ List.mem_cons_self)
  have front : Raised before before :=
    Raised.refl fun x member => weights x (List.mem_append_left _ member)
  have back : Raised after after :=
    Raised.refl fun x member =>
      weights x (List.mem_append_right _ (List.mem_cons_of_mem _ member))
  exact List.rel_append front (.cons ⟨raised, rfl, here⟩ back)

variable [IsStrictOrderedRing K]

theorem weightedSum_mono {f : K → K} (grows : Monotone f) {l m : List (K × K)}
    (raised : Raised l m) : weightedSum f l ≤ weightedSum f m := by
  induction raised with
  | nil => exact le_refl _
  | @cons x y l m head _ ih =>
    obtain ⟨value, weight, nonneg⟩ := head
    rw [weightedSum_cons, weightedSum_cons, ← weight]
    exact add_le_add (mul_le_mul_of_nonneg_right (grows value) nonneg) ih

theorem weightedSum_nonneg {f : K → K} (positive : ∀ v, 0 ≤ f v) {l : List (K × K)}
    (weights : ∀ x ∈ l, 0 ≤ x.2) : 0 ≤ weightedSum f l := by
  induction l with
  | nil => exact le_refl _
  | cons x l ih =>
    rw [weightedSum_cons]
    exact add_nonneg (mul_nonneg (positive x.1) (weights x List.mem_cons_self))
      (ih fun y member => weights y (List.mem_cons_of_mem _ member))

theorem totalWeight_nonneg {l : List (K × K)} (weights : ∀ x ∈ l, 0 ≤ x.2) :
    0 ≤ totalWeight l := by
  rw [totalWeight_eq]
  exact weightedSum_nonneg (fun _ => zero_le_one) weights

theorem weightedMean_mono {f : K → K} (grows : Monotone f) {l m : List (K × K)}
    (raised : Raised l m) (weights : ∀ x ∈ l, 0 ≤ x.2) :
    weightedMean f l ≤ weightedMean f m := by
  rw [weightedMean, weightedMean, ← totalWeight_of_raised raised]
  exact div_le_div_of_nonneg_right (weightedSum_mono grows raised) (totalWeight_nonneg weights)

/-- Values between zero and one with weights that add up to one. -/
theorem weightedSum_unit {l : List (K × K)} (values : ∀ x ∈ l, 0 ≤ x.1 ∧ x.1 ≤ 1)
    (weights : ∀ x ∈ l, 0 ≤ x.2) (whole : totalWeight l = 1) :
    0 ≤ weightedSum id l ∧ weightedSum id l ≤ 1 := by
  have between : 0 ≤ weightedSum id l ∧ weightedSum id l ≤ totalWeight l := by
    clear whole
    induction l with
    | nil => exact ⟨le_refl _, le_refl _⟩
    | cons x l ih =>
      obtain ⟨low, high⟩ := values x List.mem_cons_self
      have weight := weights x List.mem_cons_self
      obtain ⟨below, above⟩ := ih (fun y member => values y (List.mem_cons_of_mem _ member))
        fun y member => weights y (List.mem_cons_of_mem _ member)
      have total : totalWeight (x :: l) = x.2 + totalWeight l := List.sum_cons
      rw [weightedSum_cons, total, id_eq]
      exact ⟨add_nonneg (mul_nonneg low weight) below,
        add_le_add (mul_le_of_le_one_left weight high) above⟩
  exact ⟨between.1, between.2.trans whole.le⟩

end Order

/-! ## Clamps -/

section Clamp

variable [LinearOrder K]

/-- The nearest number between zero and one. -/
def clamp (x : K) : K := max 0 (min 1 x)

theorem clamp_mono : Monotone (clamp (K := K)) :=
  fun _ _ h => max_le_max (le_refl 0) (min_le_min (le_refl 1) h)

variable [IsStrictOrderedRing K]

theorem clamp_unit (x : K) : 0 ≤ clamp x ∧ clamp x ≤ 1 :=
  ⟨le_max_left _ _, max_le zero_le_one (min_le_left _ _)⟩

end Clamp

end WeightedSums
