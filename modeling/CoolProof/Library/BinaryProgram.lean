import Mathlib.Algebra.Order.Ring.Defs
import Mathlib.Data.List.MinMax
import Mathlib.Data.List.Sublists

/-! Linear programs over 0/1 variables: rows with optional bounds, a linear objective to
maximize, and what it means for a solver to be exact. Exhaustive search is exact. -/

namespace BinaryProgram

variable {ι K : Type*}

/-- A sum of coefficients times variables. -/
abbrev Expression (ι K : Type*) := List (ι × K)

/-- A row between two bounds; an absent bound is infinite. -/
structure Row (ι K : Type*) where
  expression : Expression ι K
  lower : Option K
  upper : Option K

/-- Rows and objective mention declared variables only. -/
structure Program (ι K : Type*) where
  unknowns : List ι
  rows : List (Row ι K)
  objective : Expression ι K
  rowsDeclared : ∀ row ∈ rows, ∀ term ∈ row.expression, term.1 ∈ unknowns
  objectiveDeclared : ∀ term ∈ objective, term.1 ∈ unknowns

/-- What a solver returns: an assignment it found optimal or only feasible, or neither. -/
inductive Outcome (ι K : Type*) where
  | optimal (x : ι → K)
  | feasible (x : ι → K)
  | infeasible

/-- The assignment that comes with a status other than infeasible. -/
def Outcome.assignment : Outcome ι K → Option (ι → K)
  | .optimal x | .feasible x => some x
  | .infeasible => none

section Expressions

variable [Semiring K]

def Expression.value (x : ι → K) (e : Expression ι K) : K := (e.map fun term => term.2 * x term.1).sum

/-- An expression sees an assignment through its terms only. -/
theorem Expression.value_congr {x y : ι → K} {e : Expression ι K}
    (same : ∀ term ∈ e, x term.1 = y term.1) : e.value x = e.value y := by
  unfold Expression.value
  congr 1
  exact List.map_congr_left fun term member => by rw [same term member]

/-- Under a binary assignment an expression adds up the coefficients of what is chosen. -/
theorem value_map_of_binary [DecidableEq K] {β : Type*} {x : ι → K} (name : β → ι) (c : β → K)
    {l : List β} (binary : ∀ b ∈ l, x (name b) = 0 ∨ x (name b) = 1) :
    Expression.value x (l.map fun b => (name b, c b)) =
      ((l.filter fun b => x (name b) = 1).map c).sum := by
  induction l with
  | nil => rfl
  | cons b l ih =>
    have rest := ih fun d member => binary d (List.mem_cons_of_mem _ member)
    unfold Expression.value at rest ⊢
    rw [List.map_cons, List.map_cons, List.sum_cons, rest]
    by_cases chosen : x (name b) = 1
    · simp [chosen]
    · have zero := (binary b List.mem_cons_self).resolve_right chosen
      have differs : ¬(0 : K) = 1 := zero ▸ chosen
      simp [zero, differs]

variable [DecidableEq ι]

/-- The assignment that chooses exactly the members of a list. -/
def indicator (chosen : List ι) (v : ι) : K := if v ∈ chosen then 1 else 0

theorem indicator_binary (chosen : List ι) (v : ι) :
    (indicator chosen v : K) = 0 ∨ (indicator chosen v : K) = 1 := by
  unfold indicator
  split
  · exact .inr rfl
  · exact .inl rfl

theorem indicator_eq_one_iff [Nontrivial K] {chosen : List ι} {v : ι} :
    (indicator chosen v : K) = 1 ↔ v ∈ chosen := by simp [indicator]

theorem indicator_filter [DecidableEq K] {x : ι → K} {l : List ι}
    (binary : ∀ v ∈ l, x v = 0 ∨ x v = 1) {v : ι} (member : v ∈ l) :
    indicator (l.filter fun v => x v = 1) v = x v := by
  by_cases chosen : x v = 1
  · simp [indicator, member, chosen]
  · have zero := (binary v member).resolve_right chosen
    have differs : ¬(0 : K) = 1 := zero ▸ chosen
    simp [indicator, zero, differs]

end Expressions

/-! ## Feasibility and optimality -/

section Semantics

variable [Semiring K] [LE K]

structure Row.Holds (x : ι → K) (row : Row ι K) : Prop where
  lower : ∀ b ∈ row.lower, b ≤ Expression.value x row.expression
  upper : ∀ b ∈ row.upper, Expression.value x row.expression ≤ b

@[simp] theorem Row.holds_upper {x : ι → K} {e : Expression ι K} {b : K} :
    Row.Holds x ⟨e, none, some b⟩ ↔ e.value x ≤ b := by
  refine ⟨fun holds => holds.upper b rfl, fun below => ⟨?_, ?_⟩⟩
  · rintro _ ⟨⟩
  · rintro _ ⟨⟩
    exact below

@[simp] theorem Row.holds_lower {x : ι → K} {e : Expression ι K} {b : K} :
    Row.Holds x ⟨e, some b, none⟩ ↔ b ≤ e.value x := by
  refine ⟨fun holds => holds.lower b rfl, fun above => ⟨?_, ?_⟩⟩
  · rintro _ ⟨⟩
    exact above
  · rintro _ ⟨⟩

structure Program.Feasible (p : Program ι K) (x : ι → K) : Prop where
  binary : ∀ v ∈ p.unknowns, x v = 0 ∨ x v = 1
  rows : ∀ row ∈ p.rows, row.Holds x

structure Program.Optimal (p : Program ι K) (x : ι → K) : Prop where
  feasible : p.Feasible x
  best : ∀ y, p.Feasible y → Expression.value y p.objective ≤ Expression.value x p.objective

/-- A solver that finds an optimum of every feasible program and says when there is none. -/
structure Exact (solve : Program ι K → Outcome ι K) : Prop where
  optimal : ∀ p x, p.Feasible x → ∃ y, solve p = .optimal y ∧ p.Optimal y
  infeasible : ∀ p, (∀ x, ¬p.Feasible x) → solve p = .infeasible

theorem Program.Feasible.congr {p : Program ι K} {x y : ι → K} (feasible : p.Feasible x)
    (same : ∀ v ∈ p.unknowns, x v = y v) : p.Feasible y := by
  refine ⟨fun v member => same v member ▸ feasible.binary v member, fun row member => ?_⟩
  have value : Expression.value x row.expression = Expression.value y row.expression :=
    Expression.value_congr fun term inRow => same _ (p.rowsDeclared row member term inRow)
  have holds := feasible.rows row member
  exact ⟨fun b bound => value ▸ holds.lower b bound, fun b bound => value ▸ holds.upper b bound⟩

end Semantics

/-- An exact solver stays exact when it is made to return another optimum of one program. -/
theorem Exact.prefer [Semiring K] [LE K] [DecidableEq (Program ι K)]
    {solve : Program ι K → Outcome ι K} (exact : Exact solve) {p : Program ι K} {x : ι → K}
    (optimal : p.Optimal x) : Exact (Function.update solve p (.optimal x)) := by
  refine ⟨fun q y feasible => ?_, fun q none => ?_⟩
  · by_cases same : q = p
    · subst same
      exact ⟨x, Function.update_self .., optimal⟩
    · rw [Function.update_of_ne same]
      exact exact.optimal q y feasible
  · have differs : q ≠ p := by
      rintro rfl
      exact none x optimal.feasible
    rw [Function.update_of_ne differs]
    exact exact.infeasible q none

theorem Program.objective_congr [Semiring K] {p : Program ι K} {x y : ι → K}
    (same : ∀ v ∈ p.unknowns, x v = y v) :
    Expression.value x p.objective = Expression.value y p.objective :=
  Expression.value_congr fun term member => same _ (p.objectiveDeclared term member)

/-! ## Exhaustive search -/

section Search

variable [DecidableEq ι] [Semiring K] [LinearOrder K]

instance (row : Row ι K) (x : ι → K) : Decidable (row.Holds x) :=
  decidable_of_iff ((∀ b ∈ row.lower, b ≤ Expression.value x row.expression) ∧
    ∀ b ∈ row.upper, Expression.value x row.expression ≤ b)
    ⟨fun h => ⟨h.1, h.2⟩, fun h => ⟨h.lower, h.upper⟩⟩

instance (p : Program ι K) (x : ι → K) : Decidable (p.Feasible x) :=
  decidable_of_iff ((∀ v ∈ p.unknowns, x v = 0 ∨ x v = 1) ∧ ∀ row ∈ p.rows, row.Holds x)
    ⟨fun h => ⟨h.1, h.2⟩, fun h => ⟨h.binary, h.rows⟩⟩

/-- The feasible ones among the assignments that choose a sublist of the variables. -/
def candidates (p : Program ι K) : List (ι → K) :=
  (p.unknowns.sublists.map indicator).filter fun x => p.Feasible x

def search (p : Program ι K) : Outcome ι K :=
  match (candidates p).argmax fun x => Expression.value x p.objective with
  | some x => .optimal x
  | none => .infeasible

/-- Every feasible assignment is a candidate, up to what the program does not see. -/
theorem exists_candidate {p : Program ι K} {x : ι → K} (feasible : p.Feasible x) :
    ∃ y ∈ candidates p, Expression.value y p.objective = Expression.value x p.objective := by
  have same : ∀ v ∈ p.unknowns, x v = indicator (p.unknowns.filter fun v => x v = 1) v :=
    fun v member => (indicator_filter feasible.binary member).symm
  refine ⟨_, List.mem_filter.mpr ⟨List.mem_map_of_mem
    (List.mem_sublists.mpr List.filter_sublist), ?_⟩, (p.objective_congr same).symm⟩
  exact decide_eq_true (feasible.congr same)

theorem exact_search : Exact (search (ι := ι) (K := K)) := by
  refine ⟨fun p x feasible => ?_, fun p none => ?_⟩
  · obtain ⟨z, candidate, _⟩ := exists_candidate feasible
    unfold search
    cases found : (candidates p).argmax fun x => Expression.value x p.objective with
    | none =>
      rw [List.argmax_eq_none.mp found] at candidate
      cases candidate
    | some y =>
      have member := List.argmax_mem (Option.mem_def.mpr found)
      refine ⟨y, rfl, by simpa using (List.mem_filter.mp member).2, fun w other => ?_⟩
      obtain ⟨u, inList, value⟩ := exists_candidate other
      rw [← value]
      exact List.le_of_mem_argmax (f := fun x => Expression.value x p.objective) inList found
  · have empty : candidates p = [] :=
      List.filter_eq_nil_iff.mpr fun x _ => by simpa using none x
    simp [search, empty]

end Search

end BinaryProgram
