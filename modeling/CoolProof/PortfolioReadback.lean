import CoolProof.PortfolioOptimality

/-! What is read back from the solver's answer: the costs, rounded to cents, against the
budget that the solver keeps unrounded, and the units against the 0/1 assignment that the
solver is close to, which `solution_value` rounds to. -/

namespace CoolProof.Portfolio
open BinaryProgram Loops Tables

/-! ## Rounding -/

/-- A multiple of the last digit. -/
def HasDigits (digits : Nat) (x : ℚ) : Prop := ∃ n : Int, x = n / 10 ^ digits

theorem round_hasDigits (digits : Nat) (x : ℚ) : HasDigits digits (round digits x) := ⟨_, rfl⟩

theorem HasDigits.add {digits : Nat} {x y : ℚ} (hx : HasDigits digits x)
    (hy : HasDigits digits y) : HasDigits digits (x + y) := by
  obtain ⟨m, rfl⟩ := hx
  obtain ⟨n, rfl⟩ := hy
  exact ⟨m + n, by push_cast; ring⟩

theorem HasDigits.sum {digits : Nat} {l : List ℚ} (each : ∀ x ∈ l, HasDigits digits x) :
    HasDigits digits l.sum := by
  induction l with
  | nil => exact ⟨0, by simp⟩
  | cons x l ih =>
    rw [List.sum_cons]
    exact (each x List.mem_cons_self).add (ih fun y member => each y (List.mem_cons_of_mem _ member))

/-- What has no further digits is not changed. -/
theorem HasDigits.round_eq {digits : Nat} {x : ℚ} (hx : HasDigits digits x) :
    round digits x = x := by
  obtain ⟨n, rfl⟩ := hx
  have scale : (10 : ℚ) ^ digits ≠ 0 := by positivity
  simp [round, div_mul_cancel₀ _ scale]

/-- Rounding moves a number by half of the last digit at most. -/
theorem abs_round_sub_le (digits : Nat) (x : ℚ) :
    |round digits x - x| ≤ 1 / 2 / 10 ^ digits := by
  have scale : (0 : ℚ) < 10 ^ digits := by positivity
  have below := Int.floor_le (x * 10 ^ digits)
  have above := Int.lt_floor_add_one (x * 10 ^ digits)
  have shift : round digits x - x = (round digits x * 10 ^ digits - x * 10 ^ digits) / 10 ^ digits := by
    field_simp
  rw [shift, abs_div, abs_of_pos scale]
  refine div_le_div_of_nonneg_right ?_ scale.le
  rw [abs_le, round, div_mul_cancel₀ _ scale.ne']
  split_ifs <;> push_cast <;> constructor <;> linarith

theorem round_nonneg {digits : Nat} {x : ℚ} (nonneg : 0 ≤ x) : 0 ≤ round digits x := by
  have scale : (0 : ℚ) < 10 ^ digits := by positivity
  have below : 0 ≤ ⌊x * 10 ^ digits⌋ := Int.floor_nonneg.mpr (mul_nonneg nonneg scale.le)
  refine div_nonneg (Int.cast_nonneg ?_) scale.le
  split_ifs <;> omega

theorem round_mono (digits : Nat) : Monotone (round digits) := by
  intro x y raised
  have scale : (0 : ℚ) < 10 ^ digits := by positivity
  have scaled : x * 10 ^ digits ≤ y * 10 ^ digits := mul_le_mul_of_nonneg_right raised scale.le
  have floors : ⌊x * 10 ^ digits⌋ ≤ ⌊y * 10 ^ digits⌋ := Int.floor_mono scaled
  refine div_le_div_of_nonneg_right (Int.cast_le.mpr ?_) scale.le
  rcases floors.lt_or_eq with less | same
  · split_ifs <;> omega
  · rw [same]
    split_ifs <;> first | omega | linarith

/-! ## The selected keys -/

/-- The variables at one, in the order of the loop. -/
def selected (casefold : String → String) (r : Request) (x : Key → ℚ) : List Key :=
  (variableKeys casefold r).filter fun k => x k = 1

/-- The unit cost of the first entry of an id, the one that `validated_cost` is given; the
budget row has the last. -/
def firstCost (r : Request) (id : String) : ℚ :=
  ((find InterventionSpec.interventionId id r.interventions).map InterventionSpec.unitCost).getD 0

theorem allocation_ok {r : Request} {k : Key} {units : Int} {a : Allocation}
    (made : allocation r k units = .ok a) :
    a.key = k ∧ a.units = units ∧ a.cost = round 2 (firstCost r k.2 * units) := by
  unfold allocation at made
  split at made
  · cases made
  · rename_i spec found
    unfold validatedCost at made
    split_ifs at made
    · cases made
    · cases made
    · have same := Except.ok.inj made
      subst same
      refine ⟨rfl, rfl, ?_⟩
      rw [firstCost, found]
      rfl

/-- The first entry of the id has amounts that `validated_cost` accepts. -/
def Priced (r : Request) (id : String) : Prop :=
  ∃ spec, find InterventionSpec.interventionId id r.interventions = some spec ∧
    0 < spec.unitCost ∧ 0 ≤ spec.coolingScore

theorem priced_of_allocation {r : Request} {k : Key} {units : Int} {a : Allocation}
    (made : allocation r k units = .ok a) : Priced r k.2 := by
  unfold allocation at made
  split at made
  · cases made
  · rename_i spec found
    unfold validatedCost at made
    split_ifs at made with negative refused
    · cases made
    · cases made
    · rw [not_or, not_le, not_lt] at refused
      exact ⟨spec, found, refused⟩

/-- The loop copies the keys whose value is not cut down to zero. -/
theorem allocations_keys {casefold : String → String} {r : Request} {x : Key → ℚ}
    {allocated : List Allocation}
    (made : allocations r x (variableKeys casefold r) = .ok allocated) :
    allocated.map Allocation.key =
      (variableKeys casefold r).filter fun k => truncate (x k) ≠ 0 := by
  have copied : allocated.map Allocation.key =
      ((variableKeys casefold r).filter fun k => truncate (x k) ≠ 0).map id :=
    map_of_mapM_ok (fun k _ a turn => (allocation_ok turn).1) made
  rwa [List.map_id] at copied

/-! ## Costs and the budget -/

/-- What the keys cost in the budget row. -/
def constrainedCost (r : Request) (keys : List Key) : ℚ := (keys.map fun k => costs r k.2).sum

/-- What the keys cost in a result: each at the first cost of its id, rounded to cents. -/
def reportedCost (r : Request) (keys : List Key) : ℚ :=
  (keys.map fun k => round 2 (firstCost r k.2)).sum

/-- What a result says about the budget. -/
structure WithinBudget (r : Request) (result : PortfolioResult) : Prop where
  spent : result.totalCost ≤ r.budget
  left : 0 ≤ result.remainingBudget
  balance : |result.totalCost + result.remainingBudget - r.budget| ≤ 1 / 100

/-- The total has cents already, so only what remains is rounded once more. -/
theorem withinBudget_portfolioResult (casefold : String → String) (r : Request)
    {allocated : List Allocation} (cents : HasDigits 2 (allocated.map Allocation.cost).sum) :
    WithinBudget r (portfolioResult casefold r allocated) ↔
      (allocated.map Allocation.cost).sum ≤ r.budget := by
  have total : (portfolioResult casefold r allocated).totalCost =
      (allocated.map Allocation.cost).sum := cents.round_eq
  have rest := abs_le.mp (abs_round_sub_le 2 (r.budget - (allocated.map Allocation.cost).sum))
  constructor
  · intro within
    rw [← total]
    exact within.spent
  · intro affordable
    refine ⟨total.trans_le affordable, ?_, ?_⟩
    · exact round_nonneg (sub_nonneg.mpr affordable)
    · rw [total, abs_le]
      change _ ≤ _ + round 2 _ - _ ∧ _ + round 2 _ - _ ≤ _
      norm_num at rest
      constructor <;> linarith

section Answers

variable {casefold : String → String} {r : Request} {x : Key → ℚ}

theorem selected_of_binary (binary : ∀ k ∈ variableKeys casefold r, x k = 0 ∨ x k = 1) :
    (variableKeys casefold r).filter (fun k => truncate (x k) ≠ 0) = selected casefold r x :=
  List.filter_congr fun k member => by
    rw [truncate_binary (binary k member)]
    by_cases one : x k = 1 <;> simp [one]

/-- The selected keys are reported at their first costs, rounded. -/
theorem reportedCost_of_binary {allocated : List Allocation}
    (binary : ∀ k ∈ variableKeys casefold r, x k = 0 ∨ x k = 1)
    (made : allocations r x (variableKeys casefold r) = .ok allocated) :
    allocated.map Allocation.cost =
      (selected casefold r x).map fun k => round 2 (firstCost r k.2) := by
  rw [allocations, selected_of_binary binary] at made
  refine map_of_mapM_ok (fun k member a turn => ?_) made
  obtain ⟨inKeys, one⟩ := List.mem_filter.mp member
  have unit : truncate (x k) = 1 := by
    rw [truncate_binary (binary k inKeys), if_pos (of_decide_eq_true one)]
  rw [(allocation_ok turn).2.2, unit, Int.cast_one, mul_one]

/-- The budget row, under a feasible assignment. -/
theorem constrainedCost_le (feasible : (program casefold r).Feasible x) :
    constrainedCost r (selected casefold r x) ≤ r.budget := by
  have row := feasible.rows _ (mem_rows.mpr (.inl rfl))
  rw [budgetRow, Row.holds_upper] at row
  have value := value_map_of_binary id (fun k => costs r k.2) feasible.binary
  exact value.symm.trans_le row

end Answers

/-- Every set of eligible pairs that the model admits, and that `validated_cost` accepts, is
paid for by the budget also when each of its costs is rounded to cents. -/
def RoundedAffordable (casefold : String → String) (r : Request) : Prop :=
  ValidArguments r → ∀ x, (program casefold r).Feasible x →
    (∀ k ∈ selected casefold r x, Priced r k.2) →
      reportedCost r (selected casefold r x) ≤ r.budget

theorem reportedCost_hasDigits (r : Request) (keys : List Key) :
    HasDigits 2 (reportedCost r keys) := by
  refine HasDigits.sum fun c member => ?_
  obtain ⟨k, _, rfl⟩ := List.mem_map.mp member
  exact round_hasDigits 2 _

/-- A result for a feasible answer is within the budget when its rounded costs are. -/
theorem withinBudget_of_answer {casefold : String → String}
    {solve : Program Key ℚ → Outcome Key ℚ} {r : Request} {x : Key → ℚ} {result : PortfolioResult}
    (answer : (solve (program casefold r)).assignment = some x)
    (feasible : (program casefold r).Feasible x)
    (returned : optimizePortfolio casefold solve r = .ok result) :
    ValidArguments r ∧ (∀ k ∈ selected casefold r x, Priced r k.2) ∧
      (WithinBudget r result ↔ reportedCost r (selected casefold r x) ≤ r.budget) := by
  obtain ⟨valid, y, allocated, assigned, read, rfl⟩ := optimizePortfolio_ok returned
  cases answer.symm.trans assigned
  have costs := reportedCost_of_binary feasible.binary read
  have total : (allocated.map Allocation.cost).sum = reportedCost r (selected casefold r x) := by
    rw [costs, reportedCost]
  refine ⟨valid, fun k member => ?_, ?_⟩
  · rw [allocations, selected_of_binary feasible.binary] at read
    obtain ⟨a, _, made⟩ := turn_of_mapM_ok read k member
    exact priced_of_allocation made
  · rw [withinBudget_portfolioResult casefold r (total ▸ reportedCost_hasDigits r _), total]

/-- A feasible answer is returned when its pairs can be priced. -/
theorem returned_of_priced {casefold : String → String} {r : Request} {x : Key → ℚ}
    (valid : ValidArguments r) (feasible : (program casefold r).Feasible x)
    (priced : ∀ k ∈ selected casefold r x, Priced r k.2) :
    ∃ result, optimizePortfolio casefold (fun _ => .optimal x) r = .ok result := by
  have turns : ∀ k ∈ selected casefold r x, ∃ a, allocation r k (truncate (x k)) = .ok a := by
    intro k member
    obtain ⟨inKeys, one⟩ := List.mem_filter.mp member
    obtain ⟨spec, found, amounts⟩ := priced k member
    have unit : truncate (x k) = 1 := by
      rw [truncate_binary (feasible.binary k inKeys), if_pos (of_decide_eq_true one)]
    rw [unit]
    exact ⟨_, allocation_of_valid k 1 found amounts (by decide)⟩
  obtain ⟨allocated, read⟩ := mapM_ok_of_turns turns
  rw [← selected_of_binary feasible.binary] at read
  exact ⟨_, optimizePortfolio_some valid rfl read⟩

/-- The solver keeps the budget with the last cost of an id, unrounded, and the result reports
the first cost of an id, rounded: every result is within the budget exactly when rounding
makes no admissible set of pairs too dear. -/
theorem withinBudget_iff (casefold : String → String) (r : Request) :
    (∀ solve x result, (solve (program casefold r)).assignment = some x →
      (program casefold r).Feasible x → optimizePortfolio casefold solve r = .ok result →
        WithinBudget r result) ↔ RoundedAffordable casefold r := by
  constructor
  · intro within valid x feasible priced
    obtain ⟨result, returned⟩ := returned_of_priced valid feasible priced
    have answer : (Outcome.optimal x).assignment = some x := rfl
    exact (withinBudget_of_answer answer feasible returned).2.2.mp
      (within _ x result answer feasible returned)
  · intro affordable solve x result answer feasible returned
    obtain ⟨valid, priced, decides⟩ := withinBudget_of_answer answer feasible returned
    exact decides.mpr (affordable valid x feasible priced)

/-- With unique ids and prices in whole cents, rounding changes nothing, and every result is
within the budget. -/
theorem affordable_of_cents {casefold : String → String} {r : Request} (unique : UniqueIds r)
    (cents : ∀ spec ∈ r.interventions, HasDigits 2 spec.unitCost) :
    RoundedAffordable casefold r := by
  intro _ x feasible _
  have same : ∀ k ∈ selected casefold r x, round 2 (firstCost r k.2) = costs r k.2 := by
    intro k inSelected
    have inKeys := List.mem_of_mem_filter inSelected
    rw [unique.variableKeys_eq] at inKeys
    obtain ⟨pair, inPairs, rfl⟩ := List.mem_map.mp inKeys
    have inSpecs := (mem_eligiblePairs.mp inPairs).2.1
    have first : firstCost r (key pair).2 = pair.2.unitCost := by
      rw [firstCost, key, find_of_mem unique.interventions inSpecs]
      rfl
    rw [first, (cents _ inSpecs).round_eq, costs, unique.specField_eq _ inPairs]
  have total : reportedCost r (selected casefold r x) =
      constrainedCost r (selected casefold r x) := by
    rw [reportedCost, constrainedCost, List.map_congr_left same]
  rw [total]
  exact constrainedCost_le feasible

/-- A park whose only option costs less than a cent, with just the money for it. -/
def subCentRequest : Request :=
  ⟨[park], [⟨"trees", 6 / 1000, 5, ["park"], 0⟩], 6 / 1000, 0, 0, 0, [], []⟩

/-- The option is within the budget for the solver and costs a cent in the result. -/
theorem withinBudget_fails : (program id subCentRequest).Feasible (fun _ => 1) ∧
    ∃ result, optimizePortfolio id (fun _ => .optimal fun _ => 1) subCentRequest = .ok result ∧
      ¬WithinBudget subCentRequest result := by
  have answered : optimizePortfolio id (fun _ => .optimal fun _ => 1) subCentRequest =
      .ok ⟨[⟨"park", "trees", 1, 1 / 100, 5, 0⟩], 1 / 100, 5, 0, 0, [], ["budget"]⟩ := by
    decide +kernel
  refine ⟨by decide +kernel, _, answered, fun within => ?_⟩
  have spent : (1 / 100 : ℚ) ≤ 6 / 1000 := within.spent
  norm_num at spent

/-- Trees in both zones. -/
def treesEverywhere : Key → ℚ := indicator [("school", "trees"), ("park", "trees")]

def treesResult : PortfolioResult where
  allocations := [⟨"school", "trees", 1, 10, 5, 0⟩, ⟨"park", "trees", 1, 10, 5, 0⟩]
  totalCost := 20
  totalBenefit := 10
  totalUncertainty := 0
  remainingBudget := 30
  rejected := [⟨"school", "not_selected"⟩]
  bindingConstraints := ["equity_minimum", "school_minimum"]

theorem withinBudget_sample : WithinBudget sampleRequest treesResult := by
  have feasible : (program id sampleRequest).Feasible treesEverywhere := by decide +kernel
  have answered : optimizePortfolio id (fun _ => .optimal treesEverywhere) sampleRequest =
      .ok treesResult := by decide +kernel
  have affordable : RoundedAffordable id sampleRequest := by
    refine affordable_of_cents ⟨by decide, by decide⟩ fun spec member => ?_
    rcases List.mem_cons.mp member with rfl | later
    · exact ⟨1000, by norm_num [trees]⟩
    · rw [List.mem_singleton.mp later]
      exact ⟨3000, by norm_num [coolRoof]⟩
  exact (withinBudget_iff id sampleRequest).mpr affordable _ _ _ rfl feasible answered

/-! ## Answers within a tolerance -/

/-- The integrality tolerance of the solver. -/
def tolerance : ℚ := 1 / 10 ^ 6

/-- The result allocates one unit of each selected pair, and so keeps the minimums and the
required pairs. -/
structure SamePlan (casefold : String → String) (r : Request) (x : Key → ℚ)
    (result : PortfolioResult) : Prop where
  pairs : result.allocations.map Allocation.key = selected casefold r x
  units : ∀ a ∈ result.allocations, a.units = 1
  equity : r.minEquityUnits ≤ (result.allocations.filter fun a =>
    zoneField r ZoneDemand.equityPriority a.zoneId).length
  school : r.minSchoolUnits ≤ (result.allocations.filter fun a =>
    zoneField r ZoneDemand.isSchool a.zoneId).length
  required : ∀ k ∈ variableKeys casefold r, k ∈ r.required →
    ∃ a ∈ result.allocations, a.key = k

/-- `solution_value` of integer variables: the value in the solver's solution, rounded to the
nearest integer. -/
structure SolutionValues (keys : List Key) (solution value : Key → ℚ) : Prop where
  integer : ∀ k ∈ keys, ∃ n : Int, value k = n
  nearest : ∀ k ∈ keys, |value k - solution k| ≤ 1 / 2

/-- The integer nearest to a value near zero or one is zero or one. -/
theorem SolutionValues.eq_of_near {keys : List Key} {solution value x : Key → ℚ}
    (rounded : SolutionValues keys solution value)
    (near : ∀ k ∈ keys, |solution k - x k| ≤ tolerance)
    (binary : ∀ k ∈ keys, x k = 0 ∨ x k = 1) : ∀ k ∈ keys, value k = x k := by
  intro k member
  obtain ⟨n, whole⟩ := rounded.integer k member
  have shift := abs_le.mp (rounded.nearest k member)
  have bounds := abs_le.mp (near k member)
  rw [tolerance] at bounds
  rw [whole] at shift ⊢
  rcases binary k member with zero | one
  · rw [zero] at bounds ⊢
    have above : (-1 : ℚ) < n := by linarith
    have below : (n : ℚ) < 1 := by linarith
    have low : -1 < n := by exact_mod_cast above
    have high : n < 1 := by exact_mod_cast below
    exact_mod_cast (by omega : n = 0)
  · rw [one] at bounds ⊢
    have above : (0 : ℚ) < n := by linarith
    have below : (n : ℚ) < 2 := by linarith
    have low : 0 < n := by exact_mod_cast above
    have high : n < 2 := by exact_mod_cast below
    exact_mod_cast (by omega : n = 1)

section Near

variable {casefold : String → String} {r : Request} {x : Key → ℚ}
  (feasible : (program casefold r).Feasible x)
include feasible

theorem row_of_feasible (keep : Key → Bool) :
    Expression.value x (count ((variableKeys casefold r).filter keep)) =
      ((selected casefold r x).filter keep).length := by
  have value := value_map_of_binary (x := x) id (fun _ => (1 : ℚ))
    (l := (variableKeys casefold r).filter keep)
    fun k member => feasible.binary k (List.mem_of_mem_filter member)
  rw [selected, List.filter_comm]
  refine value.trans ?_
  simp

/-- The selected pairs meet the minimums and include the required ones. -/
theorem samePlan_of_selected {result : PortfolioResult}
    (pairs : result.allocations.map Allocation.key = selected casefold r x)
    (units : ∀ a ∈ result.allocations, a.units = 1) : SamePlan casefold r x result := by
  have counted : ∀ field : ZoneDemand → Bool,
      (result.allocations.filter fun a => zoneField r field a.zoneId).length =
        ((selected casefold r x).filter fun k => zoneField r field k.1).length := by
    intro field
    rw [← pairs, List.filter_map, List.length_map]
    rfl
  refine ⟨pairs, units, ?_, ?_, fun k inKeys required => ?_⟩
  · have row := feasible.rows _ (mem_rows.mpr (.inr (.inl rfl)))
    rw [equityRow, Row.holds_lower, row_of_feasible feasible] at row
    rw [counted]
    exact_mod_cast row
  · have row := feasible.rows _ (mem_rows.mpr (.inr (.inr (.inl rfl))))
    rw [schoolRow, Row.holds_lower, row_of_feasible feasible] at row
    rw [counted]
    exact_mod_cast row
  · have row := feasible.rows (fixRow k 1)
      (mem_rows.mpr (.inr (.inr (.inr (.inr ⟨k, inKeys, mem_fixRows.mpr (.inl ⟨required, rfl⟩)⟩)))))
    have taken : k ∈ selected casefold r x :=
      List.mem_filter.mpr ⟨inKeys, decide_eq_true (holds_fixRow.mp row)⟩
    rw [← pairs] at taken
    exact List.mem_map.mp taken

/-- The loop allocates one unit of each selected pair. -/
theorem allocations_selected {y : Key → ℚ} (same : ∀ k ∈ variableKeys casefold r, y k = x k)
    {allocated : List Allocation} (made : allocations r y (variableKeys casefold r) = .ok allocated) :
    allocated.map Allocation.key = selected casefold r x ∧ ∀ a ∈ allocated, a.units = 1 := by
  have binary : ∀ k ∈ variableKeys casefold r, y k = 0 ∨ y k = 1 := fun k member => by
    rw [same k member]
    exact feasible.binary k member
  have keys : selected casefold r y = selected casefold r x :=
    List.filter_congr fun k member => by rw [same k member]
  constructor
  · rw [allocations_keys made, selected_of_binary binary, keys]
  · intro a member
    rw [allocations, selected_of_binary binary] at made
    obtain ⟨k, kept, turn⟩ := mem_of_mapM_ok made a member
    obtain ⟨inKeys, one⟩ := List.mem_filter.mp kept
    rw [(allocation_ok turn).2.1, truncate_binary (binary k inKeys),
      if_pos (of_decide_eq_true one)]

end Near

/-- A solution within the tolerance of a feasible assignment gives its plan: `int` is applied
to values that `solution_value` has rounded. -/
theorem samePlan (casefold : String → String) {solve : Program Key ℚ → Outcome Key ℚ}
    {r : Request} {x solution value : Key → ℚ} {result : PortfolioResult}
    (answer : (solve (program casefold r)).assignment = some value)
    (rounded : SolutionValues (variableKeys casefold r) solution value)
    (feasible : (program casefold r).Feasible x)
    (near : ∀ k ∈ variableKeys casefold r, |solution k - x k| ≤ tolerance)
    (returned : optimizePortfolio casefold solve r = .ok result) :
    SamePlan casefold r x result := by
  obtain ⟨_, y, allocated, assigned, read, rfl⟩ := optimizePortfolio_ok returned
  cases answer.symm.trans assigned
  have same := rounded.eq_of_near near feasible.binary
  obtain ⟨keys, units⟩ := allocations_selected feasible same read
  exact samePlan_of_selected feasible keys units

/-- To the nearest integer, a half away from zero. -/
def nearestInteger (q : ℚ) : ℚ := if 0 ≤ q then ⌊q + 1 / 2⌋ else ⌈q - 1 / 2⌉

/-- Trees in both zones, a little less of each. -/
def almostTrees : Key → ℚ := fun k => treesEverywhere k - 1 / 10 ^ 7

theorem samePlan_sample : SamePlan id sampleRequest treesEverywhere treesResult := by
  have feasible : (program id sampleRequest).Feasible treesEverywhere := by decide +kernel
  have near : ∀ k ∈ variableKeys id sampleRequest,
      |almostTrees k - treesEverywhere k| ≤ tolerance := by decide +kernel
  have rounded : SolutionValues (variableKeys id sampleRequest) almostTrees
      (fun k => nearestInteger (almostTrees k)) := by
    refine ⟨fun k _ => ?_, by decide +kernel⟩
    rw [nearestInteger]
    split_ifs
    · exact ⟨_, rfl⟩
    · exact ⟨_, rfl⟩
  have answered : optimizePortfolio id
      (fun _ => .optimal fun k => nearestInteger (almostTrees k)) sampleRequest =
        .ok treesResult := by decide +kernel
  exact samePlan id rfl rounded feasible near answered

end CoolProof.Portfolio
