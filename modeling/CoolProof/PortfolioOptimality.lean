import CoolProof.Library.Loops
import CoolProof.Portfolio
import Mathlib.Algebra.Order.BigOperators.Group.Finset

/-! What the optimizer is for, stated without its program: a plan is a set of eligible
pairs within the budget, the minimums and the capacities. The program's feasible
assignments are the plans, and its objective is the plan's net benefit. -/

namespace CoolProof.Portfolio
open BinaryProgram Loops Tables

abbrev Pair := ZoneDemand × InterventionSpec

/-- Cooling score less the penalty for uncertainty. -/
def netBenefit (r : Request) (pair : Pair) : ℚ :=
  pair.2.coolingScore - r.uncertaintyPenalty * max 0 pair.2.uncertainty

/-- The domain rules for a set of allocated pairs. -/
structure Admissible (casefold : String → String) (r : Request) (pairs : Finset Pair) : Prop where
  eligible : ∀ pair ∈ pairs, pair.1 ∈ r.zones ∧ pair.2 ∈ r.interventions ∧
    isEligible casefold pair.2 pair.1.landUse = true
  budget : ∑ pair ∈ pairs, pair.2.unitCost ≤ r.budget
  equity : r.minEquityUnits ≤ (pairs.filter fun pair => pair.1.equityPriority = true).card
  school : r.minSchoolUnits ≤ (pairs.filter fun pair => pair.1.isSchool = true).card
  capacity : ∀ zone ∈ r.zones, ((pairs.filter fun pair => pair.1 = zone).card : Int) ≤
    max 0 zone.implementationCapacity
  required : ∀ zone ∈ r.zones, ∀ spec ∈ r.interventions,
    isEligible casefold spec zone.landUse = true →
      (zone.zoneId, spec.interventionId) ∈ r.required → (zone, spec) ∈ pairs
  compatible : ∀ pair ∈ pairs, (pair.1.zoneId, pair.2.interventionId) ∉ r.incompatible

structure Plan (casefold : String → String) (r : Request) where
  pairs : Finset Pair
  admissible : Admissible casefold r pairs

def Plan.benefit {casefold : String → String} {r : Request} (plan : Plan casefold r) : ℚ :=
  ∑ pair ∈ plan.pairs, netBenefit r pair

/-- The ids of zones and of interventions are unique. -/
structure UniqueIds (r : Request) : Prop where
  zones : (r.zones.map ZoneDemand.zoneId).Nodup
  interventions : (r.interventions.map InterventionSpec.interventionId).Nodup

/-! ## Pairs and keys -/

theorem mem_eligiblePairs {casefold : String → String} {r : Request} {pair : Pair} :
    pair ∈ eligiblePairs casefold r ↔ pair.1 ∈ r.zones ∧ pair.2 ∈ r.interventions ∧
      isEligible casefold pair.2 pair.1.landUse = true := by
  rw [eligiblePairs, List.mem_filter, List.mem_product, and_assoc]

section Unique

variable {casefold : String → String} {r : Request} (unique : UniqueIds r)
include unique

theorem UniqueIds.eligiblePairs_nodup : (eligiblePairs casefold r).Nodup :=
  ((List.Nodup.of_map _ unique.zones).product (List.Nodup.of_map _ unique.interventions)).filter _

/-- A key names one eligible pair. -/
theorem UniqueIds.key_inj {a b : Pair} (ha : a ∈ eligiblePairs casefold r)
    (hb : b ∈ eligiblePairs casefold r) (same : key a = key b) : a = b := by
  obtain ⟨za, ia, _⟩ := mem_eligiblePairs.mp ha
  obtain ⟨zb, ib, _⟩ := mem_eligiblePairs.mp hb
  obtain ⟨zone, spec⟩ := Prod.mk.inj same
  exact Prod.ext (List.inj_on_of_nodup_map unique.zones za zb zone)
    (List.inj_on_of_nodup_map unique.interventions ia ib spec)

theorem UniqueIds.variableKeys_eq :
    variableKeys casefold r = (eligiblePairs casefold r).map key := by
  have nodup : ((eligiblePairs casefold r).map key).Nodup :=
    unique.eligiblePairs_nodup.map_on fun a ha b hb same => unique.key_inj ha hb same
  rw [variableKeys, distinct, (List.nodup_reverse.mpr nodup).dedup, List.reverse_reverse]

theorem UniqueIds.specField_eq (field : InterventionSpec → ℚ) {pair : Pair}
    (member : pair ∈ eligiblePairs casefold r) :
    specField r field (key pair).2 = field pair.2 := by
  have stored : pair.2 ∈ r.interventions.reverse :=
    List.mem_reverse.mpr (mem_eligiblePairs.mp member).2.1
  have nodup : (r.interventions.reverse.map InterventionSpec.interventionId).Nodup := by
    rw [List.map_reverse]
    exact List.nodup_reverse.mpr unique.interventions
  have found := find_of_mem nodup stored
  simp [specField, key, found]

theorem UniqueIds.zoneField_eq (field : ZoneDemand → Bool) {pair : Pair}
    (member : pair ∈ eligiblePairs casefold r) : zoneField r field (key pair).1 = field pair.1 := by
  have stored : pair.1 ∈ r.zones.reverse := List.mem_reverse.mpr (mem_eligiblePairs.mp member).1
  have nodup : (r.zones.reverse.map ZoneDemand.zoneId).Nodup := by
    rw [List.map_reverse]
    exact List.nodup_reverse.mpr unique.zones
  have found := find_of_mem nodup stored
  simp [zoneField, key, found]

end Unique

/-! ## The rows as sums over pairs -/

/-- The pairs that an assignment allocates. -/
def chosen (casefold : String → String) (r : Request) (x : Key → ℚ) : Finset Pair :=
  ((eligiblePairs casefold r).filter fun pair => x (key pair) = 1).toFinset

theorem mem_chosen {casefold : String → String} {r : Request} {x : Key → ℚ} {pair : Pair} :
    pair ∈ chosen casefold r x ↔ pair ∈ eligiblePairs casefold r ∧ x (key pair) = 1 := by
  simp [chosen]

section Rows

variable {casefold : String → String} {r : Request} {x : Key → ℚ} (unique : UniqueIds r)
  (binary : ∀ pair ∈ eligiblePairs casefold r, x (key pair) = 0 ∨ x (key pair) = 1)
include unique binary

/-- A row over the keys that a condition keeps adds up over the chosen pairs it keeps. -/
theorem value_chosen (keep : Key → Bool) (kept : Pair → Prop) [DecidablePred kept]
    (coefficient : Key → ℚ) (amount : Pair → ℚ)
    (keeps : ∀ pair ∈ eligiblePairs casefold r, keep (key pair) = true ↔ kept pair)
    (amounts : ∀ pair ∈ eligiblePairs casefold r, coefficient (key pair) = amount pair) :
    Expression.value x (((variableKeys casefold r).filter keep).map fun k => (k, coefficient k)) =
      ∑ pair ∈ (chosen casefold r x).filter kept, amount pair := by
  have sameKept : (eligiblePairs casefold r).filter (keep ∘ key) =
      (eligiblePairs casefold r).filter fun pair => kept pair :=
    List.filter_congr fun pair member => by
      rw [Function.comp_apply, Bool.eq_iff_iff, keeps pair member, decide_eq_true_iff]
  have pairs : (eligiblePairs casefold r).Nodup := unique.eligiblePairs_nodup
  have nodup := pairs.filter fun pair => decide (kept pair)
  rw [unique.variableKeys_eq, List.filter_map, sameKept, List.map_map]
  have row := value_map_of_binary (x := x) key (fun pair => coefficient (key pair))
    (l := (eligiblePairs casefold r).filter fun pair => kept pair)
    fun pair member => binary pair (List.mem_of_mem_filter member)
  have set : (chosen casefold r x).filter kept =
      (((eligiblePairs casefold r).filter fun pair => kept pair).filter
        fun pair => x (key pair) = 1).toFinset := by
    ext pair
    simp only [Finset.mem_filter, mem_chosen, List.mem_toFinset, List.mem_filter,
      decide_eq_true_eq]
    tauto
  rw [set, List.sum_toFinset _ (nodup.filter _)]
  refine Eq.trans row (congrArg List.sum (List.map_congr_left fun pair member => ?_))
  exact amounts pair (List.mem_of_mem_filter (List.mem_of_mem_filter member))

theorem value_count (keep : Key → Bool) (kept : Pair → Prop) [DecidablePred kept]
    (keeps : ∀ pair ∈ eligiblePairs casefold r, keep (key pair) = true ↔ kept pair) :
    Expression.value x (count ((variableKeys casefold r).filter keep)) =
      ((chosen casefold r x).filter kept).card := by
  rw [count, value_chosen unique binary keep kept (fun _ => 1) (fun _ => 1) keeps fun _ _ => rfl]
  simp

theorem value_all (coefficient : Key → ℚ) (amount : Pair → ℚ)
    (amounts : ∀ pair ∈ eligiblePairs casefold r, coefficient (key pair) = amount pair) :
    Expression.value x ((variableKeys casefold r).map fun k => (k, coefficient k)) =
      ∑ pair ∈ chosen casefold r x, amount pair := by
  have value := value_chosen unique binary (fun _ => true) (fun _ => True) coefficient amount
    (fun _ _ => by simp) amounts
  rwa [List.filter_true, Finset.filter_true] at value

theorem holds_budgetRow : (budgetRow r (variableKeys casefold r)).Holds x ↔
    ∑ pair ∈ chosen casefold r x, pair.2.unitCost ≤ r.budget := by
  rw [budgetRow, Row.holds_upper, value_all unique binary (fun k => costs r k.2)
    (fun pair => pair.2.unitCost) fun pair member => unique.specField_eq _ member]

theorem holds_equityRow : (equityRow r (variableKeys casefold r)).Holds x ↔ r.minEquityUnits ≤
    ((chosen casefold r x).filter fun pair => pair.1.equityPriority = true).card := by
  rw [equityRow, Row.holds_lower, value_count unique binary _
    (fun pair => pair.1.equityPriority = true)
    fun pair member => by rw [unique.zoneField_eq _ member]]
  norm_cast

theorem holds_schoolRow : (schoolRow r (variableKeys casefold r)).Holds x ↔ r.minSchoolUnits ≤
    ((chosen casefold r x).filter fun pair => pair.1.isSchool = true).card := by
  rw [schoolRow, Row.holds_lower, value_count unique binary _
    (fun pair => pair.1.isSchool = true)
    fun pair member => by rw [unique.zoneField_eq _ member]]
  norm_cast

theorem holds_capacityRow {zone : ZoneDemand} (inZones : zone ∈ r.zones) :
    (capacityRow (variableKeys casefold r) zone).Holds x ↔
      (((chosen casefold r x).filter fun pair => pair.1 = zone).card : Int) ≤
        max 0 zone.implementationCapacity := by
  have keeps : ∀ pair ∈ eligiblePairs casefold r,
      decide ((key pair).1 = zone.zoneId) = true ↔ pair.1 = zone := by
    intro pair member
    rw [decide_eq_true_iff]
    refine ⟨fun same => ?_, fun same => by rw [← same]; rfl⟩
    exact List.inj_on_of_nodup_map unique.zones (mem_eligiblePairs.mp member).1 inZones same
  rw [capacityRow, Row.holds_upper, value_count unique binary _ (fun pair => pair.1 = zone) keeps]
  norm_cast

end Rows

theorem holds_fixRow {x : Key → ℚ} {k : Key} {value : ℚ} :
    (fixRow k value).Holds x ↔ x k = value := by
  have single : Expression.value x (count [k]) = x k := by
    simp [Expression.value, count]
  constructor
  · intro holds
    have below := holds.lower value rfl
    have above := holds.upper value rfl
    rw [fixRow, single] at below above
    exact le_antisymm above below
  · rintro rfl
    refine ⟨fun b bound => ?_, fun b bound => ?_⟩ <;>
    · cases bound
      rw [fixRow, single]

/-! ## Feasible assignments are plans -/

theorem truncate_binary {q : ℚ} (binary : q = 0 ∨ q = 1) :
    truncate q = if q = 1 then 1 else 0 := by
  rcases binary with rfl | rfl
  · simp [truncate]
  · simp [truncate]

/-- The assignment that allocates the pairs of a plan. -/
def Plan.assignment {casefold : String → String} {r : Request} (plan : Plan casefold r) : Key → ℚ :=
  indicator (((eligiblePairs casefold r).filter fun pair => pair ∈ plan.pairs).map key)

/-- The result reports the plan: one unit for each of its pairs, a rejection for each other
eligible pair. -/
structure Reports {casefold : String → String} {r : Request} (plan : Plan casefold r) (result : PortfolioResult) : Prop where
  units : ∀ a ∈ result.allocations, a.units = 1
  once : (result.allocations.map fun a => (a.zoneId, a.interventionId)).Nodup
  allocated : ∀ zoneId interventionId,
    (∃ a ∈ result.allocations, a.zoneId = zoneId ∧ a.interventionId = interventionId) ↔
      ∃ pair ∈ plan.pairs, pair.1.zoneId = zoneId ∧ pair.2.interventionId = interventionId
  rejected : result.rejected = ((r.zones ×ˢ r.interventions).filter fun pair =>
    isEligible casefold pair.2 pair.1.landUse && decide (pair ∉ plan.pairs)).map fun pair =>
      ⟨pair.1.zoneId, "not_selected"⟩

section Plans

variable {casefold : String → String} {r : Request} (unique : UniqueIds r)
include unique

theorem binary_pairs {x : Key → ℚ} :
    (∀ k ∈ variableKeys casefold r, x k = 0 ∨ x k = 1) ↔
      ∀ pair ∈ eligiblePairs casefold r, x (key pair) = 0 ∨ x (key pair) = 1 := by
  rw [unique.variableKeys_eq, List.forall_mem_map]

theorem rows_iff_admissible {x : Key → ℚ}
    (binary : ∀ pair ∈ eligiblePairs casefold r, x (key pair) = 0 ∨ x (key pair) = 1) :
    (∀ row ∈ rows r (variableKeys casefold r), row.Holds x) ↔
      Admissible casefold r (chosen casefold r x) := by
  have isKey : ∀ {pair}, pair ∈ eligiblePairs casefold r → key pair ∈ variableKeys casefold r := by
    intro pair member
    rw [unique.variableKeys_eq]
    exact List.mem_map_of_mem member
  constructor
  · intro holds
    refine ⟨fun pair member => mem_eligiblePairs.mp (mem_chosen.mp member).1,
      (holds_budgetRow unique binary).mp (holds _ (mem_rows.mpr (.inl rfl))),
      (holds_equityRow unique binary).mp (holds _ (mem_rows.mpr (.inr (.inl rfl)))),
      (holds_schoolRow unique binary).mp (holds _ (mem_rows.mpr (.inr (.inr (.inl rfl))))),
      fun zone inZones => (holds_capacityRow unique binary inZones).mp
        (holds _ (mem_rows.mpr (.inr (.inr (.inr (.inl ⟨zone, inZones, rfl⟩)))))), ?_, ?_⟩
    · intro zone inZones spec inSpecs eligible required
      have member : (zone, spec) ∈ eligiblePairs casefold r :=
        mem_eligiblePairs.mpr ⟨inZones, inSpecs, eligible⟩
      have fixed := holds (fixRow (key (zone, spec)) 1) (mem_rows.mpr
        (.inr (.inr (.inr (.inr ⟨_, isKey member, mem_fixRows.mpr (.inl ⟨required, rfl⟩)⟩)))))
      exact mem_chosen.mpr ⟨member, holds_fixRow.mp fixed⟩
    · intro pair member incompatible
      obtain ⟨inPairs, one⟩ := mem_chosen.mp member
      have fixed := holds (fixRow (key pair) 0) (mem_rows.mpr
        (.inr (.inr (.inr (.inr ⟨_, isKey inPairs, mem_fixRows.mpr (.inr ⟨incompatible, rfl⟩)⟩)))))
      rw [holds_fixRow, one] at fixed
      exact one_ne_zero fixed
  · intro admissible row member
    rcases mem_rows.mp member with rfl | rfl | rfl | ⟨zone, inZones, rfl⟩ | ⟨k, inKeys, fixed⟩
    · exact (holds_budgetRow unique binary).mpr admissible.budget
    · exact (holds_equityRow unique binary).mpr admissible.equity
    · exact (holds_schoolRow unique binary).mpr admissible.school
    · exact (holds_capacityRow unique binary inZones).mpr (admissible.capacity zone inZones)
    · rw [unique.variableKeys_eq] at inKeys
      obtain ⟨pair, inPairs, rfl⟩ := List.mem_map.mp inKeys
      obtain ⟨inZones, inSpecs, eligible⟩ := mem_eligiblePairs.mp inPairs
      rcases mem_fixRows.mp fixed with ⟨required, rfl⟩ | ⟨incompatible, rfl⟩
      · have allocated := admissible.required _ inZones _ inSpecs eligible required
        exact holds_fixRow.mpr (mem_chosen.mp allocated).2
      · refine holds_fixRow.mpr ((binary pair inPairs).resolve_right fun one => ?_)
        exact admissible.compatible pair (mem_chosen.mpr ⟨inPairs, one⟩) incompatible

theorem feasible_iff_admissible {x : Key → ℚ} : (program casefold r).Feasible x ↔
    (∀ pair ∈ eligiblePairs casefold r, x (key pair) = 0 ∨ x (key pair) = 1) ∧
      Admissible casefold r (chosen casefold r x) := by
  constructor
  · intro feasible
    have binary := (binary_pairs unique).mp feasible.binary
    exact ⟨binary, (rows_iff_admissible unique binary).mp feasible.rows⟩
  · rintro ⟨binary, admissible⟩
    exact ⟨(binary_pairs unique).mpr binary, (rows_iff_admissible unique binary).mpr admissible⟩

theorem Plan.chosen_assignment (plan : Plan casefold r) :
    chosen casefold r plan.assignment = plan.pairs := by
  ext pair
  rw [mem_chosen, Plan.assignment, indicator_eq_one_iff, List.mem_map]
  constructor
  · rintro ⟨member, other, inPlan, same⟩
    rw [List.mem_filter, decide_eq_true_iff] at inPlan
    rw [← unique.key_inj inPlan.1 member same]
    exact inPlan.2
  · intro inPlan
    have member := mem_eligiblePairs.mpr (plan.admissible.eligible pair inPlan)
    exact ⟨member, pair, List.mem_filter.mpr ⟨member, decide_eq_true inPlan⟩, rfl⟩

theorem Plan.feasible (plan : Plan casefold r) :
    (program casefold r).Feasible plan.assignment := by
  refine (feasible_iff_admissible unique).mpr ⟨fun pair _ => indicator_binary _ _, ?_⟩
  rw [plan.chosen_assignment unique]
  exact plan.admissible

theorem value_objective {x : Key → ℚ} (feasible : (program casefold r).Feasible x) :
    Expression.value x (program casefold r).objective =
      ∑ pair ∈ chosen casefold r x, netBenefit r pair :=
  value_all unique ((feasible_iff_admissible unique).mp feasible).1 _ _ fun pair member => by
    rw [benefits, uncertainties, unique.specField_eq _ member, unique.specField_eq _ member]
    rfl

/-! ## The result read back -/

/-- With valid entries behind it, each chosen variable becomes one allocation of one unit. -/
theorem allocations_ok {x : Key → ℚ}
    (valid : ∀ pair ∈ chosen casefold r x, 0 < pair.2.unitCost ∧ 0 ≤ pair.2.coolingScore)
    (binary : ∀ k ∈ variableKeys casefold r, x k = 0 ∨ x k = 1) :
    ∃ allocated, allocations r x (variableKeys casefold r) = .ok allocated ∧
      allocated.map Allocation.key = (variableKeys casefold r).filter (fun k => x k = 1) ∧
      ∀ a ∈ allocated, a.units = 1 := by
  have taken : (variableKeys casefold r).filter (fun k => truncate (x k) ≠ 0) =
      (variableKeys casefold r).filter fun k => x k = 1 :=
    List.filter_congr fun k member => by
      rw [truncate_binary (binary k member)]
      by_cases one : x k = 1 <;> simp [one]
  have turn : ∀ k ∈ (variableKeys casefold r).filter fun k => x k = 1,
      ∃ a, allocation r k (truncate (x k)) = .ok a ∧ a.key = k ∧ a.units = 1 := by
    intro k member
    obtain ⟨inKeys, one⟩ := List.mem_filter.mp member
    rw [unique.variableKeys_eq] at inKeys
    obtain ⟨pair, inPairs, rfl⟩ := List.mem_map.mp inKeys
    have found := find_of_mem unique.interventions (mem_eligiblePairs.mp inPairs).2.1
    have taken : pair ∈ chosen casefold r x := mem_chosen.mpr ⟨inPairs, by simpa using one⟩
    have unit : truncate (x (key pair)) = 1 := by
      rw [truncate_binary (binary _ (List.mem_of_mem_filter member)), if_pos (by simpa using one)]
    rw [unit]
    exact ⟨_, allocation_of_valid (key pair) 1 found (valid pair taken) (by decide), rfl, rfl⟩
  rw [allocations, taken]
  obtain ⟨allocated, read⟩ := mapM_ok_of_turns fun k member =>
    (turn k member).imp fun _ made => made.1
  have copied : ∀ k ∈ (variableKeys casefold r).filter fun k => x k = 1, ∀ a,
      allocation r k (truncate (x k)) = .ok a → a.key = k ∧ a.units = 1 := by
    intro k member a made
    obtain ⟨b, same, facts⟩ := turn k member
    cases made.symm.trans same
    exact facts
  refine ⟨allocated, read, ?_, fun a member => ?_⟩
  · rw [(map_of_mapM_ok (fun k member a made => (copied k member a made).1) read : _ = List.map id _),
      List.map_id]
  · obtain ⟨k, inKeys, made⟩ := mem_of_mapM_ok read a member
    exact (copied k inKeys a made).2

theorem reports_chosen {x : Key → ℚ} {allocated : List Allocation} {plan : Plan casefold r}
    (pairs : plan.pairs = chosen casefold r x)
    (keys : allocated.map Allocation.key = (variableKeys casefold r).filter fun k => x k = 1)
    (units : ∀ a ∈ allocated, a.units = 1) :
    Reports plan (portfolioResult casefold r allocated) := by
  have mem_keys : ∀ k, k ∈ allocated.map Allocation.key ↔ ∃ pair ∈ plan.pairs, key pair = k := by
    intro k
    rw [keys, pairs, List.mem_filter, decide_eq_true_iff, unique.variableKeys_eq, List.mem_map]
    constructor
    · rintro ⟨⟨pair, member, rfl⟩, one⟩
      exact ⟨pair, mem_chosen.mpr ⟨member, one⟩, rfl⟩
    · rintro ⟨pair, member, rfl⟩
      obtain ⟨inPairs, one⟩ := mem_chosen.mp member
      exact ⟨⟨pair, inPairs, rfl⟩, one⟩
  refine ⟨units, ?_, fun zoneId interventionId => ?_, ?_⟩
  · change (allocated.map Allocation.key).Nodup
    rw [keys]
    refine List.Nodup.filter _ ?_
    rw [unique.variableKeys_eq]
    exact unique.eligiblePairs_nodup.map_on fun a ha b hb same => unique.key_inj ha hb same
  · have member := mem_keys (zoneId, interventionId)
    simp only [List.mem_map, Allocation.key, key, Prod.mk.injEq] at member
    exact member
  · change rejections casefold r allocated = _
    unfold rejections
    congr 1
    rw [eligiblePairs, List.filter_filter]
    refine List.filter_congr fun pair inProduct => ?_
    cases eligible : isEligible casefold pair.2 pair.1.landUse with
    | false => simp
    | true =>
      have inPairs : pair ∈ eligiblePairs casefold r :=
        List.mem_filter.mpr ⟨inProduct, eligible⟩
      have same : key pair ∈ allocated.map Allocation.key ↔ pair ∈ plan.pairs := by
        rw [mem_keys]
        refine ⟨fun ⟨other, inPlan, sameKey⟩ => ?_, fun inPlan => ⟨pair, inPlan, rfl⟩⟩
        have member := mem_eligiblePairs.mpr (plan.admissible.eligible other inPlan)
        rwa [← unique.key_inj member inPairs sameKey]
      simp [same]

end Plans

/-! ## Soundness, completeness and optimality -/

/-- Neither budget nor minimums nor penalty are negative. -/
structure ValidArguments (r : Request) : Prop where
  budget : 0 ≤ r.budget
  equity : 0 ≤ r.minEquityUnits
  school : 0 ≤ r.minSchoolUnits
  penalty : 0 ≤ r.uncertaintyPenalty

section Answers

variable {casefold : String → String} {solve : Program Key ℚ → Outcome Key ℚ} {r : Request}
  (valid : ValidArguments r)
include valid

theorem optimizePortfolio_none (none_ : (solve (program casefold r)).assignment = none) :
    optimizePortfolio casefold solve r = .error (.valueError "constraints are infeasible") := by
  have arguments : ¬(r.budget < 0 ∨ r.minEquityUnits < 0 ∨ r.minSchoolUnits < 0) := by
    simp only [not_or, not_lt]
    exact ⟨valid.budget, valid.equity, valid.school⟩
  rw [optimizePortfolio, if_neg arguments, if_neg (not_lt.mpr valid.penalty), none_]

theorem optimizePortfolio_some {x : Key → ℚ} {allocated : List Allocation}
    (some_ : (solve (program casefold r)).assignment = some x)
    (read : allocations r x (variableKeys casefold r) = .ok allocated) :
    optimizePortfolio casefold solve r = .ok (portfolioResult casefold r allocated) := by
  have arguments : ¬(r.budget < 0 ∨ r.minEquityUnits < 0 ∨ r.minSchoolUnits < 0) := by
    simp only [not_or, not_lt]
    exact ⟨valid.budget, valid.equity, valid.school⟩
  rw [optimizePortfolio, if_neg arguments, if_neg (not_lt.mpr valid.penalty), some_]
  simp only [read, Except.map]

end Answers

section Best

variable {casefold : String → String} {solve : Program Key ℚ → Outcome Key ℚ} {r : Request}

/-- No plan has a larger net benefit. -/
def Plan.Best (plan : Plan casefold r) : Prop := ∀ other : Plan casefold r, other.benefit ≤ plan.benefit

/-- `validated_cost` takes the interventions of the plan. -/
def Plan.Priced (plan : Plan casefold r) : Prop :=
  ∀ pair ∈ plan.pairs, 0 < pair.2.unitCost ∧ 0 ≤ pair.2.coolingScore

theorem optimizePortfolio_ok {result : PortfolioResult}
    (answered : optimizePortfolio casefold solve r = .ok result) : ValidArguments r ∧
      ∃ x allocated, (solve (program casefold r)).assignment = some x ∧
        allocations r x (variableKeys casefold r) = .ok allocated ∧
        result = portfolioResult casefold r allocated := by
  unfold optimizePortfolio at answered
  split at answered
  · cases answered
  rename_i amounts
  split at answered
  · cases answered
  rename_i penalty
  simp only [not_or, not_lt] at amounts penalty
  split at answered
  · cases answered
  rename_i x assigned
  cases read : allocations r x (variableKeys casefold r) with
  | error e =>
    rw [read] at answered
    cases answered
  | ok allocated =>
    rw [read] at answered
    cases answered
    exact ⟨⟨amounts.1, amounts.2.1, amounts.2.2, penalty⟩, x, allocated, assigned, read, rfl⟩

variable (unique : UniqueIds r)
include unique

theorem priced_of_allocations {x : Key → ℚ} {allocated : List Allocation}
    (read : allocations r x (variableKeys casefold r) = .ok allocated) :
    ∀ pair ∈ chosen casefold r x, 0 < pair.2.unitCost ∧ 0 ≤ pair.2.coolingScore := by
  intro pair member
  obtain ⟨inPairs, one⟩ := mem_chosen.mp member
  have inKeys : key pair ∈ variableKeys casefold r := by
    rw [unique.variableKeys_eq]
    exact List.mem_map_of_mem inPairs
  have unit : truncate (x (key pair)) = 1 := by
    rw [truncate_binary (.inr one), if_pos one]
  obtain ⟨a, _, made⟩ := turn_of_mapM_ok read (key pair)
    (List.mem_filter.mpr ⟨inKeys, by simp [unit]⟩)
  have found := find_of_mem unique.interventions (mem_eligiblePairs.mp inPairs).2.1
  unfold allocation at made
  rw [show find InterventionSpec.interventionId (key pair).2 r.interventions = some pair.2
    from found] at made
  by_contra bad
  have refused : pair.2.unitCost ≤ 0 ∨ pair.2.coolingScore < 0 := by
    rw [not_and_or, not_lt, not_le] at bad
    exact bad
  rw [unit] at made
  simp [validatedCost, refused, Except.map] at made

/-- What an exact solver makes the optimizer answer is a best plan. -/
theorem reports_best (exact : Exact solve) {result : PortfolioResult}
    (answered : optimizePortfolio casefold solve r = .ok result) :
    ∃ plan : Plan casefold r, plan.Best ∧ plan.Priced ∧ Reports plan result := by
  obtain ⟨_, x, allocated, assigned, read, rfl⟩ := optimizePortfolio_ok answered
  have optimal : (program casefold r).Optimal x := by
    by_cases some_ : ∃ y, (program casefold r).Feasible y
    · obtain ⟨y, feasible⟩ := some_
      obtain ⟨z, answer, optimal⟩ := exact.optimal _ y feasible
      rw [answer] at assigned
      cases assigned
      exact optimal
    · rw [exact.infeasible _ fun y feasible => some_ ⟨y, feasible⟩] at assigned
      cases assigned
  obtain ⟨binary, admissible⟩ := (feasible_iff_admissible unique).mp optimal.feasible
  let plan : Plan casefold r := ⟨chosen casefold r x, admissible⟩
  have priced := priced_of_allocations unique read
  obtain ⟨allocated', read', keys, units⟩ := allocations_ok unique priced optimal.feasible.binary
  cases read.symm.trans read'
  refine ⟨plan, fun other => ?_, priced, reports_chosen unique rfl keys units⟩
  have best := optimal.best _ (other.feasible unique)
  rwa [value_objective unique optimal.feasible, value_objective unique (other.feasible unique),
    other.chosen_assignment unique] at best

/-- Every best plan is what some exact solver makes the optimizer answer. -/
theorem answers_best (valid : ValidArguments r) (plan : Plan casefold r) (best : plan.Best)
    (priced : plan.Priced) : ∃ solve, Exact solve ∧
      ∃ result, optimizePortfolio casefold solve r = .ok result ∧ Reports plan result := by
  classical
  have feasible := plan.feasible unique
  have optimal : (program casefold r).Optimal plan.assignment := by
    refine ⟨feasible, fun y other => ?_⟩
    have admissible := ((feasible_iff_admissible unique).mp other).2
    rw [value_objective unique other, value_objective unique feasible,
      plan.chosen_assignment unique]
    exact best ⟨_, admissible⟩
  have pairs := plan.chosen_assignment unique
  obtain ⟨allocated, read, keys, units⟩ :=
    allocations_ok unique (by rw [pairs]; exact priced) feasible.binary
  have assigned : (Function.update search (program casefold r) (.optimal plan.assignment)
      (program casefold r)).assignment = some plan.assignment := by
    rw [Function.update_self]
    rfl
  exact ⟨_, exact_search.prefer optimal, _, optimizePortfolio_some valid assigned read,
    reports_chosen unique pairs.symm keys units⟩

end Best

/-- With an exact solver the optimizer answers exactly when there is a plan, its answer
reports a plan of the largest net benefit, and otherwise it raises. -/
theorem portfolio_optimal (casefold : String → String)
    {solve : Program Key ℚ → Outcome Key ℚ} (exact : Exact solve) {r : Request}
    (unique : UniqueIds r)
    (catalogue : ∀ spec ∈ r.interventions, 0 < spec.unitCost ∧ 0 ≤ spec.coolingScore)
    (valid : ValidArguments r) :
    ((∃ result, optimizePortfolio casefold solve r = .ok result) ↔ Nonempty (Plan casefold r)) ∧
      (∀ result, optimizePortfolio casefold solve r = .ok result →
        ∃ plan : Plan casefold r, Reports plan result ∧
          ∀ other : Plan casefold r, other.benefit ≤ plan.benefit) ∧
      (IsEmpty (Plan casefold r) → optimizePortfolio casefold solve r =
        .error (.valueError "constraints are infeasible")) := by
  refine ⟨⟨fun ⟨result, answered⟩ => ?_, fun ⟨plan⟩ => ?_⟩, fun result answered => ?_,
    fun empty => ?_⟩
  · obtain ⟨plan, _⟩ := reports_best unique exact answered
    exact ⟨plan⟩
  · obtain ⟨y, answer, optimal⟩ := exact.optimal _ _ (plan.feasible unique)
    have admissible := ((feasible_iff_admissible unique).mp optimal.feasible).2
    obtain ⟨allocated, read, _⟩ := allocations_ok unique
      (fun pair member => catalogue _ (admissible.eligible pair member).2.1)
      optimal.feasible.binary
    have assigned : (solve (program casefold r)).assignment = some y := by
      rw [answer]
      rfl
    exact ⟨_, optimizePortfolio_some valid assigned read⟩
  · obtain ⟨plan, best, _, reports⟩ := reports_best unique exact answered
    exact ⟨plan, reports, best⟩
  · have infeasible : ∀ x, ¬(program casefold r).Feasible x := fun x feasible =>
      empty.elim ⟨_, ((feasible_iff_admissible unique).mp feasible).2⟩
    have assigned : (solve (program casefold r)).assignment = none := by
      rw [exact.infeasible _ infeasible]
      rfl
    exact optimizePortfolio_none valid assigned

/-! ## A school and a park -/

def school : ZoneDemand := ⟨"school", "school", false, true, 1⟩

def park : ZoneDemand := ⟨"park", "park", true, false, 1⟩

def trees : InterventionSpec := ⟨"trees", 10, 5, ["school", "park"], 0⟩

def coolRoof : InterventionSpec := ⟨"cool-roof", 30, 20, ["school"], 0⟩

def sampleRequest : Request := ⟨[school, park], [trees, coolRoof], 50, 1, 1, 0, [], []⟩

/-- Trees in both zones; the capacity of the school leaves no room for its roof. -/
def treesOnly : Plan id sampleRequest where
  pairs := {(school, trees), (park, trees)}
  admissible := by constructor <;> decide +kernel

/-- The optimizer answers, and no worse than trees in both zones. -/
theorem portfolio_optimal_sample :
    ∃ result, optimizePortfolio id search sampleRequest = .ok result ∧
      ∃ plan : Plan id sampleRequest, Reports plan result ∧ treesOnly.benefit ≤ plan.benefit := by
  have unique : UniqueIds sampleRequest := ⟨by decide, by decide⟩
  have valid : ValidArguments sampleRequest := by constructor <;> decide +kernel
  obtain ⟨answers, optimal, _⟩ :=
    portfolio_optimal id exact_search unique (by decide +kernel) valid
  obtain ⟨result, returned⟩ := answers.mpr ⟨treesOnly⟩
  obtain ⟨plan, reports, best⟩ := optimal result returned
  exact ⟨result, returned, plan, reports, best treesOnly⟩

end CoolProof.Portfolio
