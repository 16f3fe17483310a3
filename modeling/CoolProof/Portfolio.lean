import CoolProof.Library.BinaryProgram
import CoolProof.Library.Tables
import Mathlib.Algebra.BigOperators.Group.Finset.Basic
import Mathlib.Algebra.Order.Field.Rat
import Mathlib.Data.List.Dedup
import Mathlib.Data.List.ProdSigma
import Mathlib.Data.Rat.Floor

/-! The portfolio optimizer: the 0/1 program it builds from zones and interventions, and
the result it reads back from the solver's answer. Amounts are rational; `casefold` and
the solver are parameters. -/

namespace CoolProof.Portfolio
open BinaryProgram Tables

structure ZoneDemand where
  zoneId : String
  landUse : String
  equityPriority : Bool
  isSchool : Bool
  implementationCapacity : Int
deriving DecidableEq

structure InterventionSpec where
  interventionId : String
  unitCost : ℚ
  coolingScore : ℚ
  eligibleLandUses : List String
  uncertainty : ℚ
deriving DecidableEq

/-- A zone id with an intervention id. -/
abbrev Key := String × String

/-- The arguments of `optimize_portfolio`; an absent set of pairs is empty. -/
structure Request where
  zones : List ZoneDemand
  interventions : List InterventionSpec
  budget : ℚ
  minEquityUnits : Int
  minSchoolUnits : Int
  uncertaintyPenalty : ℚ
  required : List Key
  incompatible : List Key

structure Allocation where
  zoneId : String
  interventionId : String
  units : Int
  cost : ℚ
  benefit : ℚ
  uncertainty : ℚ
deriving DecidableEq

structure Rejection where
  zoneId : String
  reason : String
deriving DecidableEq

structure PortfolioResult where
  allocations : List Allocation
  totalCost : ℚ
  totalBenefit : ℚ
  totalUncertainty : ℚ
  remainingBudget : ℚ
  rejected : List Rejection
  bindingConstraints : List String
deriving DecidableEq

inductive Raised where
  | valueError (message : String)
  | stopIteration
deriving DecidableEq

/-! ## Numbers -/

/-- `round(x, digits)`: to the nearest multiple, a tie to the even one. -/
def round (digits : Nat) (x : ℚ) : ℚ :=
  let scaled := x * 10 ^ digits
  let below := ⌊scaled⌋
  let rest := scaled - below
  let nearest :=
    if rest < 1 / 2 then below
    else if 1 / 2 < rest then below + 1
    else if below % 2 = 0 then below else below + 1
  nearest / 10 ^ digits

example : round 2 (1 / 8) = 3 / 25 := by decide +kernel

/-- `int(x)`: the fraction is cut off. -/
def truncate (x : ℚ) : Int := x.num.tdiv x.den

/-! ## Eligibility -/

def isEligible (casefold : String → String) (spec : InterventionSpec) (landUse : String) : Bool :=
  (spec.eligibleLandUses.map casefold).contains (casefold landUse)

/-- `validated_cost` -/
def validatedCost (spec : InterventionSpec) (units : Int) : Except Raised ℚ :=
  if units < 0 then .error (.valueError "units cannot be negative")
  else if spec.unitCost ≤ 0 ∨ spec.coolingScore < 0 then
    .error (.valueError "intervention costs and scores must be valid")
  else .ok (round 2 (spec.unitCost * units))

/-- The pairs of the nested loops, in order. -/
def eligiblePairs (casefold : String → String) (r : Request) :
    List (ZoneDemand × InterventionSpec) :=
  (r.zones ×ˢ r.interventions).filter fun pair => isEligible casefold pair.2 pair.1.landUse

def key (pair : ZoneDemand × InterventionSpec) : Key := (pair.1.zoneId, pair.2.interventionId)

/-- The keys of a dict: each where it was first inserted. -/
def distinct (keys : List Key) : List Key := keys.reverse.dedup.reverse

/-- The keys of `variables`. -/
def variableKeys (casefold : String → String) (r : Request) : List Key :=
  distinct ((eligiblePairs casefold r).map key)

/-! ## Lookups by id

A dict comprehension keeps the last entry of an id. Every id that is looked up has one. -/

def specField (r : Request) (field : InterventionSpec → ℚ) (id : String) : ℚ :=
  ((find InterventionSpec.interventionId id r.interventions.reverse).map field).getD 0

def zoneField (r : Request) (field : ZoneDemand → Bool) (id : String) : Bool :=
  ((find ZoneDemand.zoneId id r.zones.reverse).map field).getD false

def costs (r : Request) : String → ℚ := specField r InterventionSpec.unitCost

def benefits (r : Request) : String → ℚ := specField r InterventionSpec.coolingScore

def uncertainties (r : Request) : String → ℚ := specField r fun spec => max 0 spec.uncertainty

/-! ## The program -/

/-- `solver.Sum` of some of the variables. -/
def count (keys : List Key) : Expression Key ℚ := keys.map fun k => (k, 1)

def budgetRow (r : Request) (keys : List Key) : Row Key ℚ :=
  ⟨keys.map fun k => (k, costs r k.2), none, some r.budget⟩

def equityRow (r : Request) (keys : List Key) : Row Key ℚ :=
  ⟨count (keys.filter fun k => zoneField r ZoneDemand.equityPriority k.1),
    some r.minEquityUnits, none⟩

def schoolRow (r : Request) (keys : List Key) : Row Key ℚ :=
  ⟨count (keys.filter fun k => zoneField r ZoneDemand.isSchool k.1), some r.minSchoolUnits, none⟩

def capacityRow (keys : List Key) (zone : ZoneDemand) : Row Key ℚ :=
  ⟨count (keys.filter fun k => k.1 = zone.zoneId), none,
    some (max 0 zone.implementationCapacity : Int)⟩

/-- `variable == value` -/
def fixRow (k : Key) (value : ℚ) : Row Key ℚ := ⟨count [k], some value, some value⟩

def fixRows (r : Request) (k : Key) : List (Row Key ℚ) :=
  (if k ∈ r.required then [fixRow k 1] else []) ++ if k ∈ r.incompatible then [fixRow k 0] else []

def rows (r : Request) (keys : List Key) : List (Row Key ℚ) :=
  budgetRow r keys :: equityRow r keys :: schoolRow r keys ::
    (r.zones.map (capacityRow keys) ++ keys.flatMap (fixRows r))

def objective (r : Request) (keys : List Key) : Expression Key ℚ :=
  keys.map fun k => (k, benefits r k.2 - r.uncertaintyPenalty * uncertainties r k.2)

theorem mem_fixRows {r : Request} {k : Key} {row : Row Key ℚ} : row ∈ fixRows r k ↔
    (k ∈ r.required ∧ row = fixRow k 1) ∨ (k ∈ r.incompatible ∧ row = fixRow k 0) := by
  unfold fixRows
  by_cases required : k ∈ r.required <;> by_cases incompatible : k ∈ r.incompatible <;>
    simp [required, incompatible]

theorem mem_rows {r : Request} {keys : List Key} {row : Row Key ℚ} : row ∈ rows r keys ↔
    row = budgetRow r keys ∨ row = equityRow r keys ∨ row = schoolRow r keys ∨
      (∃ zone ∈ r.zones, row = capacityRow keys zone) ∨ ∃ k ∈ keys, row ∈ fixRows r k := by
  simp [rows, eq_comm]

theorem mem_count {keys : List Key} {term : Key × ℚ} (member : term ∈ count keys) :
    term.1 ∈ keys := by
  obtain ⟨k, inKeys, rfl⟩ := List.mem_map.mp member
  exact inKeys

/-- The model that is handed to the solver. -/
def program (casefold : String → String) (r : Request) : Program Key ℚ where
  unknowns := variableKeys casefold r
  rows := rows r (variableKeys casefold r)
  objective := objective r (variableKeys casefold r)
  rowsDeclared := by
    intro row member term inRow
    rcases mem_rows.mp member with rfl | rfl | rfl | ⟨zone, _, rfl⟩ | ⟨k, inKeys, fixed⟩
    · obtain ⟨k, inKeys, rfl⟩ := List.mem_map.mp inRow
      exact inKeys
    · exact List.mem_of_mem_filter (mem_count inRow)
    · exact List.mem_of_mem_filter (mem_count inRow)
    · exact List.mem_of_mem_filter (mem_count inRow)
    · rcases mem_fixRows.mp fixed with ⟨_, rfl⟩ | ⟨_, rfl⟩ <;>
        exact List.mem_singleton.mp (mem_count inRow) ▸ inKeys
  objectiveDeclared := by
    intro term member
    obtain ⟨k, inKeys, rfl⟩ := List.mem_map.mp member
    exact inKeys

/-! ## The result -/

def allocation (r : Request) (k : Key) (units : Int) : Except Raised Allocation :=
  match find InterventionSpec.interventionId k.2 r.interventions with
  | none => .error .stopIteration
  | some spec => (validatedCost spec units).map fun cost =>
      ⟨k.1, k.2, units, cost, spec.coolingScore * units, uncertainties r k.2 * units⟩

theorem allocation_of_valid {r : Request} {spec : InterventionSpec} (k : Key) (units : Int)
    (found : find InterventionSpec.interventionId k.2 r.interventions = some spec)
    (valid : 0 < spec.unitCost ∧ 0 ≤ spec.coolingScore) (positive : 0 ≤ units) :
    allocation r k units = .ok ⟨k.1, k.2, units, round 2 (spec.unitCost * units),
      spec.coolingScore * units, uncertainties r k.2 * units⟩ := by
  have accepted : ¬(spec.unitCost ≤ 0 ∨ spec.coolingScore < 0) := by
    rw [not_or, not_le, not_lt]
    exact valid
  rw [allocation, found]
  simp only [validatedCost, if_neg (not_lt.mpr positive), if_neg accepted, Except.map]

/-- The loop over `variables.items()` after the solver has answered. -/
def allocations (r : Request) (x : Key → ℚ) (keys : List Key) : Except Raised (List Allocation) :=
  (keys.filter fun k => truncate (x k) ≠ 0).mapM fun k => allocation r k (truncate (x k))

def Allocation.key (a : Allocation) : Key := (a.zoneId, a.interventionId)

def rejections (casefold : String → String) (r : Request) (allocated : List Allocation) :
    List Rejection :=
  ((eligiblePairs casefold r).filter fun pair =>
    !(allocated.map Allocation.key).contains (key pair)).map fun pair =>
      ⟨pair.1.zoneId, "not_selected"⟩

def portfolioResult (casefold : String → String) (r : Request) (allocated : List Allocation) :
    PortfolioResult where
  allocations := allocated
  totalCost := round 2 (allocated.map Allocation.cost).sum
  totalBenefit := round 4 (allocated.map Allocation.benefit).sum
  totalUncertainty := round 4 (allocated.map Allocation.uncertainty).sum
  remainingBudget := round 2 (r.budget - (allocated.map Allocation.cost).sum)
  rejected := rejections casefold r allocated
  bindingConstraints :=
    (if |(allocated.map Allocation.cost).sum - r.budget| < 1 / 100 then ["budget"] else []) ++
      ((if r.minEquityUnits ≠ 0 then ["equity_minimum"] else []) ++
        if r.minSchoolUnits ≠ 0 then ["school_minimum"] else [])

/-- `optimize_portfolio` -/
def optimizePortfolio (casefold : String → String)
    (solve : Program Key ℚ → Outcome Key ℚ) (r : Request) : Except Raised PortfolioResult :=
  if r.budget < 0 ∨ r.minEquityUnits < 0 ∨ r.minSchoolUnits < 0 then
    .error (.valueError "budget and minimums cannot be negative")
  else if r.uncertaintyPenalty < 0 then
    .error (.valueError "uncertainty_penalty cannot be negative")
  else match (solve (program casefold r)).assignment with
    | none => .error (.valueError "constraints are infeasible")
    | some x => (allocations r x (variableKeys casefold r)).map (portfolioResult casefold r)

end CoolProof.Portfolio
