import CoolProof.PortfolioOptimality
import CoolProof.Projects

/-! Portfolio runs and their allocations. `optimize` checks every zone and intervention of
the request by counting what an IN query finds, runs the optimizer under their ids as texts,
and reads the ids of the allocations back. -/

namespace CoolProof.PortfolioRuns
open BinaryProgram Calendar JsonDocument Loops Uuid Models Tables Documents Projects

/-! ## Tables -/

structure PortfolioTables where
  runs : List PortfolioRun
  allocations : List PortfolioAllocation

structure PortfolioTables.Constraints (t : PortfolioTables) : Prop where
  runId : (t.runs.map PortfolioRun.id).Nodup
  allocationId : (t.allocations.map PortfolioAllocation.id).Nodup
  allocationRun : ∀ a ∈ t.allocations, a.portfolioRunId ∈ t.runs.map PortfolioRun.id

theorem PortfolioTables.constraints_iff (t : PortfolioTables) : t.Constraints ↔
    (t.runs.map PortfolioRun.id).Nodup ∧ (t.allocations.map PortfolioAllocation.id).Nodup ∧
    ∀ a ∈ t.allocations, a.portfolioRunId ∈ t.runs.map PortfolioRun.id :=
  ⟨fun ⟨a, b, c⟩ => ⟨a, b, c⟩, fun ⟨a, b, c⟩ => ⟨a, b, c⟩⟩

instance (t : PortfolioTables) : Decidable t.Constraints :=
  decidable_of_iff _ t.constraints_iff.symm

structure PortfolioStore extends PortfolioTables where
  wf : toPortfolioTables.Constraints

def PortfolioStore.empty : PortfolioStore where
  runs := []
  allocations := []
  wf := by
    constructor <;> simp

/-! ## Requests -/

inductive Stopped where
  | refused (refusal : Refusal)
  /-- An exception that nothing catches; the transaction is rolled back. -/
  | unhandled
deriving DecidableEq

structure ZoneInput where
  zoneId : UUID
  landUse : String
  equityPriority : Bool
  isSchool : Bool
  exposureScore : FloatLiteral
  implementationCapacity : Int

/-- The name and the economics are checked; the catalogue's are used. -/
structure InterventionInput where
  interventionId : UUID
  unitCost : FloatLiteral
  coolingScore : FloatLiteral
  eligibleLandUses : List String
  uncertainty : FloatLiteral

structure OptimizeRequest where
  projectId : UUID
  budget : FloatLiteral
  zones : List ZoneInput
  interventions : List InterventionInput
  minEquityUnits : Int
  minSchoolUnits : Int
  uncertaintyPenalty : FloatLiteral
  required : List (List (String × String))
  incompatible : List (List (String × String))

def ZoneInput.valid (zone : ZoneInput) : Bool :=
  !isNegative zone.exposureScore && 0 ≤ zone.implementationCapacity

def InterventionInput.valid (item : InterventionInput) : Bool :=
  (!isZero item.unitCost && !isNegative item.unitCost) && !isNegative item.coolingScore &&
    !item.eligibleLandUses.isEmpty && !isNegative item.uncertainty

def OptimizeRequest.validBody (request : OptimizeRequest) : Bool :=
  !isNegative request.budget && (!request.zones.isEmpty && request.zones.all ZoneInput.valid) &&
    (!request.interventions.isEmpty && request.interventions.all InterventionInput.valid) &&
    0 ≤ request.minEquityUnits && 0 ≤ request.minSchoolUnits &&
    !isNegative request.uncertaintyPenalty

/-- The number of a float, and the float of a number. -/
structure Floats where
  value : FloatLiteral → ℚ
  literal : ℚ → FloatLiteral

/-- What `optimize` leaves to libraries. -/
structure Optimizer where
  floats : Floats
  casefold : String → String
  solve : Program Portfolio.Key ℚ → Outcome Portfolio.Key ℚ

/-- The zones of the request that are zones of the project. -/
def projectZones (t : ProjectTables) (organizationId projectId : UUID) (ids : List UUID) :
    List Zone :=
  t.zones.filter fun z =>
    ids.contains z.id && (z.projectId = projectId && z.organizationId = organizationId)

/-- The interventions of the request that are active in the catalogue. -/
def activeInterventions (catalogue : List Intervention) (organizationId : UUID)
    (ids : List UUID) : List Intervention :=
  catalogue.filter fun i =>
    ids.contains i.id && (i.organizationId = organizationId && i.active)

def zoneDemand (zone : ZoneInput) : Portfolio.ZoneDemand where
  zoneId := Uuid.toString zone.zoneId
  landUse := zone.landUse
  equityPriority := zone.equityPriority
  isSchool := zone.isSchool
  implementationCapacity := zone.implementationCapacity

/-- `interventions_by_id` has the last row under each id. -/
def interventionSpec (floats : Floats) (found : List Intervention) (item : InterventionInput) :
    Except Stopped Portfolio.InterventionSpec :=
  match find Intervention.id item.interventionId found.reverse with
  | none => .error .unhandled
  | some i => .ok {
      interventionId := Uuid.toString item.interventionId
      unitCost := floats.value i.unitCost
      coolingScore := floats.value i.coolingScore
      eligibleLandUses := i.eligibleLandUses
      uncertainty := floats.value item.uncertainty }

/-- `(str(x["zone_id"]), str(x["intervention_id"]))` -/
def pairKey (entry : List (String × String)) : Except Stopped Portfolio.Key :=
  match entry.lookup "zone_id", entry.lookup "intervention_id" with
  | some zoneId, some interventionId => .ok (zoneId, interventionId)
  | _, _ => .error .unhandled

/-- The arguments of `optimize_portfolio`. -/
def portfolioRequest (floats : Floats) (found : List Intervention) (request : OptimizeRequest) :
    Except Stopped Portfolio.Request := do
  let interventions ← request.interventions.mapM (interventionSpec floats found)
  let required ← request.required.mapM pairKey
  let incompatible ← request.incompatible.mapM pairKey
  .ok {
    zones := request.zones.map zoneDemand
    interventions := interventions
    budget := floats.value request.budget
    minEquityUnits := request.minEquityUnits
    minSchoolUnits := request.minSchoolUnits
    uncertaintyPenalty := floats.value request.uncertaintyPenalty
    required := required
    incompatible := incompatible }

/-! ## Rows -/

def allocationJson (floats : Floats) (a : Portfolio.Allocation) : Json :=
  .obj [("zone_id", .str a.zoneId), ("intervention_id", .str a.interventionId),
    ("units", .int a.units), ("cost", .float (floats.literal a.cost)),
    ("benefit", .float (floats.literal a.benefit)),
    ("uncertainty", .float (floats.literal a.uncertainty))]

def rejectionJson (rejection : Portfolio.Rejection) : Json :=
  .obj [("zone_id", .str rejection.zoneId), ("reason", .str rejection.reason)]

/-- A total over the allocations; a sum of none is the integer 0. -/
def totalJson (floats : Floats) (result : Portfolio.PortfolioResult) (total : ℚ) : Json :=
  if result.allocations.isEmpty then .int 0 else .float (floats.literal total)

/-- `response` -/
def responseJson (floats : Floats) (result : Portfolio.PortfolioResult) : Dict :=
  [("status", .str "completed"),
   ("total_cost", totalJson floats result result.totalCost),
   ("total_benefit", totalJson floats result result.totalBenefit),
   ("total_uncertainty", totalJson floats result result.totalUncertainty),
   ("remaining_budget", .float (floats.literal result.remainingBudget)),
   ("rejected", .arr (result.rejected.map rejectionJson)),
   ("binding_constraints", .arr (result.bindingConstraints.map .str)),
   ("allocations", .arr (result.allocations.map (allocationJson floats)))]

/-- The ids drawn for a run and its allocations, and the time. -/
structure OptimizeEnv where
  newId : UUID
  newIds : Nat → UUID
  now : Instant

def newRun (floats : Floats) (tenant : TenantContext) (request : OptimizeRequest)
    (result : Portfolio.PortfolioResult) (env : OptimizeEnv) : PortfolioRun where
  id := env.newId
  organizationId := tenant.organizationId
  projectId := some request.projectId
  budget := request.budget
  resultJson := .obj (responseJson floats result)
  createdAt := env.now

/-- `UUID(...)` -/
def uuid (text : String) : Except Stopped UUID :=
  match Uuid.parse text.toList with
  | some id => .ok id
  | none => .error .unhandled

def newAllocation (floats : Floats) (tenant : TenantContext) (env : OptimizeEnv)
    (allocation : Portfolio.Allocation × Nat) : Except Stopped PortfolioAllocation := do
  let zoneId ← uuid allocation.1.zoneId
  let interventionId ← uuid allocation.1.interventionId
  .ok {
    id := env.newIds allocation.2
    organizationId := tenant.organizationId
    portfolioRunId := env.newId
    zoneId := zoneId
    interventionId := interventionId
    quantity := allocation.1.units
    cost := floats.literal allocation.1.cost }

/-! ## The request -/

def withRun (t : PortfolioTables) (run : PortfolioRun) (allocations : List PortfolioAllocation) :
    PortfolioTables where
  runs := t.runs ++ [run]
  allocations := t.allocations ++ allocations

def PortfolioStore.save {β : Type} (s : PortfolioStore) (t : PortfolioTables) (answer : β) :
    PortfolioStore × Except Stopped β :=
  if wf : t.Constraints then (⟨t, wf⟩, .ok answer) else (s, .error (.refused .database))

/-- The part of `optimize` after the checks. -/
def runOptimizer (opt : Optimizer) (found : List Intervention) (s : PortfolioStore)
    (tenant : TenantContext) (request : OptimizeRequest) (env : OptimizeEnv) :
    PortfolioStore × Except Stopped Dict :=
  match portfolioRequest opt.floats found request with
  | .error e => (s, .error e)
  | .ok arguments =>
      match Portfolio.optimizePortfolio opt.casefold opt.solve arguments with
      | .error _ => (s, .error .unhandled)
      | .ok result =>
          match result.allocations.zipIdx.mapM (newAllocation opt.floats tenant env) with
          | .error e => (s, .error e)
          | .ok allocations =>
              s.save (withRun s.toPortfolioTables (newRun opt.floats tenant request result env)
                  allocations)
                (responseJson opt.floats result ++
                  [("project_id", .str (Uuid.toString request.projectId)),
                   ("portfolio_run_id", .str (Uuid.toString env.newId))])

/-- `optimize` -/
def optimize (opt : Optimizer) (projects : ProjectTables) (catalogue : List Intervention)
    (s : PortfolioStore) (tenant : TenantContext) (request : OptimizeRequest)
    (env : OptimizeEnv) : PortfolioStore × Except Stopped Dict :=
  let zoneIds := request.zones.map ZoneInput.zoneId
  let zones := projectZones projects tenant.organizationId request.projectId zoneIds
  let interventionIds := request.interventions.map InterventionInput.interventionId
  let interventions := activeInterventions catalogue tenant.organizationId interventionIds
  if !mayWrite tenant then (s, .error (.refused insufficientRole))
  else if !request.validBody then (s, .error (.refused .invalidBody))
  else if !projectFound projects.projects tenant.organizationId (some request.projectId) then
    (s, .error (.refused (.apiError 404 "project_not_found" "Project was not found")))
  else if ¬zoneIds.Nodup then
    (s, .error (.refused (.apiError 422 "duplicate_zone" "Each zone may appear only once")))
  else if (zones.map Zone.id).dedup.length ≠ zoneIds.length then
    (s, .error (.refused (.apiError 404 "zone_not_found"
      "One or more project zones were not found")))
  else if ¬interventionIds.Nodup then
    (s, .error (.refused (.apiError 422 "duplicate_intervention"
      "Each intervention may appear only once")))
  else if (interventions.map Intervention.id).dedup.length ≠ interventionIds.length then
    (s, .error (.refused (.apiError 404 "intervention_not_found"
      "One or more active interventions were not found")))
  else runOptimizer opt interventions s tenant request env

/-! ## The checks -/

/-- The request passes the checks of `optimize`. -/
structure Checked (projects : ProjectTables) (catalogue : List Intervention)
    (tenant : TenantContext) (request : OptimizeRequest) : Prop where
  role : mayWrite tenant = true
  body : request.validBody = true
  project : projectFound projects.projects tenant.organizationId (some request.projectId) = true
  zonesOnce : (request.zones.map ZoneInput.zoneId).Nodup
  zones : ((projectZones projects tenant.organizationId request.projectId
    (request.zones.map ZoneInput.zoneId)).map Zone.id).dedup.length =
      (request.zones.map ZoneInput.zoneId).length
  interventionsOnce : (request.interventions.map InterventionInput.interventionId).Nodup
  interventions : ((activeInterventions catalogue tenant.organizationId
    (request.interventions.map InterventionInput.interventionId)).map Intervention.id).dedup.length =
      (request.interventions.map InterventionInput.interventionId).length

/-- The catalogue rows that `optimize` uses. -/
def requestedInterventions (catalogue : List Intervention) (tenant : TenantContext)
    (request : OptimizeRequest) : List Intervention :=
  activeInterventions catalogue tenant.organizationId
    (request.interventions.map InterventionInput.interventionId)

section Checks

variable {projects : ProjectTables} {catalogue : List Intervention} {tenant : TenantContext}
  {request : OptimizeRequest}

theorem optimize_of_checked (opt : Optimizer) (s : PortfolioStore) (env : OptimizeEnv)
    (checked : Checked projects catalogue tenant request) :
    optimize opt projects catalogue s tenant request env =
      runOptimizer opt (requestedInterventions catalogue tenant request) s tenant request env := by
  simp [optimize, requestedInterventions, checked.role, checked.body, checked.project,
    checked.zonesOnce, checked.zones, checked.interventionsOnce, checked.interventions]

theorem optimize_unchecked (opt : Optimizer) (s : PortfolioStore) (env : OptimizeEnv)
    (unchecked : ¬Checked projects catalogue tenant request) :
    ∃ e, optimize opt projects catalogue s tenant request env = (s, .error e) := by
  unfold optimize
  dsimp only
  split
  · exact ⟨_, rfl⟩
  rename_i role
  split
  · exact ⟨_, rfl⟩
  rename_i body
  split
  · exact ⟨_, rfl⟩
  rename_i project
  split
  · exact ⟨_, rfl⟩
  rename_i zonesOnce
  split
  · exact ⟨_, rfl⟩
  rename_i zones
  split
  · exact ⟨_, rfl⟩
  rename_i interventionsOnce
  split
  · exact ⟨_, rfl⟩
  rename_i interventions
  exact absurd ⟨by simpa using role, by simpa using body, by simpa using project,
    not_not.mp zonesOnce, not_not.mp zones, not_not.mp interventionsOnce,
    not_not.mp interventions⟩ unchecked

/-- A zone that passes the checks is one of the project. -/
theorem Checked.hasZone (checked : Checked projects catalogue tenant request) {zone : ZoneInput}
    (asked : zone ∈ request.zones) :
    projects.HasZone tenant.organizationId request.projectId zone.zoneId := by
  obtain ⟨z, found, same⟩ := found_of_count
    (fun z found => by simpa using ((Bool.and_eq_true _ _).mp (List.mem_filter.mp found).2).1)
    checked.zones zone.zoneId (List.mem_map_of_mem asked)
  obtain ⟨stored, accepted⟩ := List.mem_filter.mp found
  have scope : z.projectId = request.projectId ∧ z.organizationId = tenant.organizationId := by
    simpa using ((Bool.and_eq_true _ _).mp accepted).2
  exact ⟨z, stored, same, scope⟩

end Checks

/-! ## The optimizer's answer -/

/-- The response that `optimize` makes of a result. -/
def answer (floats : Floats) (request : OptimizeRequest) (env : OptimizeEnv)
    (result : Portfolio.PortfolioResult) : Dict :=
  responseJson floats result ++
    [("project_id", .str (Uuid.toString request.projectId)),
      ("portfolio_run_id", .str (Uuid.toString env.newId))]

/-- The optimizer's part fails and stores nothing, or stores the run that it answers. -/
theorem runOptimizer_cases (opt : Optimizer) (found : List Intervention) (s : PortfolioStore)
    (tenant : TenantContext) (request : OptimizeRequest) (env : OptimizeEnv) :
    (∃ e, runOptimizer opt found s tenant request env = (s, .error e)) ∨
      ∃ arguments result rows, portfolioRequest opt.floats found request = .ok arguments ∧
        Portfolio.optimizePortfolio opt.casefold opt.solve arguments = .ok result ∧
        result.allocations.zipIdx.mapM (newAllocation opt.floats tenant env) = .ok rows ∧
        ∃ wf : (withRun s.toPortfolioTables (newRun opt.floats tenant request result env)
            rows).Constraints,
          runOptimizer opt found s tenant request env =
            (⟨_, wf⟩, .ok (answer opt.floats request env result)) := by
  unfold runOptimizer
  cases made : portfolioRequest opt.floats found request with
  | error e => exact .inl ⟨_, rfl⟩
  | ok arguments =>
    dsimp only
    cases solved : Portfolio.optimizePortfolio opt.casefold opt.solve arguments with
    | error e => exact .inl ⟨_, rfl⟩
    | ok result =>
      dsimp only
      cases drawn : result.allocations.zipIdx.mapM (newAllocation opt.floats tenant env) with
      | error e => exact .inl ⟨_, rfl⟩
      | ok rows =>
        dsimp only [PortfolioStore.save]
        split
        · rename_i wf
          exact .inr ⟨arguments, result, rows, rfl, solved, drawn, wf, rfl⟩
        · exact .inl ⟨_, rfl⟩

/-- An answer comes from a checked request, an optimized result and drawn rows, and the run is
stored with them. -/
theorem optimize_ok {opt : Optimizer} {projects : ProjectTables} {catalogue : List Intervention}
    {s : PortfolioStore} {tenant : TenantContext} {request : OptimizeRequest} {env : OptimizeEnv}
    {answered : Dict}
    (done : (optimize opt projects catalogue s tenant request env).2 = .ok answered) :
    Checked projects catalogue tenant request ∧ ∃ arguments result rows,
      portfolioRequest opt.floats (requestedInterventions catalogue tenant request) request =
        .ok arguments ∧
      Portfolio.optimizePortfolio opt.casefold opt.solve arguments = .ok result ∧
      result.allocations.zipIdx.mapM (newAllocation opt.floats tenant env) = .ok rows ∧
      answered = answer opt.floats request env result ∧
      (optimize opt projects catalogue s tenant request env).1.toPortfolioTables =
        withRun s.toPortfolioTables (newRun opt.floats tenant request result env) rows := by
  have checked : Checked projects catalogue tenant request := by
    by_contra unchecked
    obtain ⟨e, refused⟩ := optimize_unchecked opt s env unchecked
    rw [refused] at done
    cases done
  refine ⟨checked, ?_⟩
  rw [optimize_of_checked opt s env checked] at done ⊢
  rcases runOptimizer_cases opt (requestedInterventions catalogue tenant request) s tenant request
    env with ⟨e, failed⟩ | ⟨arguments, result, rows, asked, solved, made, wf, ran⟩
  · rw [failed] at done
    cases done
  · rw [ran] at done ⊢
    cases done
    exact ⟨arguments, result, rows, asked, solved, made, rfl, rfl⟩

/-! ## What a request writes -/

/-- The organization has the intervention. -/
def HasIntervention (catalogue : List Intervention) (organizationId id : UUID) : Prop :=
  ∃ i ∈ catalogue, i.id = id ∧ i.organizationId = organizationId

theorem HasIntervention.kept {catalogue catalogue' : List Intervention} {organizationId id : UUID}
    (has : HasIntervention catalogue organizationId id) (more : catalogue ⊆ catalogue') :
    HasIntervention catalogue' organizationId id := by
  obtain ⟨i, stored, same⟩ := has
  exact ⟨i, more stored, same⟩

/-- The tables `optimize` may commit, with what it checked. -/
inductive PortfolioWrites (projects : ProjectTables) (catalogue : List Intervention)
    (s : PortfolioTables) (tenant : TenantContext) : PortfolioTables → Prop where
  | nothing : PortfolioWrites projects catalogue s tenant s
  | planned {run allocations projectId} :
      run.organizationId = tenant.organizationId → run.projectId = some projectId →
      projects.HasProject tenant.organizationId projectId →
      (∀ a ∈ allocations, a.organizationId = tenant.organizationId ∧ a.portfolioRunId = run.id ∧
        projects.HasZone tenant.organizationId projectId a.zoneId ∧
        HasIntervention catalogue tenant.organizationId a.interventionId) →
      PortfolioWrites projects catalogue s tenant (withRun s run allocations)

/-- The optimizer allocates interventions of the request to zones of the request. -/
theorem allocated_of_optimizePortfolio {casefold : String → String}
    {solve : Program Portfolio.Key ℚ → Outcome Portfolio.Key ℚ} {r : Portfolio.Request}
    {result : Portfolio.PortfolioResult}
    (solved : Portfolio.optimizePortfolio casefold solve r = .ok result) :
    ∀ a ∈ result.allocations, (∃ zone ∈ r.zones, zone.zoneId = a.zoneId) ∧
      ∃ spec ∈ r.interventions, spec.interventionId = a.interventionId := by
  obtain ⟨_, x, allocated, _, read, rfl⟩ := Portfolio.optimizePortfolio_ok solved
  intro a member
  obtain ⟨k, inKeys, made⟩ := mem_of_mapM_ok read a member
  have variable_ : k ∈ Portfolio.variableKeys casefold r := List.mem_of_mem_filter inKeys
  have eligible : k ∈ (Portfolio.eligiblePairs casefold r).map Portfolio.key := by
    simpa [Portfolio.variableKeys, Portfolio.distinct] using variable_
  obtain ⟨pair, inPairs, rfl⟩ := List.mem_map.mp eligible
  obtain ⟨inZones, inInterventions⟩ :=
    List.mem_product.mp (List.mem_of_mem_filter inPairs)
  have keyed : a.zoneId = pair.1.zoneId ∧ a.interventionId = pair.2.interventionId := by
    unfold Portfolio.allocation at made
    split at made
    · cases made
    · rename_i spec found
      cases cost : Portfolio.validatedCost spec (Portfolio.truncate (x (Portfolio.key pair))) with
      | error e =>
        rw [cost] at made
        cases made
      | ok value =>
        rw [cost] at made
        cases made
        exact ⟨rfl, rfl⟩
  exact ⟨⟨pair.1, inZones, keyed.1.symm⟩, ⟨pair.2, inInterventions, keyed.2.symm⟩⟩

theorem uuid_toString (id : UUID) : uuid (Uuid.toString id) = .ok id := by
  simp [uuid, Uuid.toString, Uuid.parse_canonical]

theorem interventionSpec_id {floats : Floats} {found : List Intervention}
    {item : InterventionInput} {spec : Portfolio.InterventionSpec}
    (made : interventionSpec floats found item = .ok spec) :
    spec.interventionId = Uuid.toString item.interventionId := by
  unfold interventionSpec at made
  split at made
  · cases made
  · rw [← Except.ok.inj made]

theorem portfolioRequest_ok {floats : Floats} {found : List Intervention}
    {request : OptimizeRequest} {arguments : Portfolio.Request}
    (made : portfolioRequest floats found request = .ok arguments) :
    arguments.zones = request.zones.map zoneDemand ∧
      request.interventions.mapM (interventionSpec floats found) = .ok arguments.interventions ∧
      request.required.mapM pairKey = .ok arguments.required ∧
      request.incompatible.mapM pairKey = .ok arguments.incompatible := by
  obtain ⟨interventions, specs, rest⟩ := bind_ok_iff.mp made
  obtain ⟨required, requiredKeys, rest⟩ := bind_ok_iff.mp rest
  obtain ⟨incompatible, incompatibleKeys, last⟩ := bind_ok_iff.mp rest
  cases last
  exact ⟨rfl, specs, requiredKeys, incompatibleKeys⟩

/-- The optimizer sees the zones and interventions of the request under their texts. -/
theorem portfolioRequest_ids {floats : Floats} {found : List Intervention}
    {request : OptimizeRequest} {arguments : Portfolio.Request}
    (made : portfolioRequest floats found request = .ok arguments) :
    arguments.zones = request.zones.map zoneDemand ∧
      ∀ spec ∈ arguments.interventions, ∃ item ∈ request.interventions,
        spec.interventionId = Uuid.toString item.interventionId := by
  obtain ⟨zones, specs, _⟩ := portfolioRequest_ok made
  refine ⟨zones, fun spec member => ?_⟩
  obtain ⟨item, asked, done⟩ := mem_of_mapM_ok specs spec member
  exact ⟨item, asked, interventionSpec_id done⟩

/-- Both ids of an allocation were written as texts for the optimizer, and are read back as
they were. -/
theorem allocated_ids {floats : Floats} {casefold : String → String}
    {solve : Program Portfolio.Key ℚ → Outcome Portfolio.Key ℚ} {found : List Intervention}
    {request : OptimizeRequest} {arguments : Portfolio.Request}
    {result : Portfolio.PortfolioResult}
    (made : portfolioRequest floats found request = .ok arguments)
    (solved : Portfolio.optimizePortfolio casefold solve arguments = .ok result) :
    ∀ a ∈ result.allocations, ∃ zone ∈ request.zones, ∃ item ∈ request.interventions,
      uuid a.zoneId = .ok zone.zoneId ∧ uuid a.interventionId = .ok item.interventionId := by
  intro a member
  obtain ⟨⟨demand, inZones, zoneText⟩, spec, inSpecs, specText⟩ :=
    allocated_of_optimizePortfolio solved a member
  obtain ⟨zones, specs⟩ := portfolioRequest_ids made
  rw [zones] at inZones
  obtain ⟨zone, asked, rfl⟩ := List.mem_map.mp inZones
  obtain ⟨item, askedItem, itemText⟩ := specs spec inSpecs
  refine ⟨zone, asked, item, askedItem, ?_, ?_⟩
  · rw [← zoneText]
    exact uuid_toString zone.zoneId
  · rw [← specText, itemText]
    exact uuid_toString item.interventionId

theorem newAllocation_ids {floats : Floats} {tenant : TenantContext} {env : OptimizeEnv}
    {a : Portfolio.Allocation × Nat} {row : PortfolioAllocation}
    (made : newAllocation floats tenant env a = .ok row) :
    row.id = env.newIds a.2 ∧ row.organizationId = tenant.organizationId ∧
      row.portfolioRunId = env.newId ∧ uuid a.1.zoneId = .ok row.zoneId ∧
        uuid a.1.interventionId = .ok row.interventionId := by
  obtain ⟨zoneId, zone, rest⟩ := bind_ok_iff.mp made
  obtain ⟨interventionId, intervention, last⟩ := bind_ok_iff.mp rest
  cases last
  exact ⟨rfl, rfl, rfl, zone, intervention⟩

theorem runOptimizer_writes (opt : Optimizer) {projects : ProjectTables}
    {catalogue : List Intervention} (found : List Intervention) (s : PortfolioStore)
    {tenant : TenantContext} {request : OptimizeRequest} (env : OptimizeEnv)
    (project : projects.HasProject tenant.organizationId request.projectId)
    (zones : ∀ zone ∈ request.zones,
      projects.HasZone tenant.organizationId request.projectId zone.zoneId)
    (interventions : ∀ item ∈ request.interventions,
      HasIntervention catalogue tenant.organizationId item.interventionId) :
    PortfolioWrites projects catalogue s.toPortfolioTables tenant
      (runOptimizer opt found s tenant request env).1.toPortfolioTables := by
  rcases runOptimizer_cases opt found s tenant request env with
    ⟨e, failed⟩ | ⟨arguments, result, rows, asked, solved, made, wf, done⟩
  · rw [failed]
    exact .nothing
  rw [done]
  refine .planned rfl rfl project fun row member => ?_
  obtain ⟨a, listed, drawn⟩ := mem_of_mapM_ok made row member
  obtain ⟨_, owner, run, zoneId, interventionId⟩ := newAllocation_ids drawn
  obtain ⟨zone, askedZone, item, askedItem, zoneRead, itemRead⟩ :=
    allocated_ids asked solved a.1 (List.fst_mem_of_mem_zipIdx listed)
  have zoneSame : row.zoneId = zone.zoneId := Except.ok.inj (zoneId.symm.trans zoneRead)
  have itemSame : row.interventionId = item.interventionId :=
    Except.ok.inj (interventionId.symm.trans itemRead)
  exact ⟨owner, run, zoneSame ▸ zones zone askedZone,
    itemSame ▸ interventions item askedItem⟩

theorem optimize_writes (opt : Optimizer) (projects : ProjectTables)
    (catalogue : List Intervention) (s : PortfolioStore) (tenant : TenantContext)
    (request : OptimizeRequest) (env : OptimizeEnv) :
    PortfolioWrites projects catalogue s.toPortfolioTables tenant
      (optimize opt projects catalogue s tenant request env).1.toPortfolioTables := by
  by_cases checked : Checked projects catalogue tenant request
  · rw [optimize_of_checked opt s env checked]
    have project : projects.HasProject tenant.organizationId request.projectId :=
      ProjectTables.hasProject_of_found checked.project rfl
    refine runOptimizer_writes opt _ s env project (fun _ => checked.hasZone)
      fun item asked => ?_
    obtain ⟨i, found, same⟩ := found_of_count
      (fun i found => by simpa using ((Bool.and_eq_true _ _).mp (List.mem_filter.mp found).2).1)
      checked.interventions item.interventionId (List.mem_map_of_mem asked)
    obtain ⟨stored, accepted⟩ := List.mem_filter.mp found
    have scope : i.organizationId = tenant.organizationId ∧ i.active = true := by
      simpa using ((Bool.and_eq_true _ _).mp accepted).2
    exact ⟨i, stored, same, scope.1⟩
  · obtain ⟨e, refused⟩ := optimize_unchecked opt s env checked
    rw [refused]
    exact .nothing

end CoolProof.PortfolioRuns
