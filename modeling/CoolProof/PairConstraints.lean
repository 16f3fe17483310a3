import CoolProof.PortfolioRuns

/-! The pairs that a request requires or rules out, from their texts to the response. They
are compared as texts with the keys of the eligible pairs: an entry that is such a key is
honoured, and any other asks for nothing. -/

namespace CoolProof.PortfolioRuns
open BinaryProgram JsonDocument Loops Uuid Models Tables Documents Projects

/-! ## Pairs of ids -/

/-- An entry of `required` or `incompatible`, read as UUIDs. -/
def entryIds (entry : List (String × String)) : Option (UUID × UUID) := do
  let zoneId ← entry.lookup "zone_id"
  let interventionId ← entry.lookup "intervention_id"
  let zone ← Uuid.parse zoneId.toList
  let intervention ← Uuid.parse interventionId.toList
  some (zone, intervention)

/-- The optimizer's key for a pair of ids. -/
def idsKey (ids : UUID × UUID) : Portfolio.Key := (Uuid.toString ids.1, Uuid.toString ids.2)

/-- The allocations in a response. -/
def returned (response : Dict) : List Json :=
  match response.lookup "allocations" with
  | some (.arr items) => items
  | _ => []

/-- The response allocates the intervention to the zone. -/
def Allocates (response : Dict) (ids : UUID × UUID) : Prop :=
  ∃ fields, Json.obj fields ∈ returned response ∧
    fields.lookup "zone_id" = some (.str (Uuid.toString ids.1)) ∧
    fields.lookup "intervention_id" = some (.str (Uuid.toString ids.2))

/-- The response has every required pair and no incompatible one. -/
structure Honours (request : OptimizeRequest) (response : Dict) : Prop where
  required : ∀ entry ∈ request.required, ∃ ids, entryIds entry = some ids ∧ Allocates response ids
  incompatible : ∀ entry ∈ request.incompatible, ∀ ids, entryIds entry = some ids →
    ¬Allocates response ids

/-- The pair is of a zone and an intervention of the request, and the intervention's row is
eligible for the zone. -/
def Eligible (casefold : String → String) (found : List Intervention) (request : OptimizeRequest)
    (ids : UUID × UUID) : Prop :=
  ∃ zone ∈ request.zones, ∃ item ∈ request.interventions, (zone.zoneId, item.interventionId) = ids ∧
    ∃ row, find Intervention.id item.interventionId found.reverse = some row ∧
      (row.eligibleLandUses.map casefold).contains (casefold zone.landUse) = true

/-- Every required entry is, letter for letter, the key of an eligible pair, and so is every
incompatible entry that means one. -/
structure Spelled (casefold : String → String) (found : List Intervention)
    (request : OptimizeRequest) : Prop where
  required : ∀ entry ∈ request.required, ∃ ids, Eligible casefold found request ids ∧
    pairKey entry = .ok (idsKey ids)
  incompatible : ∀ entry ∈ request.incompatible, ∀ ids, entryIds entry = some ids →
    Eligible casefold found request ids → pairKey entry = .ok (idsKey ids)

/-- The plan has the pair with these ids. -/
def Places {casefold : String → String} {arguments : Portfolio.Request}
    (plan : Portfolio.Plan casefold arguments) (ids : UUID × UUID) : Prop :=
  ∃ pair ∈ plan.pairs, Portfolio.key pair = idsKey ids

/-! ## Requests that are answered -/

/-- The ids drawn for a run with `n` allocations are new. -/
structure FreshIds (s : PortfolioTables) (env : OptimizeEnv) (n : Nat) : Prop where
  run : env.newId ∉ s.runs.map PortfolioRun.id
  allocations : (s.allocations.map PortfolioAllocation.id ++
    (List.range n).map env.newIds).Nodup

section Answers

variable {opt : Optimizer} {projects : ProjectTables} {catalogue : List Intervention}
  {s : PortfolioStore} {tenant : TenantContext} {request : OptimizeRequest} {env : OptimizeEnv}

/-- Ids that differ give texts that differ. -/
theorem uniqueIds_of_checked {floats : Floats} {found : List Intervention}
    {arguments : Portfolio.Request} (checked : Checked projects catalogue tenant request)
    (made : portfolioRequest floats found request = .ok arguments) :
    Portfolio.UniqueIds arguments := by
  obtain ⟨zones, specs, _⟩ := portfolioRequest_ok made
  have zoneTexts : arguments.zones.map Portfolio.ZoneDemand.zoneId =
      (request.zones.map ZoneInput.zoneId).map Uuid.toString := by
    rw [zones, List.map_map, List.map_map]
    rfl
  have specTexts : arguments.interventions.map Portfolio.InterventionSpec.interventionId =
      (request.interventions.map InterventionInput.interventionId).map Uuid.toString := by
    rw [List.map_map]
    exact map_of_mapM_ok (fun _ _ _ done => interventionSpec_id done) specs
  refine ⟨?_, ?_⟩
  · rw [zoneTexts]
    exact checked.zonesOnce.map Uuid.toString_injective
  · rw [specTexts]
    exact checked.interventionsOnce.map Uuid.toString_injective

/-- The new rows fit the tables exactly when their ids are new. -/
theorem withRun_constraints_iff {run : PortfolioRun} {rows : List PortfolioAllocation} {n : Nat}
    (runId : run.id = env.newId) (owned : ∀ row ∈ rows, row.portfolioRunId = run.id)
    (ids : rows.map PortfolioAllocation.id = (List.range n).map env.newIds) :
    (withRun s.toPortfolioTables run rows).Constraints ↔ FreshIds s.toPortfolioTables env n := by
  have runIds : ((s.runs ++ [run]).map PortfolioRun.id).Nodup ↔
      env.newId ∉ s.runs.map PortfolioRun.id := by
    rw [List.map_append, List.map_singleton, runId, List.nodup_append_comm, List.singleton_append,
      List.nodup_cons]
    exact and_iff_left s.wf.runId
  have rowIds : (s.allocations ++ rows).map PortfolioAllocation.id =
      s.allocations.map PortfolioAllocation.id ++ (List.range n).map env.newIds := by
    rw [List.map_append, ids]
  constructor
  · intro wf
    exact ⟨runIds.mp wf.runId, rowIds ▸ wf.allocationId⟩
  · intro fresh
    refine ⟨runIds.mpr fresh.run, ?_, fun row member => ?_⟩
    · change ((s.allocations ++ rows).map PortfolioAllocation.id).Nodup
      rw [rowIds]
      exact fresh.allocations
    · change row.portfolioRunId ∈ (s.runs ++ [run]).map PortfolioRun.id
      rw [List.map_append, List.mem_append]
      rcases List.mem_append.mp member with old | new
      · exact .inl (s.wf.allocationRun row old)
      · exact .inr (by simp [owned row new])

/-- The rows of the allocations take the ids drawn for them, in order. -/
theorem drawn_rows {floats : Floats} {allocations : List Portfolio.Allocation}
    {rows : List PortfolioAllocation}
    (drawn : allocations.zipIdx.mapM (newAllocation floats tenant env) = .ok rows) :
    rows.map PortfolioAllocation.id = (List.range allocations.length).map env.newIds ∧
      ∀ row ∈ rows, row.portfolioRunId = env.newId := by
  constructor
  · rw [List.range_eq_range', ← List.zipIdx_map_snd, List.map_map]
    exact map_of_mapM_ok (fun _ _ _ made => (newAllocation_ids made).1) drawn
  · intro row member
    obtain ⟨_, _, made⟩ := mem_of_mapM_ok drawn row member
    exact (newAllocation_ids made).2.2.1

/-- Every allocation of the optimizer is written: its texts are those of two UUIDs. -/
theorem rows_drawn (tenant : TenantContext) (env : OptimizeEnv) {floats : Floats}
    {casefold : String → String}
    {solve : Program Portfolio.Key ℚ → Outcome Portfolio.Key ℚ} {found : List Intervention}
    {arguments : Portfolio.Request} {result : Portfolio.PortfolioResult}
    (made : portfolioRequest floats found request = .ok arguments)
    (solved : Portfolio.optimizePortfolio casefold solve arguments = .ok result) :
    ∃ rows, result.allocations.zipIdx.mapM (newAllocation floats tenant env) = .ok rows := by
  refine mapM_ok_of_turns fun a listed => ?_
  obtain ⟨zone, _, item, _, zoneRead, itemRead⟩ :=
    allocated_ids made solved a.1 (List.fst_mem_of_mem_zipIdx listed)
  rw [newAllocation, zoneRead, itemRead]
  exact ⟨_, rfl⟩

end Answers

/-! ## The response and the plan -/

section Plans

variable {casefold : String → String} {arguments : Portfolio.Request}

theorem allocates_answer {floats : Floats} {request : OptimizeRequest} {env : OptimizeEnv}
    {plan : Portfolio.Plan casefold arguments} {result : Portfolio.PortfolioResult}
    (reports : Portfolio.Reports plan result) (ids : UUID × UUID) :
    Allocates (answer floats request env result) ids ↔ Places plan ids := by
  have listed : returned (answer floats request env result) =
      result.allocations.map (allocationJson floats) := by
    simp [returned, answer, responseJson, List.lookup_cons]
  have allocated := reports.allocated (Uuid.toString ids.1) (Uuid.toString ids.2)
  have keyed : Places plan ids ↔ ∃ pair ∈ plan.pairs,
      pair.1.zoneId = Uuid.toString ids.1 ∧ pair.2.interventionId = Uuid.toString ids.2 := by
    simp only [Places, Portfolio.key, idsKey, Prod.mk.injEq]
  rw [keyed, ← allocated, Allocates, listed]
  constructor
  · rintro ⟨fields, member, zone, intervention⟩
    obtain ⟨a, inResult, same⟩ := List.mem_map.mp member
    cases same
    refine ⟨a, inResult, ?_, ?_⟩
    · simpa [List.lookup_cons] using zone
    · simpa [List.lookup_cons] using intervention
  · rintro ⟨a, inResult, zone, intervention⟩
    refine ⟨_, List.mem_map_of_mem inResult, ?_, ?_⟩
    · simp [zone]
    · simp [List.lookup_cons, intervention]

/-- A reported plan has one allocation for each pair. -/
theorem length_of_reports (unique : Portfolio.UniqueIds arguments)
    {plan : Portfolio.Plan casefold arguments} {result : Portfolio.PortfolioResult}
    (reports : Portfolio.Reports plan result) :
    result.allocations.length = plan.pairs.card := by
  have eligible : ∀ pair ∈ plan.pairs, pair ∈ Portfolio.eligiblePairs casefold arguments :=
    fun pair member => Portfolio.mem_eligiblePairs.mpr (plan.admissible.eligible pair member)
  have injective : Set.InjOn Portfolio.key (plan.pairs : Set Portfolio.Pair) :=
    fun a ha b hb same => unique.key_inj (eligible a ha) (eligible b hb) same
  have keys : (result.allocations.map fun a => (a.zoneId, a.interventionId)).toFinset =
      plan.pairs.image Portfolio.key := by
    ext ⟨zoneId, interventionId⟩
    have allocated := reports.allocated zoneId interventionId
    simpa [Portfolio.key] using allocated
  rw [← Finset.card_image_of_injOn injective, ← keys, List.toFinset_card_of_nodup reports.once,
    List.length_map]

end Plans

/-! ## Pairs honoured -/

/-- A best plan of the program that `optimize` is able to return. -/
structure Answerable {casefold : String → String} {arguments : Portfolio.Request}
    (s : PortfolioTables) (env : OptimizeEnv) (plan : Portfolio.Plan casefold arguments) :
    Prop where
  valid : Portfolio.ValidArguments arguments
  best : plan.Best
  priced : plan.Priced
  fresh : FreshIds s env plan.pairs.card

section Honoured

variable {floats : Floats} {casefold : String → String} {projects : ProjectTables}
  {catalogue : List Intervention} {s : PortfolioStore} {tenant : TenantContext}
  {request : OptimizeRequest} {env : OptimizeEnv} {arguments : Portfolio.Request}

/-- With an exact solver, what `optimize` answers is an answerable plan. -/
theorem plan_of_answer {solve : Program Portfolio.Key ℚ → Outcome Portfolio.Key ℚ}
    (exact : Exact solve) {response : Dict}
    (answered : (optimize ⟨floats, casefold, solve⟩ projects catalogue s tenant request env).2 =
      .ok response) :
    Checked projects catalogue tenant request ∧ ∃ arguments,
      portfolioRequest floats (requestedInterventions catalogue tenant request) request =
        .ok arguments ∧
      ∃ plan : Portfolio.Plan casefold arguments, Answerable s.toPortfolioTables env plan ∧
        ∀ ids, Allocates response ids ↔ Places plan ids := by
  obtain ⟨checked, arguments, result, rows, made, solved, drawn, rfl, stored⟩ :=
    optimize_ok answered
  have unique := uniqueIds_of_checked checked made
  obtain ⟨valid, _⟩ := Portfolio.optimizePortfolio_ok solved
  obtain ⟨plan, best, priced, reports⟩ := Portfolio.reports_best unique exact solved
  obtain ⟨ids, owned⟩ := drawn_rows drawn
  rw [length_of_reports unique reports] at ids
  have wf := (optimize ⟨floats, casefold, solve⟩ projects catalogue s tenant request env).1.wf
  rw [stored] at wf
  exact ⟨checked, arguments, made, plan,
    ⟨valid, best, priced, (withRun_constraints_iff rfl owned ids).mp wf⟩, allocates_answer reports⟩

/-- Every answerable plan is answered with some exact solver. -/
theorem answer_of_plan (checked : Checked projects catalogue tenant request)
    (made : portfolioRequest floats (requestedInterventions catalogue tenant request) request =
      .ok arguments)
    {plan : Portfolio.Plan casefold arguments}
    (answerable : Answerable s.toPortfolioTables env plan) :
    ∃ solve, Exact solve ∧ ∃ response,
      (optimize ⟨floats, casefold, solve⟩ projects catalogue s tenant request env).2 =
        .ok response ∧ ∀ ids, Allocates response ids ↔ Places plan ids := by
  have unique := uniqueIds_of_checked checked made
  obtain ⟨solve, exact, result, solved, reports⟩ :=
    Portfolio.answers_best unique answerable.valid plan answerable.best answerable.priced
  obtain ⟨rows, drawn⟩ := rows_drawn tenant env made solved
  obtain ⟨ids, owned⟩ := drawn_rows drawn
  rw [length_of_reports unique reports] at ids
  have wf : (withRun s.toPortfolioTables (newRun floats tenant request result env)
      rows).Constraints := (withRun_constraints_iff rfl owned ids).mpr answerable.fresh
  refine ⟨solve, exact, answer floats request env result, ?_, allocates_answer reports⟩
  rw [optimize_of_checked _ s env checked, runOptimizer, made]
  simp only [solved, drawn, PortfolioStore.save, dif_pos wf]
  rfl

theorem idsKey_injective {ids ids' : UUID × UUID} (same : idsKey ids = idsKey ids') :
    ids = ids' := by
  simp only [idsKey, Prod.mk.injEq] at same
  exact Prod.ext (Uuid.toString_injective same.1) (Uuid.toString_injective same.2)

/-- An entry in the optimizer's spelling reads as its ids. -/
theorem entryIds_of_key {entry : List (String × String)} {ids : UUID × UUID}
    (written : pairKey entry = .ok (idsKey ids)) : entryIds entry = some ids := by
  unfold pairKey at written
  split at written
  · rename_i zoneId interventionId zoneEntry interventionEntry
    have same := Except.ok.inj written
    rw [idsKey, Prod.mk.injEq] at same
    rw [same.1] at zoneEntry
    rw [same.2] at interventionEntry
    simp [entryIds, zoneEntry, interventionEntry, Uuid.toString, Uuid.parse_canonical]
  · cases written

/-- A pair of ids is eligible when the optimizer has a variable for it. -/
theorem eligible_iff {found : List Intervention}
    (made : portfolioRequest floats found request = .ok arguments) {ids : UUID × UUID} :
    Eligible casefold found request ids ↔
      ∃ pair ∈ Portfolio.eligiblePairs casefold arguments, Portfolio.key pair = idsKey ids := by
  obtain ⟨zones, specs, _⟩ := portfolioRequest_ok made
  constructor
  · rintro ⟨zone, asked, item, listed, rfl, row, stored, eligible⟩
    obtain ⟨spec, inSpecs, read⟩ := turn_of_mapM_ok specs item listed
    have itemText := interventionSpec_id read
    rw [interventionSpec, stored] at read
    have uses : spec.eligibleLandUses = row.eligibleLandUses := by rw [← Except.ok.inj read]
    refine ⟨(zoneDemand zone, spec), Portfolio.mem_eligiblePairs.mpr
      ⟨zones ▸ List.mem_map_of_mem asked, inSpecs, ?_⟩, ?_⟩
    · rw [Portfolio.isEligible, uses]
      exact eligible
    · rw [Portfolio.key, itemText]
      rfl
  · rintro ⟨pair, inPairs, keyed⟩
    obtain ⟨inZones, inSpecs, eligible⟩ := Portfolio.mem_eligiblePairs.mp inPairs
    rw [zones] at inZones
    obtain ⟨zone, asked, same⟩ := List.mem_map.mp inZones
    obtain ⟨item, listed, read⟩ := mem_of_mapM_ok specs pair.2 inSpecs
    have itemText := interventionSpec_id read
    unfold interventionSpec at read
    split at read
    · cases read
    · rename_i row stored
      rw [← same, ← Except.ok.inj read] at eligible
      refine ⟨zone, asked, item, listed, idsKey_injective ?_, row, stored, eligible⟩
      rw [← keyed, Portfolio.key, ← same, itemText]
      rfl

/-- A plan has the required pairs that are eligible and spelled as the optimizer does. -/
theorem placed_of_spelled {found : List Intervention}
    (made : portfolioRequest floats found request = .ok arguments)
    (plan : Portfolio.Plan casefold arguments) {entry : List (String × String)}
    (required : entry ∈ request.required) {ids : UUID × UUID}
    (eligible : Eligible casefold found request ids)
    (written : pairKey entry = .ok (idsKey ids)) : Places plan ids := by
  obtain ⟨pair, inPairs, keyed⟩ := (eligible_iff made).mp eligible
  obtain ⟨_, _, requiredKeys, _⟩ := portfolioRequest_ok made
  obtain ⟨k, inRequired, same⟩ := turn_of_mapM_ok requiredKeys entry required
  have listedKey : k = idsKey ids := Except.ok.inj (same.symm.trans written)
  obtain ⟨inZones, inSpecs, allowed⟩ := Portfolio.mem_eligiblePairs.mp inPairs
  refine ⟨pair, plan.admissible.required _ inZones _ inSpecs allowed ?_, keyed⟩
  change Portfolio.key pair ∈ arguments.required
  rwa [keyed, ← listedKey]

/-- A plan has no incompatible pair that is spelled as the optimizer does. -/
theorem not_placed_of_spelled {found : List Intervention}
    (made : portfolioRequest floats found request = .ok arguments)
    (plan : Portfolio.Plan casefold arguments) {entry : List (String × String)}
    (incompatible : entry ∈ request.incompatible) {ids : UUID × UUID}
    (written : pairKey entry = .ok (idsKey ids)) : ¬Places plan ids := by
  rintro ⟨placed, inPlan, keyed⟩
  obtain ⟨_, _, _, incompatibleKeys⟩ := portfolioRequest_ok made
  obtain ⟨k, inIncompatible, same⟩ := turn_of_mapM_ok incompatibleKeys entry incompatible
  have listedKey : k = idsKey ids := Except.ok.inj (same.symm.trans written)
  refine plan.admissible.compatible placed inPlan ?_
  change Portfolio.key placed ∈ arguments.incompatible
  rwa [keyed, ← listedKey]

/-- What a plan places is eligible. -/
theorem eligible_of_placed {found : List Intervention}
    (made : portfolioRequest floats found request = .ok arguments)
    {plan : Portfolio.Plan casefold arguments} {ids : UUID × UUID} (placed : Places plan ids) :
    Eligible casefold found request ids := by
  obtain ⟨pair, inPlan, keyed⟩ := placed
  exact (eligible_iff made).mpr
    ⟨pair, Portfolio.mem_eligiblePairs.mpr (plan.admissible.eligible pair inPlan), keyed⟩

end Honoured

/-- An answer honours the pairs of a request that spells them as the optimizer does, and no
answer honours a request that requires a pair which is not eligible. -/
theorem pairs_honoured {opt : Optimizer} (exact : Exact opt.solve) {projects : ProjectTables}
    {catalogue : List Intervention} {s : PortfolioStore} {tenant : TenantContext}
    {request : OptimizeRequest} {env : OptimizeEnv} {response : Dict}
    (answered : (optimize opt projects catalogue s tenant request env).2 = .ok response) :
    (Spelled opt.casefold (requestedInterventions catalogue tenant request) request →
      Honours request response) ∧
    (Honours request response → ∀ entry ∈ request.required, ∃ ids, entryIds entry = some ids ∧
      Eligible opt.casefold (requestedInterventions catalogue tenant request) request ids) := by
  obtain ⟨_, arguments, made, plan, _, allocates⟩ := plan_of_answer exact answered
  constructor
  · intro spelled
    refine ⟨fun entry asked => ?_, fun entry ruledOut ids read allocated => ?_⟩
    · obtain ⟨ids, eligible, written⟩ := spelled.required entry asked
      exact ⟨ids, entryIds_of_key written,
        (allocates ids).mpr (placed_of_spelled made plan asked eligible written)⟩
    · have placed := (allocates ids).mp allocated
      have written := spelled.incompatible entry ruledOut ids read (eligible_of_placed made placed)
      exact not_placed_of_spelled made plan ruledOut written placed
  · intro honours entry asked
    obtain ⟨ids, read, allocated⟩ := honours.required entry asked
    exact ⟨ids, read, eligible_of_placed made ((allocates ids).mp allocated)⟩

/-! ## A cool roof for a park -/

def amount (text : String) (wf : Binary64.isShown text.toList = true) : FloatLiteral :=
  ⟨text.toList, wf⟩

def zeroAmount : FloatLiteral := amount "0.0" (by decide +kernel)

def cost20 : FloatLiteral := amount "20.0" (by decide +kernel)

def cost30 : FloatLiteral := amount "30.0" (by decide +kernel)

def parkFloats : Floats where
  value x := if x = cost30 then 30 else if x = zeroAmount then 0 else 20
  literal q := if q = 0 then zeroAmount else cost30

def riverside : ProjectTables where
  projects := [⟨4, 1, "Riverside", none⟩]
  zones := [⟨7, 1, 4, "Park", []⟩]
  audits := []

/-- A roof for schools. -/
def schoolRoof : Intervention :=
  ⟨9, 1, "Cool roof", "roof", cost30, cost20, ["school"],
    none, true⟩

/-- The roof is required for the park, in the very texts that the optimizer uses. -/
def parkRequest : OptimizeRequest where
  projectId := 4
  budget := cost30
  zones := [⟨7, "park", false, false, zeroAmount, 1⟩]
  interventions := [⟨9, cost30, cost20, ["school"], zeroAmount⟩]
  minEquityUnits := 0
  minSchoolUnits := 0
  uncertaintyPenalty := zeroAmount
  required := [[("zone_id", Uuid.toString 7), ("intervention_id", Uuid.toString 9)]]
  incompatible := []

def parkArguments : Portfolio.Request where
  zones := [⟨Uuid.toString 7, "park", false, false, 1⟩]
  interventions := [⟨Uuid.toString 9, 30, 20, ["school"], 0⟩]
  budget := 30
  minEquityUnits := 0
  minSchoolUnits := 0
  uncertaintyPenalty := 0
  required := [(Uuid.toString 7, Uuid.toString 9)]
  incompatible := []

theorem parkRequest_checked :
    Checked riverside [schoolRoof] ⟨1, 2, .analyst⟩ parkRequest := by
  constructor <;> decide

theorem parkArguments_made : portfolioRequest parkFloats
    (requestedInterventions [schoolRoof] ⟨1, 2, .analyst⟩ parkRequest) parkRequest =
      .ok parkArguments := by
  have found : requestedInterventions [schoolRoof] ⟨1, 2, .analyst⟩ parkRequest = [schoolRoof] := by
    decide
  rw [found]
  rfl

theorem parkArguments_pairs : Portfolio.eligiblePairs id parkArguments = [] := by
  simp [Portfolio.eligiblePairs, parkArguments, Portfolio.isEligible]

/-- The plan of doing nothing. -/
def doNothing : Portfolio.Plan id parkArguments where
  pairs := ∅
  admissible := by
    refine ⟨by simp, by simp [parkArguments], by simp [parkArguments], by simp [parkArguments],
      by simp, fun zone inZones spec inSpecs eligible => ?_, by simp⟩
    have member : (zone, spec) ∈ Portfolio.eligiblePairs id parkArguments :=
      Portfolio.mem_eligiblePairs.mpr ⟨inZones, inSpecs, eligible⟩
    rw [parkArguments_pairs] at member
    cases member

/-- The request is answered without the roof that it requires. -/
theorem required_roof_missing : ∃ solve, Exact solve ∧ ∃ response,
    (optimize ⟨parkFloats, id, solve⟩ riverside [schoolRoof] .empty ⟨1, 2, .analyst⟩ parkRequest
      ⟨5, fun n => n, 0⟩).2 = .ok response ∧ ¬Honours parkRequest response := by
  have answerable : Answerable PortfolioStore.empty.toPortfolioTables ⟨5, fun n => n, 0⟩
      doNothing := by
    refine ⟨by constructor <;> decide, fun other => ?_, by simp [Portfolio.Plan.Priced, doNothing],
      ⟨by simp [PortfolioStore.empty], by simp [PortfolioStore.empty, doNothing]⟩⟩
    have none : other.pairs = ∅ := by
      refine Finset.eq_empty_of_forall_notMem fun pair member => ?_
      have eligible := Portfolio.mem_eligiblePairs.mpr (other.admissible.eligible pair member)
      rw [parkArguments_pairs] at eligible
      cases eligible
    simp [Portfolio.Plan.benefit, none, doNothing]
  obtain ⟨solve, exact, response, answered, allocates⟩ :=
    answer_of_plan parkRequest_checked parkArguments_made answerable
  refine ⟨solve, exact, response, answered, fun honours => ?_⟩
  obtain ⟨ids, _, allocated⟩ := honours.required _ List.mem_cons_self
  obtain ⟨pair, inPlan, _⟩ := (allocates ids).mp allocated
  exact Finset.notMem_empty pair inPlan

/-! ## A roof and trees for a school -/

def shadeTrees : Intervention :=
  ⟨10, 1, "Shade trees", "trees", cost20, cost20, ["school"], none, true⟩

/-- The roof is required for the school, and the trees are ruled out. -/
def schoolyardRequest : OptimizeRequest :=
  { parkRequest with
    zones := [⟨7, "school", false, false, zeroAmount, 1⟩]
    interventions := [⟨9, cost30, cost20, ["school"], zeroAmount⟩,
      ⟨10, cost20, cost20, ["school"], zeroAmount⟩]
    incompatible := [[("zone_id", Uuid.toString 7), ("intervention_id", Uuid.toString 10)]] }

def schoolyard : Portfolio.ZoneDemand := ⟨Uuid.toString 7, "school", false, false, 1⟩

def roofSpec : Portfolio.InterventionSpec := ⟨Uuid.toString 9, 30, 20, ["school"], 0⟩

def treesSpec : Portfolio.InterventionSpec := ⟨Uuid.toString 10, 20, 20, ["school"], 0⟩

def schoolyardArguments : Portfolio.Request :=
  { parkArguments with
    zones := [schoolyard]
    interventions := [roofSpec, treesSpec]
    incompatible := [(Uuid.toString 7, Uuid.toString 10)] }

theorem schoolyardRequest_checked :
    Checked riverside [schoolRoof, shadeTrees] ⟨1, 2, .analyst⟩ schoolyardRequest := by
  constructor <;> decide

theorem schoolyardRequest_found : requestedInterventions [schoolRoof, shadeTrees]
    ⟨1, 2, .analyst⟩ schoolyardRequest = [schoolRoof, shadeTrees] := by decide

theorem schoolyardArguments_made : portfolioRequest parkFloats
    (requestedInterventions [schoolRoof, shadeTrees] ⟨1, 2, .analyst⟩ schoolyardRequest)
    schoolyardRequest = .ok schoolyardArguments := by
  rw [schoolyardRequest_found]
  rfl

def roofOnly : Portfolio.Plan id schoolyardArguments where
  pairs := {(schoolyard, roofSpec)}
  admissible := by constructor <;> decide +kernel

theorem roofOnly_unique (other : Portfolio.Plan id schoolyardArguments) :
    other.pairs = roofOnly.pairs := by
  have required : (schoolyard, roofSpec) ∈ other.pairs :=
    other.admissible.required _ (by simp [schoolyardArguments]) _ (by simp [schoolyardArguments])
      (by decide) (by decide +kernel)
  have ruledOut : (schoolyard, treesSpec) ∉ other.pairs := fun placed =>
    other.admissible.compatible _ placed (by simp [schoolyardArguments, schoolyard, treesSpec])
  ext ⟨zone, spec⟩
  constructor
  · intro placed
    obtain ⟨inZones, inSpecs, _⟩ := other.admissible.eligible _ placed
    simp only [schoolyardArguments, List.mem_cons, List.not_mem_nil, or_false] at inZones inSpecs
    rcases inSpecs with roof | trees
    · simp [roofOnly, inZones, roof]
    · exact absurd (inZones ▸ trees ▸ placed) ruledOut
  · intro placed
    rwa [Finset.mem_singleton.mp placed]

theorem schoolyardRequest_spelled : Spelled id
    (requestedInterventions [schoolRoof, shadeTrees] ⟨1, 2, .analyst⟩ schoolyardRequest)
    schoolyardRequest := by
  rw [schoolyardRequest_found]
  refine ⟨fun entry asked => ?_, fun entry ruledOut ids read _ => ?_⟩
  · cases List.mem_singleton.mp asked
    exact ⟨(7, 9), ⟨_, List.mem_cons_self, _, List.mem_cons_self, rfl, schoolRoof, by decide,
      by decide⟩, rfl⟩
  · cases List.mem_singleton.mp ruledOut
    have written : pairKey [("zone_id", Uuid.toString 7), ("intervention_id", Uuid.toString 10)] =
        .ok (idsKey (7, 10)) := rfl
    have same := Option.some.inj (read.symm.trans (entryIds_of_key written))
    rw [same, written]

/-- The request is answered with the roof and without the trees. -/
theorem pairs_honoured_schoolyard : ∃ solve, Exact solve ∧ ∃ response,
    (optimize ⟨parkFloats, id, solve⟩ riverside [schoolRoof, shadeTrees] .empty ⟨1, 2, .analyst⟩
      schoolyardRequest ⟨5, fun n => n, 0⟩).2 = .ok response ∧
      Honours schoolyardRequest response := by
  have answerable : Answerable PortfolioStore.empty.toPortfolioTables ⟨5, fun n => n, 0⟩
      roofOnly := by
    refine ⟨by constructor <;> decide, fun other => ?_, ?_,
      ⟨by simp [PortfolioStore.empty], by simp [PortfolioStore.empty, roofOnly]⟩⟩
    · rw [Portfolio.Plan.benefit, roofOnly_unique other]
      exact le_rfl
    · intro pair placed
      rw [Finset.mem_singleton.mp placed]
      exact ⟨by decide +kernel, by decide +kernel⟩
  obtain ⟨solve, exact, response, answered, _⟩ :=
    answer_of_plan schoolyardRequest_checked schoolyardArguments_made answerable
  exact ⟨solve, exact, response, answered,
    (@pairs_honoured ⟨parkFloats, id, solve⟩ exact _ _ _ _ _ _ _ answered).1
      schoolyardRequest_spelled⟩

end CoolProof.PortfolioRuns
