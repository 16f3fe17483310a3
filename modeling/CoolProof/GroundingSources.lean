import CoolProof.Grounding

/-! Grounding carries no source text. What it may not use is erased from the tables:
chunk contents, claims, request payloads, and every JSON key outside the allow lists;
grounding reads the same from what is left. -/

namespace CoolProof.Grounding
open Calendar JsonDocument Tables Uuid Models

/-! ## Erasure -/

/-- The listed keys of an object that it has, in the order of the list. -/
def keptKeys (keys : List String) (d : Dict) : Dict :=
  keys.filterMap fun key => (d.get key).map fun x => (key, x.canon)

def allocationKeys : List String :=
  ["zone_id", "intervention_id", "units", "cost", "benefit", "uncertainty"]

def eraseAllocation : Json → Json
  | .obj item => .obj (keptKeys allocationKeys item)
  | item => item.canon

def eraseAllocations : Json → Json
  | .arr items => .arr (items.map eraseAllocation)
  | value => value.canon

def keptAllocations (result : Dict) : Dict :=
  match result.get "allocations" with
  | some value => [("allocations", eraseAllocations value)]
  | none => []

def eraseResultJson : Json → Json
  | .obj result => .obj (keptKeys portfolioFactKeys result ++ keptAllocations result)
  | value => value.canon

def eraseChunk (c : DocumentChunk) : DocumentChunk :=
  { c with text := "", lexicalText := "", embedding := none, metadata := [] }

def eraseEvidence (e : InterventionEvidence) : InterventionEvidence :=
  { e with claim := "", metadata := [] }

def eraseHeat (a : HeatAnalysis) : HeatAnalysis :=
  { a with requestPayload := [], result := a.result.map (keptKeys heatFactKeys) }

def erasePortfolio (r : PortfolioRun) : PortfolioRun :=
  { r with resultJson := eraseResultJson r.resultJson }

/-- The tables without source text and without keys outside the allow lists. -/
def eraseSources (t : GroundingTables) : GroundingTables where
  projects := t.projects
  heatAnalyses := t.heatAnalyses.map eraseHeat
  portfolioRuns := t.portfolioRuns.map erasePortfolio
  interventions := t.interventions
  interventionEvidence := t.interventionEvidence.map eraseEvidence
  documents := t.documents
  documentChunks := t.documentChunks.map eraseChunk

/-! ## Facts read from what is kept -/

theorem get_keptKeys (keys : List String) (d : Dict) (key : String) :
    (keptKeys keys d).get key = if key ∈ keys then (d.get key).map Json.canon else none := by
  induction keys with
  | nil => rfl
  | cons name keys ih =>
    unfold keptKeys at ih ⊢
    rw [List.filterMap_cons]
    by_cases same : key = name
    · subst same
      cases found : d.get key with
      | some x => simp
      | none => simpa [found] using ih
    · cases found : d.get name <;> simpa [same] using ih

/-- A fact is a scalar, which sorting keys leaves alone. -/
theorem safeFact_canon {d e : Dict} {key : String}
    (kept : e.get key = (d.get key).map Json.canon) : safeFact e key = safeFact d key := by
  unfold safeFact
  rw [kept]
  cases d.get key with
  | none => rfl
  | some x => cases x <;> rfl

theorem safeNumericFacts_canon {d e : Dict} {keys : List String}
    (kept : ∀ key ∈ keys, e.get key = (d.get key).map Json.canon) :
    safeNumericFacts (some e) keys = safeNumericFacts (some d) keys := by
  simp only [safeNumericFacts, List.flatMap_def]
  congr 1
  exact List.map_congr_left fun key member => safeFact_canon (kept key member)

theorem get_keptKeys_of_mem {keys : List String} (d : Dict) :
    ∀ key ∈ keys, (keptKeys keys d).get key = (d.get key).map Json.canon := by
  intro key member
  rw [get_keptKeys, if_pos member]

theorem heatSummary_erase (now : Instant) (a : HeatAnalysis) :
    heatSummary now (eraseHeat a) = heatSummary now a := by
  have facts : ∀ result : Option Dict,
      safeNumericFacts (result.map (keptKeys heatFactKeys)) heatFactKeys =
        safeNumericFacts result heatFactKeys := by
    intro result
    cases result with
    | none => rfl
    | some d => exact safeNumericFacts_canon (get_keptKeys_of_mem d)
  unfold heatSummary eraseHeat
  by_cases succeeded : a.status = .succeeded
  · simp only [succeeded, if_true, facts]
  · simp only [succeeded, if_false]

/-! ## Allocations -/

theorem allocationId_canon {d e : Dict} {key : String}
    (kept : e.get key = (d.get key).map Json.canon) : allocationId e key = allocationId d key := by
  unfold allocationId
  rw [kept]
  cases d.get key with
  | none => rfl
  | some x => cases x <;> rfl

theorem allocationNumber_canon {d e : Dict} {key : String}
    (kept : e.get key = (d.get key).map Json.canon) :
    allocationNumber e key = allocationNumber d key := by
  unfold allocationNumber
  rw [kept]
  cases d.get key with
  | none => rfl
  | some x => cases x <;> rfl

theorem safeAllocation_erase (item : Dict) :
    safeAllocation (keptKeys allocationKeys item) = safeAllocation item := by
  have kept : ∀ key ∈ allocationKeys,
      (keptKeys allocationKeys item).get key = (item.get key).map Json.canon :=
    get_keptKeys_of_mem item
  simp only [allocationKeys, List.forall_mem_cons, List.not_mem_nil, false_imp_iff,
    implies_true, and_true] at kept
  obtain ⟨zone, intervention, units, cost, benefit, uncertainty⟩ := kept
  simp only [safeAllocation, allocationKeys, List.flatMap_cons, List.flatMap_nil,
    allocationId_canon zone, allocationId_canon intervention, allocationNumber_canon units,
    allocationNumber_canon cost, allocationNumber_canon benefit,
    allocationNumber_canon uncertainty]

theorem asDict_eraseAllocation (item : Json) :
    (eraseAllocation item).asDict.map safeAllocation = item.asDict.map safeAllocation := by
  cases item with
  | obj fields => exact congrArg some (safeAllocation_erase fields)
  | _ => rfl

/-- The allow list of facts does not name the allocations. -/
theorem get_eraseResult {result : Dict} :
    (∀ key ∈ portfolioFactKeys, (keptKeys portfolioFactKeys result ++ keptAllocations result).get
      key = (result.get key).map Json.canon) ∧
    (keptKeys portfolioFactKeys result ++ keptAllocations result).get "allocations" =
      (result.get "allocations").map eraseAllocations := by
  have outside : "allocations" ∉ portfolioFactKeys := by decide
  have other : ∀ key ∈ portfolioFactKeys, (keptAllocations result).get key = none := by
    intro key member
    have differs : key ≠ "allocations" := fun same => outside (same ▸ member)
    unfold keptAllocations
    split <;> simp [differs]
  constructor
  · intro key member
    rw [Dict.get_append, other key member, Option.or_none, get_keptKeys_of_mem result key member]
  · rw [Dict.get_append, get_keptKeys, if_neg outside, Option.none_or]
    unfold keptAllocations
    cases result.get "allocations" <;> simp

theorem safeAllocations_erase (result : Dict) :
    safeAllocations (keptKeys portfolioFactKeys result ++ keptAllocations result) =
      safeAllocations result := by
  unfold safeAllocations
  rw [get_eraseResult.2]
  cases result.get "allocations" with
  | none => rfl
  | some value =>
    cases value with
    | arr items => simp [eraseAllocations, List.filterMap_map, asDict_eraseAllocation]
    | _ => rfl

theorem portfolioSummary_erase (r : PortfolioRun) :
    portfolioSummary (erasePortfolio r) = portfolioSummary r := by
  unfold portfolioSummary erasePortfolio
  cases r.resultJson with
  | obj result =>
    have facts := safeNumericFacts_canon (d := result) get_eraseResult.1
    simp only [eraseResultJson, Json.asDict, Option.getD_some, facts, safeAllocations_erase]
  | _ => rfl

/-! ## Selections -/

theorem selectHeat_erase (t : GroundingTables) (organizationId : UUID)
    (projectId wanted : Option UUID) :
    selectHeat (eraseSources t) organizationId projectId wanted =
      (selectHeat t organizationId projectId wanted).map eraseHeat :=
  first_map eraseHeat (fun _ => rfl) (fun _ _ => Iff.rfl) t.heatAnalyses

theorem selectPortfolio_erase (t : GroundingTables) (organizationId : UUID)
    (projectId wanted : Option UUID) :
    selectPortfolio (eraseSources t) organizationId projectId wanted =
      (selectPortfolio t organizationId projectId wanted).map erasePortfolio :=
  first_map erasePortfolio (fun _ => rfl) (fun _ _ => Iff.rfl) t.portfolioRuns

theorem resolveRow_erase {ρ : Type} (erase : ρ → ρ) {mismatched : ρ → Bool}
    {summary : ρ → Dict} (same : ∀ r, mismatched (erase r) = mismatched r)
    (read : ∀ r, summary (erase r) = summary r) (wanted : Option UUID)
    (notFound mismatch : String) (row : Option ρ) :
    resolveRow wanted notFound mismatch mismatched summary (row.map erase) =
      resolveRow wanted notFound mismatch mismatched summary row := by
  cases row with
  | none => rfl
  | some r => simp only [resolveRow, Option.map_some, same, read]

theorem resolveHeat_erase (t : GroundingTables) (organizationId : UUID)
    (projectId : Option UUID) (refs : List Json) (now : Instant) :
    resolveHeat (eraseSources t) organizationId projectId refs now =
      resolveHeat t organizationId projectId refs now := by
  have mismatch : ∀ a, heatMismatch projectId (eraseHeat a) = heatMismatch projectId a :=
    fun _ => rfl
  simp only [resolveHeat, selectHeat_erase,
    resolveRow_erase eraseHeat mismatch (heatSummary_erase now)]

theorem resolvePortfolio_erase (t : GroundingTables) (organizationId : UUID)
    (projectId : Option UUID) (refs : List Json) :
    resolvePortfolio (eraseSources t) organizationId projectId refs =
      resolvePortfolio t organizationId projectId refs := by
  have mismatch : ∀ r, portfolioMismatch projectId (erasePortfolio r) =
      portfolioMismatch projectId r := fun _ => rfl
  simp only [resolvePortfolio, selectPortfolio_erase,
    resolveRow_erase erasePortfolio mismatch portfolioSummary_erase]

/-! ## Evidence -/

def eraseRow (row : InterventionEvidence × Document × DocumentChunk) :
    InterventionEvidence × Document × DocumentChunk :=
  (eraseEvidence row.1, row.2.1, eraseChunk row.2.2)

/-- The join compares identifiers, organizations and creation times only. -/
theorem evidenceRows_erase (t : GroundingTables) (organizationId interventionId : UUID) :
    evidenceRows (eraseSources t) organizationId interventionId =
      (evidenceRows t organizationId interventionId).map eraseRow := by
  have evidence : ((t.interventionEvidence.map eraseEvidence).filter fun e =>
        e.organizationId = organizationId && e.interventionId = interventionId) =
      (t.interventionEvidence.filter fun e =>
        e.organizationId = organizationId && e.interventionId = interventionId).map
          eraseEvidence := List.filter_map
  have chunks : ∀ id, ((t.documentChunks.map eraseChunk).filter fun c =>
        c.organizationId = organizationId && c.id = id) =
      (t.documentChunks.filter fun c =>
        c.organizationId = organizationId && c.id = id).map eraseChunk := fun _ => List.filter_map
  have sorted : ∀ rows : List InterventionEvidence,
      (rows.map eraseEvidence).insertionSort (ascending InterventionEvidence.createdAt) =
        (rows.insertionSort (ascending InterventionEvidence.createdAt)).map eraseEvidence :=
    fun rows => (List.map_insertionSort _ _ eraseEvidence rows fun _ _ _ _ => Iff.rfl).symm
  unfold evidenceRows eraseSources
  simp only [evidence, chunks, sorted, List.flatMap_map, List.map_flatMap, List.map_map]
  rfl

theorem citationRow_erase (row : InterventionEvidence × Document × DocumentChunk) :
    citationRow (eraseRow row) = citationRow row := rfl

theorem resolveInterventions_erase (collate : String → String → Bool) (t : GroundingTables)
    (organizationId : UUID) (refs : List Json) :
    resolveInterventions collate (eraseSources t) organizationId refs =
      resolveInterventions collate t organizationId refs := by
  have summary : interventionSummary (eraseSources t) organizationId =
      interventionSummary t organizationId := by
    funext i
    simp only [interventionSummary, evidenceRows_erase, List.map_map, Function.comp_def,
      citationRow_erase]
  have selected : ∀ ids, selectInterventions collate (eraseSources t) organizationId ids =
      selectInterventions collate t organizationId ids := fun _ => rfl
  simp only [resolveInterventions, selected, summary]

/-- Grounding is a function of what erasure leaves. -/
theorem resolveGrounding_erase (collate : String → String → Bool) (t : GroundingTables)
    (organizationId : UUID) (projectId : Option UUID) (inputData : Dict) (now : Instant) :
    resolveGrounding collate (eraseSources t) organizationId projectId inputData now =
      resolveGrounding collate t organizationId projectId inputData now := by
  have project : resolveProject (eraseSources t) organizationId projectId =
      resolveProject t organizationId projectId := rfl
  simp only [resolveGrounding, project, resolveHeat_erase, resolvePortfolio_erase,
    resolveInterventions_erase]

/-- Two databases that differ only in source text and in keys outside the allow lists
ground every run alike. -/
theorem grounding_ignores_sources (collate : String → String → Bool) (s t : GroundingTables)
    (organizationId : UUID) (projectId : Option UUID) (inputData : Dict) (now : Instant)
    (agree : eraseSources s = eraseSources t) :
    resolveGrounding collate s organizationId projectId inputData now =
      resolveGrounding collate t organizationId projectId inputData now := by
  rw [← resolveGrounding_erase collate s, ← resolveGrounding_erase collate t, agree]

/-- A portfolio run whose stored result carries a note of the solver. -/
def notedPortfolio (note : String) : PortfolioRun where
  id := 5
  organizationId := 1
  projectId := none
  budget := .one
  resultJson := .obj [("note", .str note), ("status", .str "completed"),
    ("allocations", .arr [.obj [("zone_id", .str "z"), ("memo", .str note)]])]
  createdAt := 0

/-- Notes outside the allow lists reach no grounding. -/
theorem grounding_ignores_sources_note :
    resolveGrounding (fun _ _ => true)
        ⟨[], [], [notedPortfolio "Zone 4 is a private address"], [], [], [], []⟩ 1 none [] 0 =
      resolveGrounding (fun _ _ => true) ⟨[], [], [notedPortfolio ""], [], [], [], []⟩ 1 none []
        0 :=
  grounding_ignores_sources _ _ _ 1 none [] 0 rfl

end CoolProof.Grounding
