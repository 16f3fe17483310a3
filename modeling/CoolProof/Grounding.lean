import CoolProof.Library.JsonDocument
import CoolProof.Library.PythonText
import CoolProof.Library.Tables
import CoolProof.Models

/-! Tenant-scoped grounding of agent runs: references are read from untrusted JSON,
resolved against rows of one organization, and copied into an agent context as
scalar facts. Tables are lists of rows in scan order; identifiers may repeat across
organizations. -/

namespace CoolProof.Grounding
open Calendar JsonDocument PythonText Tables Uuid Models

structure GroundingError where
  code : String
deriving DecidableEq

/-- The tables grounding reads, and the collation by which the database orders text. -/
structure GroundingTables where
  projects : List Project
  heatAnalyses : List HeatAnalysis
  portfolioRuns : List PortfolioRun
  interventions : List Intervention
  interventionEvidence : List InterventionEvidence
  documents : List Document
  documentChunks : List DocumentChunk

/-! ## References -/

/-- `str(value)` for the values whose text can be a UUID. Any other JSON value has quotes,
brackets, a point or too few characters in its text. -/
def referenceText : Json → Option (List Char)
  | .str s => some s.toList
  | .int n => some (intText n)
  | _ => none

def uuidOf (value : Json) : Option UUID := (referenceText value).bind Uuid.parse

/-- `_uuid` -/
def uuid (value : Json) (reference : String) : Except GroundingError UUID :=
  match uuidOf value with
  | some u => .ok u
  | none => .error ⟨"invalid_" ++ reference ++ "_reference"⟩

/-- `_one_or_many` -/
def oneOrMany : Json → List Json
  | .null => []
  | .arr values => values
  | value => [value]

/-- The inner function `pick(*names)`: the first name the object has. -/
def pick (source : Dict) (names : List String) : List Json :=
  match names.findSome? source.get with
  | some value => oneOrMany value
  | none => []

structure References where
  heat : List Json
  portfolio : List Json
  intervention : List Json
deriving DecidableEq

/-- `_references` -/
def references (inputData : Dict) : References :=
  let source := match inputData.get "references" with
    | some (.obj nested) => nested
    | _ => inputData
  { heat := pick source ["heat_analysis_id", "heat_analysis_ids", "heat_id"]
    portfolio := pick source ["portfolio_run_id", "portfolio_run_ids", "portfolio_id"]
    intervention := pick source ["intervention_id", "intervention_ids", "interventions"] }

/-- The references that parse, in order. -/
def validReferences (values : List Json) : List UUID := values.filterMap uuidOf

def uuidTexts (ids : List UUID) : List Json := ids.map fun u => .str (Uuid.toString u)

/-- One kind of reference in the persisted object, left out when nothing parses. -/
def persisted (name : String) (values : List Json) : Dict :=
  if validReferences values = [] then []
  else [(name, .arr (uuidTexts (validReferences values)))]

/-- `safe_input_references` -/
def safeInputReferences (inputData : Dict) : Dict :=
  let refs := references inputData
  let safe := persisted "heat_analysis_ids" refs.heat ++
    (persisted "portfolio_run_ids" refs.portfolio ++
      persisted "intervention_ids" refs.intervention)
  if safe = [] then [] else [("references", .obj safe)]

/-! ## Facts -/

def heatFactKeys : List String :=
  ["mean_temperature_c", "threshold_c", "persistence_hours", "exposure_hours",
   "threshold_exceedance_c", "exposure_score", "population", "criticality", "method"]

def portfolioFactKeys : List String :=
  ["total_cost", "total_benefit", "total_uncertainty", "remaining_budget", "status"]

/-- One key of `_safe_numeric_facts`: a number or truth value, or a short text under the
two keys that may hold one. -/
def safeFact (payload : Dict) (key : String) : Dict :=
  match payload.get key with
  | some (.bool b) => [(key, .bool b)]
  | some (.int n) => [(key, .int n)]
  | some (.float x) => [(key, .float x)]
  | some (.str s) =>
      if key = "method" ∨ key = "status" then [(key, .str (clip 120 s))] else []
  | _ => []

/-- `_safe_numeric_facts` -/
def safeNumericFacts (payload : Option Dict) (keys : List String) : Dict :=
  match payload with
  | some fields => keys.flatMap (safeFact fields)
  | none => []

/-- `_safe_filename`: the part after the last slash, on one line. -/
def safeFilename (value : String) : String :=
  let name := (value.toList.reverse.takeWhile (· ≠ '/')).reverse
  clip 160 (String.ofList (name.map fun c => if c = '\n' then ' ' else c))

def optional (value : Option Json) : Json := value.getD .null

def uuidText (u : UUID) : Json := .str (Uuid.toString u)

def heatSummary (now : Instant) (a : HeatAnalysis) : Dict :=
  let result := if a.status = .succeeded then a.result else none
  let stale := match a.expiresAt with
    | some expires => decide (expires < now)
    | none => false
  [("analysis_id", uuidText a.id), ("project_id", uuidText a.projectId),
   ("zone_id", uuidText a.zoneId), ("status", .str a.status.value), ("stale", .bool stale),
   ("source_updated_at", optional (a.sourceUpdatedAt.map fun t => .str (isoformat t))),
   ("facts", .obj (safeNumericFacts result heatFactKeys)),
   ("citation", .str ("heat:" ++ Uuid.toString a.id))]

/-- `str(value)[:120]` of an identifier in an allocation; a truth value counts as an int. -/
def allocationId (item : Dict) (key : String) : Dict :=
  match item.get key with
  | some (.str s) => [(key, .str (clip 120 s))]
  | some (.int n) => [(key, .str (clip 120 (String.ofList (intText n))))]
  | some (.bool b) => [(key, .str (if b then "True" else "False"))]
  | _ => []

def allocationNumber (item : Dict) (key : String) : Dict :=
  match item.get key with
  | some (.int n) => [(key, .int n)]
  | some (.float x) => [(key, .float x)]
  | _ => []

def safeAllocation (item : Dict) : Dict :=
  ["zone_id", "intervention_id"].flatMap (allocationId item) ++
    ["units", "cost", "benefit", "uncertainty"].flatMap (allocationNumber item)

def safeAllocations (result : Dict) : List Dict :=
  match result.get "allocations" with
  | some (.arr items) =>
      (items.filterMap fun item => item.asDict.map safeAllocation).filter fun d => !d.isEmpty
  | _ => []

def portfolioSummary (r : PortfolioRun) : Dict :=
  let result := r.resultJson.asDict.getD []
  let allocations := safeAllocations result
  [("portfolio_run_id", uuidText r.id), ("project_id", optional (r.projectId.map uuidText)),
   ("budget", .float r.budget), ("facts", .obj (safeNumericFacts (some result) portfolioFactKeys)),
   ("allocation_count", .int allocations.length),
   ("allocations", .arr (allocations.map .obj)),
   ("citation", .str ("portfolio:" ++ Uuid.toString r.id))]

/-- The evidence rows of an intervention, joined with their document and chunk. -/
def evidenceRows (t : GroundingTables) (organizationId interventionId : UUID) :
    List (InterventionEvidence × Document × DocumentChunk) :=
  ((t.interventionEvidence.filter fun e =>
      e.organizationId = organizationId && e.interventionId = interventionId).insertionSort
      (ascending InterventionEvidence.createdAt)).flatMap fun e =>
    (t.documents.filter fun d =>
        d.organizationId = organizationId && d.id = e.documentId).flatMap fun d =>
      (t.documentChunks.filter fun c =>
        c.organizationId = organizationId && c.id = e.chunkId).map fun c => (e, d, c)

def citationRow (row : InterventionEvidence × Document × DocumentChunk) : Dict :=
  let (evidence, document, chunk) := row
  let label := clip 160 (evidence.sourceLabel.getD "")
  [("evidence_id", uuidText evidence.id), ("document_id", uuidText document.id),
   ("chunk_id", uuidText chunk.id), ("filename", .str (safeFilename document.filename)),
   ("page_number", optional (chunk.pageNumber.map .int)),
   ("source_label", if label = "" then .null else .str label),
   ("citation", .str ("evidence:" ++ Uuid.toString evidence.id))]

def interventionSummary (t : GroundingTables) (organizationId : UUID) (i : Intervention) :
    Dict :=
  let citations := (evidenceRows t organizationId i.id).map citationRow
  [("intervention_id", uuidText i.id), ("name", .str (clip 180 i.name)),
   ("category", .str (clip 80 i.category)), ("unit_cost", .float i.unitCost),
   ("cooling_score", .float i.coolingScore), ("evidence_count", .int citations.length),
   ("citations", .arr (citations.map .obj))]

/-! ## Resolution -/

/-- `_resolve_project` -/
def resolveProject (t : GroundingTables) (organizationId : UUID) (projectId : Option UUID) :
    Except GroundingError (Option Dict) :=
  match projectId with
  | none => .ok none
  | some id =>
      match t.projects.find? fun p => p.organizationId = organizationId && p.id = id with
      | some p => .ok (some [("project_id", uuidText p.id), ("name", .str (clip 200 p.name))])
      | none => .error ⟨"project_reference_not_found"⟩

/-- The id under a `where` clause: the requested row, else the rows of the project, else all. -/
def requested (wanted projectId : Option UUID) (id : UUID) (rowProject : Option UUID) : Bool :=
  match wanted with
  | some w => id = w
  | none => match projectId with
    | some p => rowProject = some p
    | none => true

def selectHeat (t : GroundingTables) (organizationId : UUID) (projectId wanted : Option UUID) :
    Option HeatAnalysis :=
  first (descending HeatAnalysis.createdAt) (fun a => a.organizationId = organizationId &&
    requested wanted projectId a.id (some a.projectId)) t.heatAnalyses

def selectPortfolio (t : GroundingTables) (organizationId : UUID)
    (projectId wanted : Option UUID) : Option PortfolioRun :=
  first (descending PortfolioRun.createdAt) (fun r => r.organizationId = organizationId &&
    requested wanted projectId r.id r.projectId) t.portfolioRuns

/-- The first reference of a list, if there is one. -/
def firstReference (reference : String) : List Json → Except GroundingError (Option UUID)
  | [] => .ok none
  | value :: _ => (uuid value reference).map some

def heatMismatch (projectId : Option UUID) (a : HeatAnalysis) : Bool :=
  match projectId with
  | some p => a.projectId ≠ p
  | none => false

/-- A portfolio without a project belongs to every project. -/
def portfolioMismatch (projectId : Option UUID) (r : PortfolioRun) : Bool :=
  match projectId, r.projectId with
  | some p, some q => q ≠ p
  | _, _ => false

/-- What `_resolve_heat` and `_resolve_portfolio` make of the row their query selects. -/
def resolveRow {ρ : Type} (wanted : Option UUID) (notFound mismatch : String)
    (mismatched : ρ → Bool) (summary : ρ → Dict) :
    Option ρ → Except GroundingError (Option Dict)
  | some row => if mismatched row then .error ⟨mismatch⟩ else .ok (some (summary row))
  | none => if wanted.isSome then .error ⟨notFound⟩ else .ok none

/-- `_resolve_heat` -/
def resolveHeat (t : GroundingTables) (organizationId : UUID) (projectId : Option UUID)
    (refs : List Json) (now : Instant) : Except GroundingError (Option Dict) := do
  let wanted ← firstReference "heat_analysis" refs
  resolveRow wanted "heat_analysis_reference_not_found" "heat_analysis_project_mismatch"
    (heatMismatch projectId) (heatSummary now) (selectHeat t organizationId projectId wanted)

/-- `_resolve_portfolio` -/
def resolvePortfolio (t : GroundingTables) (organizationId : UUID) (projectId : Option UUID)
    (refs : List Json) : Except GroundingError (Option Dict) := do
  let wanted ← firstReference "portfolio_run" refs
  resolveRow wanted "portfolio_run_reference_not_found" "portfolio_run_project_mismatch"
    (portfolioMismatch projectId) portfolioSummary
    (selectPortfolio t organizationId projectId wanted)

/-- All references of a list, or the error of the first that does not parse. -/
def allReferences (reference : String) : List Json → Except GroundingError (List UUID)
  | [] => .ok []
  | value :: rest => do
      let id ← uuid value reference
      let ids ← allReferences reference rest
      pure (id :: ids)

/-- The active interventions of the organization, all or those requested, by name. -/
def selectInterventions (collate : String → String → Bool) (t : GroundingTables)
    (organizationId : UUID) (ids : List UUID) : List Intervention :=
  (t.interventions.filter fun i => i.organizationId = organizationId &&
    (i.active && (ids.isEmpty || ids.contains i.id))).insertionSort
      fun i j => collate i.name j.name = true

/-- `{item.id for item in interventions} != set(ids)` -/
def missesSome (ids : List UUID) (rows : List Intervention) : Bool :=
  !(ids.all fun id => rows.any fun i => i.id = id) || !(rows.all fun i => ids.contains i.id)

/-- `_resolve_interventions` -/
def resolveInterventions (collate : String → String → Bool) (t : GroundingTables)
    (organizationId : UUID) (refs : List Json) : Except GroundingError (List Dict) := do
  let ids ← allReferences "intervention" refs
  let rows := selectInterventions collate t organizationId ids
  if !ids.isEmpty && missesSome ids rows then
    throw ⟨"intervention_reference_not_found"⟩
  pure (rows.map (interventionSummary t organizationId))

/-- The text under `citation`, where there is one. -/
def citationOf (d : Dict) : List Json :=
  match d.get "citation" with
  | some (.str s) => [.str s]
  | _ => []

def citationsOf (intervention : Dict) : List Json :=
  match intervention.get "citations" with
  | some (.arr rows) => (rows.filterMap Json.asDict).flatMap citationOf
  | _ => []

/-- `resolve_grounding` -/
def resolveGrounding (collate : String → String → Bool) (t : GroundingTables)
    (organizationId : UUID) (projectId : Option UUID) (inputData : Dict) (now : Instant) :
    Except GroundingError Dict := do
  let project ← resolveProject t organizationId projectId
  let refs := references inputData
  let heat ← resolveHeat t organizationId projectId refs.heat now
  let portfolio ← resolvePortfolio t organizationId projectId refs.portfolio
  let interventions ← resolveInterventions collate t organizationId refs.intervention
  pure [("resolved", .bool true), ("project", optional (project.map .obj)),
    ("heat", optional (heat.map .obj)), ("interventions", .arr (interventions.map .obj)),
    ("portfolio", optional (portfolio.map .obj)),
    ("citations", .arr (heat.toList.flatMap citationOf ++
      (portfolio.toList.flatMap citationOf ++ interventions.flatMap citationsOf)))]

end CoolProof.Grounding
