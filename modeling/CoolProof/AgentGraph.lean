import CoolProof.AgentRuntime

/-! The four-node graph of an agent run: the state that passes through it, what a provider
is given and returns, and what a node keeps of the answer. -/

namespace CoolProof.Agents
open JsonDocument PythonText

/-- What is left to the interpreter: the text of a value other than a string or an int, and
the order in which a set of strings is iterated. -/
structure Host where
  repr : Json → String
  setOrder : List String → List String

/-- `str(value)` -/
def Host.str (host : Host) : Json → String
  | .str s => s
  | .int n => String.ofList (intText n)
  | value => host.repr value

structure CoolProofState where
  runId : String
  organizationId : String
  projectId : Option String
  input : Dict
  heatEvidence : Dict
  interventionEvidence : List Dict
  portfolio : Dict
  verification : Dict
  grounding : Dict
  citations : List String
  summaries : List (String × String)
  currentAgent : Option String

/-! ## Providers -/

/-- What a provider is given of the state. -/
structure Context where
  grounding : Dict
  heatEvidence : Dict
  interventionEvidence : List Dict
  portfolio : Dict
  verification : Dict

def CoolProofState.context (state : CoolProofState) : Context :=
  ⟨state.grounding, state.heatEvidence, state.interventionEvidence, state.portfolio,
    state.verification⟩

/-- A completion. Its summary is not empty, and its facts are a dictionary, so no key is there
twice. -/
structure AgentOutput where
  summary : String
  citations : List String
  facts : Dict
  summarized : 1 ≤ summary.length
  distinct : (facts.map Prod.fst).Nodup

structure ProviderError where
  message : String
deriving DecidableEq

/-- `LLMProvider.complete` -/
abbrev LLMProvider := String → Context → Except ProviderError AgentOutput

/-! ## Scrubbing -/

/-- The measurements of `safe_provider_facts`. -/
def measurementKeys : List String :=
  ["exposure_score", "mean_temperature_c", "threshold_c", "persistence_hours",
   "threshold_exceedance_c", "total_cost", "total_benefit", "total_uncertainty",
   "remaining_budget", "confidence", "allocation_count", "evidence_count"]

def isIdKey (key : String) : Bool := "_id".toList.isSuffixOf key.toList

/-- A number that is not a truth value. -/
def asNumber : Json → Option Json
  | .int n => some (.int n)
  | .float x => some (.float x)
  | _ => none

/-- The first 120 characters of a text. -/
def asClipped (value : Json) : Option Json := value.asStr.map fun s => .str (clip 120 s)

/-- What `safe_provider_facts` keeps of one fact. -/
def safeProviderFact (key : String) (value : Json) : Option Json :=
  if isIdKey key ∧ value.asStr.isSome then asClipped value
  else if key ∈ measurementKeys ∧ (asNumber value).isSome then asNumber value
  else if key ∈ ["status", "method", "agent"] then asClipped value
  else none

/-- `safe_provider_facts` -/
def safeProviderFacts (facts : Dict) : Dict :=
  facts.filterMap fun fact => (safeProviderFact fact.1 fact.2).map fun value => (fact.1, value)

/-- `grounded_citations`, as they are iterated. -/
def groundedCitations (host : Host) (grounding : Dict) : List String :=
  match grounding.get "citations" with
  | some (.arr values) => host.setOrder (values.filterMap Json.asStr)
  | _ => []

/-- `summary_for_agent` -/
def summaryForAgent (host : Host) (name : String) (grounding : Dict) : String :=
  if name = "heat_intelligence" then
    let detail := match grounding.get "heat" with
      | some (.obj heat) => host.str ((Dict.get heat "status").getD (.str "unavailable"))
      | _ => "unavailable"
    "Heat Intelligence reviewed persisted heat evidence (" ++ detail ++ ")."
  else if name = "intervention_analyst" then
    let count := match grounding.get "interventions" with
      | some (.arr interventions) => interventions.length
      | _ => 0
    "Intervention Analyst reviewed " ++ toString count ++ " tenant-scoped catalogue entries."
  else if name = "portfolio" then
    let count := match grounding.get "portfolio" with
      | some (.obj portfolio) => host.str ((Dict.get portfolio "allocation_count").getD (.int 0))
      | _ => "0"
    "Portfolio reviewed the persisted deterministic result (" ++ count ++ " allocations)."
  else "Verification reviewed the persisted governed workflow inputs."

/-! ## Nodes -/

/-- `citations.extend(c for c in more if c not in citations)` -/
def extendNew (citations more : List String) : List String :=
  more.foldl (fun known c => if c ∈ known then known else known ++ [c]) citations

/-- The field of the state that a node writes. -/
def record (name summary : String) (facts : Dict) (state : CoolProofState) : CoolProofState :=
  if name = "heat_intelligence" then
    { state with heatEvidence := state.heatEvidence.merge facts }
  else if name = "intervention_analyst" then
    { state with
      interventionEvidence := state.interventionEvidence ++
        [Dict.merge [("summary", .str summary)] facts] }
  else if name = "portfolio" then { state with portfolio := state.portfolio.merge facts }
  else { state with verification := state.verification.merge facts }

/-- What a node writes without looking at the output. -/
def reviewed (host : Host) (name : String) (state : CoolProofState) : CoolProofState :=
  { state with
    currentAgent := some name
    summaries := put name (summaryForAgent host name state.grounding) state.summaries
    input := []
    citations := extendNew state.citations (groundedCitations host state.grounding) }

/-- What `_run_node` makes of an output. -/
def absorb (host : Host) (name : String) (output : AgentOutput) (state : CoolProofState) :
    CoolProofState :=
  if state.grounding ≠ [] then
    record name (summaryForAgent host name state.grounding) (safeProviderFacts output.facts)
      (reviewed host name state)
  else
    record name output.summary output.facts
      { state with
        currentAgent := some name
        summaries := put name output.summary state.summaries
        citations := extendNew state.citations output.citations }

/-- `_run_node` -/
def runNode (host : Host) (provider : LLMProvider) (name : String) (state : CoolProofState) :
    Except ProviderError CoolProofState :=
  (provider name state.context).map fun output => absorb host name output state

/-- The nodes of `build_graph`, one after the other. -/
def runNodes (host : Host) (provider : LLMProvider) :
    List String → CoolProofState → Except ProviderError CoolProofState
  | [], state => .ok state
  | name :: names, state => do runNodes host provider names (← runNode host provider name state)

/-- What the provider returns at each of the nodes. -/
def nodeOutputs (host : Host) (provider : LLMProvider) :
    List String → CoolProofState → List AgentOutput
  | [], _ => []
  | name :: names, state =>
      match provider name state.context with
      | .ok output => output :: nodeOutputs host provider names (absorb host name output state)
      | .error _ => []

/-- The outputs absorbed one after the other. -/
def absorbAll (host : Host) : List String → List AgentOutput → CoolProofState → CoolProofState
  | name :: names, output :: outputs, state =>
      absorbAll host names outputs (absorb host name output state)
  | _, _, state => state

/-- A run that completes has absorbed one output for each node. -/
theorem runNodes_ok {host : Host} {provider : LLMProvider} {names : List String}
    {state final : CoolProofState} (h : runNodes host provider names state = .ok final) :
    (nodeOutputs host provider names state).length = names.length ∧
      final = absorbAll host names (nodeOutputs host provider names state) state := by
  induction names generalizing state with
  | nil =>
    cases h
    exact ⟨rfl, rfl⟩
  | cons name names ih =>
    rw [runNodes, runNode] at h
    rw [nodeOutputs]
    cases answer : provider name state.context with
    | error e =>
      rw [answer] at h
      cases h
    | ok output =>
      rw [answer] at h
      obtain ⟨length, same⟩ := ih h
      exact ⟨by simp [length], by simpa [absorbAll] using same⟩

/-! ## What a node keeps -/

theorem get_filterMap_nodup {d : Dict} (keys : (d.map Prod.fst).Nodup)
    (f : String → Json → Option Json) (key : String) :
    Dict.get (d.filterMap fun e => (f e.1 e.2).map fun value => (e.1, value)) key =
      (d.get key).bind (f key) := by
  induction d with
  | nil => rfl
  | cons entry d ih =>
    obtain ⟨k, x⟩ := entry
    rw [List.map_cons, List.nodup_cons] at keys
    have tail := ih keys.2
    rw [List.filterMap_cons]
    by_cases same : key = k
    · subst same
      cases kept : f key x with
      | some value => simp [kept]
      | none =>
        have absent : Dict.get d key = none := by
          rw [Dict.get_eq_none, List.any_eq_false]
          intro e member same
          exact keys.1 (List.mem_map.mpr ⟨e, member, by simpa using same⟩)
        simpa [kept, absent] using tail
    · cases kept : f k x <;> simpa [kept, same] using tail

theorem get_safeProviderFacts (output : AgentOutput) (key : String) :
    (safeProviderFacts output.facts).get key =
      (output.facts.get key).bind (safeProviderFact key) :=
  get_filterMap_nodup output.distinct safeProviderFact key

/-! ## A grounded run -/

/-- The citations after the listed nodes. -/
def citedAfter (host : Host) (state : CoolProofState) (names : List String) : List String :=
  names.foldl (fun known _ => extendNew known (groundedCitations host state.grounding))
    state.citations

/-- The status lines after the listed nodes. -/
def summariesAfter (host : Host) (state : CoolProofState) (names : List String) :
    List (String × String) :=
  names.foldl (fun lines name => put name (summaryForAgent host name state.grounding) lines)
    state.summaries

theorem absorb_grounded (host : Host) {s : CoolProofState} (grounded : s.grounding ≠ [])
    (name : String) (output : AgentOutput) : absorb host name output s =
      record name (summaryForAgent host name s.grounding) (safeProviderFacts output.facts)
        (reviewed host name s) := if_pos grounded

theorem record_heat (summary : String) (facts : Dict) (s : CoolProofState) :
    record "heat_intelligence" summary facts s =
      { s with heatEvidence := s.heatEvidence.merge facts } := by simp [record]

theorem record_analyst (summary : String) (facts : Dict) (s : CoolProofState) :
    record "intervention_analyst" summary facts s =
      { s with
        interventionEvidence := s.interventionEvidence ++
          [Dict.merge [("summary", .str summary)] facts] } := by simp [record]

theorem record_portfolio (summary : String) (facts : Dict) (s : CoolProofState) :
    record "portfolio" summary facts s = { s with portfolio := s.portfolio.merge facts } := by
  simp [record]

theorem record_verification (summary : String) (facts : Dict) (s : CoolProofState) :
    record "verification" summary facts s =
      { s with verification := s.verification.merge facts } := by simp [record]

/-- With a grounding, citations and status lines are those of the resolver, and each node
adds its scrubbed facts to its own field. -/
theorem absorbAll_grounded (host : Host) {s : CoolProofState} (grounded : s.grounding ≠ [])
    (a b c d : AgentOutput) : absorbAll host agentNames [a, b, c, d] s =
      { s with
        input := []
        heatEvidence := s.heatEvidence.merge (safeProviderFacts a.facts)
        interventionEvidence := s.interventionEvidence ++
          [Dict.merge [("summary", .str (summaryForAgent host "intervention_analyst"
            s.grounding))] (safeProviderFacts b.facts)]
        portfolio := s.portfolio.merge (safeProviderFacts c.facts)
        verification := s.verification.merge (safeProviderFacts d.facts)
        citations := citedAfter host s agentNames
        summaries := summariesAfter host s agentNames
        currentAgent := some "verification" } := by
  let heat : CoolProofState :=
    { reviewed host "heat_intelligence" s with
      heatEvidence := s.heatEvidence.merge (safeProviderFacts a.facts) }
  let analyst : CoolProofState :=
    { reviewed host "intervention_analyst" heat with
      interventionEvidence := s.interventionEvidence ++
        [Dict.merge [("summary", .str (summaryForAgent host "intervention_analyst"
          s.grounding))] (safeProviderFacts b.facts)] }
  let portfolio : CoolProofState :=
    { reviewed host "portfolio" analyst with
      portfolio := s.portfolio.merge (safeProviderFacts c.facts) }
  have first : absorb host "heat_intelligence" a s = heat := by
    rw [absorb_grounded host grounded, record_heat]
    rfl
  have second : absorb host "intervention_analyst" b heat = analyst := by
    have kept : heat.grounding ≠ [] := grounded
    rw [absorb_grounded host kept, record_analyst]
    rfl
  have third : absorb host "portfolio" c analyst = portfolio := by
    have kept : analyst.grounding ≠ [] := grounded
    rw [absorb_grounded host kept, record_portfolio]
    rfl
  have last : portfolio.grounding ≠ [] := grounded
  simp only [agentNames, absorbAll, first, second, third]
  rw [absorb_grounded host last, record_verification]
  rfl

end CoolProof.Agents
