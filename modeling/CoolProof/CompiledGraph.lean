import CoolProof.AgentExecution

/-! The graph that production compiles. Its nodes exchange dictionaries: each builds a state
from the channels it is given and returns the dump of what the node made of it, of which the
graph keeps its channels. The typed nodes of an execution are these nodes on their channels,
and the nodes applied to one state in memory write the same channels. -/

namespace CoolProof.Agents
open JsonDocument PythonText

/-! ## Dictionaries -/

/-- `_STATE_FIELDS` -/
def stateFields : List String :=
  ["heat_evidence", "intervention_evidence", "portfolio", "verification", "citations",
   "summaries", "current_agent", "grounding"]

/-- The keys of `GraphInput`. -/
def graphInputKeys : List String :=
  ["input", "heat_evidence", "intervention_evidence", "portfolio", "verification", "citations",
   "summaries", "grounding"]

inductive GraphError where
  | provider (e : ProviderError)
  | validation

/-- The `CoolProofState` that a node builds from what it is given; `none` is a validation
error. -/
def buildState (host : Host) (raw : Dict) : Option CoolProofState := do
  let kept := raw.filter fun entry => decide (entry.1 ∈ stateFields)
  let projectId ← field asOptionalText none raw "project_id"
  let input ← field Json.asDict [] raw "input"
  let heatEvidence ← field Json.asDict [] kept "heat_evidence"
  let interventionEvidence ← field asDicts [] kept "intervention_evidence"
  let portfolio ← field Json.asDict [] kept "portfolio"
  let verification ← field Json.asDict [] kept "verification"
  let grounding ← field Json.asDict [] kept "grounding"
  let citations ← field asTexts [] kept "citations"
  let summaries ← field asLines [] kept "summaries"
  let currentAgent ← field asOptionalText none kept "current_agent"
  some {
    runId := host.str ((raw.get "run_id").getD (.str "langgraph"))
    organizationId := host.str ((raw.get "organization_id").getD (.str "langgraph"))
    projectId, input, heatEvidence, interventionEvidence, portfolio, verification
    grounding, citations, summaries, currentAgent }

abbrev RawNode := Dict → Except GraphError Dict

/-- The inner function `invoke`, from dictionary to dictionary. -/
def invokeRaw (host : Host) (provider : LLMProvider) (name : String) : RawNode := fun raw =>
  match buildState host raw with
  | none => .error .validation
  | some state => ((runNode host provider name state).mapError .provider).map CoolProofState.dump

/-- The channels after a node: each takes the value returned for it, if there is one, and
other keys are dropped. -/
def overwrite (channels : List String) (values returned : Dict) : Dict :=
  channels.filterMap fun key => ((returned.get key).or (values.get key)).map fun x => (key, x)

/-! ## LangGraph -/

/-- `StateGraph(..)` over some channels with nodes and edges, compiled and invoked. -/
abbrev StateGraph := List String → List (String × RawNode) → List (String × String) → RawNode

def startNode : String := "__start__"

def endNode : String := "__end__"

/-- Edges from the start through the nodes, one to the next, to the end. -/
def chainEdges (names : List String) : List (String × String) :=
  (startNode, names.headD endNode) :: names.zip names.tail ++ [(names.getLastD startNode, endNode)]

/-- Nodes in a chain run in edge order, each on the channels that the one before has
overwritten, and the first to raise ends the graph. -/
def StateGraph.RunsChains (langgraph : StateGraph) : Prop :=
  ∀ (channels : List String) (nodes : List (String × RawNode)) (raw : Dict), nodes ≠ [] →
    (nodes.map Prod.fst).Nodup →
    langgraph channels nodes (chainEdges (nodes.map Prod.fst)) raw =
      (nodes.map Prod.snd).foldlM
        (fun values node => (node values).map (overwrite channels values))
        (overwrite channels [] raw)

/-- `compile_langgraph` -/
def compileLanggraph (langgraph : StateGraph) (host : Host) (provider : LLMProvider) : RawNode :=
  langgraph graphInputKeys (agentNames.map fun name => (name, invokeRaw host provider name))
    (chainEdges agentNames)

/-! ## Channels -/

/-- The channels as the graph holds them. -/
def GraphInput.dict (channels : GraphInput) : Dict :=
  [("input", .obj channels.input), ("heat_evidence", .obj channels.heatEvidence),
   ("intervention_evidence", .arr (channels.interventionEvidence.map .obj)),
   ("portfolio", .obj channels.portfolio), ("verification", .obj channels.verification),
   ("citations", texts channels.citations),
   ("summaries", .obj (channels.summaries.map fun line => (line.1, .str line.2))),
   ("grounding", .obj channels.grounding)]

/-- Every channel is in a dump, so nothing of the old values is left. -/
theorem overwrite_dump (values : Dict) (state : CoolProofState) :
    overwrite graphInputKeys values state.dump = state.channels.dict := by
  simp [overwrite, graphInputKeys, CoolProofState.dump, Dict.get_cons, GraphInput.dict,
    CoolProofState.channels]

/-- What a node builds from the channels has the defaults for what they do not hold. -/
theorem buildState_channels (host : Host) (channels : GraphInput) :
    buildState host channels.dict = some (channels.state "langgraph" "langgraph" none) := by
  simp [buildState, GraphInput.dict, stateFields, field, Json.asDict, GraphInput.state, Host.str]

/-! ## Refinement -/

/-- A node on dictionaries is the typed node on their channels. -/
theorem invokeRaw_channels (host : Host) (provider : LLMProvider) (name : String)
    (values : Dict) (channels : GraphInput) :
    (invokeRaw host provider name channels.dict).map (overwrite graphInputKeys values) =
      ((invoke host provider name channels).mapError .provider).map GraphInput.dict := by
  unfold invokeRaw invoke
  rw [buildState_channels]
  dsimp only
  cases runNode host provider name (channels.state "langgraph" "langgraph" none) with
  | error e => rfl
  | ok result => exact congrArg Except.ok (overwrite_dump values result)

/-- A node writes to the channels no more than it reads from them: what is not a channel
makes no difference. -/
theorem absorb_channels (host : Host) (name : String) (output : AgentOutput)
    {s t : CoolProofState} (same : s.channels = t.channels) :
    (absorb host name output s).channels = (absorb host name output t).channels := by
  obtain ⟨runId, organizationId, projectId, input, heat, analyst, portfolio, verification,
    grounding, citations, summaries, current⟩ := s
  cases same
  unfold absorb record
  dsimp only [reviewed]
  split
  · split
    · rfl
    · split
      · rfl
      · split <;> rfl
  · split
    · rfl
    · split
      · rfl
      · split <;> rfl

theorem invoke_channels (host : Host) (provider : LLMProvider) (name : String)
    (state : CoolProofState) : invoke host provider name state.channels =
      (runNode host provider name state).map CoolProofState.channels := by
  unfold invoke runNode
  have context : (state.channels.state "langgraph" "langgraph" none).context = state.context := rfl
  rw [context]
  cases provider name state.context with
  | error e => rfl
  | ok output => exact congrArg Except.ok (absorb_channels host name output rfl)

/-- The typed nodes in order leave the channels of the state that the nodes make in memory. -/
theorem foldlM_invoke (host : Host) (provider : LLMProvider) (names : List String)
    (state : CoolProofState) :
    names.foldlM (fun channels name => invoke host provider name channels) state.channels =
      (runNodes host provider names state).map CoolProofState.channels := by
  induction names generalizing state with
  | nil => rfl
  | cons name names ih =>
    rw [List.foldlM_cons, runNodes, invoke_channels]
    cases runNode host provider name state with
    | error e => rfl
    | ok next => exact ih next

theorem foldlM_invokeRaw (host : Host) (provider : LLMProvider) (names : List String)
    (channels : GraphInput) :
    (names.map (invokeRaw host provider)).foldlM
        (fun values node => (node values).map (overwrite graphInputKeys values)) channels.dict =
      ((names.foldlM (fun channels name => invoke host provider name channels)
        channels).mapError .provider).map GraphInput.dict := by
  induction names generalizing channels with
  | nil => rfl
  | cons name names ih =>
    rw [List.map_cons, List.foldlM_cons, invokeRaw_channels, List.foldlM_cons]
    cases invoke host provider name channels with
    | error e => rfl
    | ok next => exact ih next

/-- The graph that is compiled returns the channels of the state that the four nodes make in
memory, or raises what they raise. -/
theorem compiled_graph_refines {langgraph : StateGraph} (chains : langgraph.RunsChains)
    (host : Host) (provider : LLMProvider) (state : CoolProofState) :
    compileLanggraph langgraph host provider state.dump =
      ((runNodes host provider agentNames state).mapError .provider).map
        fun final => final.channels.dict := by
  have names : (agentNames.map fun name => (name, invokeRaw host provider name)).map Prod.fst =
      agentNames := by
    simp [Function.comp_def]
  have nodes : (agentNames.map fun name => (name, invokeRaw host provider name)).map Prod.snd =
      agentNames.map (invokeRaw host provider) := by
    simp [Function.comp_def]
  have runs := chains graphInputKeys
    (agentNames.map fun name => (name, invokeRaw host provider name)) state.dump
    (by simp [agentNames]) (by rw [names]; decide)
  rw [names, nodes, overwrite_dump, foldlM_invokeRaw, foldlM_invoke] at runs
  rw [compileLanggraph, runs]
  cases runNodes host provider agentNames state <;> rfl

/-- Chains in order, whatever the edges say. -/
def chainGraph : StateGraph := fun channels nodes _ raw =>
  (nodes.map Prod.snd).foldlM (fun values node => (node values).map (overwrite channels values))
    (overwrite channels [] raw)

def plainHost : Host := ⟨fun _ => "", id⟩

/-- A provider that reports one fact, and cites it. -/
def sampleProvider : LLMProvider := fun agent _ =>
  .ok ⟨"by " ++ agent, ["document:" ++ agent], [("confidence", .int 1)],
    (Nat.le_add_right_of_le (by decide)).trans_eq (String.length_append ..).symm, by simp⟩

def questionState : CoolProofState where
  runId := "run"
  organizationId := "organization"
  projectId := none
  input := [("question", .str "where")]
  heatEvidence := []
  interventionEvidence := []
  portfolio := []
  verification := []
  grounding := []
  citations := []
  summaries := []
  currentAgent := none

theorem compiled_graph_refines_sample :
    compileLanggraph chainGraph plainHost sampleProvider questionState.dump =
      ((runNodes plainHost sampleProvider agentNames questionState).mapError .provider).map
        fun final => final.channels.dict :=
  compiled_graph_refines (fun _ _ _ _ _ => rfl) plainHost sampleProvider questionState

end CoolProof.Agents
