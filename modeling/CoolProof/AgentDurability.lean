import CoolProof.CitationHistory
import CoolProof.CompiledGraph
import CoolProof.Library.Loops

/-! What of an execution is durable. The graph runs to its end before the first checkpoint is
written, so a node that fails takes the nodes before it along, and every checkpoint holds the
state after all four. -/

namespace CoolProof.Agents
open Calendar JsonDocument Uuid Models Tables Grounding Loops

/-! ## Commits -/

/-- The stores that the loop over `AGENT_NAMES` commits, one after each node. -/
def nodeCommits (state : CoolProofState) :
    List String → AgentStore → AgentRun → List AgentStore
  | [], _, _ => []
  | name :: names, s, run =>
      let next := s.transact (completeNode state.dump name run)
      next :: nodeCommits state names next (completeNode state.dump name run).changed

/-- The stores that an execution commits, in order. -/
def executionCommits (rt : Runtime) (env : Surroundings) (s : AgentStore) (run : AgentRun) :
    List AgentStore :=
  let started := s.transact (startExecution run)
  let running := (startExecution run).changed
  match loadState running with
  | none => [started]
  | some state =>
      match runGraph rt env running state with
      | .error _ => [started, started.transact (failExecution running)]
      | .ok final =>
          let (written, last) := completeNodes final agentNames started running
          started :: nodeCommits final agentNames started running ++
            [written.transact (awaitApproval last)]

/-- The last of them is the store that the execution leaves. -/
theorem getLast_executionCommits (rt : Runtime) (env : Surroundings) (s : AgentStore)
    (run : AgentRun) :
    (executionCommits rt env s run).getLast? = some (executeRun rt env s run).1 := by
  unfold executionCommits executeRun
  dsimp only
  cases loadState (startExecution run).changed with
  | none => rfl
  | some state =>
    dsimp only
    cases runGraph rt env (startExecution run).changed state with
    | error e => rfl
    | ok final => exact List.getLast?_concat

/-! ## What should be there -/

/-- The nodes of the `node.completed` events of a run. -/
def AgentTables.completedNodes (t : AgentTables) (id : UUID) : List (Option String) :=
  ((t.logOf id).filter fun e => e.1 = "node.completed").map Prod.snd

/-- The channels after the first `k` nodes. -/
def nodesAfter (rt : Runtime) (env : Surroundings) (k : Nat) (channels : GraphInput) :
    Except ProviderError GraphInput :=
  (agentNames.take k).foldlM (fun raw name => invoke rt.host env.provider name raw) channels

/-- The channels that the graph is started on. -/
def Begins (rt : Runtime) (env : Surroundings) (run : AgentRun) (channels : GraphInput) : Prop :=
  ∃ state grounding, loadState run = some state ∧
    resolveGrounding rt.collate env.tables run.organizationId run.projectId run.inputJson env.now =
      .ok grounding ∧ channels = { state with grounding := grounding }.channels

/-- The committed state of the run holds these channels. -/
def Holds (t : AgentStore) (id : UUID) (channels : GraphInput) : Prop :=
  ∀ row, t.run id = some row → ∀ key ∈ graphInputKeys, row.stateJson.get key = channels.dict.get key

/-- The execution is durable after every node. -/
structure Durable (rt : Runtime) (env : Surroundings) (s : AgentStore) (run : AgentRun) :
    Prop where
  /-- When the call at node `k + 1` fails, the `k` nodes before it are on record. -/
  failing : ∀ begins, Begins rt env run begins → ∀ k name after e, agentNames[k]? = some name →
    nodesAfter rt env k begins = .ok after → invoke rt.host env.provider name after = .error e →
    (executeRun rt env s run).1.completedNodes run.id =
      s.completedNodes run.id ++ (agentNames.take k).map some ∧
    (1 ≤ k → Holds (executeRun rt env s run).1 run.id after)
  /-- When none fails, the commit of the `k`-th node holds the state after `k` nodes. -/
  completing : ∀ begins, Begins rt env run begins → ∀ final,
    nodesAfter rt env agentNames.length begins = .ok final → ∀ k after t,
    1 ≤ k → k ≤ agentNames.length → (executionCommits rt env s run)[k]? = some t →
    nodesAfter rt env k begins = .ok after → Holds t run.id after

/-! ## What is there -/

theorem getElem_nodeCommits (state : CoolProofState) (names : List String) (s : AgentStore)
    (run : AgentRun) {k : Nat} (inRange : k < names.length) :
    (nodeCommits state names s run)[k]? =
      some (completeNodes state (names.take (k + 1)) s run).1 := by
  induction names generalizing k s run with
  | nil => cases inRange
  | cons name names ih =>
    cases k with
    | zero => rfl
    | succ k => exact ih _ _ (Nat.lt_of_succ_lt_succ inRange)

/-- Every checkpoint is the same state. -/
theorem completeNodes_stateJson (state : CoolProofState) {names : List String} (some_ : names ≠ [])
    (s : AgentStore) (run : AgentRun) : ∃ name last,
      (completeNodes state names s run).2.stateJson = checkpoint state.dump name last := by
  induction names generalizing s run with
  | nil => exact absurd rfl some_
  | cons name names ih =>
    cases names with
    | nil => exact ⟨name, run, rfl⟩
    | cons next names => exact ih (List.cons_ne_nil _ _) _ _

/-- The analyst adds one entry, and no other node any. -/
theorem record_evidence (name summary : String) (facts : Dict) (s : CoolProofState) :
    (record name summary facts s).interventionEvidence.length =
      s.interventionEvidence.length + if name = "intervention_analyst" then 1 else 0 := by
  by_cases analyst : name = "intervention_analyst"
  · subst analyst
    rw [record_analyst, List.length_append]
    rfl
  · unfold record
    rw [if_neg analyst, if_neg analyst]
    split
    · rfl
    · split <;> rfl

theorem absorb_evidence (host : Host) (name : String) (output : AgentOutput)
    (s : CoolProofState) : (absorb host name output s).interventionEvidence.length =
      s.interventionEvidence.length + if name = "intervention_analyst" then 1 else 0 := by
  unfold absorb
  split <;> exact record_evidence ..

theorem invoke_evidence {host : Host} {provider : LLMProvider} {name : String}
    {before after : GraphInput} (h : invoke host provider name before = .ok after) :
    after.interventionEvidence.length = before.interventionEvidence.length +
      if name = "intervention_analyst" then 1 else 0 := by
  obtain ⟨output, rfl⟩ := invoke_ok h
  exact absorb_evidence host name output (before.state "langgraph" "langgraph" none)

/-- After some nodes there are as many new entries as the analyst was among them. -/
theorem nodes_evidence {host : Host} {provider : LLMProvider} (names : List String)
    {before after : GraphInput}
    (h : names.foldlM (fun raw name => invoke host provider name raw) before = .ok after) :
    after.interventionEvidence.length =
      before.interventionEvidence.length + names.count "intervention_analyst" := by
  induction names generalizing before with
  | nil =>
    cases h
    rfl
  | cons name names ih =>
    rw [List.foldlM_cons, bind_ok_iff] at h
    obtain ⟨next, first, rest⟩ := h
    rw [ih rest, invoke_evidence first, List.count_cons]
    by_cases analyst : name = "intervention_analyst" <;> simp [analyst]
    omega

theorem nodesAfter_all (rt : Runtime) (env : Surroundings) (channels : GraphInput) :
    nodesAfter rt env agentNames.length channels =
      agentNames.foldlM (fun raw name => invoke rt.host env.provider name raw) channels := by
  rw [nodesAfter, List.take_length]

/-- What the graph makes of the channels it is started on. -/
theorem runGraph_of_grounded {rt : Runtime} (inOrder : rt.graph.RunsInOrder) (env : Surroundings)
    {run : AgentRun} {state : CoolProofState} {grounding : Dict}
    (grounded : resolveGrounding rt.collate env.tables run.organizationId run.projectId
      run.inputJson env.now = .ok grounding) :
    runGraph rt env run state =
      match nodesAfter rt env agentNames.length { state with grounding := grounding }.channels with
      | .error e => .error (.graph e)
      | .ok result => .ok (result.state (Uuid.toString run.id) (Uuid.toString run.organizationId)
          (run.projectId.map Uuid.toString)) := by
  unfold runGraph
  rw [grounded, nodesAfter_all]
  dsimp only
  rewrite [inOrder, List.foldlM_map]
  rfl

theorem nodeEntries_completed (names : List String) :
    ((nodeEntries names).filter fun e => e.1 = "node.completed").map Prod.snd = names.map some := by
  induction names with
  | nil => rfl
  | cons name names ih => simpa [nodeEntries] using ih

section Execution

variable {rt : Runtime} {env : Surroundings} {s : AgentStore} {run : AgentRun}
  (stored : s.run run.id = some run)
include stored

/-- The completed nodes after a start and some nodes. -/
theorem completedNodes_nodes (final : CoolProofState) (names : List String) :
    (completeNodes final names (s.transact (startExecution run))
      (startExecution run).changed).1.completedNodes run.id =
        s.completedNodes run.id ++ names.map some := by
  have starts := moves_progress (startExecution run) stored rfl rfl
  obtain ⟨completes, owner⟩ := completeNodes_moves final names starts.row
  have log := (starts.trans completes owner).log
  rw [owner] at log
  unfold AgentTables.completedNodes
  rw [show (startExecution run).changed.id = run.id from rfl] at log
  rw [log, List.filter_append, List.map_append, List.filter_append, List.map_append,
    nodeEntries_completed]
  rfl

/-- An execution that fails leaves the completed nodes and the state as they were. -/
theorem failed_execution {state : CoolProofState} {e : ExecutionError}
    (loads : loadState run = some state) (failed : runGraph rt env run state = .error e) :
    (executeRun rt env s run).1.completedNodes run.id = s.completedNodes run.id := by
  obtain ⟨changed, entries, moves, executed⟩ := executeRun_moves rt env stored loads
  cases executed with
  | gated ran => cases failed.symm.trans ran
  | failed ran =>
    have log := moves.log
    rw [show (failedRun run).id = run.id from rfl] at log
    unfold AgentTables.completedNodes
    rw [log, List.filter_append, List.map_append]
    exact List.append_nil _

/-- The commit of each node is the one that its event came with, and its state is the last. -/
theorem node_commit {state final : CoolProofState} (loads : loadState run = some state)
    (ran : runGraph rt env run state = .ok final) {k : Nat} (first : 1 ≤ k)
    (last : k ≤ agentNames.length) : ∃ t, (executionCommits rt env s run)[k]? = some t ∧
      t.completedNodes run.id = s.completedNodes run.id ++ (agentNames.take k).map some ∧
      ∃ row name before, t.run run.id = some row ∧
        row.stateJson = checkpoint final.dump name before := by
  obtain ⟨j, rfl⟩ : ∃ j, k = j + 1 := ⟨k - 1, by omega⟩
  have loaded : loadState (startExecution run).changed = some state := loads
  have same : runGraph rt env (startExecution run).changed state = .ok final := ran
  have commits : (executionCommits rt env s run)[j + 1]? =
      some (completeNodes final (agentNames.take (j + 1)) (s.transact (startExecution run))
        (startExecution run).changed).1 := by
    have inner := getElem_nodeCommits final agentNames (s.transact (startExecution run))
      (startExecution run).changed last
    obtain ⟨bound, _⟩ := List.getElem?_eq_some_iff.mp inner
    unfold executionCommits
    simp only [loaded, same, List.cons_append, List.getElem?_cons_succ]
    rw [List.getElem?_append_left bound, inner]
  have starts := moves_progress (startExecution run) stored rfl rfl
  obtain ⟨completes, owner⟩ := completeNodes_moves final (agentNames.take (j + 1)) starts.row
  have some_ : agentNames.take (j + 1) ≠ [] := by simp [agentNames]
  obtain ⟨name, before, dumped⟩ := completeNodes_stateJson final some_
    (s.transact (startExecution run)) (startExecution run).changed
  have row := completes.row
  rw [owner] at row
  exact ⟨_, commits, completedNodes_nodes stored final _, _, name, before, row, dumped⟩

end Execution

/-- What a state that is stored as a checkpoint holds. -/
theorem holds_checkpoint {t : AgentStore} {id : UUID} {row last : AgentRun} {name : String}
    {final : CoolProofState} {channels : GraphInput} (found : t.run id = some row)
    (dumped : row.stateJson = checkpoint final.dump name last) (holds : Holds t id channels) :
    channels.interventionEvidence.length = final.interventionEvidence.length := by
  have entry := holds row found "intervention_evidence" (by decide)
  rw [dumped, checkpoint, Dict.get_append] at entry
  have kept : final.dump.get "intervention_evidence" =
      some (.arr (final.interventionEvidence.map .obj)) := by
    simp [CoolProofState.dump]
  have wanted : channels.dict.get "intervention_evidence" =
      some (.arr (channels.interventionEvidence.map .obj)) := by
    simp [GraphInput.dict]
  rw [kept, wanted, Option.some_or] at entry
  have lengths := congrArg List.length (Json.arr.inj (Option.some.inj entry))
  rw [List.length_map, List.length_map] at lengths
  exact lengths.symm

/-- The provider fails at the first node, if the execution gets as far. -/
def FirstFails (rt : Runtime) (env : Surroundings) (run : AgentRun) : Prop :=
  ∀ begins, Begins rt env run begins →
    ∃ e, invoke rt.host env.provider "heat_intelligence" begins = .error e

/-- A node that fails first stops all of them. -/
theorem nodesAfter_of_first {rt : Runtime} {env : Surroundings} {begins : GraphInput}
    {e : ProviderError}
    (failed : invoke rt.host env.provider "heat_intelligence" begins = .error e) (k : Nat) :
    nodesAfter rt env (k + 1) begins = .error e := by
  unfold nodesAfter agentNames
  rw [List.take_succ_cons, List.foldlM_cons, failed]
  rfl

/-- The checkpoint of the first node is not the state after the first node. -/
theorem not_durable_of_completed {rt : Runtime} (inOrder : rt.graph.RunsInOrder)
    {env : Surroundings} {s : AgentStore} {run : AgentRun} (stored : s.run run.id = some run)
    {state : CoolProofState} {grounding : Dict} (loads : loadState run = some state)
    (grounded : resolveGrounding rt.collate env.tables run.organizationId run.projectId
      run.inputJson env.now = .ok grounding) {result : GraphInput}
    (done : nodesAfter rt env agentNames.length { state with grounding := grounding }.channels =
      .ok result) : ¬Durable rt env s run := by
  intro durable
  have ran := @runGraph_of_grounded rt inOrder env run state grounding grounded
  rw [done] at ran
  obtain ⟨t, commit, _, row, name, before, found, dumped⟩ :=
    node_commit stored loads ran (le_refl 1) (by decide)
  have all := done
  rw [nodesAfter_all] at all
  have entries := nodes_evidence agentNames all
  have first : ∃ next, nodesAfter rt env 1 { state with grounding := grounding }.channels =
      .ok next := by
    unfold agentNames at all
    rw [List.foldlM_cons, bind_ok_iff] at all
    obtain ⟨next, answered, _⟩ := all
    exact ⟨next, bind_ok_iff.mpr ⟨next, answered, rfl⟩⟩
  obtain ⟨next, answered⟩ := first
  have holds := durable.completing _ ⟨state, grounding, loads, grounded, rfl⟩ result done 1 next t
    (le_refl 1) (by decide) commit answered
  have same := holds_checkpoint found dumped holds
  have none_yet := nodes_evidence (agentNames.take 1) answered
  have last : (result.state (Uuid.toString run.id) (Uuid.toString run.organizationId)
      (run.projectId.map Uuid.toString)).interventionEvidence.length =
        result.interventionEvidence.length := rfl
  have counts : agentNames.count "intervention_analyst" = 1 ∧
      (agentNames.take 1).count "intervention_analyst" = 0 := by decide
  omega

/-- A later node that fails takes the nodes before it along. -/
theorem not_durable_of_failed {rt : Runtime} (inOrder : rt.graph.RunsInOrder)
    {env : Surroundings} {s : AgentStore} {run : AgentRun} (stored : s.run run.id = some run)
    {state : CoolProofState} {grounding : Dict} (loads : loadState run = some state)
    (grounded : resolveGrounding rt.collate env.tables run.organizationId run.projectId
      run.inputJson env.now = .ok grounding) {k : Nat} {name : String} {after : GraphInput}
    {e : ProviderError} (turn : agentNames[k + 1]? = some name)
    (before : nodesAfter rt env (k + 1) { state with grounding := grounding }.channels = .ok after)
    (raised : invoke rt.host env.provider name after = .error e)
    (ended : nodesAfter rt env agentNames.length { state with grounding := grounding }.channels =
      .error e) : ¬Durable rt env s run := by
  intro durable
  have ran := @runGraph_of_grounded rt inOrder env run state grounding grounded
  rw [ended] at ran
  have kept := failed_execution stored loads ran
  obtain ⟨onRecord, _⟩ := durable.failing _ ⟨state, grounding, loads, grounded, rfl⟩ (k + 1) name
    after e turn before raised
  rw [kept] at onRecord
  have nothing := List.self_eq_append_right.mp onRecord
  simp [agentNames] at nothing

/-- An execution is durable after every node exactly when it completes none: as soon as the first
node has answered, either the nodes before a failure leave no trace, or the checkpoint of the first
node has the entry that the analyst adds later. -/
theorem durable_iff {rt : Runtime} (inOrder : rt.graph.RunsInOrder) (env : Surroundings)
    {s : AgentStore} {run : AgentRun} (stored : s.run run.id = some run) :
    Durable rt env s run ↔ FirstFails rt env run := by
  constructor
  · rintro durable _ ⟨state, grounding, loaded, grounded, rfl⟩
    rcases foldlM_cases (fun raw name => invoke rt.host env.provider name raw) agentNames
        { state with grounding := grounding }.channels with
      ⟨result, done⟩ | ⟨k, name, after, e, turn, before, raised, ended⟩
    · exact absurd durable (not_durable_of_completed inOrder stored loaded grounded
        ((nodesAfter_all rt env _).trans done))
    · cases k with
      | zero =>
        cases turn
        cases before
        exact ⟨e, raised⟩
      | succ k =>
        exact absurd durable (not_durable_of_failed inOrder stored loaded grounded turn before
          raised ((nodesAfter_all rt env _).trans ended))
  · intro fails
    refine ⟨fun begins starts k name after e turn before raised => ?_,
      fun begins starts final done => ?_⟩
    · obtain ⟨f, failed⟩ := fails begins starts
      cases k with
      | succ k =>
        rw [nodesAfter_of_first failed] at before
        cases before
      | zero =>
        obtain ⟨state, grounding, loaded, grounded, rfl⟩ := starts
        have ran := @runGraph_of_grounded rt inOrder env run state grounding grounded
        rw [show agentNames.length = 3 + 1 from rfl, nodesAfter_of_first failed] at ran
        refine ⟨?_, fun some_ => absurd some_ (by decide)⟩
        rw [failed_execution stored loaded ran]
        exact (List.append_nil _).symm
    · obtain ⟨f, failed⟩ := fails begins starts
      rw [show agentNames.length = 3 + 1 from rfl, nodesAfter_of_first failed] at done
      cases done

/-! ## One run -/

/-- A run that has just been created. -/
def queuedRun : AgentRun := NewRun.row ⟨7, 1, none, "thread", []⟩

def queuedStore : AgentStore where
  runs := [queuedRun]
  events := []
  approvals := []
  audits := []
  primaryKey := List.nodup_singleton _

/-- With a provider that always answers, the checkpoint of the first node is the state after the
fourth. -/
theorem durable_fails : ¬∀ (rt : Runtime) (env : Surroundings) (s : AgentStore) (run : AgentRun),
    rt.graph.RunsInOrder → s.run run.id = some run → Durable rt env s run := by
  intro durable
  have claimed := durable plainRuntime (meets []) queuedStore queuedRun plainRuntime_runsInOrder rfl
  exact not_durable_of_completed plainRuntime_runsInOrder rfl rfl rfl rfl claimed

/-- A provider that never answers. -/
def silentProvider : LLMProvider := fun _ _ => .error ⟨"nim_provider_failed"⟩

theorem durable_sample :
    Durable plainRuntime { meets [] with provider := silentProvider } queuedStore queuedRun :=
  (durable_iff plainRuntime_runsInOrder { meets [] with provider := silentProvider } rfl).mpr
    fun _ _ => ⟨⟨"nim_provider_failed"⟩, rfl⟩

end CoolProof.Agents
