import CoolProof.AgentGraph
import CoolProof.EventReplay

/-! Agent requests served one after another: the row of a run is loaded into the graph's
state, the graph is run over a new grounding, and the state is dumped into the row again.
What a served request does to its run is one inversion for each request. -/

namespace CoolProof.Agents
open Calendar JsonDocument Uuid Models Tables Grounding Sessions

/-! ## The state as JSON -/

def texts (values : List String) : Json := .arr (values.map .str)

/-- `state.model_dump(mode="json")` -/
def CoolProofState.dump (state : CoolProofState) : Dict :=
  [("run_id", .str state.runId), ("organization_id", .str state.organizationId),
   ("project_id", optional (state.projectId.map .str)), ("input", .obj state.input),
   ("heat_evidence", .obj state.heatEvidence),
   ("intervention_evidence", .arr (state.interventionEvidence.map .obj)),
   ("portfolio", .obj state.portfolio), ("verification", .obj state.verification),
   ("grounding", .obj state.grounding), ("citations", texts state.citations),
   ("summaries", .obj (state.summaries.map fun line => (line.1, .str line.2))),
   ("current_agent", optional (state.currentAgent.map .str))]

def asDicts : Json → Option (List Dict)
  | .arr items => items.mapM Json.asDict
  | _ => none

def asTexts : Json → Option (List String)
  | .arr items => items.mapM Json.asStr
  | _ => none

def asLine (entry : String × Json) : Option (String × String) :=
  entry.2.asStr.map fun s => (entry.1, s)

def asLines : Json → Option (List (String × String))
  | .obj fields => fields.mapM asLine
  | _ => none

def asOptionalText : Json → Option (Option String)
  | .null => some none
  | .str s => some (some s)
  | _ => none

/-- A field of the model: its default when the key is absent, a validation error when the
value is of another type. -/
def field {β : Type} (read : Json → Option β) (default : β) (d : Dict) (key : String) : Option β :=
  match d.get key with
  | some value => read value
  | none => some default

/-- The `CoolProofState` that `execute_run` builds from a row; `none` is a validation error. -/
def loadState (run : AgentRun) : Option CoolProofState := do
  let heatEvidence ← field Json.asDict [] run.stateJson "heat_evidence"
  let interventionEvidence ← field asDicts [] run.stateJson "intervention_evidence"
  let portfolio ← field Json.asDict [] run.stateJson "portfolio"
  let verification ← field Json.asDict [] run.stateJson "verification"
  let citations ← field asTexts [] run.stateJson "citations"
  let summaries ← field asLines [] run.stateJson "summaries"
  let currentAgent ← field asOptionalText none run.stateJson "current_agent"
  let grounding ← field Json.asDict [] run.stateJson "grounding"
  some {
    runId := Uuid.toString run.id
    organizationId := Uuid.toString run.organizationId
    projectId := run.projectId.map Uuid.toString
    input := run.inputJson
    heatEvidence, interventionEvidence, portfolio, verification
    grounding, citations, summaries, currentAgent }

theorem mapM_map_of_inverse {α β : Type} (encode : α → β) (decode : β → Option α)
    (inverse : ∀ x, decode (encode x) = some x) (values : List α) :
    (values.map encode).mapM decode = some values := by
  induction values with
  | nil => rfl
  | cons x values ih => simp [List.mapM_cons, inverse, ih]

@[simp] theorem asDicts_arr (values : List Dict) :
    asDicts (.arr (values.map .obj)) = some values :=
  mapM_map_of_inverse Json.obj Json.asDict (fun _ => rfl) values

@[simp] theorem asTexts_texts (values : List String) : asTexts (texts values) = some values :=
  mapM_map_of_inverse Json.str Json.asStr (fun _ => rfl) values

@[simp] theorem asLines_obj (lines : List (String × String)) :
    asLines (.obj (lines.map fun line => (line.1, .str line.2))) = some lines :=
  mapM_map_of_inverse (fun line : String × String => (line.1, Json.str line.2)) asLine
    (fun _ => rfl) lines

@[simp] theorem asOptionalText_optional (value : Option String) :
    asOptionalText (optional (value.map .str)) = some value := by cases value <;> rfl

/-- A checkpoint is loaded as the state that was dumped, with the identifiers and the input
of the row. -/
theorem loadState_checkpoint {run : AgentRun} {state : CoolProofState} {name : String}
    {last : AgentRun} (stored : run.stateJson = checkpoint state.dump name last) :
    loadState run = some { state with
      runId := Uuid.toString run.id
      organizationId := Uuid.toString run.organizationId
      projectId := run.projectId.map Uuid.toString
      input := run.inputJson } := by
  have read : ∀ key ∈ ["heat_evidence", "intervention_evidence", "portfolio", "verification",
      "citations", "summaries", "current_agent", "grounding"],
      run.stateJson.get key = state.dump.get key := by
    intro key member
    rw [stored, checkpoint, Dict.get_append]
    have outside : key ≠ "checkpoint_node" ∧ key ≠ "checkpoint_thread_id" := by
      revert key
      decide
    simp [outside.1, outside.2]
  simp [loadState, field, read, CoolProofState.dump, Json.asDict]

/-! ## The compiled graph -/

/-- The channels of the compiled graph. -/
structure GraphInput where
  input : Dict
  heatEvidence : Dict
  interventionEvidence : List Dict
  portfolio : Dict
  verification : Dict
  citations : List String
  summaries : List (String × String)
  grounding : Dict

def CoolProofState.channels (state : CoolProofState) : GraphInput :=
  ⟨state.input, state.heatEvidence, state.interventionEvidence, state.portfolio,
    state.verification, state.citations, state.summaries, state.grounding⟩

/-- The state built from channel values; `current_agent` is not a channel. -/
def GraphInput.state (channels : GraphInput) (runId organizationId : String)
    (projectId : Option String) : CoolProofState where
  runId := runId
  organizationId := organizationId
  projectId := projectId
  input := channels.input
  heatEvidence := channels.heatEvidence
  interventionEvidence := channels.interventionEvidence
  portfolio := channels.portfolio
  verification := channels.verification
  grounding := channels.grounding
  citations := channels.citations
  summaries := channels.summaries
  currentAgent := none

abbrev GraphNode := GraphInput → Except ProviderError GraphInput

/-- The inner function `invoke` of `compile_langgraph`. -/
def invoke (host : Host) (provider : LLMProvider) (name : String) : GraphNode := fun raw =>
  (runNode host provider name (raw.state "langgraph" "langgraph" none)).map
    CoolProofState.channels

/-- A node that returns has absorbed an output. -/
theorem invoke_ok {host : Host} {provider : LLMProvider} {name : String}
    {before after : GraphInput} (h : invoke host provider name before = .ok after) :
    ∃ output, after =
      (absorb host name output (before.state "langgraph" "langgraph" none)).channels := by
  unfold invoke runNode at h
  cases answer : provider name (before.state "langgraph" "langgraph" none).context with
  | error e =>
    rw [answer] at h
    cases h
  | ok output =>
    rw [answer] at h
    cases h
    exact ⟨output, rfl⟩

/-- LangGraph's `ainvoke` of nodes that are joined one to the next. -/
abbrev LangGraph := List GraphNode → GraphInput → Except ProviderError GraphInput

/-- The nodes run in order, each on what the one before left in the channels, and the first
to raise ends the graph. -/
def LangGraph.RunsInOrder (graph : LangGraph) : Prop :=
  ∀ nodes channels, graph nodes channels = nodes.foldlM (fun raw node => node raw) channels

/-! ## Execution -/

structure Runtime where
  host : Host
  collate : String → String → Bool
  graph : LangGraph

/-- What an execution meets: the tables it is grounded in, the time, and its provider. -/
structure Surroundings where
  tables : GroundingTables
  now : Instant
  provider : LLMProvider

inductive ExecutionError where
  | grounding (error : GroundingError)
  | graph (error : ProviderError)

/-- The part of `execute_run` whose exceptions become a failed run. -/
def runGraph (rt : Runtime) (env : Surroundings) (run : AgentRun) (state : CoolProofState) :
    Except ExecutionError CoolProofState :=
  match resolveGrounding rt.collate env.tables run.organizationId run.projectId run.inputJson
      env.now with
  | .error e => .error (.grounding e)
  | .ok grounding =>
      match rt.graph (agentNames.map (invoke rt.host env.provider))
          { state with grounding := grounding }.channels with
      | .error e => .error (.graph e)
      | .ok result => .ok (result.state (Uuid.toString run.id) (Uuid.toString run.organizationId)
          (run.projectId.map Uuid.toString))

inductive Failure where
  | api (error : APIError)
  | invalidBody
  | unhandled

/-- One transaction: its event has the next number when it commits. -/
def AgentStore.transact (s : AgentStore) {run : AgentRun} (draft : Draft run) : AgentStore :=
  s.commit run draft (s.nextSequence run.id)

/-- The loop over `AGENT_NAMES`. -/
def completeNodes (state : CoolProofState) :
    List String → AgentStore → AgentRun → AgentStore × AgentRun
  | [], s, run => (s, run)
  | name :: names, s, run =>
      completeNodes state names (s.transact (completeNode state.dump name run))
        (completeNode state.dump name run).changed

/-- `execute_run`. A validation error of the state is raised before anything is caught. -/
def executeRun (rt : Runtime) (env : Surroundings) (s : AgentStore) (run : AgentRun) :
    AgentStore × Except Failure AgentRun :=
  let started := s.transact (startExecution run)
  let running := (startExecution run).changed
  match loadState running with
  | none => (started, .error .unhandled)
  | some state =>
      match runGraph rt env running state with
      | .error _ =>
          (started.transact (failExecution running), .ok (failExecution running).changed)
      | .ok final =>
          let (written, last) := completeNodes final agentNames started running
          (written.transact (awaitApproval last), .ok (awaitApproval last).changed)

/-! ## Requests -/

structure StartRequest extends NewRun where
  role : Role

structure RunOut where
  runId : String
  threadId : String
  status : String
  currentAgent : Option String
  revision : Nat
  state : Dict
  errorCode : Option String
deriving DecidableEq

/-- `_run_out` -/
def runOut (run : AgentRun) : RunOut where
  runId := Uuid.toString run.id
  threadId := run.threadId
  status := statusValue run.status
  currentAgent := run.currentNode
  revision := run.revision
  state := run.stateJson.filter fun entry => entry.1 ≠ "input"
  errorCode := run.errorCode

structure ApprovalOut where
  runId : String
  decision : String
  status : String
  revision : Nat
deriving DecidableEq

def insufficientRole : Failure :=
  .api ⟨403, "insufficient_role", "Your organization role cannot perform this action"⟩

/-- A project that is named is a project of the organization. -/
def projectFound (tables : GroundingTables) (organizationId : UUID) : Option UUID → Bool
  | some id => tables.projects.any fun p => p.id = id && p.organizationId = organizationId
  | none => true

/-- `start_agent_run`, with the executor as a parameter. -/
def startWith (execute : AgentStore → AgentRun → AgentStore × Except Failure AgentRun)
    (tables : GroundingTables) (s : AgentStore) (request : StartRequest) :
    AgentStore × Except Failure RunOut :=
  if request.role ∉ [Role.analyst, .manager, .admin] then (s, .error insufficientRole)
  else if projectFound tables request.organizationId request.projectId = false then
    (s, .error (.api ⟨404, "project_not_found", "Project was not found"⟩))
  else match createRun s request.toNewRun with
    | none => (s, .error .unhandled)
    | some made =>
        let (store, result) := execute made request.row
        (store, result.map runOut)

/-- `start_agent_run` -/
def startAgentRun (rt : Runtime) (env : Surroundings) (s : AgentStore) (request : StartRequest) :
    AgentStore × Except Failure RunOut := startWith (executeRun rt env) env.tables s request

/-- The pattern and the length limit of the body. -/
def ApprovalRequest.validBody (request : ApprovalRequest) : Bool :=
  ["approve", "reject", "revise"].contains request.decision &&
    decide ((request.comment.getD "").length ≤ 2000)

def approvalOut (run changed : AgentRun) (request : ApprovalRequest) : ApprovalOut where
  runId := Uuid.toString run.id
  decision := request.decision
  status := statusValue changed.status
  revision := run.revision

/-- `approve_agent_run`, with the executor as a parameter. -/
def approveWith (execute : AgentStore → AgentRun → AgentStore × Except Failure AgentRun)
    (s : AgentStore) (request : ApprovalRequest) (now : Instant) :
    AgentStore × Except Failure ApprovalOut :=
  if request.reviewerRole ∉ [Role.manager, .admin] then (s, .error insufficientRole)
  else if request.validBody = false then (s, .error .invalidBody)
  else match s.run request.runId with
    | none => (s, .error (.api ⟨404, "agent_run_not_found", "Agent run was not found"⟩))
    | some run =>
        match decideRun run request now with
        | .error e => (s, .error (.api e))
        | .ok draft =>
            if request.decision = "revise" then
              let (store, result) := execute (s.transact draft) draft.changed
              (store, result.map fun changed => approvalOut run changed request)
            else if request.decision = "approve" then
              match finalizeApprovedRun draft.changed with
              | .error e => (s.transact draft, .error (.api e))
              | .ok final => ((s.transact draft).transact final,
                  .ok (approvalOut run final.changed request))
            else (s.transact draft, .ok (approvalOut run draft.changed request))

/-- `approve_agent_run` -/
def approveAgentRun (rt : Runtime) (env : Surroundings) (s : AgentStore)
    (request : ApprovalRequest) (now : Instant) : AgentStore × Except Failure ApprovalOut :=
  approveWith (executeRun rt env) s request now

/-- A request, with what it meets if it executes the run. -/
inductive AgentRequest where
  | start (request : StartRequest) (env : Surroundings)
  | approve (request : ApprovalRequest) (now : Instant) (env : Surroundings)

def serve (rt : Runtime) (s : AgentStore) : AgentRequest → AgentStore
  | .start request env => (startAgentRun rt env s request).1
  | .approve request now env => (approveAgentRun rt env s request now).1

/-- Requests that do not overlap, from the empty store. -/
def serveAll (rt : Runtime) (requests : List AgentRequest) : AgentStore :=
  requests.foldl (serve rt) AgentStore.empty

/-! ## A request as a session -/

theorem alone_commit (i : Nat) (s : AgentStore) {run : AgentRun} (draft : Draft run)
    (next : Option Stage) (rest : List AgentInput) :
    alone act i ((AgentDatabase.unlocked s).lock run.id)
        (.writing run draft (s.nextSequence run.id) next) (.commit :: rest) =
      alone act i (.unlocked (s.transact draft)) (proceed draft.changed next) rest := by
  have ended : act i ((AgentDatabase.unlocked s).lock run.id)
      (.writing run draft (s.nextSequence run.id) next) .commit =
        some (.unlocked (s.transact draft), proceed draft.changed next) := by
    rw [act, AgentDatabase.release_lock]
    rfl
  rw [alone, ended, Option.bind_some]

/-- A transaction that nobody interrupts. -/
theorem alone_transact (i : Nat) (s : AgentStore) {run : AgentRun} (stage : Stage)
    {draft : Draft run} (prepared : stage.draft run = some draft) (rest : List AgentInput) :
    alone act i (.unlocked s) (.ready run stage) (.prepare :: .commit :: rest) =
      alone act i (.unlocked (s.transact draft)) (proceed draft.changed stage.next) rest := by
  have begun : act i (.unlocked s) (.ready run stage) .prepare =
      some ((AgentDatabase.unlocked s).lock run.id,
        .writing run draft (s.nextSequence run.id) stage.next) := by
    simp [act, prepared, AgentDatabase.unlocked]
  rw [alone, begun, Option.bind_some, alone_commit]

theorem completeNodes_alone (i : Nat) (state : CoolProofState) (names : List String)
    (s : AgentStore) (run : AgentRun) :
    ∃ inputs, alone act i (.unlocked s) (.ready run (.checkpoints state.dump names)) inputs =
      some (.unlocked ((completeNodes state names s run).1.transact
        (awaitApproval (completeNodes state names s run).2)), .idle) := by
  induction names generalizing s run with
  | nil => exact ⟨[.prepare, .commit], alone_transact i s (.checkpoints state.dump []) rfl []⟩
  | cons name names ih =>
    obtain ⟨inputs, done⟩ := ih (s.transact (completeNode state.dump name run))
      (completeNode state.dump name run).changed
    refine ⟨.prepare :: .commit :: inputs, ?_⟩
    rw [alone_transact i s (.checkpoints state.dump (name :: names)) rfl]
    exact done

theorem executeRun_alone (rt : Runtime) (env : Surroundings) (i : Nat) (s : AgentStore)
    (run : AgentRun) : ∃ inputs, alone act i (.unlocked s) (.ready run .execute) inputs =
      some (.unlocked (executeRun rt env s run).1, .idle) := by
  have starts : ∀ rest,
      alone act i (.unlocked s) (.ready run .execute) (.prepare :: .commit :: rest) =
      alone act i (.unlocked (s.transact (startExecution run)))
        (.ready (startExecution run).changed .invoke) rest := alone_transact i s .execute rfl
  unfold executeRun
  dsimp only
  cases loadState (startExecution run).changed with
  | none => exact ⟨[.prepare, .commit, .abandon], starts _⟩
  | some state =>
    dsimp only
    cases runGraph rt env (startExecution run).changed state with
    | error e =>
      refine ⟨[.prepare, .commit, .invoked none, .prepare, .commit], (starts _).trans ?_⟩
      exact alone_transact i _ .fail rfl []
    | ok final =>
      obtain ⟨inputs, done⟩ := completeNodes_alone i final agentNames
        (s.transact (startExecution run)) (startExecution run).changed
      exact ⟨.prepare :: .commit :: .invoked (some final.dump) :: inputs, (starts _).trans done⟩

theorem startAgentRun_alone (rt : Runtime) (env : Surroundings) (i : Nat) (s : AgentStore)
    (request : StartRequest) : ∃ inputs, alone act i (.unlocked s) .idle inputs =
      some (.unlocked (startAgentRun rt env s request).1, .idle) := by
  unfold startAgentRun startWith
  split
  · exact ⟨[], rfl⟩
  split
  · exact ⟨[], rfl⟩
  cases create : createRun s request.toNewRun with
  | none => exact ⟨[], rfl⟩
  | some made =>
    obtain ⟨inputs, done⟩ := executeRun_alone rt env i made request.row
    refine ⟨.start request.toNewRun :: inputs, ?_⟩
    simpa [alone, act, create, AgentDatabase.unlocked] using done

theorem approveAgentRun_alone (rt : Runtime) (env : Surroundings) (i : Nat) (s : AgentStore)
    (request : ApprovalRequest) (now : Instant) : ∃ inputs, alone act i (.unlocked s) .idle inputs =
      some (.unlocked (approveAgentRun rt env s request now).1, .idle) := by
  unfold approveAgentRun approveWith
  split
  · exact ⟨[], rfl⟩
  split
  · exact ⟨[], rfl⟩
  cases found : s.run request.runId with
  | none => exact ⟨[], rfl⟩
  | some run =>
    dsimp only
    cases decided : decideRun run request now with
    | error e => exact ⟨[], rfl⟩
    | ok draft =>
      have decides : ∀ rest,
          alone act i (.unlocked s) .idle (.read request :: .decide now :: .commit :: rest) =
          alone act i (.unlocked (s.transact draft))
            (proceed draft.changed (afterDecision request.decision)) rest := by
        intro rest
        have read : act i (.unlocked s) .idle (.read request) =
            some (.unlocked s, .loaded run request) := by
          simp [act, AgentDatabase.unlocked, found]
        have taken : act i (.unlocked s) (.loaded run request) (.decide now) =
            some ((AgentDatabase.unlocked s).lock run.id, .writing run draft
              (s.nextSequence run.id) (afterDecision request.decision)) := by
          simp [act, AgentDatabase.unlocked, decided]
        rw [alone, read, Option.bind_some, alone, taken, Option.bind_some, alone_commit]
      dsimp only
      split
      · rename_i revise
        obtain ⟨inputs, done⟩ := executeRun_alone rt env i (s.transact draft) draft.changed
        rw [revise] at decides
        exact ⟨_, (decides inputs).trans done⟩
      split
      · rename_i approve
        rw [approve] at decides
        cases final : finalizeApprovedRun draft.changed with
        | error e => exact ⟨_, decides [.abandon]⟩
        | ok last =>
          have prepared : Stage.draft draft.changed .finalize = some last := by
            rw [Stage.draft, final]
            rfl
          exact ⟨_, (decides [.prepare, .commit]).trans (alone_transact i _ .finalize prepared [])⟩
      · rename_i revise approve
        have nothing : afterDecision request.decision = none := by
          unfold afterDecision
          split <;> simp_all
        rw [nothing] at decides
        exact ⟨_, decides []⟩

/-- A served request does what one session does when no other session moves. -/
theorem serve_alone (rt : Runtime) (i : Nat) (s : AgentStore) (request : AgentRequest) :
    ∃ inputs, alone act i (.unlocked s) .idle inputs =
      some (.unlocked (serve rt s request), .idle) := by
  cases request with
  | start request env => exact startAgentRun_alone rt env i s request
  | approve request now env => exact approveAgentRun_alone rt env i s request now

/-- So every list of requests is one of the interleavings. -/
theorem serve_uninterrupted (rt : Runtime) (i : Nat) (c : System AgentDatabase AgentSession)
    (request : AgentRequest) (idle : c.locals i = .idle) (free : c.shared.locked = []) :
    ∃ transitions d, Runs.Run AgentStep c transitions d ∧
      (∀ x ∈ transitions, x.label.session = i) ∧
      d.shared = .unlocked (serve rt c.shared.toAgentStore request) := by
  obtain ⟨inputs, taken⟩ := serve_alone rt i c.shared.toAgentStore request
  have shared : c.shared = .unlocked c.shared.toAgentStore := by
    rw [AgentDatabase.unlocked, ← free]
  rw [← idle, ← shared] at taken
  obtain ⟨transitions, d, run, shared, mine⟩ := run_alone taken
  exact ⟨transitions, d, run, mine, shared⟩

end CoolProof.Agents
