import CoolProof.Grounding

/-! The durable side of an agent run: the row, its events, approvals and audit records,
and what each transaction of the runtime changes. A draft is what a request has in memory
between its reading of the event log and its commit. -/

namespace CoolProof.Agents
open Calendar JsonDocument Uuid Models Tables

structure APIError where
  statusCode : Nat
  code : String
  message : String
deriving DecidableEq

/-- `AGENT_NAMES` -/
def agentNames : List String :=
  ["heat_intelligence", "intervention_analyst", "portfolio", "verification"]

def statusValue : AgentRunStatus → String
  | .queued => "queued"
  | .running => "running"
  | .waitingApproval => "waiting_approval"
  | .approved => "approved"
  | .rejected => "rejected"
  | .completed => "completed"
  | .failed => "failed"

/-! ## The store -/

structure AgentTables where
  runs : List AgentRun
  events : List AgentEvent
  approvals : List AgentApproval
  audits : List AuditEvent

/-- The committed tables; the id of a run is its primary key. -/
structure AgentStore extends AgentTables where
  primaryKey : (runs.map AgentRun.id).Nodup

def AgentStore.empty : AgentStore where
  runs := []
  events := []
  approvals := []
  audits := []
  primaryKey := List.nodup_nil

def AgentTables.run (t : AgentTables) (id : UUID) : Option AgentRun := find AgentRun.id id t.runs

/-- The approvals of a run in the order of their commits. -/
def AgentTables.approvalsOf (t : AgentTables) (id : UUID) : List AgentApproval :=
  t.approvals.filter fun a => a.runId = id

/-- `int(max_sequence or 0) + 1` over the events of a run. -/
def AgentTables.nextSequence (t : AgentTables) (runId : UUID) : Nat :=
  ((t.events.filter fun e => e.runId = runId).map AgentEvent.sequence).foldl max 0 + 1

/-! ## Drafts -/

/-- The run as a transaction changes it, the event that goes with the change, and for a
decision its approval and audit rows. -/
structure Draft (run : AgentRun) where
  changed : AgentRun
  sameRow : changed.id = run.id
  eventType : String
  node : Option String
  payload : Dict
  summary : String
  approval : Option AgentApproval
  audit : Option AuditEvent

def Draft.event {run : AgentRun} (draft : Draft run) (sequence : Nat) : AgentEvent where
  runId := run.id
  organizationId := run.organizationId
  sequence := sequence
  eventType := draft.eventType
  node := draft.node
  payloadJson := draft.payload
  safeSummary := draft.summary

/-- A transaction with an event and neither approval nor audit record. -/
def progress (run changed : AgentRun) (sameRow : changed.id = run.id) (eventType : String)
    (node : Option String) (payload : Dict) (summary : String) : Draft run :=
  ⟨changed, sameRow, eventType, node, payload, summary, none, none⟩

/-- The first transaction of `execute_run`. -/
def startExecution (run : AgentRun) : Draft run :=
  progress run { run with status := .running } rfl "run.started" none [] "Run started"

/-- The checkpoint written after a node: the dumped state, which has neither of the two
keys that are added to it. -/
def checkpoint (state : Dict) (name : String) (run : AgentRun) : Dict :=
  state ++ [("checkpoint_node", .str name), ("checkpoint_thread_id", .str run.threadId)]

/-- One turn of the loop over `AGENT_NAMES`. -/
def completeNode (state : Dict) (name : String) (run : AgentRun) : Draft run :=
  progress run
    { run with
      currentNode := some name
      revision := run.revision + 1
      stateJson := checkpoint state name run }
    rfl "node.completed" (some name)
    [("revision", .int (run.revision + 1)), ("thread_id", .str run.threadId)]
    (name ++ " completed")

def awaitApproval (run : AgentRun) : Draft run :=
  progress run { run with status := .waitingApproval } rfl "approval.required" none []
    "Manager approval required"

/-- The handler of `execute_run`, whatever was raised. -/
def failExecution (run : AgentRun) : Draft run :=
  progress run
    { run with
      status := .failed
      errorCode := some "agent_run_failed"
      errorMessage := some "Agent execution failed" }
    rfl "run.failed" run.currentNode [] "Agent execution failed"

/-- `finalize_approved_run` -/
def finalizeApprovedRun (run : AgentRun) : Except APIError (Draft run) :=
  if run.status = .approved then
    .ok (progress run { run with status := .completed, currentNode := some "verification" } rfl
      "run.completed" (some "verification") [] "Approved run finalized")
  else .error ⟨409, "approval_not_available", "Only an approved run can be finalized"⟩

/-! ## Decisions -/

/-- The body of an approval request with the reviewer's tenant context. -/
structure ApprovalRequest where
  runId : UUID
  organizationId : UUID
  reviewerUserId : UUID
  reviewerRole : Role
  decision : String
  comment : Option String
deriving DecidableEq

def decisionStatus : String → Option AgentRunStatus
  | "approve" => some .approved
  | "reject" => some .rejected
  | "revise" => some .queued
  | _ => none

def decisionEvent (decision : String) : String :=
  if decision ≠ "revise" then "run." ++ decision ++ "d" else "run.revision_requested"

def approvalOf (run : AgentRun) (request : ApprovalRequest) : AgentApproval where
  runId := run.id
  organizationId := request.organizationId
  decision := request.decision
  reviewerUserId := request.reviewerUserId
  comment := request.comment
  revision := run.revision

def decisionAudit (run : AgentRun) (request : ApprovalRequest) (now : Instant) : AuditEvent where
  organizationId := request.organizationId
  actorUserId := some request.reviewerUserId
  eventType := "agent_run." ++ request.decision
  resourceType := "agent_run"
  resourceId := Uuid.toString run.id
  metadata := [("revision", .int run.revision)]
  occurredAt := now

/-- `decide_run`, up to its commit -/
def decideRun (run : AgentRun) (request : ApprovalRequest) (now : Instant) :
    Except APIError (Draft run) :=
  if request.reviewerRole ≠ .manager ∧ request.reviewerRole ≠ .admin then
    .error ⟨403, "approval_role_required", "Only managers or admins may approve agent runs"⟩
  else if run.organizationId ≠ request.organizationId then
    .error ⟨404, "agent_run_not_found", "Agent run was not found"⟩
  else if run.status ≠ .waitingApproval then
    .error ⟨409, "approval_not_available", "This run is not awaiting approval"⟩
  else match decisionStatus request.decision with
    | none =>
        .error ⟨422, "invalid_approval_decision", "Decision must be approve, reject, or revise"⟩
    | some status => .ok {
        changed := { run with status := status }
        sameRow := rfl
        eventType := decisionEvent request.decision
        node := none
        payload := []
        summary := "Run " ++ request.decision ++ "d"
        approval := some (approvalOf run request)
        audit := some (decisionAudit run request now) }

/-! ## Commits -/

/-- Only columns that the transaction changed are written. -/
def flushRun (loaded changed stored : AgentRun) : AgentRun where
  id := stored.id
  organizationId := stored.organizationId
  projectId := stored.projectId
  threadId := stored.threadId
  status := flush loaded.status changed.status stored.status
  inputJson := stored.inputJson
  stateJson := flush loaded.stateJson changed.stateJson stored.stateJson
  currentNode := flush loaded.currentNode changed.currentNode stored.currentNode
  revision := flush loaded.revision changed.revision stored.revision
  errorCode := flush loaded.errorCode changed.errorCode stored.errorCode
  errorMessage := flush loaded.errorMessage changed.errorMessage stored.errorMessage

def mergeRun (loaded changed : AgentRun) (runs : List AgentRun) : List AgentRun :=
  match find AgentRun.id loaded.id runs with
  | some stored => update AgentRun.id (flushRun loaded changed stored) runs
  | none => runs

theorem mergeRun_ids (loaded changed : AgentRun) (runs : List AgentRun) :
    (mergeRun loaded changed runs).map AgentRun.id = runs.map AgentRun.id := by
  unfold mergeRun
  split
  · exact map_update ..
  · rfl

def AgentStore.commit (s : AgentStore) (run : AgentRun) (draft : Draft run) (sequence : Nat) :
    AgentStore where
  runs := mergeRun run draft.changed s.runs
  events := s.events ++ [draft.event sequence]
  approvals := s.approvals ++ draft.approval.toList
  audits := s.audits ++ draft.audit.toList
  primaryKey := by
    rw [mergeRun_ids]
    exact s.primaryKey

@[simp] theorem AgentStore.run_commit (s : AgentStore) (run : AgentRun) (draft : Draft run)
    (sequence : Nat) (id : UUID) : (s.commit run draft sequence).run id =
      if id = run.id then (s.run id).map (flushRun run draft.changed) else s.run id := by
  change find AgentRun.id id (mergeRun run draft.changed s.runs) = _
  unfold mergeRun AgentTables.run
  cases stored : find AgentRun.id run.id s.runs with
  | none =>
    by_cases same : id = run.id
    · simp [same, stored]
    · simp [same]
  | some row =>
    have owner : (flushRun run draft.changed row).id = run.id := (find_some stored).2
    rw [find_update, owner]
    by_cases same : id = run.id
    · simp [same, stored]
    · simp [same]

@[simp] theorem AgentStore.approvalsOf_commit (s : AgentStore) (run : AgentRun)
    (draft : Draft run) (sequence : Nat) (id : UUID) :
    (s.commit run draft sequence).approvalsOf id =
      s.approvalsOf id ++ draft.approval.toList.filter fun a => a.runId = id := by
  simp [AgentTables.approvalsOf, AgentStore.commit]

/-! ## Creation -/

/-- A request to start a run, with the identifiers drawn for it. -/
structure NewRun where
  id : UUID
  organizationId : UUID
  projectId : Option UUID
  threadId : String
  inputData : Dict

def NewRun.row (new : NewRun) : AgentRun where
  id := new.id
  organizationId := new.organizationId
  projectId := new.projectId
  threadId := new.threadId
  status := .queued
  inputJson := Grounding.safeInputReferences new.inputData
  stateJson := [("input", .obj (Grounding.safeInputReferences new.inputData))]
  currentNode := none
  revision := 0
  errorCode := none
  errorMessage := none

def created (run : AgentRun) : Draft run :=
  progress run run rfl "run.created" none [("status", .str (statusValue run.status))] "Run queued"

/-- `create_run`; an id that is taken is an IntegrityError. -/
def createRun (s : AgentStore) (new : NewRun) : Option AgentStore :=
  if fresh : s.run new.id = none then
    some {
      runs := s.runs ++ [new.row]
      events := s.events ++ [(created new.row).event (s.nextSequence new.id)]
      approvals := s.approvals
      audits := s.audits
      primaryKey := by
        rw [List.map_append, List.nodup_append]
        refine ⟨s.primaryKey, List.nodup_singleton _, ?_⟩
        intro id member other last
        rw [List.map_singleton, List.mem_singleton] at last
        have owner : other = new.id := last
        obtain ⟨r, stored, rfl⟩ := List.mem_map.mp member
        rw [owner]
        exact find_eq_none.mp fresh r stored }
  else none

theorem createRun_some {s t : AgentStore} {new : NewRun} (h : createRun s new = some t) :
    s.run new.id = none ∧
      (∀ id, t.run id = if id = new.id then some new.row else s.run id) ∧
      t.approvals = s.approvals := by
  unfold createRun at h
  split at h
  · rename_i fresh
    cases h
    refine ⟨fresh, fun id => ?_, rfl⟩
    have owner : new.row.id = new.id := rfl
    change find AgentRun.id id (s.runs ++ [new.row]) = _
    rw [find_append, owner]
    by_cases same : id = new.id
    · have missing : find AgentRun.id new.id s.runs = none := fresh
      simp [missing, same]
    · simp [Ne.symm same, same, AgentTables.run]
  · cases h

end CoolProof.Agents
