import CoolProof.AgentExecution

/-! The lifecycle of an agent run. Status, revision, event log and approvals are written in
different places; when requests do not overlap, all four follow one history: how often the
run was revised, and how it stands. -/

namespace CoolProof.Agents
open Calendar JsonDocument Uuid Models Tables Grounding Replay

/-! ## Histories -/

/-- An event of the log: its type and its node. -/
abbrev Entry := String × Option String

inductive Ending where
  | failed
  | waiting
  | rejected
  | completed
deriving DecidableEq

/-- Every execution before the last reached the approval gate and was sent back. -/
structure History where
  revised : Nat
  ending : Ending
deriving DecidableEq

def nodeEntries (names : List String) : List Entry :=
  names.map fun name => ("node.completed", some name)

/-- An execution that reaches the approval gate. -/
def gatedEntries : List Entry :=
  ("run.started", none) :: (nodeEntries agentNames ++ [("approval.required", none)])

/-- An execution that fails; the run still stands at the node it was last at. -/
def failedEntries (node : Option String) : List Entry :=
  [("run.started", none), ("run.failed", node)]

/-- The node a run stands at before its next execution. -/
def nodeBefore (revised : Nat) : Option String :=
  if revised = 0 then none else some "verification"

def Ending.log (revised : Nat) : Ending → List Entry
  | .failed => failedEntries (nodeBefore revised)
  | .waiting => gatedEntries
  | .rejected => gatedEntries ++ [("run.rejectd", none)]
  | .completed => gatedEntries ++ [("run.approved", none), ("run.completed", some "verification")]

/-- A revised execution with the request to revise it. -/
def revisedEntries : List Entry := gatedEntries ++ [("run.revision_requested", none)]

def History.log (h : History) : List Entry :=
  ("run.created", none) ::
    ((List.replicate h.revised revisedEntries).flatten ++ h.ending.log h.revised)

def Ending.status : Ending → AgentRunStatus
  | .failed => .failed
  | .waiting => .waitingApproval
  | .rejected => .rejected
  | .completed => .completed

/-- The executions that reached the approval gate. -/
def History.gated (h : History) : Nat := if h.ending = .failed then h.revised else h.revised + 1

def Ending.decision : Ending → Option String
  | .failed | .waiting => none
  | .rejected => some "reject"
  | .completed => some "approve"

/-- The decisions on a run, in order. -/
def History.decisions (h : History) : List String :=
  List.replicate h.revised "revise" ++ h.ending.decision.toList

/-- The decisions with their revisions: four nodes for each execution before. -/
def History.approvals (h : History) : List (String × Nat) :=
  h.decisions.mapIdx fun k decision => (decision, 4 * (k + 1))

/-- The status that the last event of a log leaves. -/
def statusOfLog (log : List Entry) : Option AgentRunStatus :=
  match log.getLast?.map Prod.fst with
  | some "run.failed" => some .failed
  | some "approval.required" => some .waitingApproval
  | some "run.rejectd" => some .rejected
  | some "run.completed" => some .completed
  | _ => none

/-- A run that waits is rejected, completed, or revised and executed again. -/
inductive History.Next : History → String → History → Prop where
  | rejected (revised : Nat) : Next ⟨revised, .waiting⟩ "reject" ⟨revised, .rejected⟩
  | completed (revised : Nat) : Next ⟨revised, .waiting⟩ "approve" ⟨revised, .completed⟩
  | gated (revised : Nat) : Next ⟨revised, .waiting⟩ "revise" ⟨revised + 1, .waiting⟩
  | failed (revised : Nat) : Next ⟨revised, .waiting⟩ "revise" ⟨revised + 1, .failed⟩

/-- A run that failed, was rejected or completed has no next step. -/
theorem History.Next.waiting {h h' : History} {decision : String}
    (next : History.Next h decision h') : h.ending = .waiting := by cases next <;> rfl

theorem History.Next.decisions {h h' : History} {decision : String}
    (next : History.Next h decision h') : h'.decisions = h.decisions ++ [decision] := by
  cases next with
  | rejected | completed => simp [History.decisions, Ending.decision]
  | gated | failed => simp [History.decisions, Ending.decision, List.replicate_succ']

/-- Each decision is on the executions that reached the gate before it. -/
theorem History.Next.approvals {h h' : History} {decision : String}
    (next : History.Next h decision h') :
    h'.approvals = h.approvals ++ [(decision, 4 * h.gated)] := by
  have before : h.decisions.length + 1 = h.gated := by
    cases next <;> simp [History.decisions, Ending.decision, History.gated]
  rw [History.approvals, next.decisions, List.mapIdx_append, History.approvals, ← before]
  simp

theorem History.log_rejected (revised : Nat) : History.log ⟨revised, .rejected⟩ =
    History.log ⟨revised, .waiting⟩ ++ [("run.rejectd", none)] := by
  simp [History.log, Ending.log]

theorem History.log_completed (revised : Nat) : History.log ⟨revised, .completed⟩ =
    History.log ⟨revised, .waiting⟩ ++
      [("run.approved", none), ("run.completed", some "verification")] := by
  simp [History.log, Ending.log]

theorem History.log_revised (revised : Nat) (ending : Ending) :
    History.log ⟨revised + 1, ending⟩ = History.log ⟨revised, .waiting⟩ ++
      ("run.revision_requested", none) :: ending.log (revised + 1) := by
  simp [History.log, revisedEntries, Ending.log, List.replicate_succ']

theorem statusOfLog_append (log : List Entry) (e : Entry) :
    statusOfLog (log ++ [e]) = statusOfLog [e] := by
  unfold statusOfLog
  rw [List.getLast?_append]
  rfl

/-- The status is a function of the log. -/
theorem statusOfLog_log (h : History) : statusOfLog h.log = some h.ending.status := by
  obtain ⟨revised, ending⟩ := h
  have last : ∃ front e, History.log ⟨revised, ending⟩ = front ++ [e] ∧
      statusOfLog [e] = some ending.status := by
    cases ending with
    | failed =>
      exact ⟨("run.created", none) :: ((List.replicate revised revisedEntries).flatten ++
        [("run.started", none)]), ("run.failed", nodeBefore revised),
        by simp [History.log, Ending.log, failedEntries], rfl⟩
    | waiting =>
      exact ⟨("run.created", none) :: ((List.replicate revised revisedEntries).flatten ++
        ("run.started", none) :: nodeEntries agentNames), ("approval.required", none),
        by simp [History.log, Ending.log, gatedEntries], rfl⟩
    | rejected => exact ⟨_, _, History.log_rejected revised, rfl⟩
    | completed =>
      exact ⟨History.log ⟨revised, .waiting⟩ ++ [("run.approved", none)], _,
        by rw [History.log_completed, List.append_assoc]; rfl, rfl⟩
  obtain ⟨front, e, split, status⟩ := last
  rw [split, statusOfLog_append, status]

/-! ## What the store says of a run -/

def AgentTables.logOf (t : AgentTables) (id : UUID) : List Entry :=
  (t.eventsOf id).map fun e => (e.eventType, e.node)

/-- The records of a run are the same in both stores. -/
structure Untouched (id : UUID) (s t : AgentStore) : Prop where
  row : t.run id = s.run id
  events : t.eventsOf id = s.eventsOf id
  approvals : t.approvalsOf id = s.approvalsOf id

/-- One run becomes `changed` and gains events and approvals; other runs are untouched. -/
structure Moves (s t : AgentStore) (changed : AgentRun) (entries : List Entry)
    (given : List AgentApproval) : Prop where
  row : t.run changed.id = some changed
  log : t.logOf changed.id = s.logOf changed.id ++ entries
  inOrder : InOrder changed.id s → InOrder changed.id t
  approvals : t.approvalsOf changed.id = s.approvalsOf changed.id ++ given
  others : ∀ id, id ≠ changed.id → Untouched id s t

theorem Untouched.refl (id : UUID) (s : AgentStore) : Untouched id s s := ⟨rfl, rfl, rfl⟩

theorem Untouched.trans {id : UUID} {s t u : AgentStore} (first : Untouched id s t)
    (second : Untouched id t u) : Untouched id s u :=
  ⟨second.row.trans first.row, second.events.trans first.events,
    second.approvals.trans first.approvals⟩

theorem Moves.trans {s t u : AgentStore} {a b : AgentRun} {e f : List Entry}
    {g k : List AgentApproval} (first : Moves s t a e g) (second : Moves t u b f k)
    (same : b.id = a.id) : Moves s u b (e ++ f) (g ++ k) where
  row := second.row
  log := by rw [second.log, same, first.log, List.append_assoc]
  inOrder := fun before => second.inOrder (same ▸ first.inOrder (same ▸ before))
  approvals := by rw [second.approvals, same, first.approvals, List.append_assoc]
  others := fun id other => (first.others id (same ▸ other)).trans (second.others id other)

/-! ## Transactions -/

/-- The columns that no transaction changes. -/
def runColumns (run : AgentRun) : UUID × UUID × Option UUID × String × Dict :=
  (run.id, run.organizationId, run.projectId, run.threadId, run.inputJson)

theorem flushRun_loaded {loaded changed : AgentRun} (same : runColumns changed = runColumns loaded) :
    flushRun loaded changed loaded = changed := by
  simp only [runColumns, Prod.mk.injEq] at same
  obtain ⟨id, organization, project, thread, input⟩ := same
  cases changed
  simp_all [flushRun, flush]

theorem events_transact (s : AgentStore) {run : AgentRun} (draft : Draft run) :
    (s.transact draft).events = s.events ++ [draft.event (s.nextSequence run.id)] := rfl

/-- A transaction on a stored run, with the approvals of that run only. -/
theorem moves_transact {s : AgentStore} {run : AgentRun} (draft : Draft run)
    (stored : s.run run.id = some run) (same : runColumns draft.changed = runColumns run)
    (own : ∀ a ∈ draft.approval, a.runId = run.id) :
    Moves s (s.transact draft) draft.changed [(draft.eventType, draft.node)]
      draft.approval.toList where
  row := by
    have written := AgentStore.run_commit s run draft (s.nextSequence run.id) draft.changed.id
    rw [if_pos draft.sameRow, draft.sameRow, stored] at written
    rw [draft.sameRow]
    exact written.trans (congrArg some (flushRun_loaded same))
  log := by
    have owner : (draft.event (s.nextSequence run.id)).runId = draft.changed.id :=
      draft.sameRow.symm
    unfold AgentTables.logOf
    rw [eventsOf_append (events_transact s draft), if_pos owner, List.map_append]
    rfl
  inOrder := fun before => by
    refine before.append (events_transact s draft) fun _ => ?_
    rw [draft.sameRow]
    rfl
  approvals := by
    have appended := AgentStore.approvalsOf_commit s run draft (s.nextSequence run.id)
      draft.changed.id
    refine appended.trans (congrArg _ (List.filter_eq_self.mpr fun a given => ?_))
    have owner := own a (Option.mem_toList.mp given)
    rw [draft.sameRow, owner]
    exact decide_eq_true rfl
  others := fun id other => by
    rw [draft.sameRow] at other
    have written := AgentStore.run_commit s run draft (s.nextSequence run.id) id
    rw [if_neg other] at written
    refine ⟨written, ?_, ?_⟩
    · have owner : (draft.event (s.nextSequence run.id)).runId ≠ id := Ne.symm other
      rw [eventsOf_append (events_transact s draft), if_neg owner]
    · refine (AgentStore.approvalsOf_commit s run draft _ id).trans ?_
      rw [List.filter_eq_nil_iff.mpr, List.append_nil]
      intro a given mine
      have owner := own a (Option.mem_toList.mp given)
      rw [owner] at mine
      exact other (of_decide_eq_true mine).symm

/-! ## Executions -/

theorem Moves.refl {s : AgentStore} {run : AgentRun} (stored : s.run run.id = some run) :
    Moves s s run [] [] where
  row := stored
  log := (List.append_nil _).symm
  inOrder := id
  approvals := (List.append_nil _).symm
  others := fun id _ => .refl id s

/-- A transaction that is no decision. -/
theorem moves_progress {s : AgentStore} {run : AgentRun} (draft : Draft run)
    (stored : s.run run.id = some run) (same : runColumns draft.changed = runColumns run)
    (none_given : draft.approval = none) :
    Moves s (s.transact draft) draft.changed [(draft.eventType, draft.node)] [] := by
  have moves := moves_transact draft stored same (by simp [none_given])
  rwa [none_given] at moves

theorem completeNodes_moves (state : CoolProofState) (names : List String) {s : AgentStore}
    {run : AgentRun} (stored : s.run run.id = some run) :
    Moves s (completeNodes state names s run).1 (completeNodes state names s run).2
        (nodeEntries names) [] ∧
      (completeNodes state names s run).2.id = run.id := by
  induction names generalizing s run with
  | nil => exact ⟨.refl stored, rfl⟩
  | cons name names ih =>
    have first := moves_progress (completeNode state.dump name run) stored rfl rfl
    obtain ⟨later, same⟩ := ih first.row
    exact ⟨first.trans later same, same⟩

/-- The row of a run that reaches the gate. -/
def gatedRun (final : CoolProofState) (run : AgentRun) : AgentRun :=
  { run with
    status := .waitingApproval
    currentNode := some "verification"
    revision := run.revision + 4
    stateJson := checkpoint final.dump "verification" run }

def failedRun (run : AgentRun) : AgentRun :=
  { run with
    status := .failed
    errorCode := some "agent_run_failed"
    errorMessage := some "Agent execution failed" }

/-- How an execution ends, with the row and the events it leaves. -/
inductive Executed (rt : Runtime) (env : Surroundings) (run : AgentRun)
    (state : CoolProofState) : AgentRun → List Entry → Prop where
  | failed {e} : runGraph rt env run state = .error e →
      Executed rt env run state (failedRun run) (failedEntries run.currentNode)
  | gated {final} : runGraph rt env run state = .ok final →
      Executed rt env run state (gatedRun final run) gatedEntries

theorem executeRun_moves (rt : Runtime) (env : Surroundings) {s : AgentStore} {run : AgentRun}
    {state : CoolProofState} (stored : s.run run.id = some run)
    (loads : loadState run = some state) :
    ∃ changed entries, Moves s (executeRun rt env s run).1 changed entries [] ∧
      Executed rt env run state changed entries := by
  have starts := moves_progress (startExecution run) stored rfl rfl
  have loaded : loadState (startExecution run).changed = some state := loads
  simp only [executeRun, loaded]
  cases ran : runGraph rt env run state with
  | error e =>
    have same : runGraph rt env (startExecution run).changed state = .error e := ran
    have fails := moves_progress (failExecution (startExecution run).changed) starts.row rfl rfl
    refine ⟨failedRun run, _, ?_, .failed ran⟩
    simp only [same]
    exact starts.trans fails rfl
  | ok final =>
    have same : runGraph rt env (startExecution run).changed state = .ok final := ran
    obtain ⟨completes, owner⟩ := completeNodes_moves final agentNames starts.row
    have waits := moves_progress (awaitApproval _) completes.row rfl rfl
    refine ⟨gatedRun final run, _, ?_, .gated ran⟩
    simp only [same]
    exact starts.trans (completes.trans waits rfl) owner

/-! ## Decisions -/

theorem decideRun_checked {run : AgentRun} {request : ApprovalRequest} {now : Instant}
    {draft : Draft run} (h : decideRun run request now = .ok draft) :
    run.organizationId = request.organizationId ∧
      draft.changed = { run with status := draft.changed.status } ∧
      draft.eventType = decisionEvent request.decision ∧ draft.node = none := by
  unfold decideRun at h
  split at h
  · cases h
  split at h
  · cases h
  rename_i organization
  split at h
  · cases h
  split at h
  · cases h
  cases h
  exact ⟨not_not.mp organization, rfl, rfl, rfl⟩

/-- What follows a decision that is committed. -/
inductive Followed (rt : Runtime) (env : Surroundings) (run : AgentRun) :
    String → AgentRun → List Entry → Prop where
  | rejected : Followed rt env run "reject" { run with status := .rejected }
      [("run.rejectd", none)]
  | completed : Followed rt env run "approve"
      { run with status := .completed, currentNode := some "verification" }
      [("run.approved", none), ("run.completed", some "verification")]
  | revised {state changed entries} : loadState run = some state →
      Executed rt env { run with status := .queued } state changed entries →
      Followed rt env run "revise" changed (("run.revision_requested", none) :: entries)

/-- An approval request that changes anything was a decision on a waiting run of the
reviewer's organization. -/
structure Decision (request : ApprovalRequest) (run : AgentRun) : Prop where
  valid : request.validBody = true
  role : request.reviewerRole = .manager ∨ request.reviewerRole = .admin
  organization : request.organizationId = run.organizationId
  waiting : run.status = .waitingApproval

/-- Such a decision is not refused. -/
theorem Decision.decides {request : ApprovalRequest} {run : AgentRun}
    (decision : Decision request run) (now : Instant) :
    ∃ draft, decideRun run request now = .ok draft := by
  have role : ¬(request.reviewerRole ≠ .manager ∧ request.reviewerRole ≠ .admin) := by
    rcases decision.role with role | role <;> simp [role]
  have known : ∃ status, decisionStatus request.decision = some status := by
    have valid := decision.valid
    simp only [ApprovalRequest.validBody, Bool.and_eq_true, List.contains_iff_mem,
      List.mem_cons, List.not_mem_nil, or_false] at valid
    rcases valid.1 with text | text | text
    · exact ⟨.approved, by rw [text]; rfl⟩
    · exact ⟨.rejected, by rw [text]; rfl⟩
    · exact ⟨.queued, by rw [text]; rfl⟩
  obtain ⟨status, decided⟩ := known
  unfold decideRun
  rw [if_neg role, if_neg (not_not.mpr decision.organization.symm),
    if_neg (not_not.mpr decision.waiting), decided]
  exact ⟨_, rfl⟩

/-- The transaction of a decision writes its event and its approval. -/
theorem decideRun_moves {s : AgentStore} {run : AgentRun} {request : ApprovalRequest}
    {now : Instant} {draft : Draft run} (stored : s.run run.id = some run)
    (decided : decideRun run request now = .ok draft) :
    Moves s (s.transact draft) draft.changed [(decisionEvent request.decision, none)]
      [approvalOf run request] := by
  have decides := decideRun_ok decided
  obtain ⟨-, row, eventType, node⟩ := decideRun_checked decided
  have columns : runColumns draft.changed = runColumns run := by rw [row]; rfl
  have own : ∀ a ∈ draft.approval, a.runId = run.id := by
    intro a given
    rw [decides.approval] at given
    cases given
    rfl
  have moved := moves_transact draft stored columns own
  rwa [eventType, node, decides.approval] at moved

/-- The transaction that completes an approved run. -/
theorem finalizeApprovedRun_approved {run : AgentRun} (approved : run.status = .approved) :
    ∃ final, finalizeApprovedRun run = .ok final ∧
      final.changed = { run with status := .completed, currentNode := some "verification" } ∧
      (final.eventType, final.node) = ("run.completed", some "verification") ∧
      final.approval = none := by
  rw [finalizeApprovedRun, if_pos approved]
  exact ⟨_, rfl, rfl, rfl, rfl⟩

/-- An approval request changes nothing, or is a decision with all that follows from it. -/
theorem approve_moves (rt : Runtime) (env : Surroundings) {s : AgentStore}
    (request : ApprovalRequest) (now : Instant)
    (loads : ∀ run, s.run request.runId = some run → (loadState run).isSome) :
    ((approveAgentRun rt env s request now).1 = s ∧
        ∀ run, s.run request.runId = some run → ¬Decision request run) ∨
      ∃ run changed entries, s.run request.runId = some run ∧ Decision request run ∧
        Moves s (approveAgentRun rt env s request now).1 changed entries
          [approvalOf run request] ∧
        changed.id = run.id ∧ Followed rt env run request.decision changed entries := by
  unfold approveAgentRun approveWith
  split
  · rename_i role
    refine .inl ⟨rfl, fun run _ decision => role ?_⟩
    simpa using decision.role
  rename_i role
  split
  · rename_i invalid
    exact .inl ⟨rfl, fun run _ decision => by rw [decision.valid] at invalid; cases invalid⟩
  rename_i valid
  cases found : s.run request.runId with
  | none => exact .inl ⟨rfl, fun run missing => by cases missing⟩
  | some run =>
    dsimp only
    cases decided : decideRun run request now with
    | error e =>
      refine .inl ⟨rfl, fun other same decision => ?_⟩
      cases same
      obtain ⟨draft, allowed⟩ := decision.decides now
      rw [decided] at allowed
      cases allowed
    | ok draft =>
      right
      have owner : run.id = request.runId := (find_some found).2
      have stored : s.run run.id = some run := owner ▸ found
      have decides := decideRun_ok decided
      obtain ⟨organization, row, -, -⟩ := decideRun_checked decided
      have allowed := not_not.mp role
      have decision : Decision request run :=
        ⟨by simpa using valid, by simpa using allowed, organization.symm, decides.waiting⟩
      have moves := decideRun_moves stored decided
      have status : decisionStatus request.decision = some draft.changed.status :=
        decides.decision
      rcases decisionStatus_cases status with ⟨text, outcome⟩ | ⟨text, outcome⟩ | ⟨text, outcome⟩
      · obtain ⟨final, finalized, made, event, quiet⟩ := finalizeApprovedRun_approved outcome
        have last : final.changed =
            { run with status := .completed, currentNode := some "verification" } := by
          rw [made, row]
        have completes := moves_progress final moves.row (by rw [last, row]; rfl) quiet
        rw [event, last] at completes
        have both := moves.trans completes draft.sameRow.symm
        rw [text] at both
        simp only [text, String.reduceEq, if_false, if_true, finalized]
        exact ⟨run, _, _, rfl, decision, both, rfl, .completed⟩
      · rw [text] at moves
        simp only [text, String.reduceEq, if_false]
        refine ⟨run, draft.changed, _, rfl, decision, moves, draft.sameRow, ?_⟩
        rw [row, outcome]
        exact .rejected
      · obtain ⟨state, loaded⟩ := Option.isSome_iff_exists.mp (loads run found)
        have again : loadState draft.changed = some state := by rw [row]; exact loaded
        obtain ⟨changed, entries, executes, ends⟩ := executeRun_moves rt env moves.row again
        have same : changed.id = draft.changed.id := by cases ends <;> rfl
        rw [text] at moves
        simp only [text, if_true]
        refine ⟨run, changed, _, rfl, decision, moves.trans executes same,
          same.trans draft.sameRow, ?_⟩
        rw [row, outcome] at ends
        exact .revised loaded ends

/-! ## Starts -/

theorem start_moves (rt : Runtime) (env : Surroundings) {s : AgentStore} (request : StartRequest) :
    (startAgentRun rt env s request).1 = s ∨
      ∃ made state changed entries, createRun s request.toNewRun = some made ∧
        loadState request.row = some state ∧
        Moves made (startAgentRun rt env s request).1 changed entries [] ∧
        Executed rt env request.row state changed entries := by
  unfold startAgentRun startWith
  split
  · exact .inl rfl
  split
  · exact .inl rfl
  cases create : createRun s request.toNewRun with
  | none => exact .inl rfl
  | some made =>
    right
    obtain ⟨_, rows, _⟩ := createRun_some create
    have stored : made.run request.row.id = some request.row := (rows request.id).trans (if_pos rfl)
    obtain ⟨state, loads⟩ : ∃ state, loadState request.row = some state := ⟨_, rfl⟩
    obtain ⟨changed, entries, moves, ends⟩ := executeRun_moves rt env stored loads
    exact ⟨made, state, changed, entries, rfl, loads, moves, ends⟩

/-! ## The records of a run -/

/-- An approval row as the request asked for it, by a manager or an admin of the run's
organization. -/
structure Reviewed (row : AgentRun) (request : ApprovalRequest) (a : AgentApproval) : Prop where
  approval : a = { a with
    runId := row.id
    organizationId := row.organizationId
    decision := request.decision
    reviewerUserId := request.reviewerUserId
    comment := request.comment }
  run : request.runId = row.id
  organization : request.organizationId = row.organizationId
  role : request.reviewerRole = .manager ∨ request.reviewerRole = .admin

/-- The records of a stored run follow one history. -/
structure Lifecycle (asked : List ApprovalRequest) (s : AgentStore) (id : UUID) (row : AgentRun)
    (h : History) : Prop where
  stored : s.run id = some row
  log : s.logOf id = h.log
  numbered : Numbered AgentEvent.sequence (s.eventsOf id)
  status : statusOfLog (s.logOf id) = some row.status
  revision : row.revision = 4 * h.gated
  approvals : ((s.approvalsOf id).map fun a => (a.decision, a.revision)) = h.approvals
  reviewed : ∃ accepted, List.Sublist accepted asked ∧
    List.Forall₂ (Reviewed row) accepted (s.approvalsOf id)
  node : h.ending = .waiting → row.currentNode = some "verification"
  loads : (loadState row).isSome

/-- A run that was never created has no records. -/
structure Unstarted (s : AgentStore) (id : UUID) : Prop where
  missing : s.run id = none
  events : s.eventsOf id = []
  approvals : s.approvalsOf id = []

def Recorded (asked : List ApprovalRequest) (s : AgentStore) (id : UUID) : Prop :=
  Unstarted s id ∨ ∃ row h, Lifecycle asked s id row h

theorem Lifecycle.ending {asked : List ApprovalRequest} {s : AgentStore} {id : UUID}
    {row : AgentRun} {h : History} (lives : Lifecycle asked s id row h) :
    h.ending.status = row.status := by
  have status := lives.status
  rw [lives.log, statusOfLog_log] at status
  exact Option.some.inj status

theorem Untouched.unstarted {s t : AgentStore} {id : UUID} (untouched : Untouched id s t)
    (unstarted : Unstarted s id) : Unstarted t id :=
  ⟨untouched.row ▸ unstarted.missing, untouched.events ▸ unstarted.events,
    untouched.approvals ▸ unstarted.approvals⟩

theorem Untouched.lifecycle {asked : List ApprovalRequest} {s t : AgentStore} {id : UUID}
    {row : AgentRun} {h : History} (untouched : Untouched id s t)
    (lives : Lifecycle asked s id row h) (more : List ApprovalRequest) :
    Lifecycle (asked ++ more) t id row h := by
  have log : t.logOf id = s.logOf id := congrArg _ untouched.events
  obtain ⟨accepted, sublist, reviewed⟩ := lives.reviewed
  exact {
    stored := untouched.row ▸ lives.stored
    log := log ▸ lives.log
    numbered := untouched.events ▸ lives.numbered
    status := log ▸ lives.status
    revision := lives.revision
    approvals := untouched.approvals ▸ lives.approvals
    reviewed := ⟨accepted, sublist.trans (List.sublist_append_left _ _),
      untouched.approvals ▸ reviewed⟩
    node := lives.node
    loads := lives.loads }

/-- A decision that is committed, with all that follows from it. -/
theorem Lifecycle.extend {asked : List ApprovalRequest} {s t : AgentStore} {id : UUID}
    {row changed : AgentRun} {h h' : History} {entries : List Entry} {request : ApprovalRequest}
    (lives : Lifecycle asked s id row h) (own : request.runId = id)
    (decision : Decision request row) (moves : Moves s t changed entries [approvalOf row request])
    (same : runColumns changed = runColumns row) (next : History.Next h request.decision h')
    (log : h'.log = h.log ++ entries) (status : changed.status = h'.ending.status)
    (revision : changed.revision = 4 * h'.gated)
    (node : h'.ending = .waiting → changed.currentNode = some "verification")
    (loads : (loadState changed).isSome) : Lifecycle (asked ++ [request]) t id changed h' := by
  have owner : row.id = id := (find_some lives.stored).2
  simp only [runColumns, Prod.mk.injEq] at same
  obtain ⟨row_id, organization, -, -, -⟩ := same
  have changed_id : changed.id = id := row_id.trans owner
  have grown : t.logOf id = h'.log := by
    rw [log, ← lives.log, ← changed_id]
    exact moves.log
  have given : t.approvalsOf id = s.approvalsOf id ++ [approvalOf row request] := by
    rw [← changed_id]
    exact moves.approvals
  obtain ⟨accepted, sublist, reviewed⟩ := lives.reviewed
  have before : List.Forall₂ (Reviewed changed) accepted (s.approvalsOf id) :=
    reviewed.imp fun request a r => ⟨by rw [row_id, organization]; exact r.approval,
      r.run.trans row_id.symm, r.organization.trans organization.symm, r.role⟩
  have last : Reviewed changed request (approvalOf row request) :=
    ⟨by rw [row_id, organization, ← decision.organization]; rfl, by rw [own, changed_id],
      decision.organization.trans organization.symm, decision.role⟩
  exact {
    stored := changed_id ▸ moves.row
    log := grown
    numbered := changed_id ▸ moves.inOrder (changed_id.symm ▸ lives.numbered)
    status := by rw [grown, statusOfLog_log, status]
    revision := revision
    approvals := by
      rw [given, List.map_append, lives.approvals, next.approvals, ← lives.revision]
      rfl
    reviewed := ⟨accepted ++ [request], sublist.append_right _, by
      rw [given]
      exact List.rel_append before (.cons last .nil)⟩
    node := node
    loads := loads }

theorem Executed.loads {rt : Runtime} {env : Surroundings} {run changed : AgentRun}
    {state : CoolProofState} {entries : List Entry}
    (executed : Executed rt env run state changed entries) (before : (loadState run).isSome) :
    (loadState changed).isSome := by
  cases executed with
  | failed => exact before
  | gated => rw [loadState_checkpoint rfl]; rfl

theorem Executed.columns {rt : Runtime} {env : Surroundings} {run changed : AgentRun}
    {state : CoolProofState} {entries : List Entry}
    (executed : Executed rt env run state changed entries) :
    runColumns changed = runColumns run := by cases executed <;> rfl

/-- A decision on a run takes its history one step on. -/
theorem Lifecycle.decided {rt : Runtime} {env : Surroundings} {asked : List ApprovalRequest}
    {s t : AgentStore} {id : UUID} {row changed : AgentRun} {h : History} {entries : List Entry}
    {request : ApprovalRequest} (lives : Lifecycle asked s id row h) (own : request.runId = id)
    (decision : Decision request row) (moves : Moves s t changed entries [approvalOf row request])
    (followed : Followed rt env row request.decision changed entries) :
    ∃ h', History.Next h request.decision h' ∧
      Lifecycle (asked ++ [request]) t id changed h' := by
  have waiting : h.ending = .waiting := by
    have status := lives.ending.trans decision.waiting
    cases ending : h.ending <;> simp [ending, Ending.status] at status ⊢
  obtain ⟨revised, ending⟩ := h
  cases waiting
  have revision : row.revision = 4 * (revised + 1) := lives.revision
  have node : row.currentNode = some "verification" := lives.node rfl
  generalize text : request.decision = word at followed
  cases followed with
  | rejected =>
    have next := History.Next.rejected revised
    exact ⟨_, next, lives.extend own decision moves rfl (text ▸ next) (History.log_rejected revised) rfl
      revision (fun other => nomatch other) lives.loads⟩
  | completed =>
    have next := History.Next.completed revised
    exact ⟨_, next, lives.extend own decision moves rfl (text ▸ next) (History.log_completed revised) rfl
      revision (fun other => nomatch other) lives.loads⟩
  | revised loaded executed =>
    have loads := executed.loads lives.loads
    have columns : runColumns changed = runColumns row := executed.columns
    cases executed with
    | failed ran =>
      have next := History.Next.failed revised
      refine ⟨_, next, lives.extend own decision moves columns (text ▸ next) ?_ rfl revision
        (fun other => nomatch other) loads⟩
      rw [History.log_revised]
      simp [Ending.log, nodeBefore, node]
    | gated ran =>
      have next := History.Next.gated revised
      refine ⟨_, next, lives.extend own decision moves columns (text ▸ next)
        (History.log_revised revised .waiting) rfl ?_ (fun _ => rfl) loads⟩
      simp only [gatedRun, revision, History.gated]
      rfl

/-- A new run has the history of its first execution. -/
theorem Lifecycle.started {rt : Runtime} {env : Surroundings} {asked : List ApprovalRequest}
    {s made t : AgentStore} {new : NewRun} {state : CoolProofState} {changed : AgentRun}
    {entries : List Entry} (unstarted : Unstarted s new.id)
    (create : createRun s new = some made) (moves : Moves made t changed entries [])
    (executed : Executed rt env new.row state changed entries) :
    ∃ h, Lifecycle asked t new.id changed h := by
  have columns := executed.columns
  have loads := executed.loads rfl
  have changed_id : changed.id = new.id := congrArg Prod.fst columns
  have events : made.eventsOf new.id = [(created new.row).event (s.nextSequence new.id)] := by
    rw [eventsOf_append (events_created create)]
    have owner : ((created new.row).event (s.nextSequence new.id)).runId = new.id := rfl
    rw [if_pos owner, unstarted.events, List.nil_append]
  have numbered : Numbered AgentEvent.sequence (made.eventsOf new.id) := by
    have first : s.nextSequence new.id = 1 := by
      rw [nextSequence_eq, unstarted.events]
      rfl
    rw [events, first]
    rfl
  have log : t.logOf new.id = ("run.created", none) :: entries := by
    have grown := moves.log
    rw [changed_id] at grown
    rw [grown, AgentTables.logOf, events]
    rfl
  have approvals : t.approvalsOf new.id = [] := by
    have same : made.approvalsOf new.id = s.approvalsOf new.id := by
      unfold AgentTables.approvalsOf
      rw [(createRun_some create).2.2]
    have given := moves.approvals
    rw [changed_id, same, unstarted.approvals] at given
    exact given
  have inOrder : Numbered AgentEvent.sequence (t.eventsOf new.id) :=
    changed_id ▸ moves.inOrder (changed_id.symm ▸ numbered)
  have stored : t.run new.id = some changed := changed_id ▸ moves.row
  have reviewed : ∃ accepted, List.Sublist accepted asked ∧
      List.Forall₂ (Reviewed changed) accepted (t.approvalsOf new.id) :=
    ⟨[], List.nil_sublist _, approvals ▸ .nil⟩
  cases executed with
  | failed ran =>
    have history : t.logOf new.id = History.log ⟨0, .failed⟩ := log
    exact ⟨⟨0, .failed⟩, stored, history, inOrder, by rw [history, statusOfLog_log]; rfl, rfl,
      by rw [approvals]; rfl, reviewed, (fun other => nomatch other), loads⟩
  | gated ran =>
    have history : t.logOf new.id = History.log ⟨0, .waiting⟩ := log
    exact ⟨⟨0, .waiting⟩, stored, history, inOrder, by rw [history, statusOfLog_log]; rfl, rfl,
      by rw [approvals]; rfl, reviewed, fun _ => rfl, loads⟩

/-! ## Requests one after another -/

/-- The approval requests among the requests. -/
def approvalRequests (requests : List AgentRequest) : List ApprovalRequest :=
  requests.filterMap fun request => match request with
    | .start _ _ => none
    | .approve request _ _ => some request

/-- What one request may do to the records of a run. -/
inductive Served (asked asked' : List ApprovalRequest) (id : UUID) (s t : AgentStore) : Prop where
  | untouched : Untouched id s t → Served asked asked' id s t
  | started {row h} : Unstarted s id → Lifecycle asked' t id row h → Served asked asked' id s t
  | decided {row row' h decision h'} : Lifecycle asked s id row h →
      History.Next h decision h' → Lifecycle asked' t id row' h' → Served asked asked' id s t

theorem untouched_created {s made : AgentStore} {new : NewRun} (create : createRun s new = some made)
    {id : UUID} (other : id ≠ new.id) : Untouched id s made := by
  obtain ⟨_, rows, approvals⟩ := createRun_some create
  refine ⟨(rows id).trans (if_neg other), ?_, by rw [AgentTables.approvalsOf, approvals]; rfl⟩
  have owner : ((created new.row).event (s.nextSequence new.id)).runId ≠ id := Ne.symm other
  rw [eventsOf_append (events_created create), if_neg owner]

theorem served_start (rt : Runtime) (env : Surroundings) {asked : List ApprovalRequest}
    {s : AgentStore} (recorded : ∀ id, Recorded asked s id) (request : StartRequest) (id : UUID) :
    Served asked asked id s (startAgentRun rt env s request).1 := by
  rcases start_moves rt env (s := s) request with same |
    ⟨made, state, changed, entries, create, _, moves, executed⟩
  · rw [same]
    exact .untouched (.refl id s)
  · have changed_id : changed.id = request.id := congrArg Prod.fst executed.columns
    by_cases own : id = request.id
    · subst own
      have missing := (createRun_some create).1
      have unstarted : Unstarted s request.id := by
        rcases recorded request.id with unstarted | ⟨row, h, lives⟩
        · exact unstarted
        · rw [lives.stored] at missing
          cases missing
      obtain ⟨h, lives⟩ := Lifecycle.started unstarted create moves executed
      exact .started unstarted lives
    · exact .untouched ((untouched_created create own).trans (moves.others id (changed_id ▸ own)))

theorem served_approve (rt : Runtime) (env : Surroundings) {asked : List ApprovalRequest}
    {s : AgentStore} (recorded : ∀ id, Recorded asked s id) (request : ApprovalRequest)
    (now : Instant) (id : UUID) :
    Served asked (asked ++ [request]) id s (approveAgentRun rt env s request now).1 := by
  have known : ∀ run, s.run request.runId = some run →
      ∃ h, Lifecycle asked s request.runId run h := by
    intro run found
    rcases recorded request.runId with unstarted | ⟨row, h, lives⟩
    · rw [unstarted.missing] at found
      cases found
    · have same : row = run := Option.some.inj (lives.stored.symm.trans found)
      exact ⟨h, same ▸ lives⟩
  have loads : ∀ run, s.run request.runId = some run → (loadState run).isSome := by
    intro run found
    obtain ⟨h, lives⟩ := known run found
    exact lives.loads
  rcases approve_moves rt env request now loads with ⟨same, _⟩ |
    ⟨run, changed, entries, found, decision, moves, changed_id, followed⟩
  · rw [same]
    exact .untouched (.refl id s)
  · have owner : run.id = request.runId := (find_some found).2
    obtain ⟨h, lives⟩ := known run found
    by_cases own : id = request.runId
    · subst own
      obtain ⟨h', next, after⟩ := lives.decided rfl decision moves followed
      exact .decided lives next after
    · exact .untouched (moves.others id (changed_id.trans owner ▸ own))

/-- Each request leaves the records of a run alone, starts them, or takes their history one
step on. -/
theorem served (rt : Runtime) {asked : List ApprovalRequest} {s : AgentStore}
    (recorded : ∀ id, Recorded asked s id) (request : AgentRequest) (id : UUID) :
    Served asked (asked ++ approvalRequests [request]) id s (serve rt s request) := by
  cases request with
  | start request env =>
    have done := served_start rt env recorded request id
    simpa [approvalRequests, serve] using done
  | approve request now env => exact served_approve rt env recorded request now id

theorem recorded_serve (rt : Runtime) {asked : List ApprovalRequest} {s : AgentStore}
    (recorded : ∀ id, Recorded asked s id) (request : AgentRequest) (id : UUID) :
    Recorded (asked ++ approvalRequests [request]) (serve rt s request) id := by
  cases served rt recorded request id with
  | untouched same =>
    rcases recorded id with unstarted | ⟨row, h, lives⟩
    · exact .inl (same.unstarted unstarted)
    · exact .inr ⟨row, h, same.lifecycle lives _⟩
  | started _ lives => exact .inr ⟨_, _, lives⟩
  | decided _ _ lives => exact .inr ⟨_, _, lives⟩

theorem serveAll_append (rt : Runtime) (requests more : List AgentRequest) :
    serveAll rt (requests ++ more) = more.foldl (serve rt) (serveAll rt requests) :=
  List.foldl_append

theorem recorded_serveAll (rt : Runtime) (requests : List AgentRequest) (id : UUID) :
    Recorded (approvalRequests requests) (serveAll rt requests) id := by
  induction requests using List.reverseRecOn generalizing id with
  | nil => exact .inl ⟨rfl, rfl, rfl⟩
  | append_singleton requests request ih =>
    have asked : approvalRequests (requests ++ [request]) =
        approvalRequests requests ++ approvalRequests [request] := List.filterMap_append
    rw [asked, serveAll_append]
    exact recorded_serve rt ih request id

/-- A run that does not wait for a decision is not touched again. -/
theorem untouched_of_not_waiting (rt : Runtime) (requests more : List AgentRequest) {id : UUID}
    {row : AgentRun} (stored : (serveAll rt requests).run id = some row)
    (settled : row.status ≠ .waitingApproval) :
    Untouched id (serveAll rt requests) (serveAll rt (requests ++ more)) := by
  induction more using List.reverseRecOn with
  | nil => rw [List.append_nil]; exact .refl id _
  | append_singleton more request ih =>
    refine ih.trans ?_
    rw [← List.append_assoc, serveAll_append rt (requests ++ more)]
    have same : (serveAll rt (requests ++ more)).run id = some row := ih.row.trans stored
    cases served rt (recorded_serveAll rt (requests ++ more)) request id with
    | untouched untouched => exact untouched
    | started unstarted _ =>
      rw [unstarted.missing] at same
      cases same
    | decided lives next _ =>
      have status := lives.ending
      rw [next.waiting, Option.some.inj (lives.stored.symm.trans same)] at status
      exact absurd status.symm settled

/-- For requests that do not overlap, whatever grounding and providers do: a run has no
records, or its log, sequences, status, revision and approvals are those of one history, and
once rejected, completed or failed it is never touched again. -/
theorem run_follows_lifecycle (rt : Runtime) (requests : List AgentRequest) (id : UUID) :
    Unstarted (serveAll rt requests) id ∨
      ∃ row h, Lifecycle (approvalRequests requests) (serveAll rt requests) id row h ∧
        (Closed row.status → ∀ more,
          Untouched id (serveAll rt requests) (serveAll rt (requests ++ more))) := by
  rcases recorded_serveAll rt requests id with unstarted | ⟨row, h, lives⟩
  · exact .inl unstarted
  · refine .inr ⟨row, h, lives, fun closed more => ?_⟩
    refine untouched_of_not_waiting rt requests more lives.stored ?_
    intro waiting
    rw [waiting] at closed
    exact closed

end CoolProof.Agents
