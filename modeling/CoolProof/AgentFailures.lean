import CoolProof.AgentLifecycle
import CoolProof.GroundingIsolation
import CoolProof.ProviderAdapters

/-! Where an execution can be left. The handler of `execute_run` covers the grounding and the
graph; the provider is built before the run is marked as running, the state is rebuilt before
the handler begins, and a cancellation is no `Exception`. -/

namespace CoolProof.Agents
open Calendar JsonDocument Uuid Models Tables Grounding Replay

/-! ## Executions that fail anywhere -/

/-- What grounding or graph raise: an `Exception`, or what an `except Exception` lets pass. -/
inductive Escape where
  | exception
  | cancelled
deriving DecidableEq

/-- What an execution meets: the settings, and the part of `execute_run` under the handler,
which gets the provider, the run and its state and returns the final state or raises. -/
structure Execution where
  settings : Settings
  guarded : Provider → AgentRun → CoolProofState → Except Escape CoolProofState

/-- `execute_run` from its first line. -/
def executeFrom (meets : Execution) (s : AgentStore) (run : AgentRun) :
    AgentStore × Except Failure AgentRun :=
  match providerFromSettings meets.settings with
  | .error _ => (s, .error .unhandled)
  | .ok provider =>
      let started := s.transact (startExecution run)
      let running := (startExecution run).changed
      match loadState running with
      | none => (started, .error .unhandled)
      | some state =>
          match meets.guarded provider running state with
          | .error .cancelled => (started, .error .unhandled)
          | .error .exception =>
              (started.transact (failExecution running), .ok (failExecution running).changed)
          | .ok final =>
              let (written, last) := completeNodes final agentNames started running
              (written.transact (awaitApproval last), .ok (awaitApproval last).changed)

/-- The executions considered so far: a provider that is built, and nothing but exceptions. -/
def Execution.usual (settings : Settings) (rt : Runtime) (env : Surroundings) : Execution where
  settings := settings
  guarded := fun _ run state => (runGraph rt env run state).mapError fun _ => .exception

theorem executeFrom_usual (rt : Runtime) (env : Surroundings) {settings : Settings}
    (complete : settings.Complete) (s : AgentStore) (run : AgentRun) :
    executeFrom (.usual settings rt env) s run = executeRun rt env s run := by
  obtain ⟨provider, built⟩ := (providerFromSettings_ok_iff settings).mpr complete
  have same : providerFromSettings (Execution.usual settings rt env).settings = .ok provider :=
    built
  unfold executeFrom executeRun
  rw [same]
  dsimp only
  cases loadState (startExecution run).changed with
  | none => rfl
  | some state =>
    dsimp only [Execution.usual]
    cases runGraph rt env (startExecution run).changed state <;> rfl

/-! ## The two requests that execute -/

/-- A request that may execute a run. -/
inductive Call where
  | start (request : StartRequest) (tables : GroundingTables)
  | approve (request : ApprovalRequest) (now : Instant)

def Call.serve (meets : Execution) (s : AgentStore) : Call → AgentStore
  | .start request tables => (startWith (executeFrom meets) tables s request).1
  | .approve request now => (approveWith (executeFrom meets) s request now).1

/-- The call executes a run: it has just created it, or sends it back for revision. -/
inductive Call.Executes (s : AgentStore) : Call → AgentRun → Prop where
  | started {request : StartRequest} {tables : GroundingTables} {made : AgentStore} :
      request.role ∈ [Role.analyst, .manager, .admin] →
      projectFound tables request.organizationId request.projectId = true →
      createRun s request.toNewRun = some made → Executes s (.start request tables) request.row
  | revised {request : ApprovalRequest} {now : Instant} {run : AgentRun} :
      s.run request.runId = some run → Decision request run → request.decision = "revise" →
      Executes s (.approve request now) { run with status := .queued }

/-- The run is committed at the approval gate or as failed. -/
def WayForward (s : AgentStore) (id : UUID) : Prop :=
  ∃ row, s.run id = some row ∧ (row.status = .waitingApproval ∨ row.status = .failed)

/-- The provider can be built, the stored state be read, and nothing is cancelled. -/
structure Execution.Finishes (meets : Execution) (run : AgentRun) : Prop where
  built : meets.settings.Complete
  loads : (loadState run).isSome
  uncancelled : ∀ provider state, providerFromSettings meets.settings = .ok provider →
    loadState run = some state →
    meets.guarded provider { run with status := .running } state ≠ .error .cancelled

/-! ## How an execution ends -/

/-- The row that an execution leaves, by the point at which it ended. -/
inductive Ended (meets : Execution) (run : AgentRun) : AgentRun → Prop where
  | notBuilt : ¬meets.settings.Complete → Ended meets run run
  | notLoaded : loadState run = none → Ended meets run { run with status := .running }
  | cancelled {provider state} : providerFromSettings meets.settings = .ok provider →
      loadState run = some state →
      meets.guarded provider { run with status := .running } state = .error .cancelled →
      Ended meets run { run with status := .running }
  | failed : meets.Finishes run → Ended meets run (failedRun run)
  | gated {final} : meets.Finishes run → Ended meets run (gatedRun final run)

theorem Execution.finishes_of {meets : Execution} {run : AgentRun} {provider : Provider}
    {state : CoolProofState} (built : providerFromSettings meets.settings = .ok provider)
    (loads : loadState run = some state)
    (uncancelled : meets.guarded provider { run with status := .running } state ≠
      .error .cancelled) : meets.Finishes run := by
  refine ⟨(providerFromSettings_ok_iff _).mp ⟨provider, built⟩,
    Option.isSome_iff_exists.mpr ⟨state, loads⟩, fun other read again loaded => ?_⟩
  cases built.symm.trans again
  cases loads.symm.trans loaded
  exact uncancelled

/-- Wherever an execution ends, only its own run is touched. -/
theorem executeFrom_moves (meets : Execution) {s : AgentStore} {run : AgentRun}
    (stored : s.run run.id = some run) :
    ∃ changed entries, Moves s (executeFrom meets s run).1 changed entries [] ∧
      Ended meets run changed ∧ changed.id = run.id := by
  have starts := moves_progress (startExecution run) stored rfl rfl
  unfold executeFrom
  cases built : providerFromSettings meets.settings with
  | error e =>
    refine ⟨run, [], .refl stored, .notBuilt fun complete => ?_, rfl⟩
    obtain ⟨provider, known⟩ := (providerFromSettings_ok_iff _).mpr complete
    cases built.symm.trans known
  | ok provider =>
    dsimp only
    cases loads : loadState (startExecution run).changed with
    | none => exact ⟨_, _, starts, .notLoaded loads, rfl⟩
    | some state =>
      have loaded : loadState run = some state := loads
      dsimp only
      cases ran : meets.guarded provider (startExecution run).changed state with
      | error escape =>
        cases escape with
        | cancelled => exact ⟨_, _, starts, .cancelled built loaded ran, rfl⟩
        | exception =>
          have fails := moves_progress (failExecution (startExecution run).changed) starts.row rfl rfl
          refine ⟨failedRun run, _, starts.trans fails rfl,
            .failed (Execution.finishes_of built loaded fun cancelled => ?_), rfl⟩
          cases ran.symm.trans cancelled
      | ok final =>
        obtain ⟨completes, owner⟩ := completeNodes_moves final agentNames starts.row
        have waits := moves_progress (awaitApproval _) completes.row rfl rfl
        refine ⟨gatedRun final run, _, starts.trans (completes.trans waits rfl) owner,
          .gated (Execution.finishes_of built loaded fun cancelled => ?_), rfl⟩
        cases ran.symm.trans cancelled

/-- A queued run is left at the gate or as failed exactly when its execution finishes. -/
theorem Ended.status_iff {meets : Execution} {run changed : AgentRun}
    (ended : Ended meets run changed) (queued : run.status = .queued) :
    changed.status = .waitingApproval ∨ changed.status = .failed ↔ meets.Finishes run := by
  cases ended with
  | notBuilt incomplete =>
    rw [queued]
    refine ⟨fun status => ?_, fun finishes => absurd finishes.built incomplete⟩
    rcases status with status | status <;> cases status
  | notLoaded missing =>
    refine ⟨fun status => ?_, fun finishes => ?_⟩
    · rcases status with status | status <;> cases status
    · have loads := finishes.loads
      rw [missing] at loads
      cases loads
  | cancelled built loads stopped =>
    refine ⟨fun status => ?_, fun finishes => absurd stopped (finishes.uncancelled _ _ built loads)⟩
    rcases status with status | status <;> cases status
  | failed finishes => exact ⟨fun _ => finishes, fun _ => .inr rfl⟩
  | gated finishes => exact ⟨fun _ => finishes, fun _ => .inl rfl⟩

/-- A decision to revise is committed with the run queued again. -/
theorem decideRun_revise {s : AgentStore} {run : AgentRun} {request : ApprovalRequest}
    (found : s.run request.runId = some run) (decision : Decision request run)
    (revise : request.decision = "revise") (now : Instant) :
    ∃ draft, decideRun run request now = .ok draft ∧
      draft.changed = { run with status := .queued } ∧
      (s.transact draft).run run.id = some { run with status := .queued } := by
  obtain ⟨draft, decided⟩ := decision.decides now
  have decides := decideRun_ok decided
  obtain ⟨_, row, _, _⟩ := decideRun_checked decided
  have status : decisionStatus request.decision = some draft.changed.status := decides.decision
  rw [revise] at status
  have queued : draft.changed = { run with status := .queued } := by
    rw [row, ← Option.some.inj status]
  have owner : run.id = request.runId := (find_some found).2
  have stored : s.run run.id = some run := owner ▸ found
  have own : ∀ a ∈ draft.approval, a.runId = run.id := by
    intro a given
    rw [decides.approval] at given
    cases given
    rfl
  have moves := moves_transact draft stored (by rw [queued]; rfl) own
  have written := moves.row
  rw [queued] at written
  exact ⟨draft, decided, queued, written⟩

/-- A call that executes a run hands the queued row, as it is stored, to the executor. -/
theorem Call.Executes.spec (meets : Execution) {s : AgentStore} {call : Call} {run : AgentRun}
    (executes : call.Executes s run) : run.status = .queued ∧ ∃ t : AgentStore,
      t.run run.id = some run ∧ call.serve meets s = (executeFrom meets t run).1 := by
  cases executes with
  | @started request tables made role project create =>
    obtain ⟨_, rows, _⟩ := createRun_some create
    refine ⟨rfl, made, (rows request.id).trans (if_pos rfl), ?_⟩
    change (startWith (executeFrom meets) tables s request).1 = _
    unfold startWith
    rw [if_neg (not_not.mpr role), if_neg (by rw [project]; decide), create]
  | @revised request now run found decision revise =>
    obtain ⟨draft, decided, queued, written⟩ := decideRun_revise found decision revise now
    have role : request.reviewerRole ∈ [Role.manager, .admin] := by
      rcases decision.role with role | role <;> simp [role]
    refine ⟨rfl, s.transact draft, written, ?_⟩
    change (approveWith (executeFrom meets) s request now).1 = _
    unfold approveWith
    rw [if_neg (not_not.mpr role), if_neg (by rw [decision.valid]; decide), found]
    dsimp only
    rw [decided]
    dsimp only
    rw [if_pos revise, queued]

/-- An execution leaves its run at the approval gate or as failed exactly when its provider can be
built, its stored state be read and nothing cancels it; before the first it stays queued, and
after it running. -/
theorem way_forward_iff (meets : Execution) {s : AgentStore} {call : Call} {run : AgentRun}
    (executes : call.Executes s run) :
    WayForward (call.serve meets s) run.id ↔ meets.Finishes run := by
  obtain ⟨queued, t, stored, served⟩ := executes.spec meets
  obtain ⟨changed, entries, moves, ended, same⟩ := executeFrom_moves meets stored
  rw [served, ← ended.status_iff queued, ← same]
  constructor
  · rintro ⟨row, found, status⟩
    cases moves.row.symm.trans found
    exact status
  · intro status
    exact ⟨changed, moves.row, status⟩

/-! ## No way back -/

theorem Ended.loads {meets : Execution} {run changed : AgentRun} (ended : Ended meets run changed)
    (before : (loadState run).isSome) : (loadState changed).isSome := by
  cases ended with
  | notBuilt | notLoaded | cancelled | failed => exact before
  | gated => rw [loadState_checkpoint rfl]; rfl

/-- A call changes one run at most: a new one, or one that waited for a decision. What it leaves
can be read again, if what it found could. -/
structure Changes (s t : AgentStore) (changed : AgentRun) : Prop where
  row : t.run changed.id = some changed
  others : ∀ id, id ≠ changed.id → t.run id = s.run id
  before : ∀ run, s.run changed.id = some run → run.status = .waitingApproval
  loads : (∀ run, s.run changed.id = some run → (loadState run).isSome) →
    (loadState changed).isSome

theorem start_changes (meets : Execution) (s : AgentStore) (request : StartRequest)
    (tables : GroundingTables) :
    (startWith (executeFrom meets) tables s request).1 = s ∨
      ∃ changed, Changes s (startWith (executeFrom meets) tables s request).1 changed := by
  unfold startWith
  split
  · exact .inl rfl
  split
  · exact .inl rfl
  cases create : createRun s request.toNewRun with
  | none => exact .inl rfl
  | some made =>
    obtain ⟨fresh, rows, _⟩ := createRun_some create
    have stored : made.run request.row.id = some request.row := (rows request.id).trans (if_pos rfl)
    obtain ⟨changed, entries, moves, ended, same⟩ := executeFrom_moves meets stored
    have owner : changed.id = request.id := same
    have missing : s.run changed.id = none := by rw [owner]; exact fresh
    refine .inr ⟨changed, moves.row, fun id other => ?_, fun run found => ?_, fun _ => ?_⟩
    · exact (moves.others id other).row.trans ((rows id).trans (if_neg (owner ▸ other)))
    · cases missing.symm.trans found
    · exact ended.loads rfl

/-- A committed decision, with what follows it, changes the run that it is about. -/
theorem changes_of_moves {s t u : AgentStore} {run decided changed : AgentRun}
    {entries later : List Entry} {given more : List AgentApproval}
    (found : s.run run.id = some run) (waiting : run.status = .waitingApproval)
    (decision : Moves s t decided entries given) (follows : Moves t u changed later more)
    (sameRun : decided.id = run.id) (same : changed.id = run.id)
    (loads : (loadState run).isSome → (loadState changed).isSome) : Changes s u changed where
  row := follows.row
  others := fun id other => (follows.others id other).row.trans
    (decision.others id (sameRun ▸ same ▸ other)).row
  before := fun known stored => by
    rw [same] at stored
    cases found.symm.trans stored
    exact waiting
  loads := fun before => loads (before run (same ▸ found))

theorem approve_changes (meets : Execution) (s : AgentStore) (request : ApprovalRequest)
    (now : Instant) :
    (approveWith (executeFrom meets) s request now).1 = s ∨
      ∃ changed, Changes s (approveWith (executeFrom meets) s request now).1 changed := by
  unfold approveWith
  split
  · exact .inl rfl
  split
  · exact .inl rfl
  cases found : s.run request.runId with
  | none => exact .inl rfl
  | some run =>
    dsimp only
    cases decided : decideRun run request now with
    | error e => exact .inl rfl
    | ok draft =>
      right
      have owner : run.id = request.runId := (find_some found).2
      have stored : s.run run.id = some run := owner ▸ found
      have decides := decideRun_ok decided
      obtain ⟨_, row, _, _⟩ := decideRun_checked decided
      have own : ∀ a ∈ draft.approval, a.runId = run.id := by
        intro a given
        rw [decides.approval] at given
        cases given
        exact decides.sameRun
      have moves := moves_transact draft stored (by rw [row]; rfl) own
      have loads : (loadState run).isSome → (loadState draft.changed).isSome := by
        rw [row]
        exact id
      have settled : Changes s (s.transact draft) draft.changed :=
        changes_of_moves stored decides.waiting moves (.refl moves.row) draft.sameRow draft.sameRow
          loads
      dsimp only
      split
      · obtain ⟨changed, entries, executes, ended, same⟩ := executeFrom_moves meets moves.row
        exact ⟨changed, changes_of_moves stored decides.waiting moves executes draft.sameRow
          (same.trans draft.sameRow) fun before => ended.loads (loads before)⟩
      split
      · cases final : finalizeApprovedRun draft.changed with
        | error e => exact ⟨_, settled⟩
        | ok last =>
          have finalizes : last.changed =
              { draft.changed with status := .completed, currentNode := some "verification" } ∧
                last.approval = none := by
            unfold finalizeApprovedRun at final
            split at final
            · cases final
              exact ⟨rfl, rfl⟩
            · cases final
          have completes := moves_progress last moves.row (by rw [finalizes.1]; rfl) finalizes.2
          refine ⟨_, changes_of_moves stored decides.waiting moves completes draft.sameRow
            (last.sameRow.trans draft.sameRow) fun before => ?_⟩
          rw [finalizes.1]
          exact loads before
      · exact ⟨_, settled⟩

theorem Call.changes (meets : Execution) (s : AgentStore) (call : Call) :
    call.serve meets s = s ∨ ∃ changed, Changes s (call.serve meets s) changed := by
  cases call with
  | start request tables => exact start_changes meets s request tables
  | approve request now => exact approve_changes meets s request now

/-- No call touches a run that does not wait for a decision: one that was left queued or
running stays so. -/
theorem Call.stuck_stays (meets : Execution) {s : AgentStore} (call : Call) {id : UUID}
    {row : AgentRun} (stored : s.run id = some row) (stuck : row.status ≠ .waitingApproval) :
    (call.serve meets s).run id = some row := by
  rcases call.changes meets s with same | ⟨changed, changes⟩
  · rw [same]
    exact stored
  · by_cases own : id = changed.id
    · subst own
      exact absurd (changes.before row stored) stuck
    · exact (changes.others id own).trans stored

/-- Calls one after another, each with what its execution meets. -/
def serveCalls (calls : List (Execution × Call)) : AgentStore :=
  calls.foldl (fun s call => call.2.serve call.1 s) AgentStore.empty

/-- A state that the runtime has stored can be read again, however executions end. -/
theorem loads_serveCalls (calls : List (Execution × Call)) {id : UUID} {row : AgentRun}
    (stored : (serveCalls calls).run id = some row) : (loadState row).isSome := by
  induction calls using List.reverseRecOn generalizing id row with
  | nil => cases stored
  | append_singleton calls call ih =>
    have last : serveCalls (calls ++ [call]) = call.2.serve call.1 (serveCalls calls) := by
      rw [serveCalls, List.foldl_append]
      rfl
    rw [last] at stored
    rcases call.2.changes call.1 (serveCalls calls) with same | ⟨changed, changes⟩
    · rw [same] at stored
      exact ih stored
    · by_cases own : id = changed.id
      · subst own
        cases changes.row.symm.trans stored
        exact changes.loads fun run found => ih found
      · exact ih ((changes.others id own).symm.trans stored)

/-! ## A provider without its key -/

def sampleStart : StartRequest :=
  { id := 7, organizationId := 1, projectId := none, threadId := "thread", inputData := [],
    role := .analyst }

theorem sampleStart_executes (tables : GroundingTables) :
    (Call.start sampleStart tables).Executes AgentStore.empty sampleStart.row :=
  .started (by decide) rfl rfl

/-- The guarded part returns the state it was given. -/
def unchangedGraph (settings : Settings) : Execution := ⟨settings, fun _ _ state => .ok state⟩

/-- The key of the named provider is missing, and the run stays queued. -/
theorem way_forward_fails : ¬∀ (meets : Execution) (s : AgentStore) (call : Call) (run : AgentRun),
    call.Executes s run → WayForward (call.serve meets s) run.id := by
  intro always
  obtain ⟨row, stored, status⟩ :=
    always (unchangedGraph { sampleSettings with nimApiKey := none }) AgentStore.empty
      (.start sampleStart noRows) _ (sampleStart_executes noRows)
  cases stored
  rcases status with status | status <;> cases status

theorem way_forward_sample :
    WayForward ((Call.start sampleStart noRows).serve (unchangedGraph sampleSettings)
      AgentStore.empty) 7 := by
  refine (way_forward_iff (unchangedGraph sampleSettings) (sampleStart_executes noRows)).mpr
    ⟨?_, rfl, fun provider state _ _ cancelled => by cases cancelled⟩
  exact (providerFromSettings_ok_iff sampleSettings).mp ⟨.http sampleNim, by decide +kernel⟩

end CoolProof.Agents
