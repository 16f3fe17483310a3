import CoolProof.AgentExecution

/-! What a served request writes, by organization: after the creation of a run, a sequence of
transactions, each on a stored run of the organization, with rows that name that run. -/

namespace CoolProof.Agents
open Calendar JsonDocument Uuid Models Tables Grounding

/-- The run in memory is a stored one, under the same organization. -/
def Loaded (s : AgentStore) (run : AgentRun) : Prop :=
  ∃ stored, s.run run.id = some stored ∧ stored.organizationId = run.organizationId

/-- What a transaction writes beside its event is of its run and organization. -/
structure Draft.Own {run : AgentRun} (draft : Draft run) : Prop where
  organization : draft.changed.organizationId = run.organizationId
  approval : ∀ a ∈ draft.approval, a.runId = run.id ∧ a.organizationId = run.organizationId
  audit : ∀ e ∈ draft.audit, e.organizationId = run.organizationId ∧
    e.resourceType = "agent_run" ∧ e.resourceId = Uuid.toString run.id

/-- Transactions one after another, all for one organization. -/
inductive Transacts (organizationId : UUID) : AgentStore → AgentStore → Prop where
  | refl (s : AgentStore) : Transacts organizationId s s
  | cons {s t : AgentStore} {run : AgentRun} {draft : Draft run} : Loaded s run →
      run.organizationId = organizationId → draft.Own →
      Transacts organizationId (s.transact draft) t → Transacts organizationId s t

theorem Transacts.trans {organizationId : UUID} {s t u : AgentStore}
    (first : Transacts organizationId s t) (second : Transacts organizationId t u) :
    Transacts organizationId s u := by
  induction first with
  | refl => exact second
  | cons loaded owner own _ ih => exact .cons loaded owner own (ih second)

/-! ## One transaction -/

theorem Draft.own_progress {run changed : AgentRun} (sameRow : changed.id = run.id)
    (eventType : String) (node : Option String) (payload : Dict) (summary : String)
    (organization : changed.organizationId = run.organizationId) :
    (progress run changed sameRow eventType node payload summary).Own where
  organization := organization
  approval := by simp [progress]
  audit := by simp [progress]

/-- The changed run is loaded in the store that the transaction leaves. -/
theorem Loaded.transact {s : AgentStore} {run : AgentRun} (loaded : Loaded s run)
    {draft : Draft run} (own : draft.Own) : Loaded (s.transact draft) draft.changed := by
  obtain ⟨stored, found, owner⟩ := loaded
  refine ⟨flushRun run draft.changed stored, ?_, owner.trans own.organization.symm⟩
  rw [AgentStore.transact, AgentStore.run_commit, draft.sameRow, if_pos rfl, found]
  rfl

theorem Transacts.one {s : AgentStore} {run : AgentRun} (loaded : Loaded s run)
    {draft : Draft run} (own : draft.Own) :
    Transacts run.organizationId s (s.transact draft) := .cons loaded rfl own (.refl _)

/-! ## Requests -/

theorem completeNodes_transacts (state : CoolProofState) (names : List String) {s : AgentStore}
    {run : AgentRun} (loaded : Loaded s run) :
    Transacts run.organizationId s (completeNodes state names s run).1 ∧
      Loaded (completeNodes state names s run).1 (completeNodes state names s run).2 ∧
      (completeNodes state names s run).2.organizationId = run.organizationId := by
  induction names generalizing s run with
  | nil => exact ⟨.refl s, loaded, rfl⟩
  | cons name names ih =>
    have own : (completeNode state.dump name run).Own := Draft.own_progress _ _ _ _ _ rfl
    obtain ⟨rest, last, owner⟩ := ih (loaded.transact own)
    exact ⟨(Transacts.one loaded own).trans rest, last, owner⟩

theorem executeRun_transacts (rt : Runtime) (env : Surroundings) {s : AgentStore}
    {run : AgentRun} (loaded : Loaded s run) :
    Transacts run.organizationId s (executeRun rt env s run).1 := by
  have starts : (startExecution run).Own := Draft.own_progress _ _ _ _ _ rfl
  have running := loaded.transact starts
  have started := Transacts.one loaded starts
  unfold executeRun
  dsimp only
  split
  · exact started
  split
  · have fails : (failExecution (startExecution run).changed).Own :=
      Draft.own_progress _ _ _ _ _ rfl
    exact started.trans (Transacts.one running fails)
  · rename_i state _ final _
    obtain ⟨rest, last, owner⟩ := completeNodes_transacts final agentNames running
    have waits : (awaitApproval (completeNodes final agentNames
        (s.transact (startExecution run)) (startExecution run).changed).2).Own :=
      Draft.own_progress _ _ _ _ _ rfl
    have gate := Transacts.one last waits
    rw [owner] at gate
    exact started.trans (rest.trans gate)

/-- A run is started for a project of its organization. -/
theorem startAgentRun_transacts (rt : Runtime) (env : Surroundings) (s : AgentStore)
    (request : StartRequest) : (startAgentRun rt env s request).1 = s ∨
    ∃ made, createRun s request.toNewRun = some made ∧
      projectFound env.tables request.organizationId request.projectId = true ∧
      Transacts request.organizationId made (startAgentRun rt env s request).1 := by
  unfold startAgentRun startWith
  split
  · exact .inl rfl
  split
  · exact .inl rfl
  rename_i found
  split
  · exact .inl rfl
  · rename_i made create
    have loaded : Loaded made request.row :=
      ⟨request.row, by rw [(createRun_some create).2.1]; exact if_pos rfl, rfl⟩
    exact .inr ⟨made, create, by simpa using found, executeRun_transacts rt env loaded⟩

theorem decideRun_own {run : AgentRun} {request : ApprovalRequest} {now : Instant}
    {draft : Draft run} (decided : decideRun run request now = .ok draft) :
    draft.Own ∧ run.organizationId = request.organizationId := by
  unfold decideRun at decided
  split at decided
  · cases decided
  split at decided
  · cases decided
  rename_i other
  have owner := not_not.mp other
  split at decided
  · cases decided
  split at decided
  · cases decided
  · cases decided
    refine ⟨⟨rfl, fun a given => ?_, fun e recorded => ?_⟩, owner⟩
    · rw [← Option.mem_some_iff.mp given]
      exact ⟨rfl, owner.symm⟩
    · rw [← Option.mem_some_iff.mp recorded]
      exact ⟨owner.symm, rfl, rfl⟩

theorem approveAgentRun_transacts (rt : Runtime) (env : Surroundings) (s : AgentStore)
    (request : ApprovalRequest) (now : Instant) :
    Transacts request.organizationId s (approveAgentRun rt env s request now).1 := by
  unfold approveAgentRun approveWith
  split
  · exact .refl s
  split
  · exact .refl s
  split
  · exact .refl s
  rename_i run found
  split
  · exact .refl s
  rename_i draft decided
  obtain ⟨own, owner⟩ := decideRun_own decided
  have same : run.id = request.runId := (find_some found).2
  have loaded : Loaded s run := ⟨run, by rw [same]; exact found, rfl⟩
  have after := loaded.transact own
  have decides := Transacts.one loaded own
  rw [← owner]
  split
  · have executes := executeRun_transacts rt env after
    rw [own.organization] at executes
    exact decides.trans executes
  split
  · split
    · exact decides
    · rename_i final finalized
      have finalizes : final.Own := by
        unfold finalizeApprovedRun at finalized
        split at finalized
        · cases finalized
          exact Draft.own_progress _ _ _ _ _ rfl
        · cases finalized
      have completes := Transacts.one after finalizes
      rw [own.organization] at completes
      exact decides.trans completes
  · exact decides

end CoolProof.Agents
