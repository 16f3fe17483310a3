import CoolProof.AgentSessions

/-! Approval decisions across interleavings. A request that has decided, or that created
the run, is the only one that moves the run until it is done; a decision is safe as long
as it is committed on the status it was checked against. -/

namespace CoolProof.Agents
open Calendar JsonDocument Uuid Models Tables Runs Sessions

def AgentTables.statusOf (t : AgentTables) (id : UUID) : Option AgentRunStatus :=
  (t.run id).map AgentRun.status

/-- The statuses that a run is not to leave. -/
def Closed : AgentRunStatus → Prop
  | .rejected | .completed | .failed => True
  | .queued | .running | .waitingApproval | .approved => False

instance (status : AgentRunStatus) : Decidable (Closed status) := by
  unfold Closed
  split <;> infer_instance

/-! ## What a draft does -/

/-- The status in which a request is at a stage. -/
def Stage.status : Stage → AgentRunStatus
  | .execute => .queued
  | .invoke | .checkpoints _ _ | .fail => .running
  | .finalize => .approved

theorem Stage.status_ne_waitingApproval (stage : Stage) : stage.status ≠ .waitingApproval := by
  cases stage <;> simp [Stage.status]

theorem Stage.not_closed (stage : Stage) : ¬Closed stage.status := by
  cases stage <;> simp [Stage.status, Closed]

/-- A transaction of the request that has the run in hand. -/
structure Advances (run : AgentRun) (draft : Draft run) (next : Option Stage) : Prop where
  noApproval : draft.approval = none
  source : ∃ stage : Stage, run.status = stage.status
  continues : ∀ stage, next = some stage → draft.changed.status = stage.status
  notApproved : draft.changed.status ≠ .approved
  completes : draft.changed.status = .completed →
    run.status = .approved ∧ draft.changed.revision = run.revision

theorem Stage.advances {run : AgentRun} {stage : Stage} {draft : Draft run}
    (h : stage.draft run = some draft) (status : run.status = stage.status) :
    Advances run draft stage.next := by
  cases stage with
  | execute =>
    cases h
    exact ⟨rfl, ⟨_, status⟩, by rintro _ ⟨⟩; rfl, by simp [startExecution, progress],
      by simp [startExecution, progress]⟩
  | invoke => cases h
  | checkpoints state names =>
    have running : run.status = .running := status
    cases names with
    | nil =>
      cases h
      exact ⟨rfl, ⟨_, status⟩, by rintro _ ⟨⟩, by simp [awaitApproval, progress],
        by simp [awaitApproval, progress]⟩
    | cons name names =>
      cases h
      refine ⟨rfl, ⟨_, status⟩, ?_, ?_, ?_⟩
      · rintro _ ⟨⟩
        exact running
      · simp [completeNode, progress, running]
      · simp [completeNode, progress, running]
  | fail =>
    cases h
    exact ⟨rfl, ⟨_, status⟩, by rintro _ ⟨⟩, by simp [failExecution, progress],
      by simp [failExecution, progress]⟩
  | finalize =>
    have approved : run.status = .approved := status
    simp only [Stage.draft, finalizeApprovedRun, approved, if_true, Except.toOption,
      Option.some.injEq] at h
    subst h
    exact ⟨rfl, ⟨_, status⟩, by rintro _ ⟨⟩, by simp [progress],
      fun _ => ⟨approved, rfl⟩⟩

/-- A decision that passed the checks. -/
structure Decides (run : AgentRun) (draft : Draft run) (next : Option Stage)
    (a : AgentApproval) : Prop where
  approval : draft.approval = some a
  sameRun : a.runId = run.id
  revision : a.revision = run.revision
  waiting : run.status = .waitingApproval
  decision : decisionStatus a.decision = some draft.changed.status
  sameRevision : draft.changed.revision = run.revision
  continues : ∀ stage, next = some stage → draft.changed.status = stage.status

theorem decisionStatus_cases {decision : String} {status : AgentRunStatus}
    (h : decisionStatus decision = some status) :
    (decision = "approve" ∧ status = .approved) ∨ (decision = "reject" ∧ status = .rejected) ∨
      (decision = "revise" ∧ status = .queued) := by
  unfold decisionStatus at h
  split at h <;> simp_all

theorem decideRun_ok {run : AgentRun} {request : ApprovalRequest} {now : Instant}
    {draft : Draft run} (h : decideRun run request now = .ok draft) :
    Decides run draft (afterDecision request.decision) (approvalOf run request) := by
  unfold decideRun at h
  split at h
  · cases h
  split at h
  · cases h
  split at h
  · cases h
  rename_i waiting
  split at h
  · cases h
  rename_i status decided
  cases h
  refine ⟨rfl, rfl, rfl, not_not.mp waiting, decided, rfl, fun stage next => ?_⟩
  rcases decisionStatus_cases decided with ⟨text, rfl⟩ | ⟨text, rfl⟩ | ⟨text, rfl⟩
  · rw [text] at next
    cases next
    rfl
  · rw [text] at next
    cases next
  · rw [text] at next
    cases next
    rfl

/-! ## Who has the run in hand -/

def owns : AgentSession → Option UUID
  | .ready run _ => some run.id
  | .writing run draft _ _ => if draft.approval.isNone then some run.id else none
  | .idle | .loaded _ _ => none

/-- The stored run has the status that the session remembers. -/
def Tracks (s : AgentStore) (run : AgentRun) : Prop := s.statusOf run.id = some run.status

/-- What a session may rely on. -/
def Relies (s : AgentStore) : AgentSession → Prop
  | .ready run stage => run.status = stage.status ∧ Tracks s run
  | .writing run draft _ next =>
      (∃ a, Decides run draft next a) ∨ (Advances run draft next ∧ Tracks s run)
  | .idle | .loaded _ _ => True

/-- An approved or completed run was last approved, as it stands. -/
def Justified (s : AgentStore) : Prop := ∀ id run, s.run id = some run →
  run.status = .approved ∨ run.status = .completed →
    ∃ a, (s.approvalsOf id).getLast? = some a ∧ a.decision = "approve" ∧ a.revision = run.revision

def Inv (c : System AgentDatabase AgentSession) : Prop :=
  Holds (fun d => Justified d.toAgentStore) (fun _ d => Relies d.toAgentStore) c ∧
    Exclusive owns c

/-- A decision is committed on the status it was checked against, and an approval on the
revision it was given for. -/
def Guarded (s : AgentStore) : AgentSession → AgentInput → Prop
  | .writing run draft _ _, .commit => ∀ a ∈ draft.approval, ∃ b ∈ s.run run.id,
      b.status = .waitingApproval ∧ (a.decision = "approve" → b.revision = a.revision)
  | _, _ => True

instance (s : AgentStore) (l : AgentSession) (e : AgentInput) : Decidable (Guarded s l e) := by
  unfold Guarded
  split <;> infer_instance

/-- A session that has a run in hand knows a stored status that is neither waiting nor
closed. -/
theorem Relies.owned {s : AgentStore} {l : AgentSession} {id : UUID} (relies : Relies s l)
    (owned : owns l = some id) :
    ∃ stage : Stage, s.statusOf id = some stage.status := by
  cases l with
  | idle => cases owned
  | loaded => cases owned
  | ready run stage =>
    cases owned
    exact ⟨stage, relies.1 ▸ relies.2⟩
  | writing run draft sequence next =>
    rcases relies with ⟨a, decides⟩ | ⟨advances, tracks⟩
    · simp [owns, decides.approval] at owned
    · simp only [owns, advances.noApproval, Option.isNone_none, if_true, Option.some.injEq]
        at owned
      obtain ⟨stage, status⟩ := advances.source
      exact ⟨stage, by rw [← owned, ← status]; exact tracks⟩

/-! ## What a step does -/

/-- A commit that a session makes under the guard. -/
structure Commits (s : AgentStore) (run : AgentRun) (draft : Draft run) (next : Option Stage)
    (stored : AgentRun) : Prop where
  found : s.run run.id = some stored
  current : stored.status = run.status
  kind : (∃ a, Decides run draft next a ∧ (a.decision = "approve" → stored.revision = a.revision)) ∨
    Advances run draft next

theorem commits_of_guarded {s : AgentStore} {run : AgentRun} {draft : Draft run} {sequence : Nat}
    {next : Option Stage} (relies : Relies s (.writing run draft sequence next))
    (guarded : Guarded s (.writing run draft sequence next) .commit) :
    ∃ stored, Commits s run draft next stored := by
  rcases relies with ⟨a, decides⟩ | ⟨advances, tracks⟩
  · obtain ⟨b, found, waiting, same⟩ := guarded a decides.approval
    exact ⟨b, found, waiting.trans decides.waiting.symm, .inl ⟨a, decides, same⟩⟩
  · obtain ⟨b, found, status⟩ := Option.map_eq_some_iff.mp tracks
    exact ⟨b, found, status, .inr advances⟩

namespace Commits

variable {s : AgentStore} {run : AgentRun} {draft : Draft run} {next : Option Stage}
  {stored : AgentRun}

theorem statusOf (commits : Commits s run draft next stored) (sequence : Nat) (id : UUID) :
    (s.commit run draft sequence).statusOf id =
      if id = run.id then some draft.changed.status else s.statusOf id := by
  unfold AgentTables.statusOf
  rw [AgentStore.run_commit]
  by_cases same : id = run.id
  · simp [same, commits.found, flushRun, commits.current]
  · simp [same]

theorem continues (commits : Commits s run draft next stored) {stage : Stage}
    (h : next = some stage) : draft.changed.status = stage.status := by
  rcases commits.kind with ⟨a, decides, _⟩ | advances
  · exact decides.continues stage h
  · exact advances.continues stage h

/-- A closed run is not committed to. -/
theorem not_closed (commits : Commits s run draft next stored) : ¬Closed stored.status := by
  rw [commits.current]
  rcases commits.kind with ⟨a, decides, _⟩ | advances
  · rw [decides.waiting]
    exact id
  · obtain ⟨stage, status⟩ := advances.source
    rw [status]
    exact stage.not_closed

theorem approvals (commits : Commits s run draft next stored) (sequence : Nat) {id : UUID}
    (other : id ≠ run.id) : (s.commit run draft sequence).approvalsOf id = s.approvalsOf id := by
  rw [AgentStore.approvalsOf_commit]
  rcases commits.kind with ⟨a, decides, _⟩ | advances
  · have named : a.runId ≠ id := by
      rw [decides.sameRun]
      exact Ne.symm other
    simp [decides.approval, named]
  · simp [advances.noApproval]

theorem justified (commits : Commits s run draft next stored) (sequence : Nat)
    (before : Justified s) : Justified (s.commit run draft sequence) := by
  intro id row found status
  rw [AgentStore.run_commit] at found
  by_cases same : id = run.id
  · subst same
    rw [if_pos rfl, commits.found] at found
    have written : flushRun run draft.changed stored = row := Option.some.inj found
    have newStatus : row.status = draft.changed.status := by
      rw [← written]
      simp [flushRun, commits.current]
    rw [newStatus] at status
    rw [AgentStore.approvalsOf_commit]
    rcases commits.kind with ⟨a, decides, fresh⟩ | advances
    · refine ⟨a, by simp [decides.approval, decides.sameRun], ?_⟩
      have revision : row.revision = stored.revision := by
        rw [← written]
        simp [flushRun, decides.sameRevision]
      rcases decisionStatus_cases decides.decision with ⟨text, _⟩ | ⟨_, rejected⟩ | ⟨_, queued⟩
      · exact ⟨text, by rw [revision, fresh text]⟩
      · simp [rejected] at status
      · simp [queued] at status
    · have completed : draft.changed.status = .completed :=
        status.resolve_left advances.notApproved
      obtain ⟨approved, sameRevision⟩ := advances.completes completed
      have revision : row.revision = stored.revision := by
        rw [← written]
        simp [flushRun, sameRevision]
      rw [revision]
      simpa [advances.noApproval] using
        before run.id stored commits.found (.inl (commits.current.trans approved))
  · rw [if_neg same] at found
    rw [commits.approvals sequence same]
    exact before id row found status

end Commits

theorem statusOf_created {s t : AgentStore} {new : NewRun} (h : createRun s new = some t)
    (id : UUID) : t.statusOf id = if id = new.id then some .queued else s.statusOf id := by
  obtain ⟨_, runs, _⟩ := createRun_some h
  unfold AgentTables.statusOf
  rw [runs]
  by_cases same : id = new.id
  · simp [same, NewRun.row]
  · simp [same]

/-- What a guarded step does to the store: nothing, a creation or a commit. -/
theorem shared_cases {s s' : AgentStore} {l l' : AgentSession} {e : AgentInput}
    (acts : Acts s l e s' l') (relies : Relies s l) (guarded : Guarded s l e) :
    s' = s ∨ (∃ new, createRun s new = some s' ∧ l' = .ready new.row .execute) ∨
      ∃ run draft sequence next stored, l = .writing run draft sequence next ∧
        s' = s.commit run draft sequence ∧ l' = proceed draft.changed next ∧
        Commits s run draft next stored := by
  cases acts with
  | started created => exact .inr (.inl ⟨_, created, rfl⟩)
  | committed =>
    obtain ⟨stored, commits⟩ := commits_of_guarded relies guarded
    exact .inr (.inr ⟨_, _, _, _, stored, rfl, rfl, rfl, commits⟩)
  | _ => exact .inl rfl

/-! ## The invariant -/

/-- A run that a session takes in hand was in its hands before, or in nobody's. -/
theorem owns_cases {s s' : AgentStore} {l l' : AgentSession} {e : AgentInput} {id : UUID}
    (acts : Acts s l e s' l') (relies : Relies s l) (guarded : Guarded s l e)
    (owned : owns l' = some id) :
    owns l = some id ∨ ∀ stage : Stage, s.statusOf id ≠ some stage.status := by
  cases acts with
  | started created =>
    cases owned
    refine .inr fun stage => ?_
    obtain ⟨absent, _⟩ := createRun_some created
    change (s.run _).map _ ≠ _
    simp [NewRun.row, absent]
  | decided decided =>
    have approval := (decideRun_ok decided).approval
    simp [owns, approval] at owned
  | prepared prepared =>
    have advances := Stage.advances prepared relies.1
    simp only [owns, advances.noApproval, Option.isNone_none, if_true] at owned
    exact .inl owned
  | completed => exact .inl owned
  | raised => exact .inl owned
  | @committed run draft sequence next =>
    obtain ⟨stored, commits⟩ := commits_of_guarded relies guarded
    have here : id = run.id := by
      cases next with
      | none => cases owned
      | some stage => exact (Option.some.inj owned).symm.trans draft.sameRow
    rcases commits.kind with ⟨a, decides, _⟩ | advances
    · refine .inr fun stage same => ?_
      rw [here, AgentTables.statusOf, commits.found] at same
      have current : stored.status = .waitingApproval := commits.current.trans decides.waiting
      exact stage.status_ne_waitingApproval (Option.some.inj same ▸ current)
    · exact .inl (by simp [owns, advances.noApproval, here])
  | startRefused | read | missing | refused | abandoned => cases owned

/-- The acting session may rely on what it leaves. -/
theorem relies_acting {s s' : AgentStore} {l l' : AgentSession} {e : AgentInput}
    (acts : Acts s l e s' l') (relies : Relies s l) (guarded : Guarded s l e) : Relies s' l' := by
  cases acts with
  | @started new store created =>
    refine ⟨rfl, ?_⟩
    unfold Tracks
    rw [statusOf_created created]
    exact if_pos rfl
  | decided decided => exact .inl ⟨_, decideRun_ok decided⟩
  | prepared prepared => exact .inr ⟨Stage.advances prepared relies.1, relies.2⟩
  | completed => exact relies
  | raised => exact relies
  | @committed run draft sequence next =>
    obtain ⟨stored, commits⟩ := commits_of_guarded relies guarded
    cases next with
    | none => trivial
    | some stage =>
      refine ⟨commits.continues rfl, ?_⟩
      unfold Tracks
      rw [draft.sameRow, commits.statusOf]
      exact if_pos rfl
  | startRefused | read | missing | refused | abandoned => trivial

/-- A session is not disturbed while the run it has in hand keeps its status. -/
theorem Relies.of_status {s s' : AgentStore} {l : AgentSession} (relies : Relies s l)
    (same : ∀ id, owns l = some id → s'.statusOf id = s.statusOf id) : Relies s' l := by
  cases l with
  | idle => trivial
  | loaded => trivial
  | ready run stage => exact ⟨relies.1, (same run.id rfl).trans relies.2⟩
  | writing run draft sequence next =>
    rcases relies with decides | ⟨advances, tracks⟩
    · exact .inl decides
    · refine .inr ⟨advances, (same run.id ?_).trans tracks⟩
      simp [owns, advances.noApproval]

/-- A step leaves the runs that other sessions have in hand as they are. -/
theorem statusOf_owned {c : System AgentDatabase AgentSession} {e : Event AgentInput} {s : AgentStore}
    {l : AgentSession} {id : UUID} {j : Nat} (inv : Inv c)
    (acts : Acts c.shared.toAgentStore (c.locals e.session) e.input s l)
    (guarded : Guarded c.shared.toAgentStore (c.locals e.session) e.input) (other : j ≠ e.session)
    (owned : owns (c.locals j) = some id) : s.statusOf id = c.shared.statusOf id := by
  obtain ⟨⟨_, relies⟩, exclusive⟩ := inv
  obtain ⟨stage, status⟩ := (relies j).owned owned
  rcases shared_cases acts (relies e.session) guarded with
    same | ⟨new, made, _⟩ | ⟨run, draft, sequence, next, stored, writing, written, _, commits⟩
  · rw [same]
  · rw [statusOf_created made]
    refine if_neg fun same => ?_
    rw [same, AgentTables.statusOf, (createRun_some made).1] at status
    cases status
  · rw [written, commits.statusOf]
    refine if_neg fun same => ?_
    rcases commits.kind with ⟨a, decides, _⟩ | advances
    · rw [same, AgentTables.statusOf, commits.found] at status
      have current : stored.status = .waitingApproval := commits.current.trans decides.waiting
      exact stage.status_ne_waitingApproval (Option.some.inj status ▸ current)
    · refine other (exclusive j e.session id owned ?_)
      simp [writing, owns, advances.noApproval, same]

theorem justified_acting {s s' : AgentStore} {l l' : AgentSession} {e : AgentInput}
    (acts : Acts s l e s' l') (relies : Relies s l) (guarded : Guarded s l e)
    (before : Justified s) : Justified s' := by
  rcases shared_cases acts relies guarded with
    same | ⟨new, made, _⟩ | ⟨run, draft, sequence, next, stored, _, written, _, commits⟩
  · rwa [same]
  · obtain ⟨_, runs, approvals⟩ := createRun_some made
    intro id row found status
    rw [runs] at found
    rw [AgentTables.approvalsOf, approvals]
    by_cases same : id = new.id
    · rw [if_pos same] at found
      cases found
      simp [NewRun.row] at status
    · rw [if_neg same] at found
      exact before id row found status
  · rw [written]
    exact commits.justified sequence before

theorem inv_step {c d : System AgentDatabase AgentSession} {e : Event AgentInput} (inv : Inv c)
    (step : AgentStep c e d)
    (guarded : Guarded c.shared.toAgentStore (c.locals e.session) e.input) : Inv d := by
  have relies := inv.1.2 e.session
  refine ⟨step.holds inv.1 ?_ ?_, step.exclusive inv.2 ?_⟩
  · intro s l done
    exact ⟨justified_acting (act_acts done) relies guarded inv.1.1,
      relies_acting (act_acts done) relies guarded⟩
  · intro s l done j other undisturbed
    exact undisturbed.of_status fun id owned =>
      statusOf_owned inv (act_acts done) guarded other owned
  · intro s l id done mine
    rcases owns_cases (act_acts done) relies guarded mine with held | free
    · exact .inl held
    · refine .inr fun j theirs => ?_
      obtain ⟨stage, status⟩ := (inv.1.2 j).owned theirs
      exact free stage status

theorem inv_initial : Inv initial := by
  refine ⟨⟨fun id run found => ?_, fun _ => trivial⟩, fun i j id owned => ?_⟩
  · cases found
  · cases owned

/-! ## Runs -/

abbrev AgentTransition := Transition (System AgentDatabase AgentSession) (Event AgentInput)

/-- The step takes the run into `WAITING_APPROVAL`. -/
def Enters (id : UUID) (x : AgentTransition) : Prop :=
  x.source.shared.statusOf id ≠ some .waitingApproval ∧
    x.target.shared.statusOf id = some .waitingApproval

/-- How many approval rows of the run the step commits. -/
def committedApprovals (id : UUID) (x : AgentTransition) : Nat :=
  (x.target.shared.approvalsOf id).length - (x.source.shared.approvalsOf id).length

def GuardedAt (x : AgentTransition) : Prop :=
  Guarded x.source.shared.toAgentStore (x.source.locals x.label.session) x.label.input

instance (x : AgentTransition) : Decidable (GuardedAt x) :=
  inferInstanceAs (Decidable (Guarded _ _ _))

/-- Approval decisions are safe along a run: a stretch without an entry into
`WAITING_APPROVAL` commits at most one, closed statuses are kept, and a completed run was
last approved, at the revision it has. -/
structure ApprovalSafe (transitions : List AgentTransition) : Prop where
  oneDecision : ∀ id before between after, transitions = before ++ (between ++ after) →
    (∀ x ∈ between, ¬Enters id x) → (between.map (committedApprovals id)).sum ≤ 1
  closedKept : ∀ x ∈ transitions, ∀ id status, x.source.shared.statusOf id = some status →
    Closed status → x.target.shared.statusOf id = some status
  completedApproved : ∀ x ∈ transitions, ∀ id run, x.target.shared.run id = some run →
    run.status = .completed → ∃ a, (x.target.shared.approvalsOf id).getLast? = some a ∧
      a.decision = "approve" ∧ a.revision = run.revision

/-- One decision is left to make while a run waits. -/
def decisionsLeft (id : UUID) (c : System AgentDatabase AgentSession) : Nat :=
  if c.shared.statusOf id = some .waitingApproval then 1 else 0

theorem decisionsLeft_le (id : UUID) (c : System AgentDatabase AgentSession) :
    decisionsLeft id c ≤ 1 := by
  unfold decisionsLeft
  split <;> omega

theorem committedApprovals_pays {x : AgentTransition} {id : UUID} (inv : Inv x.source)
    (step : AgentStep x.source x.label x.target) (guarded : GuardedAt x)
    (noEntry : ¬Enters id x) :
    committedApprovals id x + decisionsLeft id x.target ≤ decisionsLeft id x.source := by
  have entry : decisionsLeft id x.target ≤ decisionsLeft id x.source := by
    unfold decisionsLeft
    by_cases waits : x.target.shared.statusOf id = some .waitingApproval
    · have waited : x.source.shared.statusOf id = some .waitingApproval :=
        not_not.mp fun entered => noEntry ⟨entered, waits⟩
      simp [waited, waits]
    · simp [waits]
  obtain ⟨l, done, _⟩ := step.acts
  have same : x.target.shared.approvalsOf id = x.source.shared.approvalsOf id →
      committedApprovals id x + decisionsLeft id x.target ≤ decisionsLeft id x.source := by
    intro kept
    rw [committedApprovals, kept]
    omega
  rcases shared_cases (act_acts done) (inv.1.2 x.label.session) guarded with
    idle | ⟨new, made, _⟩ | ⟨run, draft, sequence, next, stored, _, written, _, commits⟩
  · exact same (by rw [idle])
  · exact same (by rw [AgentTables.approvalsOf, AgentTables.approvalsOf, (createRun_some made).2.2])
  · by_cases here : id = run.id
    · rcases commits.kind with ⟨a, decides, _⟩ | advances
      · have before : decisionsLeft id x.source = 1 := by
          have waiting : stored.status = .waitingApproval := commits.current.trans decides.waiting
          simp [decisionsLeft, here, AgentTables.statusOf, commits.found, waiting]
        have after : decisionsLeft id x.target = 0 := by
          have left : draft.changed.status ≠ .waitingApproval := by
            rcases decisionStatus_cases decides.decision with ⟨_, h⟩ | ⟨_, h⟩ | ⟨_, h⟩ <;> simp [h]
          simp [decisionsLeft, written, commits.statusOf, here, left]
        have one : committedApprovals id x = 1 := by
          simp [committedApprovals, written, decides.approval, decides.sameRun, here]
        omega
      · exact same (by rw [written, AgentStore.approvalsOf_commit]; simp [advances.noApproval])
    · exact same (by rw [written, commits.approvals sequence here])

theorem closed_kept {x : AgentTransition} {id : UUID} {status : AgentRunStatus}
    (inv : Inv x.source) (step : AgentStep x.source x.label x.target) (guarded : GuardedAt x)
    (before : x.source.shared.statusOf id = some status) (closed : Closed status) :
    x.target.shared.statusOf id = some status := by
  obtain ⟨l, done, _⟩ := step.acts
  rcases shared_cases (act_acts done) (inv.1.2 x.label.session) guarded with
    idle | ⟨new, made, _⟩ | ⟨run, draft, sequence, next, stored, _, written, _, commits⟩
  · rwa [idle]
  · rw [statusOf_created made, if_neg ?_]
    · exact before
    · intro same
      rw [same, AgentTables.statusOf, (createRun_some made).1] at before
      cases before
  · rw [written, commits.statusOf, if_neg ?_]
    · exact before
    · intro same
      rw [same, AgentTables.statusOf, commits.found] at before
      cases before
      exact commits.not_closed closed

/-- When every decision of a run is committed on what it was checked against, approval
decisions are safe. -/
theorem approval_safe {transitions : List AgentTransition}
    {final : System AgentDatabase AgentSession} (run : AgentRunning transitions final)
    (guarded : ∀ x ∈ transitions, GuardedAt x) : ApprovalSafe transitions := by
  have holds := (run.invariant GuardedAt Inv
    (fun c e d inv step calm => inv_step inv step calm) inv_initial guarded).1
  have steps := run.steps
  refine ⟨?_, ?_, ?_⟩
  · rintro id before between after rfl noEntry
    obtain ⟨m, _, rest⟩ := run.split
    obtain ⟨n, middle, _⟩ := rest.split
    have inRun : ∀ x ∈ between, x ∈ before ++ (between ++ after) := fun x member => by
      simp [member]
    have paid := middle.cost_le (committedApprovals id) (decisionsLeft id)
      fun x member => committedApprovals_pays (holds x (inRun x member)).1
        (steps x (inRun x member)) (guarded x (inRun x member)) (noEntry x member)
    have start := decisionsLeft_le id m
    omega
  · intro x member id status before closed
    exact closed_kept (holds x member).1 (steps x member) (guarded x member) before closed
  · intro x member id row found status
    exact (holds x member).2.1.1 id row found (.inr status)

/-! ## One run, two reviewers -/

def sampleRun : NewRun := ⟨7, 1, none, "thread", []⟩

def sampleDecision (reviewer : UUID) (decision : String) : ApprovalRequest :=
  ⟨7, 1, reviewer, .manager, decision, none⟩

/-- `n` transactions of a session. -/
def transactions (session n : Nat) : List (Event AgentInput) :=
  (List.replicate n [⟨session, .prepare⟩, ⟨session, .commit⟩]).flatten

/-- Session 0 starts the run and brings it to its approval gate. -/
def toApproval : List (Event AgentInput) :=
  ⟨0, .start sampleRun⟩ :: transactions 0 1 ++ ⟨0, .invoked (some [])⟩ :: transactions 0 5

def approvedOnce : List (Event AgentInput) :=
  toApproval ++ [⟨1, .read (sampleDecision 3 "approve")⟩, ⟨1, .decide 0⟩, ⟨1, .commit⟩,
    ⟨1, .prepare⟩, ⟨1, .commit⟩]

theorem approval_safe_approved :
    (script act initial approvedOnce).length = 19 ∧ ApprovalSafe (script act initial approvedOnce) := by
  obtain ⟨final, run⟩ := run_script act initial approvedOnce
  exact ⟨by decide, approval_safe run (by decide)⟩

/-- Both reviewers read the waiting run; one approves, then the other, whose decision waits for
the row, rejects. -/
def approvedAndRejected : List (Event AgentInput) :=
  toApproval ++ [⟨1, .read (sampleDecision 3 "approve")⟩, ⟨2, .read (sampleDecision 4 "reject")⟩,
    ⟨1, .decide 0⟩, ⟨1, .commit⟩, ⟨2, .decide 0⟩, ⟨2, .commit⟩, ⟨1, .prepare⟩, ⟨1, .commit⟩]

/-- The rejected run is finalized all the same. -/
theorem rejected_run_completed : ¬∀ (transitions : List AgentTransition)
    (final : System AgentDatabase AgentSession), AgentRunning transitions final →
      ApprovalSafe transitions := by
  intro safe
  obtain ⟨final, run⟩ := run_script act initial approvedAndRejected
  have kept := (safe _ final run).closedKept
    ((script act initial approvedAndRejected).get ⟨21, by decide⟩) (List.get_mem _ _) 7 .rejected
    (by decide) trivial
  exact absurd kept (by decide)

end CoolProof.Agents
