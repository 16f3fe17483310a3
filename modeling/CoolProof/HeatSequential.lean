import CoolProof.HeatSessions

/-! A session that nobody interrupts does what the operation of a history does: its
column-wise commit over the rows it loaded stores the rows it has in memory. -/

namespace CoolProof.Heat
open Calendar JsonDocument Uuid Models ProviderQuery Tables Runs Sessions

/-! ## Commits over what was loaded -/

/-- The columns that no session changes. -/
def fixedColumns (a : HeatAnalysis) : UUID × UUID × String × Instant :=
  (a.id, a.organizationId, a.idempotencyKey, a.createdAt)

theorem flushAnalysis_loaded {loaded changed : HeatAnalysis}
    (same : fixedColumns changed = fixedColumns loaded) :
    flushAnalysis loaded changed loaded = changed := by
  simp only [fixedColumns, Prod.mk.injEq] at same
  obtain ⟨id, organization, key, created⟩ := same
  cases changed
  simp_all [flushAnalysis]

theorem mergeAnalysis_loaded {t : HeatTables} {loaded changed : HeatAnalysis}
    (stored : t.analysis loaded.id = some loaded)
    (same : fixedColumns changed = fixedColumns loaded) :
    t.mergeAnalysis loaded changed = t.putAnalysis changed := by
  rw [HeatTables.mergeAnalysis, stored]
  dsimp only
  rw [flushAnalysis_loaded same]

theorem flushActivity_loaded {loaded changed : FortyGuardActivity}
    (same : changed.analysisId = loaded.analysisId) :
    flushActivity loaded changed loaded = changed := by
  cases changed
  simp_all [flushActivity]

theorem mergeActivity_loaded (t : HeatTables) (changed : FortyGuardActivity) :
    t.mergeActivity (t.activity changed.analysisId) changed = t.putActivity changed := by
  cases loaded : t.activity changed.analysisId with
  | none =>
    have absent : find FortyGuardActivity.analysisId changed.analysisId t.activities = none := loaded
    simp [HeatTables.mergeActivity, HeatTables.putActivity, upsert, absent]
  | some x =>
    have owner : x.analysisId = changed.analysisId := (HeatTables.activity_mem loaded).2
    simp only [HeatTables.mergeActivity, owner, loaded]
    rw [flushActivity_loaded owner.symm]

/-! ## Submissions -/

theorem fixedColumns_submitRow (req : SubmitRequest) (existing : Bool) (a : HeatAnalysis)
    (answer : Except FortyGuardError String) :
    fixedColumns (submitRow req existing a answer) = fixedColumns a := by
  cases answer with
  | ok activityId => rfl
  | error exc =>
    unfold submitRow
    dsimp only
    split <;> rfl

theorem commitOr_store (s : HeatStore) (new : HeatTables) (outcome : SubmitOutcome) :
    (commitOr s new outcome).store = (HeatStore.commit new).getD s := by
  unfold commitOr
  split <;> rename_i found <;> rw [found] <;> rfl

/-- The answer of the provider as a session sees it, unless it is another exception. -/
theorem finishSubmit_store {req : SubmitRequest} {env : SubmitEnv} {s : HeatStore}
    {t : HeatTables} {a : HeatAnalysis} {existing : Bool}
    {answer : Except FortyGuardError String} (arrived : caught env.answer = some answer)
    (opened : t = if existing then s.toHeatTables else s.insertAnalysis a)
    (stored : t.analysis a.id = some a) :
    (finishSubmit req env s t a existing).store =
      (HeatStore.commit (submitTables s.toHeatTables req existing a answer env.dueAt
        (s.activity a.id))).getD s := by
  have activity : t.activity a.id = s.activity a.id := by
    rw [opened]
    cases existing <;> rfl
  have row := mergeAnalysis_loaded stored (fixedColumns_submitRow req existing a answer)
  unfold submitTables
  dsimp only
  rw [← opened, row]
  unfold finishSubmit
  cases heard : env.answer with
  | error exc =>
    cases exc with
    | valueError text =>
      rw [heard] at arrived
      cases arrived
    | fortyGuard exc =>
      rw [heard] at arrived
      cases arrived
      dsimp only [submitRow]
      split <;> exact commitOr_store ..
  | ok activityId =>
    rw [heard] at arrived
    cases arrived
    -- the row was requeued first, which leaves the activities as they are
    have loaded : (t.putAnalysis (requeue req activityId a)).activity a.id = s.activity a.id :=
      activity
    have merged := mergeActivity_loaded (t.putAnalysis (requeue req activityId a))
      (queuedActivity a.id activityId env.dueAt (s.activity a.id))
    simp only [queuedActivity, loaded] at merged
    simp only [requeue_id, activity, commitOr_store, submitRow, queuedActivity, merged]

theorem finishSubmit_uncaught {req : SubmitRequest} {env : SubmitEnv} {s : HeatStore}
    {t : HeatTables} {a : HeatAnalysis} {existing : Bool} (escaped : caught env.answer = none) :
    (finishSubmit req env s t a existing).store = s := by
  unfold finishSubmit
  cases heard : env.answer with
  | ok activityId =>
    rw [heard] at escaped
    cases escaped
  | error exc =>
    cases exc with
    | valueError text => rfl
    | fortyGuard exc =>
      rw [heard] at escaped
      cases escaped

/-- From its row on, a submission on its own ends in the store of `finishSubmit`. -/
theorem finish_alone (svc : HeatService) (i : Nat) (s : HeatShared) (req : SubmitRequest)
    (env : SubmitEnv) {a : HeatAnalysis} (existing : Bool)
    (stored : (if existing then s.store.toHeatTables else s.store.insertAnalysis a).analysis a.id =
      some a) :
    ∃ inputs s' l', alone (act svc) i s (.opened req existing a) inputs = some (s', l') ∧
      s'.store = (finishSubmit req env s.store
        (if existing then s.store.toHeatTables else s.store.insertAnalysis a) a existing).store := by
  cases arrived : caught env.answer with
  | none => exact ⟨[.abandon], _, _, rfl, (finishSubmit_uncaught arrived).symm⟩
  | some answer =>
    rw [finishSubmit_store arrived rfl stored]
    cases committed : HeatStore.commit (submitTables s.store.toHeatTables req existing a answer
        env.dueAt (s.store.activity a.id)) with
    | none =>
      refine ⟨[.call, .answer answer env.dueAt, .commit], s.release i, .idle, ?_, rfl⟩
      simp [alone, act, committed]
    | some store =>
      cases answer with
      | ok activityId =>
        refine ⟨[.call, .answer (.ok activityId) env.dueAt, .commit],
          { s.release i with store := store }, .enqueueing [a.id], ?_, rfl⟩
        simp [alone, act, committed]
      | error exc =>
        refine ⟨[.call, .answer (.error exc) env.dueAt, .commit],
          { s.release i with store := store }, .idle, ?_, rfl⟩
        simp [alone, act, committed]

theorem submit_alone (svc : HeatService) (i : Nat) (s : HeatShared) (req : SubmitRequest)
    (env : SubmitEnv) (free : holdsKey s req.organizationId (svc.key req) = false) :
    ∃ inputs s' l', alone (act svc) i s .idle inputs = some (s', l') ∧
      s'.store = (submit svc req env s.store).store := by
  unfold submit
  cases found : s.store.byKey req.organizationId (svc.key req) with
  | some existing =>
    have member : s.store.analysis existing.id = some existing :=
      s.store.analysis_of_mem (byKey_some found).1
    cases fresh : isFresh existing env.now with
    | true =>
      refine ⟨[.read req env.now], s, .idle, ?_, by simp [fresh]⟩
      simp [alone, act, found, fresh]
    | false =>
      obtain ⟨inputs, s', l', taken, store⟩ :=
        finish_alone svc i s req env true member
      refine ⟨.read req env.now :: inputs, s', l', ?_, by simpa [fresh] using store⟩
      simp [alone, act, found, fresh, taken]
  | none =>
    cases inserted : HeatStore.commit
        (s.store.insertAnalysis (newAnalysis req (svc.key req) env.newId env.createdAt)) with
    | none =>
      refine ⟨[.read req env.now, .insert env.newId env.createdAt], s, .idle, ?_, ?_⟩
      · simp [alone, act, found, free, inserted]
      · simp [inserted]
    | some flushed =>
      have inTable : newAnalysis req (svc.key req) env.newId env.createdAt ∈ flushed.analyses := by
        rw [HeatStore.commit_some inserted]
        simp [HeatTables.insertAnalysis]
      have member := flushed.analysis_of_mem inTable
      rw [HeatStore.commit_some inserted] at member
      obtain ⟨inputs, s', l', taken, store⟩ := finish_alone svc i
        { s with pending := (i, req.organizationId, svc.key req) :: s.pending } req env false member
      refine ⟨.read req env.now :: .insert env.newId env.createdAt :: inputs, s', l', ?_, ?_⟩
      · simp [alone, act, found, free, inserted, taken]
      · simpa [inserted] using store

/-- Every submission of a history is the run of one session, if no other session holds its
key. -/
theorem submit_uninterrupted (svc : HeatService) (i : Nat) (c : System HeatShared HeatSession)
    (req : SubmitRequest) (env : SubmitEnv) (idle : c.locals i = .idle)
    (free : holdsKey c.shared req.organizationId (svc.key req) = false) :
    ∃ transitions d, Run (Step (act svc)) c transitions d ∧
      (∀ x ∈ transitions, x.label.session = i) ∧
      d.shared.store = (submit svc req env c.shared.store).store := by
  obtain ⟨inputs, s', l', taken, store⟩ := submit_alone svc i c.shared req env free
  rw [← idle] at taken
  obtain ⟨transitions, d, run, shared, mine⟩ := run_alone taken
  exact ⟨transitions, d, run, mine, shared ▸ store⟩

/-! ## Polls -/

theorem fixedColumns_poll (svc : HeatService) (clock : PollClock) (m : PollMemory)
    (seen : Except FortyGuardError Dict) :
    fixedColumns (pollBody svc clock m seen).1.analysis = fixedColumns m.analysis := by
  obtain ⟨raw, status, result, _, _, ends⟩ | ⟨exc, _, ends⟩ := pollBody_ends svc clock m seen
  · rw [ends]
    unfold pollAnswered answeredAnalysis
    dsimp only
    split <;> rfl
  · rw [ends]
    unfold pollFailed
    dsimp only
    split <;> rfl

/-- A poll keeps the activity it loaded, under the same analysis. -/
theorem poll_activity (svc : HeatService) (clock : PollClock) (m : PollMemory)
    (seen : Except FortyGuardError Dict) :
    (pollBody svc clock m seen).1.activity.map FortyGuardActivity.analysisId =
      m.activity.map FortyGuardActivity.analysisId := by
  obtain ⟨raw, status, result, _, _, ends⟩ | ⟨exc, _, ends⟩ := pollBody_ends svc clock m seen
  · rw [ends]
    simp only [pollAnswered, Option.map_map]
    rfl
  · rw [ends]
    unfold pollFailed
    dsimp only
    split
    · rename_i x retry
      have loaded : m.activity = some x := retries_some retry
      rw [loaded]
      rfl
    · rfl

theorem poll_circuit (svc : HeatService) (clock : PollClock) (m : PollMemory)
    (seen : Except FortyGuardError Dict) :
    mergeCircuit m.circuit (pollBody svc clock m seen).1.circuit m.circuit =
      some (pollBody svc clock m seen).1.circuit := by
  have written : ∀ c d, flushCircuit c d c = d := fun c d => by simp [flushCircuit]
  obtain ⟨raw, status, result, _, _, ends⟩ | ⟨exc, _, ends⟩ := pollBody_ends svc clock m seen
  · rw [ends]
    unfold pollAnswered
    dsimp only
    cases m.circuit <;> simp [mergeCircuit, written]
  · have circuit : (pollFailed svc clock m exc).1.circuit =
        some (failedCircuit clock m.circuit) := by
      unfold pollFailed
      dsimp only
      split <;> rfl
    rw [ends, circuit]
    cases m.circuit <;> simp [mergeCircuit, written]

theorem pollTables_loaded (svc : HeatService) {t : HeatTables} {a : HeatAnalysis}
    (clock : PollClock) (seen : Except FortyGuardError Dict) (stored : t.analysis a.id = some a) :
    pollTables svc t ⟨a, t.activity a.id, t.circuit⟩ clock seen =
      some (t.putPoll (pollBody svc clock ⟨a, t.activity a.id, t.circuit⟩ seen).1
        (pollBody svc clock ⟨a, t.activity a.id, t.circuit⟩ seen).2) := by
  have columns := fixedColumns_poll svc clock ⟨a, t.activity a.id, t.circuit⟩ seen
  have activity := poll_activity svc clock ⟨a, t.activity a.id, t.circuit⟩ seen
  have circuit := poll_circuit svc clock ⟨a, t.activity a.id, t.circuit⟩ seen
  unfold pollTables HeatTables.putPoll
  generalize pollBody svc clock ⟨a, t.activity a.id, t.circuit⟩ seen = body at *
  obtain ⟨changed, events⟩ := body
  dsimp only at *
  rw [circuit, mergeAnalysis_loaded stored columns]
  cases kept : changed.activity with
  | none => rfl
  | some x =>
    have owner : x.analysisId = a.id := by
      rw [kept] at activity
      obtain ⟨old, loaded, same⟩ := Option.map_eq_some_iff.mp activity.symm
      exact same.symm.trans (HeatTables.activity_mem loaded).2
    have merged := mergeActivity_loaded (t.putAnalysis changed.analysis) x
    rw [owner] at merged
    simp only [Option.map_some, Option.some.injEq]
    rw [← merged]
    rfl

theorem poll_alone (svc : HeatService) (i : Nat) (s : HeatShared) (id : UUID) (clock : PollClock)
    (answer : Except Raised Dict) :
    ∃ inputs s' l', alone (act svc) i s (.dequeued id) inputs = some (s', l') ∧
      s'.store = poll svc id clock answer s.store := by
  unfold poll
  cases stored : s.store.analysis id with
  | none => exact ⟨[.load], s, .idle, by simp [alone, act, stored], rfl⟩
  | some a =>
    cases arrived : caught answer with
    | none => exact ⟨[.abandon], s.release i, .idle, rfl, rfl⟩
    | some seen =>
      obtain rfl := (HeatTables.analysis_mem stored).2
      cases live : suppressed a s.store.circuit clock.now with
      | true =>
        refine ⟨[.load, .circuit clock], s, .checking a.id (some a.status), ?_, by simp [live]⟩
        simp [alone, act, stored, live]
      | false =>
        have tables := pollTables_loaded svc clock seen stored
        cases committed : HeatStore.commit (s.store.putPoll
            (pollBody svc clock ⟨a, s.store.activity a.id, s.store.circuit⟩ seen).1
            (pollBody svc clock ⟨a, s.store.activity a.id, s.store.circuit⟩ seen).2) with
        | none =>
          refine ⟨[.load, .circuit clock, .reply seen, .commitPoll], s, .idle, ?_, ?_⟩
          · simp [alone, act, stored, live, tables, committed]
          · simp [live, committed]
        | some store =>
          refine ⟨[.load, .circuit clock, .reply seen, .commitPoll], { s with store := store },
            .checking a.id none, ?_, ?_⟩
          · simp [alone, act, stored, live, tables, committed]
          · simp [live, committed]

/-- Every poll of a history is the run of one worker that has taken the id. -/
theorem poll_uninterrupted (svc : HeatService) (i : Nat) (c : System HeatShared HeatSession)
    (id : UUID) (clock : PollClock) (answer : Except Raised Dict)
    (dequeued : c.locals i = .dequeued id) :
    ∃ transitions d, Run (Step (act svc)) c transitions d ∧
      (∀ x ∈ transitions, x.label.session = i) ∧
      d.shared.store = poll svc id clock answer c.shared.store := by
  obtain ⟨inputs, s', l', taken, store⟩ := poll_alone svc i c.shared id clock answer
  rw [← dequeued] at taken
  obtain ⟨transitions, d, run, shared, mine⟩ := run_alone taken
  exact ⟨transitions, d, run, mine, shared ▸ store⟩

end CoolProof.Heat
