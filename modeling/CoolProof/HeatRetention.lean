import CoolProof.HeatHistory

/-! What a history keeps of past results and past failures: when the last known
result survives a refresh, and when a failed request can be tried again. -/

namespace CoolProof.Heat
open Calendar JsonDocument Uuid Models ProviderQuery Tables Runs

/-! ## The last known result -/

def isStale (a : HeatAnalysis) (now : Instant) : Bool :=
  match a.expiresAt with
  | some expiry => decide (expiry ≤ now)
  | none => false

def optionalText (text : Option String) : Json := (text.map Json.str).getD .null

/-- `heat_out` -/
def heatOut (a : HeatAnalysis) (cached : Bool) (now : Instant) : Dict :=
  [("id", .str (Uuid.toString a.id)), ("project_id", .str (Uuid.toString a.projectId)),
   ("zone_id", .str (Uuid.toString a.zoneId)), ("status", .str a.status.value),
   ("result", (a.result.map Json.obj).getD .null), ("cached", .bool cached),
   ("stale", .bool (isStale a now)),
   ("stale_warning", if isStale a now && a.result.isSome then
      .str "FortyGuard is unavailable; showing the last successful dataset" else .null),
   ("error", if a.errorCode.getD "" ≠ "" then
      .obj [("code", optionalText a.errorCode), ("message", optionalText a.errorMessage)]
      else .null)]

/-- The stale warning needs the result that a history may or may not have kept. -/
theorem heatOut_warns_iff (a : HeatAnalysis) (cached : Bool) (now : Instant) :
    (heatOut a cached now).get "stale_warning" ≠ some .null ↔
      isStale a now = true ∧ a.result.isSome = true := by
  simp only [heatOut, Dict.get_cons, String.reduceEq, if_false, if_true]
  cases isStale a now <;> cases a.result.isSome <;> simp

def storedResult (t : HeatTables) (id : UUID) : Option Dict :=
  (t.analysis id).bind HeatAnalysis.result

/-- The operation is a poll of `id` that gets through, and the answer reports a status. -/
def Reported (s : HeatStore) (op : HeatOp) (id : UUID) (status : HeatAnalysisStatus)
    (result : Option Dict) : Prop :=
  ∃ clock raw a, op = .poll id clock (.ok raw) ∧ s.analysis id = some a ∧
    suppressed a s.circuit clock.now = false ∧ normalizeActivity raw = .ok (status, result)

theorem Opens.storedResult {svc : HeatService} {req : SubmitRequest} {env : SubmitEnv}
    {s : HeatStore} {a : HeatAnalysis} (opens : Opens svc req env s a) :
    storedResult s.toHeatTables a.id = a.result := by
  rcases opens with ⟨stored, _⟩ | ⟨_, fresh, rfl⟩
  · simp [Heat.storedResult, s.analysis_of_mem (byKey_some stored).1]
  · rw [Heat.storedResult, fresh]
    rfl

/-- Only a reported status changes a stored result. -/
theorem OpWrite.result {svc : HeatService} {s : HeatStore} {op : HeatOp} {a row : HeatAnalysis}
    {activity : Option FortyGuardActivity} (write : OpWrite svc s op a row activity) :
    row.result = storedResult s.toHeatTables a.id ∨ ∃ status, Reported s op a.id status row.result := by
  cases write with
  | stale opens | refused opens | requeued opens => exact .inl opens.storedResult.symm
  | @answered id clock raw a status result stored live normal =>
    obtain rfl := (HeatTables.analysis_mem stored).2
    refine .inr ⟨status, clock, raw, a, rfl, stored, live, ?_⟩
    rw [normal, answeredAnalysis_result]
  | retried stored | gaveUp stored =>
    obtain rfl := (HeatTables.analysis_mem stored).2
    exact .inl (by rw [storedResult, stored]; rfl)

theorem storedResult_apply (svc : HeatService) (op : HeatOp) (s : HeatStore) (id : UUID) :
    storedResult (apply svc op s).toHeatTables id = storedResult s.toHeatTables id ∨
      ∃ status result, Reported s op id status result ∧
        storedResult (apply svc op s).toHeatTables id = result := by
  rcases apply_cases svc op s with same | ⟨a, row, activity, write, wrote⟩
  · exact .inl (by rw [same])
  · by_cases here : id = row.id
    · have after : storedResult (apply svc op s).toHeatTables id = row.result := by
        rw [storedResult, wrote.analysis, if_pos here]
        rfl
      rw [write.id] at here
      subst here
      rw [after]
      exact write.result.imp (fun kept => kept) fun ⟨status, reported⟩ =>
        ⟨status, row.result, reported, rfl⟩
    · exact .inl (by rw [storedResult, wrote.analysis, if_neg here, storedResult])

theorem storedResult_of_reported (svc : HeatService) {op : HeatOp} {s : HeatStore} {id : UUID}
    {status : HeatAnalysisStatus} {result : Option Dict}
    (reported : Reported s op id status result) :
    storedResult (apply svc op s).toHeatTables id = result := by
  obtain ⟨clock, raw, a, rfl, stored, live, normal⟩ := reported
  have arrived : caught (.ok raw) = some (.ok raw) := rfl
  have wrote := poll_wrote svc clock stored live arrived
  simp only [pollBody, normal, pollAnswered] at wrote
  have sameId : (answeredAnalysis svc clock a status result).id = id :=
    (analysisKeys_id (answeredAnalysis_keys ..)).trans (HeatTables.analysis_mem stored).2
  have after := wrote.analysis id
  rw [sameId, if_pos rfl] at after
  rw [apply, storedResult, after]
  exact answeredAnalysis_result ..

/-- A result, once stored, is there in every later state, and what replaces it is the
result of a later successful activity. -/
def LastResultKept (start : HeatStore) (transitions : List (Transition HeatStore HeatOp)) :
    Prop :=
  ∀ id, ((visited start transitions).Pairwise fun s t =>
      (storedResult s.toHeatTables id).isSome → (storedResult t.toHeatTables id).isSome) ∧
    ∀ x ∈ transitions, ∀ result, storedResult x.target.toHeatTables id = some result →
      storedResult x.source.toHeatTables id = some result ∨
        Reported x.source x.label id .succeeded (some result)

/-- A poll gets through and reports anything but success over a stored result. -/
def OverwritesResult (s : HeatStore) (op : HeatOp) : Prop :=
  ∃ id status result, Reported s op id status result ∧ status ≠ .succeeded ∧
    (storedResult s.toHeatTables id).isSome

theorem overwritesResult_iff (svc : HeatService) (s : HeatStore) (op : HeatOp) :
    OverwritesResult s op ↔ ∃ id, (storedResult s.toHeatTables id).isSome ∧
      ¬(storedResult (apply svc op s).toHeatTables id).isSome := by
  constructor
  · rintro ⟨id, status, result, reported, other, held⟩
    refine ⟨id, held, ?_⟩
    rw [storedResult_of_reported svc reported]
    obtain ⟨_, _, _, _, _, _, normal⟩ := reported
    exact fun some => other ((normalizeActivity_succeeded_iff normal).mpr some)
  · rintro ⟨id, held, lost⟩
    rcases storedResult_apply svc op s id with same | ⟨status, result, reported, after⟩
    · rw [same] at lost
      exact absurd held lost
    · refine ⟨id, status, result, reported, ?_, held⟩
      obtain ⟨_, _, _, _, _, _, normal⟩ := reported
      rw [after, ← normalizeActivity_succeeded_iff normal] at lost
      exact lost

/-- The last known result survives a history exactly when no poll reports a status other
than success while a result is stored. -/
theorem last_result_kept_iff (svc : HeatService) {transitions : List (Transition HeatStore HeatOp)}
    {final : HeatStore} (run : Run (HeatStep svc) HeatStore.empty transitions final) :
    LastResultKept HeatStore.empty transitions ↔
      ∀ x ∈ transitions, ¬OverwritesResult x.source x.label := by
  have step : ∀ x ∈ transitions, x.target = apply svc x.label x.source := run.steps
  constructor
  · intro kept x member overwrites
    obtain ⟨id, held, lost⟩ := (overwritesResult_iff svc _ _).mp overwrites
    rw [← step x member] at lost
    exact lost ((run.pairwise_iff_steps.mp (kept id).1) x member held)
  · intro none id
    refine ⟨run.pairwise_iff_steps.mpr fun x member held => ?_, fun x member result after => ?_⟩
    · by_contra lost
      rw [step x member] at lost
      exact none x member ((overwritesResult_iff svc _ _).mpr ⟨id, held, lost⟩)
    · rw [step x member] at after
      rcases storedResult_apply svc x.label x.source id with same | ⟨status, found, reported, eq⟩
      · exact .inl (same ▸ after)
      · rw [eq] at after
        subst after
        obtain ⟨clock, raw, a, label, stored, live, normal⟩ := reported
        have success := (normalizeActivity_succeeded_iff normal).mpr rfl
        exact .inr ⟨clock, raw, a, label, stored, live, success ▸ normal⟩

/-- Success, expiry, refresh, and a first poll that still finds the activity running. -/
def refreshedRun : List HeatOp :=
  [sampleSubmit 0 (.ok "first"),
   samplePoll 1 completedActivity,
   sampleSubmit 3600 (.ok "second"), samplePoll 3601 [("status", .str "running")]]

theorem last_result_kept_iff_refreshed :
    LastResultKept HeatStore.empty (trace (apply sampleService) HeatStore.empty refreshedRun) ↔
      ∀ x ∈ trace (apply sampleService) HeatStore.empty refreshedRun,
        ¬OverwritesResult x.source x.label :=
  last_result_kept_iff sampleService (run_trace (apply sampleService) HeatStore.empty refreshedRun)

/-- The refreshed run loses its result while the refresh is in progress. -/
theorem refresh_loses_result : ¬∀ (svc : HeatService)
    (transitions : List (Transition HeatStore HeatOp)) (final : HeatStore),
    Run (HeatStep svc) HeatStore.empty transitions final →
      LastResultKept HeatStore.empty transitions := by
  intro kept
  have sound := (kept sampleService _ _
    (run_trace (apply sampleService) HeatStore.empty refreshedRun) 7).1
  exact absurd sound (by decide)

/-! ## Trying again after a failure -/

/-- What a submission owes its caller: `cached` only for an analysis in progress or with a
result, and a new provider call for one that failed without a result. -/
def RetryHolds (svc : HeatService) (s : HeatStore) : HeatOp → Prop
  | .submit req env =>
      (∀ a, (submit svc req env s).outcome = .returned a true →
        a.status.terminal = false ∨ a.result.isSome) ∧
      ∀ a, s.byKey req.organizationId (svc.key req) = some a → a.status = .failed →
        a.result = none → (submit svc req env s).called = true
  | .poll .. => True

/-- A submission meets a failed analysis without a result that still counts as fresh: its
expiry was never set, or is not over yet. -/
def MeetsFreshFailure (svc : HeatService) (s : HeatStore) : HeatOp → Prop
  | .submit req env => ∃ a, s.byKey req.organizationId (svc.key req) = some a ∧
      a.status = .failed ∧ a.result = none ∧ isFresh a env.now = true
  | .poll .. => False

/-- A succeeded analysis holds its result. -/
def SucceededHasResult (s : HeatStore) : Prop :=
  ∀ id a, s.analysis id = some a → a.status = .succeeded → a.result.isSome

theorem succeededHasResult_apply (svc : HeatService) (s : HeatStore) (op : HeatOp)
    (inv : SucceededHasResult s) : SucceededHasResult (apply svc op s) := by
  rcases apply_cases svc op s with same | ⟨a, row, activity, write, wrote⟩
  · rwa [same]
  · have kept : row.status = .succeeded → row.result.isSome := by
      cases write with
      | stale _ _ held => exact fun _ => held
      | answered _ _ normal =>
        rw [answeredAnalysis_result, answeredAnalysis_status]
        exact (normalizeActivity_succeeded_iff normal).mp
      | refused | requeued | retried | gaveUp => exact fun other => by cases other
    intro id b stored
    rw [wrote.analysis] at stored
    split at stored
    · cases stored
      exact kept
    · exact inv id b stored

theorem finishSubmit_called (req : SubmitRequest) (env : SubmitEnv) (s : HeatStore)
    (tables : HeatTables) (a : HeatAnalysis) (existing : Bool) :
    (finishSubmit req env s tables a existing).called = true := by
  have committed : ∀ new outcome, (commitOr s new outcome).called = true := by
    intro new outcome
    unfold commitOr
    split <;> rfl
  unfold finishSubmit
  split
  · rfl
  · split <;> exact committed _ _
  · exact committed _ _

/-- A submission that called the provider reports `cached` only for a kept result. -/
theorem finishSubmit_cached {req : SubmitRequest} {env : SubmitEnv} {s : HeatStore}
    {tables : HeatTables} {a row : HeatAnalysis} {existing : Bool}
    (h : (finishSubmit req env s tables a existing).outcome = .returned row true) :
    row.result.isSome := by
  have committed : ∀ new outcome, (commitOr s new outcome).outcome = .returned row true →
      outcome = .returned row true := by
    intro new outcome
    unfold commitOr
    split <;> simp
  unfold finishSubmit at h
  split at h
  · cases h
  · split at h
    · rename_i kept
      cases committed _ _ h
      exact ((Bool.and_eq_true _ _).mp kept).2
    · cases committed _ _ h
  · cases committed _ _ h

theorem retryHolds_iff (svc : HeatService) (s : HeatStore) (op : HeatOp)
    (inv : SucceededHasResult s) : RetryHolds svc s op ↔ ¬MeetsFreshFailure svc s op := by
  cases op with
  | poll => simp [RetryHolds, MeetsFreshFailure]
  | submit req env =>
    constructor
    · rintro ⟨_, calls⟩ ⟨a, stored, failed, lost, fresh⟩
      have called := calls a stored failed lost
      rw [submit, stored] at called
      simp [fresh] at called
    · intro expired
      refine ⟨fun a cached => ?_, fun a stored failed lost => ?_⟩
      · unfold submit at cached
        split at cached
        · rename_i existing stored
          split at cached
          · rename_i fresh
            cases cached
            by_contra useless
            rw [not_or] at useless
            have lost : a.result = none := by simpa using useless.2
            have failed : a.status = .failed := by
              cases status : a.status with
              | queued | running => simp [status, HeatAnalysisStatus.terminal] at useless
              | failed => rfl
              | succeeded =>
                have held := inv a.id a (s.analysis_of_mem (byKey_some stored).1) status
                exact absurd held useless.2
            exact expired ⟨a, stored, failed, lost, fresh⟩
          · exact .inr (finishSubmit_cached cached)
        · dsimp only at cached
          split at cached
          · exact .inr (finishSubmit_cached cached)
          · cases cached
      · have stale : isFresh a env.now = false := by
          by_contra fresh
          exact expired ⟨a, stored, failed, lost, by simpa using fresh⟩
        rw [submit, stored]
        simp [stale, finishSubmit_called]

/-- Every submission of a history can be relied on exactly when none of them meets a
failed analysis that still counts as fresh. -/
theorem failed_retry_iff (svc : HeatService) {transitions : List (Transition HeatStore HeatOp)}
    {final : HeatStore} (run : Run (HeatStep svc) HeatStore.empty transitions final) :
    (∀ x ∈ transitions, RetryHolds svc x.source x.label) ↔
      ∀ x ∈ transitions, ¬MeetsFreshFailure svc x.source x.label := by
  have start : SucceededHasResult HeatStore.empty := by
    intro id a stored
    cases stored
  refine run.forall_steps_iff SucceededHasResult ?_ ?_ start
  · rintro s op t inv rfl
    exact succeededHasResult_apply svc s op inv
  · exact fun s op t inv _ => retryHolds_iff svc s op inv

/-- The provider refuses the first request; the same request is made again. -/
def refusedRun : List HeatOp :=
  [sampleSubmit 0 (.error (.fortyGuard ⟨"fortyguard_unavailable", "FortyGuard is unavailable",
    true⟩)), sampleSubmit 3600 (.ok "second")]

theorem failed_retry_iff_refused :
    (∀ x ∈ trace (apply sampleService) HeatStore.empty refusedRun,
      RetryHolds sampleService x.source x.label) ↔
    ∀ x ∈ trace (apply sampleService) HeatStore.empty refusedRun,
      ¬MeetsFreshFailure sampleService x.source x.label :=
  failed_retry_iff sampleService (run_trace (apply sampleService) HeatStore.empty refusedRun)

/-- The second submission is answered from the failed row, without a provider call. -/
theorem refused_request_stays_failed : ¬∀ (svc : HeatService)
    (transitions : List (Transition HeatStore HeatOp)) (final : HeatStore),
    Run (HeatStep svc) HeatStore.empty transitions final →
      ∀ x ∈ transitions, RetryHolds svc x.source x.label := by
  intro retried
  have each := retried sampleService _ _
    (run_trace (apply sampleService) HeatStore.empty refusedRun)
  simp only [refusedRun, trace, List.forall_mem_cons] at each
  have called := each.2.1.2 _ rfl rfl rfl
  exact absurd called (by decide)

end CoolProof.Heat
