import CoolProof.HeatConcurrency

/-! Whether an analysis stays as it is once it has succeeded, when its id can be in the
queue several times and several workers poll it. -/

namespace CoolProof.Heat
open Calendar JsonDocument Uuid Models ProviderQuery Tables Runs Sessions

/-- What a client sees of an analysis: its status and its result. -/
def outcome (t : HeatTables) (id : UUID) : Option (HeatAnalysisStatus × Option Dict) :=
  (t.analysis id).map fun a => (a.status, a.result)

def Succeeded (t : HeatTables) (id : UUID) : Prop :=
  ∃ a, t.analysis id = some a ∧ a.status = .succeeded

instance (t : HeatTables) (id : UUID) : Decidable (Succeeded t id) :=
  decidable_of_iff ((t.analysis id).any fun a => a.status = .succeeded) (by
    unfold Succeeded
    cases t.analysis id <;> simp)

/-- The commit of this session gives the analysis a new activity. -/
def Assigns (id : UUID) : HeatSession → HeatInput → Prop
  | .answered _ _ a (.ok _) _ _, .commit => id = a.id
  | _, _ => False

/-- What the provider reports: the status and the result that `normalize_activity` reads, or an
error. -/
def report : Except FortyGuardError Dict →
    Except FortyGuardError (HeatAnalysisStatus × Option Dict)
  | .error exc => .error exc
  | .ok raw => normalizeActivity raw

/-- The report is no news: the row that the poll loaded or the one that is stored by now has its
status, and one of them has its result. An error tells of a running activity while an attempt
is left and the error may be retried, and of a failed one otherwise. -/
def Known (svc : HeatService) (m : PollMemory) (stored : HeatAnalysis) :
    Except FortyGuardError (HeatAnalysisStatus × Option Dict) → Prop
  | .ok (status, result) => (m.analysis.status = status ∨ stored.status = status) ∧
      (m.analysis.result = result ∨ stored.result = result)
  | .error exc =>
      if (retries svc m.activity exc).isSome then
        m.analysis.status = .running ∨ stored.status = .running
      else m.analysis.status = .failed ∨ stored.status = .failed

/-- The poll saw no row of the provider's circuit and would insert one for its error, but by now
there is one. -/
def LosesCircuit (s : HeatShared) (m : PollMemory) (seen : Except FortyGuardError Dict) : Prop :=
  m.circuit = none ∧ s.store.circuit.isSome = true ∧ (report seen).toOption = none

instance (svc : HeatService) (m : PollMemory) (stored : HeatAnalysis)
    (r : Except FortyGuardError (HeatAnalysisStatus × Option Dict)) :
    Decidable (Known svc m stored r) := by
  unfold Known
  split <;> infer_instance

instance (s : HeatShared) (m : PollMemory) (seen : Except FortyGuardError Dict) :
    Decidable (LosesCircuit s m seen) := inferInstanceAs (Decidable (_ ∧ _))

/-- A token that is taken after the success has to hear of that very success. -/
theorem known_of_succeeded {svc : HeatService} {m : PollMemory} {stored : HeatAnalysis}
    {r : Except FortyGuardError (HeatAnalysisStatus × Option Dict)}
    (loaded : m.analysis.status = .succeeded) (done : stored.status = .succeeded) :
    Known svc m stored r ↔ ∃ result, r = .ok (.succeeded, result) ∧
      (m.analysis.result = result ∨ stored.result = result) := by
  cases r with
  | ok answer =>
    obtain ⟨status, result⟩ := answer
    simp [Known, loaded, done, eq_comm]
  | error exc =>
    unfold Known
    dsimp only
    split <;> simp [loaded, done]

/-- An error is harmless after a success only to a poll that loaded the row in the state that the
error leaves. -/
theorem known_of_error {svc : HeatService} {m : PollMemory} {stored : HeatAnalysis}
    {exc : FortyGuardError} (done : stored.status = .succeeded) :
    Known svc m stored (.error exc) ↔
      m.analysis.status = if (retries svc m.activity exc).isSome then .running else .failed := by
  unfold Known
  dsimp only
  split <;> simp [done]

/-! ## What the commit of a poll does -/

theorem analysis_of_analyses {t u : HeatTables} (h : t.analyses = u.analyses) (k : UUID) :
    t.analysis k = u.analysis k := by rw [HeatTables.analysis, HeatTables.analysis, h]

theorem answerStatus_report (svc : HeatService) (activity : Option FortyGuardActivity)
    (seen : Except FortyGuardError Dict) : answerStatus svc activity seen =
      match report seen with
      | .ok (status, _) => status
      | .error exc => failureStatus svc activity exc := by
  cases seen with
  | error exc => rfl
  | ok raw =>
    unfold answerStatus report
    dsimp only
    cases normalizeActivity raw <;> rfl

theorem answerResult_report (held : Option Dict) (seen : Except FortyGuardError Dict) :
    answerResult held seen =
      match report seen with
      | .ok (_, result) => result
      | .error _ => held := by
  cases seen with
  | error exc => rfl
  | ok raw =>
    unfold answerResult report
    dsimp only
    cases normalizeActivity raw <;> rfl

theorem pollBody_circuit_isSome {svc : HeatService} {clock : PollClock} {m : PollMemory}
    {seen : Except FortyGuardError Dict} (absent : m.circuit = none) :
    (pollBody svc clock m seen).1.circuit.isSome ↔ (report seen).toOption = none := by
  have failed : ∀ exc, (pollFailed svc clock m exc).1.circuit.isSome = true := by
    intro exc
    unfold pollFailed
    dsimp only
    split <;> rfl
  cases seen with
  | error exc => exact iff_of_true (failed exc) rfl
  | ok raw =>
    unfold pollBody report
    dsimp only
    cases normalizeActivity raw with
    | error exc => exact iff_of_true (failed exc) rfl
    | ok answer => simp [pollAnswered, absent, Except.toOption]

theorem mergeCircuit_eq_none_iff (loaded changed stored : Option ProviderCircuit) :
    mergeCircuit loaded changed stored = none ↔
      loaded = none ∧ changed.isSome = true ∧ stored.isSome = true := by
  cases loaded <;> cases changed <;> cases stored <;> simp [mergeCircuit]

theorem pollTables_eq_none_iff {svc : HeatService} {s : HeatShared} {m : PollMemory}
    {clock : PollClock} {seen : Except FortyGuardError Dict} :
    pollTables svc s.store.toHeatTables m clock seen = none ↔ LosesCircuit s m seen := by
  unfold pollTables LosesCircuit
  dsimp only
  rw [Option.map_eq_none_iff, mergeCircuit_eq_none_iff]
  constructor
  · rintro ⟨absent, created, stored⟩
    exact ⟨absent, stored, (pollBody_circuit_isSome absent).mp created⟩
  · rintro ⟨absent, stored, failed⟩
    exact ⟨absent, (pollBody_circuit_isSome absent).mpr failed, stored⟩

theorem pollFailed_activity (svc : HeatService) (clock : PollClock) (m : PollMemory)
    (exc : FortyGuardError) :
    (pollFailed svc clock m exc).1.activity.map activityKeys = m.activity.map activityKeys := by
  unfold pollFailed
  dsimp only
  split
  · rename_i x retry
    rw [retries_some retry]
    rfl
  · rfl

theorem pollBody_activity (svc : HeatService) (clock : PollClock) (m : PollMemory)
    (seen : Except FortyGuardError Dict) :
    (pollBody svc clock m seen).1.activity.map activityKeys = m.activity.map activityKeys := by
  cases seen with
  | error exc => exact pollFailed_activity svc clock m exc
  | ok raw =>
    unfold pollBody
    dsimp only
    cases normalizeActivity raw with
    | error exc => exact pollFailed_activity svc clock m exc
    | ok answer =>
      unfold pollAnswered
      dsimp only
      cases m.activity <;> rfl

/-- The constrained columns stay when unconstrained ones are written. -/
theorem mergeAnalysis_keys (s : HeatStore) {loaded changed : HeatAnalysis}
    (keys : analysisKeys changed = analysisKeys loaded) :
    (s.mergeAnalysis loaded changed).analyses.map analysisKeys =
      s.analyses.map analysisKeys := by
  have provider : changed.providerActivityId = loaded.providerActivityId :=
    congrArg (·.2.2.2) keys
  unfold HeatTables.mergeAnalysis
  split
  · rename_i stored found
    obtain ⟨-, owner⟩ := HeatTables.analysis_mem found
    have same : analysisKeys (flushAnalysis loaded changed stored) = analysisKeys stored := by
      simp [analysisKeys, flushAnalysis, provider]
    refine putAnalysis_keys s ?_ same
    rw [owner]
    exact found
  · rfl

theorem mergeActivity_keys {t : HeatTables} {loaded changed : FortyGuardActivity}
    (unique : (t.activities.map FortyGuardActivity.analysisId).Nodup)
    (keys : activityKeys loaded = activityKeys changed) :
    (t.mergeActivity (some loaded) changed).activities.map activityKeys =
      t.activities.map activityKeys := by
  have provider : changed.providerActivityId = loaded.providerActivityId :=
    (congrArg Prod.snd keys).symm
  unfold HeatTables.mergeActivity
  dsimp only
  split
  · rename_i stored found
    obtain ⟨-, owner⟩ := HeatTables.activity_mem found
    have id_ : (flushActivity loaded changed stored).analysisId = loaded.analysisId := owner
    have there : find FortyGuardActivity.analysisId
        (flushActivity loaded changed stored).analysisId t.activities = some stored := by
      rw [id_]
      exact found
    unfold HeatTables.putActivity upsert
    rw [there]
    refine map_update_of_eq fun r member hit => ?_
    have again := find_of_mem unique member
    rw [hit, there] at again
    cases again
    simp [activityKeys, flushActivity, provider]
  · rfl

/-- Only the circuit can keep a poll from committing. -/
theorem pollTables_constraints {svc : HeatService} {s : HeatStore} {m : PollMemory}
    {clock : PollClock} {seen : Except FortyGuardError Dict} {t : HeatTables}
    (merged : pollTables svc s.toHeatTables m clock seen = some t) : t.Constraints := by
  have rows := pollTables_analyses merged
  obtain ⟨-, -, keys⟩ := pollBody_analysis svc clock m seen
  have activity := pollBody_activity svc clock m seen
  refine s.wf.of_keys ?_ ?_
  · rw [rows]
    exact mergeAnalysis_keys s keys
  · have untouched : (s.mergeAnalysis m.analysis
        (pollBody svc clock m seen).1.analysis).activities = s.activities := by
      unfold HeatTables.mergeAnalysis
      split <;> rfl
    unfold pollTables at merged
    generalize pollBody svc clock m seen = body at merged activity untouched
    obtain ⟨circuit, -, rfl⟩ := Option.map_eq_some_iff.mp merged
    dsimp only
    cases changed : body.1.activity with
    | none => exact congrArg (List.map activityKeys) untouched
    | some x =>
      rw [changed] at activity
      obtain ⟨y, loaded, same⟩ := Option.map_eq_some_iff.mp activity.symm
      have merged := mergeActivity_keys (untouched ▸ s.wf.activityAnalysis) same
      rw [untouched] at merged
      rw [loaded]
      exact merged

/-- The commit of a poll leaves what a client sees exactly when the report is no news, or the
circuit's row is lost to another session. -/
theorem commitPoll_outcome_iff {svc : HeatService} {i : Nat} {s s' : HeatShared}
    {l' : HeatSession} {m : PollMemory} {clock : PollClock} {seen : Except FortyGuardError Dict}
    (done : act svc i s (.polled m clock seen) .commitPoll = some (s', l')) :
    outcome s'.store.toHeatTables m.analysis.id = outcome s.store.toHeatTables m.analysis.id ↔
      ∀ stored, s.store.analysis m.analysis.id = some stored →
        Known svc m stored (report seen) ∨ LosesCircuit s m seen := by
  rw [← @pollTables_eq_none_iff svc s m clock seen]
  unfold act at done
  dsimp only at done
  cases merged : pollTables svc s.store.toHeatTables m clock seen with
  | none =>
    rw [merged] at done
    cases done
    simp
  | some t =>
    obtain ⟨store, committed, tables⟩ := HeatStore.commit_of t (pollTables_constraints merged)
    rw [merged, Option.bind_some, committed] at done
    cases done
    have rows := pollTables_analyses merged
    obtain ⟨status, result, -⟩ := pollBody_analysis svc clock m seen
    rw [answerStatus_report] at status
    rw [answerResult_report] at result
    dsimp only
    rw [tables, outcome, outcome, analysis_of_analyses rows, HeatTables.analysis_mergeAnalysis,
      if_pos rfl]
    cases found : s.store.analysis m.analysis.id with
    | none => simp
    | some stored =>
      simp only [Option.map_some, Option.some.injEq, forall_eq', flushAnalysis, Prod.mk.injEq,
        status, result, flush_eq_stored_iff, reduceCtorEq, or_false]
      unfold Known
      cases report seen with
      | ok answer => simp only [eq_comm, or_comm]
      | error exc =>
        unfold failureStatus
        dsimp only
        split <;> simp [eq_comm, or_comm]

/-! ## Histories -/

/-- The inputs of a worker tick. -/
def workerInput : HeatInput → Bool
  | .dequeue | .load | .circuit _ | .reply _ | .commitPoll | .check | .push => true
  | _ => false

/-- The analysis has succeeded in the steps so far, and no submission has given it a new activity
since. -/
def Settled (id : UUID)
    (before : List (Transition (System HeatShared HeatSession) (Event HeatInput))) : Prop :=
  ∃ earlier x between, before = earlier ++ x :: between ∧
    Succeeded x.target.shared.store.toHeatTables id ∧
    ∀ z ∈ between, ¬Assigns id (z.source.locals z.label.session) z.label.input

/-- From a committed success on, until a submission assigns a new activity, no worker tick
changes the status or the result. -/
def TerminalStable
    (transitions : List (Transition (System HeatShared HeatSession) (Event HeatInput))) : Prop :=
  ∀ before y after, transitions = before ++ y :: after → ∀ id, Settled id before →
    workerInput y.label.input = true →
      outcome y.target.shared.store.toHeatTables id =
        outcome y.source.shared.store.toHeatTables id

/-- A poll that comes to commit over a settled analysis brings no news, or has lost the row of
the circuit. -/
def BringsNoNews (svc : HeatService)
    (before : List (Transition (System HeatShared HeatSession) (Event HeatInput)))
    (y : Transition (System HeatShared HeatSession) (Event HeatInput)) : Prop :=
  match y.source.locals y.label.session, y.label.input with
  | .polled m _ seen, .commitPoll => Settled m.analysis.id before →
      ∀ stored, y.source.shared.store.analysis m.analysis.id = some stored →
        Known svc m stored (report seen) ∨ LosesCircuit y.source.shared m seen
  | _, _ => True

theorem outcome_merge_ne {t u : HeatTables} {loaded changed : HeatAnalysis} {id : UUID}
    (rows : u.analyses = (t.mergeAnalysis loaded changed).analyses) (other : id ≠ loaded.id) :
    outcome u id = outcome t id := by
  rw [outcome, outcome, analysis_of_analyses rows, HeatTables.analysis_mergeAnalysis,
    if_neg other]

/-- A worker writes to the analysis that it polls, when it commits, and to no other. -/
theorem Acts.worker_outcome {svc : HeatService} {i : Nat} {s s' : HeatShared}
    {l l' : HeatSession} {e : HeatInput} {id : UUID} (acts : Acts svc i s l e s' l')
    (worker : workerInput e = true)
    (other : ∀ m clock seen, l = .polled m clock seen → id ≠ m.analysis.id) :
    outcome s'.store.toHeatTables id = outcome s.store.toHeatTables id := by
  cases acts with
  | polled merged => exact outcome_merge_ne (pollTables_analyses merged) (other _ _ _ rfl)
  | submitted | submitRefused | abandon | cached | expired | missing | inserted | duplicate
  | call | answer | recover => cases worker
  | _ => rfl

theorem commitPoll_of_worker {svc : HeatService} {i : Nat} {s s' : HeatShared}
    {l' : HeatSession} {m : PollMemory} {clock : PollClock} {seen : Except FortyGuardError Dict}
    {e : HeatInput} (done : act svc i s (.polled m clock seen) e = some (s', l'))
    (worker : workerInput e = true) : e = .commitPoll := by
  cases e with
  | commitPoll => rfl
  | abandon => cases worker
  | _ => cases done

/-- Terminal analyses are stable in exactly the runs in which no poll that comes to commit over a
settled analysis brings news of it. -/
theorem terminal_stable_iff (svc : HeatService)
    {transitions : List (Transition (System HeatShared HeatSession) (Event HeatInput))}
    {final : System HeatShared HeatSession} (run : HeatRun svc transitions final) :
    TerminalStable transitions ↔
      ∀ before y after, transitions = before ++ y :: after → BringsNoNews svc before y := by
  refine run.forall_splits_iff fun before c e d _ step => ?_
  obtain ⟨l, done, -⟩ := step.acts
  unfold BringsNoNews
  dsimp only
  constructor
  · intro stable
    split
    · rename_i m clock seen here input
      intro settled
      rw [here, input] at done
      exact (commitPoll_outcome_iff done).mp (stable _ settled (by rw [input]; rfl))
    · trivial
  · intro quiet id settled worker
    by_cases polls : ∃ m clock seen, c.locals e.session = .polled m clock seen ∧
        id = m.analysis.id
    · obtain ⟨m, clock, seen, here, rfl⟩ := polls
      rw [here] at done
      have input := commitPoll_of_worker done worker
      rw [input] at done
      rw [here, input] at quiet
      exact (commitPoll_outcome_iff done).mpr (quiet settled)
    · refine (act_acts done).worker_outcome worker fun m clock seen here same => ?_
      exact polls ⟨m, clock, seen, here, same⟩

/-! ## Two tokens -/

/-- Nothing has succeeded before the poll commits, or what it reports is known. -/
def quietCommit (svc : HeatService)
    (before : List (Transition (System HeatShared HeatSession) (Event HeatInput)))
    (y : Transition (System HeatShared HeatSession) (Event HeatInput)) : Bool :=
  match y.source.locals y.label.session, y.label.input with
  | .polled m _ seen, .commitPoll =>
      (before.all fun x => !decide (Succeeded x.target.shared.store.toHeatTables m.analysis.id)) ||
        (y.source.shared.store.analysis m.analysis.id).all fun stored =>
          decide (Known svc m stored (report seen))
  | _, _ => true

theorem bringsNoNews_of_quietCommit {svc : HeatService}
    {before : List (Transition (System HeatShared HeatSession) (Event HeatInput))}
    {y : Transition (System HeatShared HeatSession) (Event HeatInput)}
    (quiet : quietCommit svc before y = true) : BringsNoNews svc before y := by
  unfold quietCommit at quiet
  unfold BringsNoNews
  split
  · rename_i m clock seen here input
    rw [here, input] at quiet
    rcases (Bool.or_eq_true_iff ..).mp quiet with never | known
    · rintro ⟨earlier, x, between, rfl, succeeded, -⟩
      have absent := List.all_eq_true.mp never x (by simp)
      simp [succeeded] at absent
    · intro _ stored found
      rw [found] at known
      exact .inl (of_decide_eq_true known)
  · trivial

/-- A due id is queued by its submission and again by the recovery scan; worker 1 takes one
token and finds the result, worker 3 takes the other and is told `second`. -/
def twoTokens (second : Except FortyGuardError Dict) : List (Event HeatInput) :=
  [⟨0, .read sampleRequest 0⟩, ⟨0, .insert 7 0⟩, ⟨0, .call⟩, ⟨0, .answer (.ok "first") 0⟩,
   ⟨0, .commit⟩, ⟨0, .push⟩, ⟨2, .recover 0 100⟩, ⟨2, .push⟩,
   ⟨1, .dequeue⟩, ⟨1, .load⟩, ⟨1, .circuit (tickClock 1)⟩, ⟨1, .reply (.ok completedActivity)⟩,
   ⟨1, .commitPoll⟩,
   ⟨3, .dequeue⟩, ⟨3, .load⟩, ⟨3, .circuit (tickClock 2)⟩, ⟨3, .reply second⟩,
   ⟨3, .commitPoll⟩]

/-- The second token hears of the same result, and nothing changes. -/
theorem terminal_stable_iff_confirmed :
    (TerminalStable (script (act sampleService) initial (twoTokens (.ok completedActivity))) ↔
      ∀ before y after, script (act sampleService) initial (twoTokens (.ok completedActivity)) =
        before ++ y :: after → BringsNoNews sampleService before y) ∧
    TerminalStable (script (act sampleService) initial (twoTokens (.ok completedActivity))) ∧
    (script (act sampleService) initial (twoTokens (.ok completedActivity))).length = 18 := by
  obtain ⟨final, run⟩ :=
    run_script (act sampleService) initial (twoTokens (.ok completedActivity))
  have both := terminal_stable_iff sampleService run
  refine ⟨both, both.mpr (forall_splits_of_get fun k => bringsNoNews_of_quietCommit ?_),
    by decide⟩
  have quiet : ∀ k : Fin (script (act sampleService) initial
      (twoTokens (.ok completedActivity))).length,
      quietCommit sampleService
        ((script (act sampleService) initial (twoTokens (.ok completedActivity))).take k)
        ((script (act sampleService) initial (twoTokens (.ok completedActivity))).get k) =
          true := by decide +kernel
  exact quiet k

/-- A retryable error while attempts are left. -/
def reopening : List (Event HeatInput) :=
  twoTokens (.error ⟨"fortyguard_unavailable", "FortyGuard is unavailable", true⟩)

/-- A second token that meets an outage takes the analysis back from succeeded. -/
theorem second_token_reopens : ¬∀ (svc : HeatService)
    (transitions : List (Transition (System HeatShared HeatSession) (Event HeatInput)))
    (final : System HeatShared HeatSession), HeatRun svc transitions final →
      TerminalStable transitions := by
  intro stable
  obtain ⟨final, run⟩ := run_script (act sampleService) initial reopening
  have settled : Settled 7 ((script (act sampleService) initial reopening).take 17) :=
    ⟨(script (act sampleService) initial reopening).take 12,
      (script (act sampleService) initial reopening).get ⟨12, by decide⟩,
      ((script (act sampleService) initial reopening).drop 13).take 4, rfl, ⟨_, rfl, rfl⟩,
      List.forall_mem_cons.mpr ⟨id, List.forall_mem_cons.mpr ⟨id, List.forall_mem_cons.mpr
        ⟨id, List.forall_mem_cons.mpr ⟨id, List.forall_mem_nil _⟩⟩⟩⟩⟩
  have kept := stable sampleService _ final run
    ((script (act sampleService) initial reopening).take 17)
    ((script (act sampleService) initial reopening).get ⟨17, by decide⟩) [] rfl 7 settled rfl
  exact absurd kept (by decide)

end CoolProof.Heat
