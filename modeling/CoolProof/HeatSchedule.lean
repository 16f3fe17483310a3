import CoolProof.HeatHistory

/-! The polling schedule across a history. Status and schedule live in two rows that
different branches write; the invariant ties an analysis to its activity so that the
recovery scan finds every analysis in progress. -/

namespace CoolProof.Heat
open Calendar JsonDocument Uuid Models ProviderQuery Tables Runs

/-! ## The recovery scan -/

def dueBy (now : Instant) (x : FortyGuardActivity) : Bool :=
  match x.nextPollAt with
  | some due => decide (due ≤ now)
  | none => false

/-- The joined analysis is in neither terminal status. -/
def inProgress (t : HeatTables) (x : FortyGuardActivity) : Bool :=
  match t.analysis x.analysisId with
  | some a => !a.status.terminal
  | none => false

/-- The rows the scan selects, by `next_poll_at`, which every one of them has. -/
def dueActivities (now : Instant) (t : HeatTables) : List FortyGuardActivity :=
  (t.activities.filter fun x => dueBy now x && inProgress t x).insertionSort
    (ascending fun x => x.nextPollAt.getD 0)

/-- The ids that `recover_due_heat_activities` puts back on the queue, in order. -/
def recoverDueHeatActivities (now : Instant) (limit : Nat) (t : HeatTables) : List UUID :=
  ((dueActivities now t).take limit).map FortyGuardActivity.analysisId

theorem mem_dueActivities {now : Instant} {t : HeatTables} {x : FortyGuardActivity} :
    x ∈ dueActivities now t ↔ x ∈ t.activities ∧ dueBy now x = true ∧ inProgress t x = true := by
  simp [dueActivities]

theorem recoverDue_mem {now : Instant} {limit : Nat} {t : HeatTables} {x : FortyGuardActivity}
    (due : x ∈ dueActivities now t) (room : (dueActivities now t).length ≤ limit) :
    x.analysisId ∈ recoverDueHeatActivities now limit t := by
  unfold recoverDueHeatActivities
  rw [List.take_of_length_le room]
  exact List.mem_map_of_mem due

/-! ## The invariant -/

/-- An analysis with an activity id has that activity, and one in progress has an activity
that is due at some time. -/
structure Tied (a : HeatAnalysis) (activity : Option FortyGuardActivity) : Prop where
  same : ∀ p, a.providerActivityId = some p → ∃ x, activity = some x ∧ x.providerActivityId = p
  started : a.status.terminal = false → a.providerActivityId.isSome
  scheduled : a.status.terminal = false → ∀ x, activity = some x → x.nextPollAt.isSome

def AllTied (s : HeatStore) : Prop := ∀ id a, s.analysis id = some a → Tied a (s.activity id)

theorem suppressed_providerActivityId {a : HeatAnalysis} {circuit : Option ProviderCircuit}
    {now : Instant} (live : suppressed a circuit now = false) :
    a.providerActivityId.isSome := by
  cases h : a.providerActivityId with
  | none => simp [suppressed, h] at live
  | some p => rfl

theorem OpWrite.tied {svc : HeatService} {s : HeatStore} {op : HeatOp} {a row : HeatAnalysis}
    {activity : Option FortyGuardActivity} (inv : AllTied s)
    (write : OpWrite svc s op a row activity) : Tied row activity := by
  cases write with
  | stale opens _ held =>
    rcases opens with ⟨stored, _⟩ | ⟨_, _, rfl⟩
    · have before := inv _ a (s.analysis_of_mem (byKey_some stored).1)
      exact ⟨before.same, before.started, before.scheduled⟩
    · cases held
  | refused opens =>
    rcases opens with ⟨stored, _⟩ | ⟨_, _, rfl⟩
    · have before := inv _ a (s.analysis_of_mem (byKey_some stored).1)
      exact ⟨before.same, fun open_ => (by cases open_), fun open_ => (by cases open_)⟩
    · exact ⟨fun p id => (by cases id), fun open_ => (by cases open_),
        fun open_ => (by cases open_)⟩
  | requeued =>
    refine ⟨fun p id => ?_, fun _ => rfl, fun _ x eq => ?_⟩
    · cases id
      exact ⟨_, rfl, rfl⟩
    · cases eq
      rfl
  | @answered id clock raw a status result stored live normal =>
    obtain rfl := (HeatTables.analysis_mem stored).2
    have before := inv _ a stored
    have keys := answeredAnalysis_keys svc clock a status result
    have provider : (answeredAnalysis svc clock a status result).providerActivityId =
        a.providerActivityId := congrArg (·.2.2.2) keys
    refine ⟨fun p id => ?_, fun _ => ?_, fun open_ x eq => ?_⟩
    · rw [provider] at id
      obtain ⟨x, found, same⟩ := before.same p id
      exact ⟨answeredActivity clock raw status x, by rw [found]; rfl, same⟩
    · rw [provider]
      exact suppressed_providerActivityId live
    · obtain ⟨old, _, rfl⟩ := Option.map_eq_some_iff.mp eq
      rw [answeredAnalysis_status] at open_
      simp [answeredActivity, open_]
  | @retried id clock answer a exc x stored live _ retry =>
    obtain rfl := (HeatTables.analysis_mem stored).2
    have before := inv _ a stored
    refine ⟨fun p id => ?_, fun _ => suppressed_providerActivityId live, fun _ y eq => ?_⟩
    · obtain ⟨y, found, same⟩ := before.same p id
      rw [retries_some retry] at found
      cases found
      exact ⟨_, rfl, same⟩
    · cases eq
      rfl
  | gaveUp stored =>
    obtain rfl := (HeatTables.analysis_mem stored).2
    exact ⟨(inv _ a stored).same, fun open_ => (by cases open_), fun open_ => (by cases open_)⟩

theorem allTied_apply (svc : HeatService) (s : HeatStore) (op : HeatOp) (inv : AllTied s) :
    AllTied (apply svc op s) := by
  rcases apply_cases svc op s with same | ⟨a, row, activity, write, wrote⟩
  · rwa [same]
  · intro id b stored
    rw [wrote.analysis] at stored
    rw [wrote.activity]
    by_cases here : id = row.id
    · rw [if_pos here] at stored ⊢
      cases stored
      exact write.tied inv
    · rw [if_neg here] at stored ⊢
      exact inv id b stored

theorem allTied_run {svc : HeatService} {transitions : List (Transition HeatStore HeatOp)}
    {final : HeatStore} (run : Run (HeatStep svc) HeatStore.empty transitions final) :
    AllTied final := by
  refine (run.always AllTied ?_ ?_).2
  · rintro s op t inv rfl
    exact allTied_apply svc s op inv
  · intro id a stored
    cases stored

/-! ## When the next poll is due -/

theorem le_add_minute {due written : Int} (le : due ≤ written) :
    due ≤ written + seconds 60 := by
  unfold seconds
  omega

theorem min_sixty_seconds {now written : Int} (le : now ≤ written) (n : Int) :
    now + seconds (min 60 n) ≤ written + seconds 60 := by
  unfold seconds
  omega

/-- An activity that an operation writes is due within a minute of its commit. -/
theorem OpWrite.due {svc : HeatService} {s : HeatStore} {op : HeatOp} {a row : HeatAnalysis}
    {x : FortyGuardActivity} {due : Instant} (write : OpWrite svc s op a row (some x))
    (scheduled : x.nextPollAt = some due) :
    s.activity a.id = some x ∨ due ≤ op.writtenAt + seconds 60 := by
  generalize activity : some x = written at write
  cases write with
  | stale | refused | gaveUp => exact .inl rfl
  | @requeued req env a activityId =>
    cases activity
    cases scheduled
    exact .inr (le_add_minute env.dueAt_le_writtenAt)
  | @answered id clock raw a status result =>
    obtain ⟨old, _, rfl⟩ := Option.map_eq_some_iff.mp activity.symm
    simp only [answeredActivity] at scheduled
    split at scheduled
    · cases scheduled
    · cases scheduled
      exact .inr (min_sixty_seconds clock.now_le_writtenAt _)
  | @retried id clock answer a exc old =>
    cases activity
    cases scheduled
    exact .inr (min_sixty_seconds clock.now_le_writtenAt _)

theorem due_of_changed {svc : HeatService} {s : HeatStore} {op : HeatOp} {id : UUID}
    {x : FortyGuardActivity} {due : Instant} (changed : s.activity id ≠ (apply svc op s).activity id)
    (after : (apply svc op s).activity id = some x) (scheduled : x.nextPollAt = some due) :
    due ≤ op.writtenAt + seconds 60 := by
  rcases apply_cases svc op s with same | ⟨a, row, activity, write, wrote⟩
  · rw [same] at changed
    exact absurd rfl changed
  · have value := wrote.activity id
    by_cases here : id = row.id
    · rw [if_pos here] at value
      rw [value] at after changed
      subst after
      rcases write.due scheduled with old | bound
      · have sameId : row.id = a.id := write.id
        rw [here, sameId] at changed
        exact absurd old changed
      · exact bound
    · rw [if_neg here] at value
      exact absurd value.symm changed

/-- After any history, an analysis in progress has its activity, which the operation that
wrote it last left due within a minute, and from then on the recovery scan selects it. -/
theorem no_stranded_activity (svc : HeatService)
    {transitions : List (Transition HeatStore HeatOp)} {final : HeatStore}
    (run : Run (HeatStep svc) HeatStore.empty transitions final) :
    ∀ a ∈ final.analyses, a.status = .queued ∨ a.status = .running →
      ∃ x ∈ final.activities, ∃ due, x.analysisId = a.id ∧
        a.providerActivityId = some x.providerActivityId ∧ x.nextPollAt = some due ∧
        (∃ before write after, transitions = before ++ write :: after ∧
          write.source.activity a.id ≠ some x ∧ write.target.activity a.id = some x ∧
          (∀ y ∈ after, y.target.activity a.id = some x) ∧
          due ≤ write.label.writtenAt + seconds 60) ∧
        ∀ now limit, due ≤ now → (dueActivities now final.toHeatTables).length ≤ limit →
          a.id ∈ recoverDueHeatActivities now limit final.toHeatTables := by
  intro a member status
  have open_ : a.status.terminal = false := by rcases status with h | h <;> rw [h] <;> rfl
  have stored := final.analysis_of_mem member
  have tied := allTied_run run a.id a stored
  obtain ⟨p, provider⟩ := Option.isSome_iff_exists.mp (tied.started open_)
  obtain ⟨x, found, same⟩ := tied.same p provider
  obtain ⟨due, scheduled⟩ := Option.isSome_iff_exists.mp (tied.scheduled open_ x found)
  obtain ⟨inTable, owner⟩ := HeatTables.activity_mem found
  refine ⟨x, inTable, due, owner, by rw [provider, same], scheduled, ?_, ?_⟩
  · rcases run.last_change (fun s => s.activity a.id) with ⟨never, _⟩ | last
    · rw [found] at never
      cases never
    · obtain ⟨before, write, after, rfl, changed, value, still⟩ := last
      have step : write.target = apply svc write.label write.source := run.steps write (by simp)
      rw [found] at value still
      refine ⟨before, write, after, rfl, value ▸ changed, value, still, ?_⟩
      rw [step] at changed value
      exact due_of_changed changed value scheduled
  · intro now limit late room
    rw [← owner]
    have dueNow : x ∈ dueActivities now final.toHeatTables := by
      refine mem_dueActivities.mpr ⟨inTable, ?_, ?_⟩
      · simp [dueBy, scheduled, late]
      · simp [inProgress, owner, stored, open_]
    exact recoverDue_mem dueNow room

/-- A first submission that the provider accepts. -/
def acceptedRun : List HeatOp := [sampleSubmit 0 (.ok "first")]

/-- The row it stores. -/
def acceptedAnalysis : HeatAnalysis :=
  requeue sampleRequest "first"
    (newAnalysis sampleRequest (sampleService.key sampleRequest) 7 (seconds 0))

/-- The store it leaves. -/
def acceptedStore : HeatStore :=
  acceptedRun.foldl (fun s op => apply sampleService op s) HeatStore.empty

theorem no_stranded_activity_accepted :
    acceptedAnalysis ∈ acceptedStore.analyses ∧ acceptedAnalysis.status = .queued ∧
      ∃ x ∈ acceptedStore.activities, ∃ due, x.analysisId = acceptedAnalysis.id ∧
        acceptedAnalysis.providerActivityId = some x.providerActivityId ∧
        x.nextPollAt = some due := by
  have member : acceptedAnalysis ∈ acceptedStore.analyses := List.mem_singleton.mpr rfl
  obtain ⟨x, inTable, due, owner, provider, scheduled, _⟩ :=
    no_stranded_activity sampleService
      (run_trace (apply sampleService) HeatStore.empty acceptedRun) acceptedAnalysis member
      (.inl rfl)
  exact ⟨member, rfl, x, inTable, due, owner, provider, scheduled⟩

end CoolProof.Heat
