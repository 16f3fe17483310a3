import CoolProof.HeatPolls

/-! How operations end. A submission that comes to ask the provider works on one row, which
an error leaves stored or failed and an activity id requeues; a poll ends in an answer or an
error. What is recorded of an analysis over a history is a fold over these ends. -/

namespace CoolProof.Heat
open Calendar JsonDocument Uuid Models ProviderQuery Tables Runs

/-! ## The row of a submission -/

/-- The row a submission works on, where it comes to ask the provider. -/
def opened (svc : HeatService) (s : HeatStore) (req : SubmitRequest) (env : SubmitEnv) :
    Option HeatAnalysis :=
  match s.byKey req.organizationId (svc.key req) with
  | some existing => if isFresh existing env.now then none else some existing
  | none =>
      if (s.analysis env.newId).isSome then none
      else some (newAnalysis req (svc.key req) env.newId env.createdAt)

theorem opened_iff {svc : HeatService} {s : HeatStore} {req : SubmitRequest} {env : SubmitEnv}
    {a : HeatAnalysis} : opened svc s req env = some a ↔ Opens svc req env s a := by
  unfold opened Opens
  cases s.byKey req.organizationId (svc.key req) with
  | some existing =>
    dsimp only
    by_cases fresh : isFresh existing env.now = true
    · rw [if_pos fresh]
      constructor
      · rintro ⟨⟩
      · rintro (⟨⟨⟩, stale⟩ | ⟨⟨⟩, -, -⟩)
        rw [fresh] at stale
        cases stale
    · rw [if_neg fresh]
      constructor
      · rintro ⟨⟩
        exact .inl ⟨rfl, Bool.eq_false_of_not_eq_true fresh⟩
      · rintro (⟨⟨⟩, -⟩ | ⟨⟨⟩, -, -⟩)
        rfl
  | none =>
    cases absent : s.analysis env.newId with
    | none =>
      constructor
      · rintro ⟨⟩
        exact .inr ⟨rfl, absent, rfl⟩
      · rintro (⟨⟨⟩, -⟩ | ⟨-, -, same⟩)
        exact congrArg some same.symm
    | some old =>
      constructor
      · rintro ⟨⟩
      · rintro (⟨⟨⟩, -⟩ | ⟨-, new, same⟩)
        rw [same, newAnalysis_id, absent] at new
        cases new

/-- The flush of a new row is not refused. -/
theorem insert_constraints (s : HeatStore) {row : HeatAnalysis}
    (absent : s.byKey row.organizationId row.idempotencyKey = none)
    (fresh : s.analysis row.id = none) (unbought : row.providerActivityId = none) :
    (s.insertAnalysis row).Constraints := by
  have ids : ∀ r ∈ s.analyses, r.id ≠ row.id := find_eq_none.mp fresh
  have keys : ∀ r ∈ s.analyses, ¬(r.organizationId = row.organizationId ∧
      r.idempotencyKey = row.idempotencyKey) := by
    intro r member
    simpa using first_eq_none.mp absent r member
  refine ⟨?_, ?_, ?_, s.wf.activityAnalysis, s.wf.activityProvider, ?_⟩
  · simp only [HeatTables.insertAnalysis, List.map_append, List.map_cons, List.map_nil]
    refine List.nodup_append.mpr ⟨s.wf.analysisId, List.nodup_singleton _, ?_⟩
    intro k listed other single same
    obtain ⟨r, member, rfl⟩ := List.mem_map.mp listed
    exact ids r member (same.trans (List.mem_singleton.mp single))
  · simp only [HeatTables.insertAnalysis, List.map_append, List.map_cons, List.map_nil]
    refine List.nodup_append.mpr ⟨s.wf.idempotency, List.nodup_singleton _, ?_⟩
    intro k listed other single same
    obtain ⟨r, member, rfl⟩ := List.mem_map.mp listed
    have pair := Prod.ext_iff.mp (same.trans (List.mem_singleton.mp single))
    exact keys r member pair
  · simpa [HeatTables.insertAnalysis, unbought] using s.wf.providerActivity
  · intro x member
    simp only [HeatTables.insertAnalysis, List.map_append]
    exact List.mem_append_left _ (s.wf.activityOwner x member)

/-- Neither is the commit of a row whose constrained columns are unchanged. -/
theorem put_constraints (s : HeatStore) {a row : HeatAnalysis} (stored : s.analysis a.id = some a)
    (keys : analysisKeys row = analysisKeys a) : (s.putAnalysis row).Constraints :=
  s.wf.of_keys (putAnalysis_keys s stored keys) rfl

/-- The transaction in which a submission works on a row. -/
structure Works (s flushed : HeatStore) (a : HeatAnalysis) : Prop where
  stored : flushed.analysis a.id = some a
  analyses : ∀ k, k ≠ a.id → flushed.analysis k = s.analysis k
  activities : ∀ k, flushed.activity k = s.activity k

theorem submit_of_opened {svc : HeatService} {s : HeatStore} {req : SubmitRequest}
    {env : SubmitEnv} {a : HeatAnalysis} (works : opened svc s req env = some a) :
    ∃ flushed existing, Works s flushed a ∧ (existing = true ∨ a.result = none) ∧
      submit svc req env s = finishSubmit req env s flushed.toHeatTables a existing := by
  rcases opened_iff.mp works with ⟨stored, expired⟩ | ⟨absent, fresh, rfl⟩
  · have member := s.analysis_of_mem (byKey_some stored).1
    refine ⟨s, true, ⟨member, fun _ _ => rfl, fun _ => rfl⟩, .inl rfl, ?_⟩
    simp [submit, stored, expired]
  · have valid : (s.insertAnalysis (newAnalysis req (svc.key req) env.newId
        env.createdAt)).Constraints := insert_constraints s absent fresh rfl
    obtain ⟨flushed, committed, tables⟩ := HeatStore.commit_of _ valid
    refine ⟨flushed, false, ⟨?_, fun k other => ?_, fun k => ?_⟩, .inr rfl, ?_⟩
    · rw [tables, HeatTables.analysis_insertAnalysis, fresh]
      simp
    · rw [tables, HeatTables.analysis_insertAnalysis, if_neg (Ne.symm other), Option.or_none]
    · rw [tables]
      rfl
    · simp [submit, absent, committed, tables]

/-- A submission that does not come to ask the provider changes nothing. -/
theorem submit_unopened {svc : HeatService} {s : HeatStore} {req : SubmitRequest}
    {env : SubmitEnv} (idle : opened svc s req env = none) :
    (submit svc req env s).store = s := by
  rcases submit_cases svc req env s with same | ⟨a, row, activity, write, -⟩
  · exact same
  · have works : Opens svc req env s a := by
      cases write with
      | stale opens => exact opens
      | refused opens => exact opens
      | requeued opens => exact opens
    rw [opened_iff.mpr works] at idle
    cases idle

/-! ## Ends -/

/-- How an operation on an analysis ends: the provider sold an activity to a submission or
failed it, or a poll got so far as to ask. -/
inductive OpEnd where
  | accepted
  | refused (exc : FortyGuardError)
  | polled (e : PollEnd)
deriving DecidableEq

/-- The analysis an operation works on and how that ends; nothing where the store is left as
it was. -/
def opEnd (svc : HeatService) (s : HeatStore) : HeatOp → Option (UUID × OpEnd)
  | .submit req env =>
      (opened svc s req env).bind fun a =>
        match env.answer, (submit svc req env s).outcome with
        | .error (.fortyGuard exc), _ => some (a.id, .refused exc)
        | .ok _, .returned _ _ => some (a.id, .accepted)
        | _, _ => none
  | .poll id clock answer =>
      (pollEnd s (.poll id clock answer)).map fun how => (how.1, .polled how.2)

/-- The row that an error of `create_analysis` leaves. -/
def refusedRow (a : HeatAnalysis) (exc : FortyGuardError) : HeatAnalysis :=
  if a.result.isSome then withError a exc else markFailed a exc

theorem refusedRow_keys (a : HeatAnalysis) (exc : FortyGuardError) :
    analysisKeys (refusedRow a exc) = analysisKeys a := by
  unfold refusedRow
  split <;> rfl

@[simp] theorem refusedRow_id (a : HeatAnalysis) (exc : FortyGuardError) :
    (refusedRow a exc).id = a.id := analysisKeys_id (refusedRow_keys a exc)

/-- What an operation leaves, by its end. -/
inductive Ended (svc : HeatService) (s t : HeatStore) : HeatOp → UUID → OpEnd → Prop where
  | accepted {req env a activityId} : Opens svc req env s a → env.answer = .ok activityId →
      Wrote s.toHeatTables t.toHeatTables (requeue req activityId a)
        (some (queuedActivity a.id activityId env.dueAt (s.activity a.id))) →
      Ended svc s t (.submit req env) a.id .accepted
  | refused {req env a exc} : Opens svc req env s a → env.answer = .error (.fortyGuard exc) →
      Wrote s.toHeatTables t.toHeatTables (refusedRow a exc) (s.activity a.id) →
      Ended svc s t (.submit req env) a.id (.refused exc)
  | polled {id clock answer e} : Polled svc s t id clock e →
      Ended svc s t (.poll id clock answer) id (.polled e)

theorem Works.put {s flushed : HeatStore} {a row : HeatAnalysis} (works : Works s flushed a)
    (same : row.id = a.id) :
    Wrote s.toHeatTables (flushed.putAnalysis row) row (s.activity a.id) := by
  rw [← same]
  refine wrote_putAnalysis ?_ ?_ works.activities
  · rw [same, works.stored]
    rfl
  · rw [same]
    exact works.analyses

theorem finishSubmit_refused {req : SubmitRequest} {env : SubmitEnv} {s flushed : HeatStore}
    {a : HeatAnalysis} {existing : Bool} {exc : FortyGuardError} (works : Works s flushed a)
    (kept : existing = true ∨ a.result = none) (heard : env.answer = .error (.fortyGuard exc)) :
    (finishSubmit req env s flushed.toHeatTables a existing).store.toHeatTables =
      flushed.putAnalysis (refusedRow a exc) := by
  have valid := put_constraints flushed works.stored (refusedRow_keys a exc)
  obtain ⟨t, committed, tables⟩ := HeatStore.commit_of _ valid
  have flag : (existing && a.result.isSome) = a.result.isSome := by
    rcases kept with rfl | lost
    · rfl
    · simp [lost]
  rw [← tables]
  unfold finishSubmit commitOr
  rw [heard]
  dsimp only
  rw [flag]
  unfold refusedRow at committed
  split
  · rename_i held
    rw [if_pos held] at committed
    rw [committed]
  · rename_i lost
    rw [if_neg lost] at committed
    rw [committed]

theorem finishSubmit_accepted {req : SubmitRequest} {env : SubmitEnv} {s flushed : HeatStore}
    {a row : HeatAnalysis} {existing cached : Bool} {activityId : String}
    (works : Works s flushed a) (heard : env.answer = .ok activityId)
    (sold : (finishSubmit req env s flushed.toHeatTables a existing).outcome =
      .returned row cached) :
    Wrote s.toHeatTables (finishSubmit req env s flushed.toHeatTables a existing).store.toHeatTables
      (requeue req activityId a)
      (some (queuedActivity a.id activityId env.dueAt (s.activity a.id))) := by
  have same : (requeue req activityId a).id = a.id := rfl
  have put := (works.put same).putActivity
    (x := queuedActivity a.id activityId env.dueAt (s.activity a.id)) rfl
  have activity := works.activities a.id
  unfold finishSubmit commitOr at sold ⊢
  rw [heard] at sold ⊢
  dsimp only [requeue_id] at sold ⊢
  rw [activity] at sold ⊢
  cases committed : HeatStore.commit ((flushed.putAnalysis (requeue req activityId a)).putActivity
      (queuedActivity a.id activityId env.dueAt (s.activity a.id))) with
  | none =>
    rw [committed] at sold
    cases sold
  | some t =>
    dsimp only
    rw [HeatStore.commit_some committed]
    exact put

theorem submit_ended (svc : HeatService) {s : HeatStore} {req : SubmitRequest} {env : SubmitEnv}
    {id : UUID} {e : OpEnd} (ended : opEnd svc s (.submit req env) = some (id, e)) :
    Ended svc s (submit svc req env s).store (.submit req env) id e := by
  obtain ⟨a, row, how⟩ := Option.bind_eq_some_iff.mp ended
  obtain ⟨flushed, existing, works, kept, same⟩ := submit_of_opened row
  rw [same] at how ⊢
  cases heard : env.answer with
  | error raised =>
    cases raised with
    | valueError text => simp [heard] at how
    | fortyGuard exc =>
      rw [heard] at how
      obtain ⟨rfl, rfl⟩ : a.id = id ∧ .refused exc = e := by simpa using how
      refine .refused (opened_iff.mp row) heard ?_
      rw [finishSubmit_refused works kept heard]
      exact works.put (refusedRow_id a exc)
  | ok activityId =>
    rw [heard] at how
    cases sold : (finishSubmit req env s flushed.toHeatTables a existing).outcome with
    | returned shown cached =>
      rw [sold] at how
      obtain ⟨rfl, rfl⟩ : a.id = id ∧ .accepted = e := by simpa using how
      exact .accepted (opened_iff.mp row) heard (finishSubmit_accepted works heard sold)
    | raised | integrityError => simp [sold] at how

theorem finishSubmit_unsold {req : SubmitRequest} {env : SubmitEnv} {s : HeatStore}
    {tables : HeatTables} {a : HeatAnalysis} {existing : Bool} {activityId : String}
    (heard : env.answer = .ok activityId)
    (unsold : ∀ row cached, (finishSubmit req env s tables a existing).outcome ≠
      .returned row cached) : (finishSubmit req env s tables a existing).store = s := by
  unfold finishSubmit commitOr at unsold ⊢
  rw [heard] at unsold ⊢
  dsimp only at unsold ⊢
  split
  · rename_i t committed
    rw [committed] at unsold
    exact absurd rfl (unsold _ _)
  · rfl

theorem submit_silent (svc : HeatService) {s : HeatStore} {req : SubmitRequest} {env : SubmitEnv}
    (silent : opEnd svc s (.submit req env) = none) : (submit svc req env s).store = s := by
  cases works : opened svc s req env with
  | none => exact submit_unopened works
  | some a =>
    obtain ⟨flushed, existing, -, -, same⟩ := submit_of_opened works
    simp only [opEnd, works, Option.bind_some] at silent
    rw [same] at silent ⊢
    cases heard : env.answer with
    | error raised =>
      cases raised with
      | valueError text => simp [finishSubmit, heard]
      | fortyGuard exc => simp [heard] at silent
    | ok activityId =>
      refine finishSubmit_unsold heard fun row cached sold => ?_
      simp [heard, sold] at silent

/-- An operation leaves the store as it was, or its end says what it wrote. -/
theorem apply_ends (svc : HeatService) (s : HeatStore) (op : HeatOp) :
    opEnd svc s op = none ∧ apply svc op s = s ∨
      ∃ id e, opEnd svc s op = some (id, e) ∧ Ended svc s (apply svc op s) op id e := by
  cases ended : opEnd svc s op with
  | none =>
    refine .inl ⟨rfl, ?_⟩
    cases op with
    | submit req env => exact submit_silent svc ended
    | poll id clock answer => exact poll_silent svc (Option.map_eq_none_iff.mp ended)
  | some how =>
    refine .inr ⟨how.1, how.2, rfl, ?_⟩
    cases op with
    | submit req env => exact submit_ended svc ended
    | poll id clock answer =>
      obtain ⟨⟨k, e⟩, asked, rfl⟩ := Option.map_eq_some_iff.mp ended
      obtain ⟨rfl, polled⟩ := poll_ended svc asked
      exact .polled polled

/-- What ends as a poll was one. -/
theorem polled_of_end {svc : HeatService} {s : HeatStore} {op : HeatOp} {id : UUID} {e : PollEnd}
    (ended : opEnd svc s op = some (id, .polled e)) :
    ∃ clock, Polled svc s (apply svc op s) id clock e := by
  rcases apply_ends svc s op with ⟨silent, -⟩ | ⟨k, how, same, wrote⟩
  · rw [silent] at ended
    cases ended
  · rw [same] at ended
    cases ended
    cases wrote with
    | polled polled => exact ⟨_, polled⟩

end CoolProof.Heat
