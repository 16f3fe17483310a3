import CoolProof.HeatEnds
import CoolProof.HeatRetention

/-! What is shown and what is recorded of an outcome. An error code is set by every error
and cleared only by the next activity; a terminal status is audited where a poll sets it and
not where a submission does. -/

namespace CoolProof.Heat
open Calendar JsonDocument Uuid Models ProviderQuery Tables Runs

/-! ## The error on record -/

def notedAfter (id : UUID) (noted : Option String) : Option (UUID × OpEnd) → Option String
  | some (k, .accepted) => if k = id then none else noted
  | some (k, .refused exc) => if k = id then some exc.code else noted
  | some (k, .polled (.error exc)) => if k = id then some exc.code else noted
  | some (_, .polled (.answered _)) => noted
  | none => noted

/-- The code of the last error of an analysis since an activity was bought for it. -/
def notedError (svc : HeatService) (id : UUID) (history : List (Transition HeatStore HeatOp)) :
    Option String :=
  history.foldl (fun noted x => notedAfter id noted (opEnd svc x.source x.label)) none

theorem notedError_append (svc : HeatService) (id : UUID)
    (history : List (Transition HeatStore HeatOp)) (x : Transition HeatStore HeatOp) :
    notedError svc id (history ++ [x]) =
      notedAfter id (notedError svc id history) (opEnd svc x.source x.label) := by
  simp [notedError]

def ErrorsNoted (svc : HeatService) (history : List (Transition HeatStore HeatOp))
    (s : HeatStore) : Prop :=
  ∀ id a, s.analysis id = some a → a.errorCode = notedError svc id history

theorem refusedRow_errorCode (a : HeatAnalysis) (exc : FortyGuardError) :
    (refusedRow a exc).errorCode = some exc.code := by
  unfold refusedRow
  split <;> rfl

theorem errorsNoted_step {svc : HeatService} {history : List (Transition HeatStore HeatOp)}
    {s t : HeatStore} {op : HeatOp} (step : HeatStep svc s op t)
    (inv : ErrorsNoted svc history s) : ErrorsNoted svc (history ++ [⟨s, op, t⟩]) t := by
  intro id c found
  rw [notedError_append]
  rw [step] at found
  rcases apply_ends svc s op with ⟨silent, same⟩ | ⟨k, e, ended, wrote⟩
  · rw [same] at found
    dsimp only
    rw [silent]
    exact inv id c found
  · dsimp only
    rw [ended]
    cases wrote with
    | @accepted req env a activityId opens sold wrote =>
      rw [wrote.analysis, requeue_id] at found
      dsimp only [notedAfter]
      by_cases here : id = a.id
      · rw [if_pos here] at found
        rw [if_pos here.symm, ← Option.some.inj found]
        rfl
      · rw [if_neg here] at found
        rw [if_neg (Ne.symm here)]
        exact inv id c found
    | @refused req env a exc opens refused wrote =>
      rw [wrote.analysis, refusedRow_id] at found
      dsimp only [notedAfter]
      by_cases here : id = a.id
      · rw [if_pos here] at found
        rw [if_pos here.symm, ← Option.some.inj found, refusedRow_errorCode]
      · rw [if_neg here] at found
        rw [if_neg (Ne.symm here)]
        exact inv id c found
    | @polled _ clock answer e polled =>
      obtain ⟨others, a, b, stored, left, leaves⟩ := polled.analysis
      by_cases here : id = k
      · subst here
        rw [left] at found
        rw [← Option.some.inj found]
        cases e with
        | answered status => exact leaves.2.trans (inv id a stored)
        | error exc =>
          dsimp only [notedAfter]
          rw [if_pos rfl]
          exact leaves.2
      · rw [others id here] at found
        cases e with
        | answered status => exact inv id c found
        | error exc =>
          dsimp only [notedAfter]
          rw [if_neg (Ne.symm here)]
          exact inv id c found

theorem errorsNoted_run {svc : HeatService} {transitions : List (Transition HeatStore HeatOp)}
    {final : HeatStore} (run : Run (HeatStep svc) HeatStore.empty transitions final) :
    ErrorsNoted svc transitions final := by
  refine run.history ?_ ?_
  · intro id a found
    cases found
  · exact fun before s op t _ step inv => errorsNoted_step step inv

/-! ## Status and error -/

/-- The poll failed, in itself or because the provider says the activity did. -/
def PollEnd.fails : PollEnd → Bool
  | .error _ => true
  | .answered status => decide (status = .failed)

/-- An error code stands with a failure and only there, and so does an error that is shown. -/
structure ErrorAgrees (b : HeatAnalysis) (e : PollEnd) : Prop where
  succeeded : b.status = .succeeded → b.errorCode = none
  failed : b.status = .failed → b.errorCode.isSome
  shown : ∀ cached now, (heatOut b cached now).get "error" ≠ some .null ↔ e.fails = true

theorem heatOut_error_iff (a : HeatAnalysis) (cached : Bool) (now : Instant) :
    (heatOut a cached now).get "error" ≠ some .null ↔ a.errorCode.getD "" ≠ "" := by
  simp only [heatOut, Dict.get_cons, String.reduceEq, if_false, if_true]
  split <;> simp_all

/-- Status and error of a polled analysis agree once the poll is committed. -/
def OutcomeAgrees (svc : HeatService) (x : Transition HeatStore HeatOp) : Prop :=
  ∀ id e b, opEnd svc x.source x.label = some (id, .polled e) → x.target.analysis id = some b →
    ErrorAgrees b e

/-- The error on record that a poll has to meet, by its end. -/
def PollEnd.meets (noted : Option String) : PollEnd → Prop
  | .error exc => exc.code ≠ ""
  | .answered .succeeded => noted = none
  | .answered .failed => noted.getD "" ≠ ""
  | .answered _ => noted.getD "" = ""

/-- A success or an activity in progress is reported only where no error is on record since
it was bought, a failure of the provider only where one is, and errors have a code. -/
def ReportsMeetRecord (svc : HeatService) (history : List (Transition HeatStore HeatOp))
    (x : Transition HeatStore HeatOp) : Prop :=
  ∀ id e, opEnd svc x.source x.label = some (id, .polled e) → e.meets (notedError svc id history)

theorem errorAgrees_iff {svc : HeatService} {activity : Option FortyGuardActivity}
    {a b : HeatAnalysis} {e : PollEnd} (left : e.Leaves svc activity a b) :
    ErrorAgrees b e ↔ e.meets a.errorCode := by
  cases e with
  | error exc =>
    obtain ⟨status, code⟩ := left
    constructor
    · intro agrees
      have shown := (agrees.shown true 0).mpr rfl
      rwa [heatOut_error_iff, code] at shown
    · intro named
      refine ⟨?_, fun _ => by rw [code]; rfl, fun cached now => ?_⟩
      · rw [status]
        split <;> rintro ⟨⟩
      · rw [heatOut_error_iff, code]
        exact ⟨fun _ => rfl, fun _ => named⟩
  | answered status =>
    obtain ⟨same, code⟩ := left
    constructor
    · intro agrees
      have shown := agrees.shown true 0
      rw [heatOut_error_iff, code] at shown
      cases status with
      | succeeded => exact code.symm.trans (agrees.succeeded same)
      | failed => exact shown.mpr rfl
      | queued | running => exact not_ne_iff.mp fun other => by cases shown.mp other
    · intro met
      refine ⟨fun success => ?_, fun failure => ?_, fun cached now => ?_⟩
      · obtain rfl : status = .succeeded := same.symm.trans success
        exact code.trans met
      · obtain rfl : status = .failed := same.symm.trans failure
        rw [code]
        cases noted : a.errorCode with
        | none => simp [PollEnd.meets, noted] at met
        | some text => rfl
      · rw [heatOut_error_iff, code]
        cases status with
        | succeeded =>
          change a.errorCode = none at met
          simp [met, PollEnd.fails]
        | failed => exact ⟨fun _ => rfl, fun _ => met⟩
        | queued | running =>
          change a.errorCode.getD "" = "" at met
          simp [met, PollEnd.fails]

/-- Status and error agree after every poll exactly in the histories in which each report of
the provider fits the error on record. -/
theorem outcome_agrees_iff (svc : HeatService) {transitions : List (Transition HeatStore HeatOp)}
    {final : HeatStore} (run : Run (HeatStep svc) HeatStore.empty transitions final) :
    (∀ before x after, transitions = before ++ x :: after → OutcomeAgrees svc x) ↔
      ∀ before x after, transitions = before ++ x :: after → ReportsMeetRecord svc before x := by
  refine run.forall_splits_iff (p := fun _ => OutcomeAgrees svc) fun before s op t first step => ?_
  have noted := errorsNoted_run first
  have ends : ∀ id e, opEnd svc s op = some (id, .polled e) → ∃ b, t.analysis id = some b ∧
      (ErrorAgrees b e ↔ e.meets (notedError svc id before)) := by
    intro id e ended
    obtain ⟨clock, polled⟩ := polled_of_end ended
    obtain ⟨-, a, b, stored, left, leaves⟩ := polled.analysis
    rw [← step] at left
    rw [← noted id a stored]
    exact ⟨b, left, errorAgrees_iff leaves⟩
  constructor
  · intro agrees id e ended
    obtain ⟨b, left, decides⟩ := ends id e ended
    exact decides.mp (agrees id e b ended left)
  · intro met id e c ended found
    obtain ⟨b, left, decides⟩ := ends id e ended
    cases left.symm.trans found
    exact decides.mpr (met id e ended)

/-- One error that is retried, and then success. -/
def recoveredRun : List HeatOp :=
  [sampleSubmit 0 (.ok "first"), failingPoll 1, samplePoll 3 completedActivity]

theorem outcome_agrees_iff_recovered :
    (∀ before x after,
      trace (apply sampleService) HeatStore.empty recoveredRun = before ++ x :: after →
        OutcomeAgrees sampleService x) ↔
    ∀ before x after,
      trace (apply sampleService) HeatStore.empty recoveredRun = before ++ x :: after →
        ReportsMeetRecord sampleService before x :=
  outcome_agrees_iff sampleService (run_trace (apply sampleService) HeatStore.empty recoveredRun)

/-- The success still carries the code of the error it recovered from. -/
theorem success_keeps_error : ¬∀ (svc : HeatService)
    (transitions : List (Transition HeatStore HeatOp)) (final : HeatStore),
    Run (HeatStep svc) HeatStore.empty transitions final →
      ∀ before x after, transitions = before ++ x :: after → OutcomeAgrees svc x := by
  intro agrees
  let s := recoveredRun.dropLast.foldl (fun s op => apply sampleService op s) HeatStore.empty
  have late := agrees sampleService _ _
    (run_trace (apply sampleService) HeatStore.empty recoveredRun)
    (trace (apply sampleService) HeatStore.empty recoveredRun.dropLast)
    ⟨s, samplePoll 3 completedActivity, apply sampleService (samplePoll 3 completedActivity) s⟩ []
    rfl 7 (.answered .succeeded)
  obtain ⟨b, found, success, code⟩ :
      ∃ b, (apply sampleService (samplePoll 3 completedActivity) s).analysis 7 = some b ∧
        b.status = .succeeded ∧ b.errorCode = some "fortyguard_unavailable" := ⟨_, rfl, rfl, rfl⟩
  have none_ := (late b (by decide) found).succeeded success
  rw [code] at none_
  cases none_

/-! ## Terminal events -/

/-- The events among these that report a terminal status of an analysis. -/
def terminalEvents (id : UUID) (events : List AuditEvent) : List AuditEvent :=
  events.filter fun e => decide (e.resourceType = "heat_analysis") &&
    decide (e.resourceId = Uuid.toString id) &&
    (decide (e.eventType = "heat_analysis.succeeded") ||
      decide (e.eventType = "heat_analysis.failed"))

/-- The terminal status that a row has now and did not have before; a row that was not
stored had none. -/
def terminalChange (before after : Option HeatAnalysis) : Option HeatAnalysisStatus :=
  (after.map HeatAnalysis.status).filter fun status =>
    status.terminal && decide (before.map HeatAnalysis.status ≠ some status)

theorem terminalChange_self (a : Option HeatAnalysis) : terminalChange a a = none := by
  cases a <;> simp [terminalChange]

/-- What a step commits to the audit log reports the changes to a terminal status that it
commits: one event of its type for each, and no other. -/
def AuditedOnce (x : Transition HeatStore HeatOp) : Prop :=
  ∃ new, x.target.audits = x.source.audits ++ new ∧ ∀ id,
    (terminalEvents id new).map AuditEvent.eventType =
      ((terminalChange (x.source.analysis id) (x.target.analysis id)).map
        fun status => "heat_analysis." ++ status.value).toList

/-- The provider fails a submission of an analysis that has no result and has not failed
yet. -/
def FailsUnaudited (svc : HeatService) (s : HeatStore) : HeatOp → Prop
  | .submit req env => ∃ a exc, Opens svc req env s a ∧
      env.answer = .error (.fortyGuard exc) ∧ a.result = none ∧ a.status ≠ .failed
  | .poll .. => False

theorem terminalEvents_auditTerminal {a : HeatAnalysis} (id : UUID) {status : HeatAnalysisStatus}
    (terminal : status.terminal = true) (metadata : Dict) (at_ : Instant) :
    terminalEvents id [auditTerminal a ("heat_analysis." ++ status.value) metadata at_] =
      if id = a.id then [auditTerminal a ("heat_analysis." ++ status.value) metadata at_]
      else [] := by
  have named : decide ("heat_analysis." ++ status.value = "heat_analysis.succeeded") ||
      decide ("heat_analysis." ++ status.value = "heat_analysis.failed") := by
    cases status with
    | succeeded | failed => decide
    | queued | running => cases terminal
  unfold terminalEvents
  by_cases here : id = a.id
  · subst here
    rw [if_pos rfl]
    refine List.filter_cons_of_pos ?_
    simp only [auditTerminal, decide_true, Bool.true_and]
    exact named
  · have other : Uuid.toString a.id ≠ Uuid.toString id :=
      fun same => here (Uuid.toString_injective same).symm
    rw [if_neg here]
    exact List.filter_cons_of_neg (by simp [auditTerminal, other])

/-- A poll audits what it changes. -/
theorem Polled.auditedOnce {svc : HeatService} {s t : HeatStore} {id : UUID} {clock : PollClock}
    {e : PollEnd} (polled : Polled svc s t id clock e) (op : HeatOp) :
    AuditedOnce ⟨s, op, t⟩ := by
  obtain ⟨others, -⟩ := polled.analysis
  obtain ⟨a, b, new, stored, left, audits, recorded⟩ := polled.audited
  obtain rfl := (HeatTables.analysis_mem stored).2
  refine ⟨new, audits, fun k => ?_⟩
  dsimp only
  by_cases here : k = a.id
  · subst here
    rw [stored, left]
    split at recorded
    · rename_i changed
      obtain ⟨metadata, at_, rfl⟩ := recorded
      rw [terminalEvents_auditTerminal _ changed.1, if_pos rfl]
      simp [terminalChange, Option.filter, changed.1, Ne.symm changed.2, auditTerminal]
    · rename_i kept
      subst recorded
      have unchanged : terminalChange (some a) (some b) = none := by
        rw [terminalChange, Option.filter_eq_none_iff]
        rintro status ⟨⟩ terminal
        simp only [Option.map_some, Bool.and_eq_true, decide_eq_true_eq] at terminal
        exact kept ⟨terminal.1, fun same => terminal.2 (congrArg some same.symm)⟩
      rw [unchanged]
      rfl
  · rw [others k here, terminalChange_self]
    split at recorded
    · rename_i changed
      obtain ⟨metadata, at_, rfl⟩ := recorded
      rw [terminalEvents_auditTerminal _ changed.1, if_neg here]
      rfl
    · subst recorded
      rfl

/-- A step that records no event has to leave every terminal status as it was. -/
theorem auditedOnce_iff_of_silent {s t : HeatStore} {op : HeatOp} (audits : t.audits = s.audits) :
    AuditedOnce ⟨s, op, t⟩ ↔ ∀ id, terminalChange (s.analysis id) (t.analysis id) = none := by
  constructor
  · rintro ⟨new, appended, reports⟩ id
    have empty : new = [] := List.self_eq_append_right.mp (audits.symm.trans appended)
    subst empty
    have none_ := (reports id).symm
    simpa [terminalEvents] using none_
  · intro unchanged
    refine ⟨[], by simpa using audits, fun id => ?_⟩
    dsimp only
    rw [unchanged id]
    rfl

theorem terminalChange_refused {svc : HeatService} {req : SubmitRequest} {env : SubmitEnv}
    {s : HeatStore} {a : HeatAnalysis} (opens : Opens svc req env s a) (exc : FortyGuardError) :
    terminalChange (s.analysis a.id) (some (refusedRow a exc)) = none ↔
      (a.result = none → a.status = .failed) := by
  unfold refusedRow
  rcases opens with ⟨stored, -⟩ | ⟨-, fresh, rfl⟩
  · rw [s.analysis_of_mem (byKey_some stored).1]
    cases held : a.result with
    | some result =>
      simp only [Option.isSome_some, if_true]
      constructor
      · rintro - ⟨⟩
      · exact fun _ => terminalChange_self (some a)
    | none =>
      simp only [Option.isSome_none, Bool.false_eq_true, if_false, forall_const]
      simp [terminalChange, markFailed, Option.filter, HeatAnalysisStatus.terminal]
  · rw [fresh]
    simp [newAnalysis, terminalChange, markFailed, Option.filter, HeatAnalysisStatus.terminal]

theorem auditedOnce_iff (svc : HeatService) (s : HeatStore) (op : HeatOp) :
    AuditedOnce ⟨s, op, apply svc op s⟩ ↔ ¬FailsUnaudited svc s op := by
  rcases apply_ends svc s op with ⟨silent, same⟩ | ⟨id, e, -, wrote⟩
  · rw [same, auditedOnce_iff_of_silent rfl]
    refine ⟨fun _ fails => ?_, fun _ k => terminalChange_self _⟩
    cases op with
    | poll => exact fails
    | submit req env =>
      obtain ⟨a, exc, opens, refused, -, -⟩ := fails
      simp [opEnd, opened_iff.mpr opens, refused] at silent
  · cases wrote with
    | @accepted req env a activityId opens sold wrote =>
      have audits : (apply svc (.submit req env) s).audits = s.audits := submit_audits svc req env s
      rw [auditedOnce_iff_of_silent audits]
      constructor
      · rintro - ⟨b, exc, -, refused, -, -⟩
        rw [sold] at refused
        cases refused
      · intro _ k
        rw [wrote.analysis]
        split
        · rfl
        · exact terminalChange_self _
    | @refused req env a exc opens refused wrote =>
      have audits : (apply svc (.submit req env) s).audits = s.audits := submit_audits svc req env s
      rw [auditedOnce_iff_of_silent audits]
      have own : (apply svc (.submit req env) s).analysis a.id = some (refusedRow a exc) := by
        rw [wrote.analysis, refusedRow_id, if_pos rfl]
      constructor
      · rintro unchanged ⟨b, exc', opensToo, -, lost, unfailed⟩
        obtain rfl : b = a := by
          have row := opened_iff.mpr opensToo
          rw [opened_iff.mpr opens] at row
          exact (Option.some.inj row).symm
        have kept := unchanged b.id
        rw [own, terminalChange_refused opens] at kept
        exact unfailed (kept lost)
      · intro audited k
        by_cases here : k = a.id
        · subst here
          rw [own, terminalChange_refused opens]
          intro lost
          by_contra unfailed
          exact audited ⟨a, exc, opens, refused, lost, unfailed⟩
        · rw [wrote.analysis, refusedRow_id, if_neg here]
          exact terminalChange_self _
    | polled polled => exact ⟨fun _ fails => fails, fun _ => polled.auditedOnce _⟩

/-- Every terminal status of a history is audited once exactly when no submission fails an
analysis that had not failed. -/
theorem terminal_audited_iff (svc : HeatService) {start final : HeatStore}
    {transitions : List (Transition HeatStore HeatOp)}
    (run : Run (HeatStep svc) start transitions final) :
    (∀ x ∈ transitions, AuditedOnce x) ↔
      ∀ x ∈ transitions, ¬FailsUnaudited svc x.source x.label := by
  refine run.forall_steps_iff (fun _ => True) (fun _ _ _ _ _ => trivial) ?_ trivial
  rintro s op t - rfl
  exact auditedOnce_iff svc s op

/-- An analysis succeeds, is reported running again, and its renewal is refused. -/
def renewalRun : List HeatOp :=
  [sampleSubmit 0 (.ok "first"), samplePoll 1 completedActivity,
   samplePoll 2 [("status", .str "running")],
   sampleSubmit 3600 (.error (.fortyGuard unavailable))]

theorem terminal_audited_iff_renewal :
    (∀ x ∈ trace (apply sampleService) HeatStore.empty renewalRun, AuditedOnce x) ↔
      ∀ x ∈ trace (apply sampleService) HeatStore.empty renewalRun,
        ¬FailsUnaudited sampleService x.source x.label :=
  terminal_audited_iff sampleService (run_trace (apply sampleService) HeatStore.empty renewalRun)

/-- The analysis that was running ends as failed, and no event says so. -/
theorem refusal_unaudited : ¬∀ (svc : HeatService)
    (transitions : List (Transition HeatStore HeatOp)) (final : HeatStore),
    Run (HeatStep svc) HeatStore.empty transitions final →
      ∀ x ∈ transitions, AuditedOnce x := by
  intro audited
  have each := audited sampleService _ _
    (run_trace (apply sampleService) HeatStore.empty renewalRun)
  simp only [renewalRun, trace, List.forall_mem_cons] at each
  obtain ⟨-, -, -, last, -⟩ := each
  have unchanged := (auditedOnce_iff_of_silent (submit_audits ..)).mp last 7
  exact absurd unchanged (by decide)

end CoolProof.Heat
