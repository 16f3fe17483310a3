import CoolProof.HeatEnds
import CoolProof.HeatSchedule

/-! The retry allowance of an activity. Its counter is advanced by answers and by retryable
errors alike and compared with the limit on errors, so what it allows depends on all polls
since the activity was bought. -/

namespace CoolProof.Heat
open Calendar JsonDocument Uuid Models ProviderQuery Tables Runs

/-! ## The polls of an activity -/

def pollsAfter (id : UUID) (polls : List PollEnd) : Option (UUID × OpEnd) → List PollEnd
  | some (k, .accepted) => if k = id then [] else polls
  | some (k, .polled e) => if k = id then e :: polls else polls
  | some (_, .refused _) => polls
  | none => polls

/-- How the polls of an analysis ended since its activity was bought, the latest first. -/
def activityPolls (svc : HeatService) (id : UUID)
    (history : List (Transition HeatStore HeatOp)) : List PollEnd :=
  history.foldl (fun polls x => pollsAfter id polls (opEnd svc x.source x.label)) []

theorem activityPolls_append (svc : HeatService) (id : UUID)
    (history : List (Transition HeatStore HeatOp)) (x : Transition HeatStore HeatOp) :
    activityPolls svc id (history ++ [x]) =
      pollsAfter id (activityPolls svc id history) (opEnd svc x.source x.label) := by
  simp [activityPolls]

def PollEnd.retryable : PollEnd → Bool
  | .answered _ => false
  | .error exc => exc.retryable

/-- The ends that may advance the counter. -/
def PollEnd.spends : PollEnd → Bool
  | .answered _ => true
  | .error exc => exc.retryable

/-- The retryable errors in a row at the end of a history. -/
def retryableStreak (polls : List PollEnd) : Nat := (polls.takeWhile PollEnd.retryable).length

/-- The answers and retryable errors of a history. -/
def spent (polls : List PollEnd) : Nat := polls.countP PollEnd.spends

/-! ## The counter -/

/-- The counter after a poll. -/
def PollEnd.attempts (svc : HeatService) (attempts : Nat) : PollEnd → Nat
  | .answered _ => attempts + 1
  | .error exc =>
      if decide ((attempts : Int) + 1 < svc.maxAttempts) && exc.retryable then attempts + 1
      else attempts

theorem PollEnd.Books.attempts {svc : HeatService} {clock : PollClock}
    {old x : FortyGuardActivity} {e : PollEnd} (books : e.Books svc clock old x) :
    x.attempts = e.attempts svc old.attempts := by
  cases e with
  | answered status =>
    obtain ⟨raw, rfl⟩ := books
    rfl
  | error exc =>
    dsimp only [PollEnd.Books, PollEnd.attempts] at books ⊢
    rw [books]
    split <;> rfl

/-- The counter has counted every spending poll, unless neither leaves room for a retry. -/
def Allowance (svc : HeatService) (polls : List PollEnd) (attempts : Nat) : Prop :=
  attempts = spent polls ∨
    svc.maxAttempts ≤ (attempts : Int) + 1 ∧ svc.maxAttempts ≤ (spent polls : Int) + 1

theorem Allowance.room {svc : HeatService} {polls : List PollEnd} {attempts : Nat}
    (allowance : Allowance svc polls attempts) :
    (attempts : Int) + 1 < svc.maxAttempts ↔ (spent polls : Int) + 1 < svc.maxAttempts := by
  rcases allowance with same | ⟨above, aboveToo⟩
  · rw [same]
  · omega

theorem Allowance.polled {svc : HeatService} {polls : List PollEnd} {attempts : Nat}
    (allowance : Allowance svc polls attempts) (e : PollEnd) :
    Allowance svc (e :: polls) (e.attempts svc attempts) := by
  cases e with
  | answered status =>
    have count : spent (.answered status :: polls) = spent polls + 1 := List.countP_cons_of_pos rfl
    dsimp only [Allowance, PollEnd.attempts] at *
    omega
  | error exc =>
    cases retryable : exc.retryable with
    | false =>
      have count : spent (.error exc :: polls) = spent polls :=
        List.countP_cons_of_neg (by simp [PollEnd.spends, retryable])
      simpa [Allowance, PollEnd.attempts, retryable, count] using allowance
    | true =>
      have count : spent (.error exc :: polls) = spent polls + 1 :=
        List.countP_cons_of_pos retryable
      have room := allowance.room
      unfold Allowance PollEnd.attempts at *
      simp only [retryable, Bool.and_true, decide_eq_true_eq]
      split
      · omega
      · omega

def AllowanceKept (svc : HeatService) (history : List (Transition HeatStore HeatOp))
    (s : HeatStore) : Prop :=
  ∀ id x, s.activity id = some x → Allowance svc (activityPolls svc id history) x.attempts

theorem allowance_step {svc : HeatService} {history : List (Transition HeatStore HeatOp)}
    {s t : HeatStore} {op : HeatOp} (step : HeatStep svc s op t)
    (inv : AllowanceKept svc history s) : AllowanceKept svc (history ++ [⟨s, op, t⟩]) t := by
  intro id x found
  rw [activityPolls_append]
  rw [step] at found
  rcases apply_ends svc s op with ⟨silent, same⟩ | ⟨k, e, ended, wrote⟩
  · rw [same] at found
    dsimp only
    rw [silent]
    exact inv id x found
  · dsimp only
    rw [ended]
    cases wrote with
    | @accepted req env a activityId opens sold wrote =>
      rw [wrote.activity, requeue_id] at found
      dsimp only [pollsAfter]
      by_cases here : id = a.id
      · rw [if_pos here] at found
        rw [if_pos here.symm, ← Option.some.inj found]
        exact .inl rfl
      · rw [if_neg here] at found
        rw [if_neg (Ne.symm here)]
        exact inv id x found
    | @refused req env a exc opens refused wrote =>
      rw [wrote.activity, refusedRow_id] at found
      refine inv id x ?_
      by_cases here : id = a.id
      · rwa [if_pos here, ← here] at found
      · rwa [if_neg here] at found
    | @polled _ clock answer e polled =>
      obtain ⟨others, own⟩ := polled.activity
      dsimp only [pollsAfter]
      by_cases here : k = id
      · subst here
        rw [if_pos rfl]
        rcases own with ⟨-, missing⟩ | ⟨old, y, before, after, books⟩
        · cases missing.symm.trans found
        · cases after.symm.trans found
          rw [books.attempts]
          exact (inv k old before).polled e
      · rw [if_neg here]
        rw [others id (Ne.symm here)] at found
        exact inv id x found

theorem allowance_run {svc : HeatService} {transitions : List (Transition HeatStore HeatOp)}
    {final : HeatStore} (run : Run (HeatStep svc) HeatStore.empty transitions final) :
    AllowanceKept svc transitions final := by
  refine run.history ?_ ?_
  · intro id x found
    cases found
  · exact fun before s op t _ step inv => allowance_step step inv

/-! ## Giving up -/

theorem Polled.gave_up {svc : HeatService} {s t : HeatStore} {id : UUID} {clock : PollClock}
    {exc : FortyGuardError} (polled : Polled svc s t id clock (.error exc)) :
    ∃ b, t.analysis id = some b ∧
      (b.status = .failed ↔ retries svc (s.activity id) exc = none) := by
  obtain ⟨-, a, b, -, left, status, -⟩ := polled.analysis
  refine ⟨b, left, ?_⟩
  rw [status]
  cases retries svc (s.activity id) exc <;> simp

/-- A retryable error fails an analysis only as the last of as many in a row as there are
attempts. -/
def FailsAfterRetries (svc : HeatService) (history : List (Transition HeatStore HeatOp))
    (x : Transition HeatStore HeatOp) : Prop :=
  ∀ id exc b, opEnd svc x.source x.label = some (id, .polled (.error exc)) →
    exc.retryable = true → x.target.analysis id = some b → b.status = .failed →
    svc.maxAttempts - 1 ≤ retryableStreak (activityPolls svc id history)

/-- Where answers and retryable errors have used up the attempts of an activity, a further
retryable error comes only after retryable errors alone have. -/
def RetriesUnbroken (svc : HeatService) (history : List (Transition HeatStore HeatOp))
    (x : Transition HeatStore HeatOp) : Prop :=
  ∀ id exc, opEnd svc x.source x.label = some (id, .polled (.error exc)) →
    exc.retryable = true → svc.maxAttempts - 1 ≤ spent (activityPolls svc id history) →
    svc.maxAttempts - 1 ≤ retryableStreak (activityPolls svc id history)

/-- A retryable error is the end of an analysis when the attempts are spent. -/
theorem gives_up_iff {svc : HeatService} {history : List (Transition HeatStore HeatOp)}
    {s : HeatStore} {op : HeatOp} {id : UUID} {exc : FortyGuardError}
    (tied : AllTied s) (kept : AllowanceKept svc history s)
    (ended : opEnd svc s op = some (id, .polled (.error exc))) (retryable : exc.retryable = true) :
    ∃ b, (apply svc op s).analysis id = some b ∧
      (b.status = .failed ↔ svc.maxAttempts - 1 ≤ spent (activityPolls svc id history)) := by
  obtain ⟨clock, polled⟩ := polled_of_end ended
  obtain ⟨b, found, failed⟩ := polled.gave_up
  refine ⟨b, found, failed.trans ?_⟩
  have bought : ∃ x, s.activity id = some x := by
    cases polled with
    | @error a _ stored owner live writes =>
      obtain ⟨p, provider⟩ := Option.isSome_iff_exists.mp (suppressed_providerActivityId live)
      obtain ⟨x, found, -⟩ := (tied id a stored).same p provider
      exact ⟨x, found⟩
  obtain ⟨x, activity⟩ := bought
  have room := (kept id x activity).room
  rw [retries, activity]
  simp only [Option.filter_eq_none_iff, retryable, Bool.and_true, Option.some.injEq,
    forall_eq', decide_eq_true_eq]
  omega

/-- Retryable errors fail an analysis only in unbroken rows exactly in the histories in
which no answer shares the attempts with the errors that use them up. -/
theorem transient_errors_iff (svc : HeatService) {transitions : List (Transition HeatStore HeatOp)}
    {final : HeatStore} (run : Run (HeatStep svc) HeatStore.empty transitions final) :
    (∀ before x after, transitions = before ++ x :: after → FailsAfterRetries svc before x) ↔
      ∀ before x after, transitions = before ++ x :: after → RetriesUnbroken svc before x := by
  refine run.forall_splits_iff fun before s op t first step => ?_
  have tied := allTied_run first
  have kept := allowance_run first
  constructor
  · intro fails id exc ended retryable gaveUp
    obtain ⟨b, found, failed⟩ := gives_up_iff tied kept ended retryable
    rw [← step] at found
    exact fails id exc b ended retryable found (failed.mpr gaveUp)
  · intro unbroken id exc c ended retryable stored status
    obtain ⟨b, found, failed⟩ := gives_up_iff tied kept ended retryable
    rw [← step] at found
    cases stored.symm.trans found
    exact unbroken id exc ended retryable (failed.mp status)

/-- Four answers that the activity is running, and then one error. -/
def patientRun : List HeatOp :=
  [sampleSubmit 0 (.ok "first"), samplePoll 1 [("status", .str "running")],
   samplePoll 2 [("status", .str "running")], samplePoll 3 [("status", .str "running")],
   samplePoll 4 [("status", .str "running")], failingPoll 5]

theorem transient_errors_iff_patient :
    (∀ before x after,
      trace (apply sampleService) HeatStore.empty patientRun = before ++ x :: after →
        FailsAfterRetries sampleService before x) ↔
    ∀ before x after,
      trace (apply sampleService) HeatStore.empty patientRun = before ++ x :: after →
        RetriesUnbroken sampleService before x :=
  transient_errors_iff sampleService (run_trace (apply sampleService) HeatStore.empty patientRun)

/-- The first error already fails the analysis. -/
theorem first_error_fails : ¬∀ (svc : HeatService) (transitions : List (Transition HeatStore HeatOp))
    (final : HeatStore), 2 ≤ svc.maxAttempts →
    Run (HeatStep svc) HeatStore.empty transitions final →
      ∀ before x after, transitions = before ++ x :: after → FailsAfterRetries svc before x := by
  intro patient
  let history := trace (apply sampleService) HeatStore.empty patientRun.dropLast
  let s := patientRun.dropLast.foldl (fun s op => apply sampleService op s) HeatStore.empty
  have late := patient sampleService _ _ (by decide)
    (run_trace (apply sampleService) HeatStore.empty patientRun) history
    ⟨s, failingPoll 5, apply sampleService (failingPoll 5) s⟩ [] rfl 7 unavailable
  obtain ⟨b, found, failed⟩ : ∃ b, (apply sampleService (failingPoll 5) s).analysis 7 = some b ∧
      b.status = .failed := ⟨_, rfl, rfl⟩
  have streak := late b (by decide) rfl found failed
  exact absurd streak (by decide)

end CoolProof.Heat
