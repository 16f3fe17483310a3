import CoolProof.HeatHistory

/-! How polls end, and the breaker row. A poll that asks the provider writes its analysis,
its activity and the circuit together with its audit events; a submission leaves circuit and
events alone. The row counts failed polls over all analyses, up to the last that was
answered. -/

namespace CoolProof.Heat
open Calendar JsonDocument Uuid Models ProviderQuery Tables Runs

/-! ## Ends -/

/-- How the try block of a poll ends. -/
inductive PollEnd where
  | answered (status : HeatAnalysisStatus)
  | error (exc : FortyGuardError)
deriving DecidableEq

def PollEnd.of : Except FortyGuardError Dict → PollEnd
  | .error exc => .error exc
  | .ok raw =>
      match normalizeActivity raw with
      | .error exc => .error exc
      | .ok (status, _) => .answered status

/-- The analysis whose activity a poll asks for and how that ends; nothing for a poll that
returns at once or is left by another exception. -/
def pollEnd (s : HeatStore) : HeatOp → Option (UUID × PollEnd)
  | .submit _ _ => none
  | .poll id clock answer =>
      match s.analysis id, caught answer with
      | some a, some seen =>
          if suppressed a s.circuit clock.now then none else some (id, .of seen)
      | _, _ => none

/-- The rows in memory when the try block of a poll begins. -/
def HeatStore.memory (s : HeatStore) (a : HeatAnalysis) : PollMemory :=
  ⟨a, s.activity a.id, s.circuit⟩

/-- The rows and events of a poll are committed together. -/
structure PollWrites (s t : HeatStore) (body : PollMemory × List AuditEvent) : Prop where
  wrote : Wrote s.toHeatTables t.toHeatTables body.1.analysis body.1.activity
  circuit : t.circuit = body.1.circuit
  audits : t.audits = s.audits ++ body.2

/-- What a poll leaves, by its end. -/
inductive Polled (svc : HeatService) (s t : HeatStore) (id : UUID) (clock : PollClock) :
    PollEnd → Prop where
  | answered {a raw status result} : s.analysis id = some a → a.id = id →
      suppressed a s.circuit clock.now = false → normalizeActivity raw = .ok (status, result) →
      PollWrites s t (pollAnswered svc clock (s.memory a) raw status result) →
      Polled svc s t id clock (.answered status)
  | error {a exc} : s.analysis id = some a → a.id = id →
      suppressed a s.circuit clock.now = false →
      PollWrites s t (pollFailed svc clock (s.memory a) exc) →
      Polled svc s t id clock (.error exc)

theorem poll_commit (svc : HeatService) {s : HeatStore} {id : UUID} (clock : PollClock)
    {answer : Except Raised Dict} {a : HeatAnalysis} {seen : Except FortyGuardError Dict}
    (stored : s.analysis id = some a) (live : suppressed a s.circuit clock.now = false)
    (arrived : caught answer = some seen) :
    PollWrites s (poll svc id clock answer s) (pollBody svc clock (s.memory a) seen) := by
  have wrote := poll_wrote svc clock stored live arrived
  have write := pollBody_cases svc clock stored live arrived
  obtain rfl := (HeatTables.analysis_mem stored).2
  have body : poll svc a.id clock answer s =
      (HeatStore.commit (s.putPoll (pollBody svc clock (s.memory a) seen).1
        (pollBody svc clock (s.memory a) seen).2)).getD s := by
    simp [poll, stored, arrived, live, HeatStore.memory]
  obtain ⟨t, committed, tables⟩ :=
    HeatStore.commit_of _ (write.poll_commits (pollBody svc clock (s.memory a) seen).2).1
  change HeatStore.commit (s.putPoll (pollBody svc clock (s.memory a) seen).1
    (pollBody svc clock (s.memory a) seen).2) = some t at committed
  rw [committed, Option.getD_some] at body
  refine ⟨wrote, ?_, ?_⟩
  · rw [body, tables]
    rfl
  · rw [body, tables]
    unfold HeatTables.putPoll
    dsimp only
    split
    · rfl
    · rfl

theorem poll_ended (svc : HeatService) {s : HeatStore} {id k : UUID} {clock : PollClock}
    {answer : Except Raised Dict} {e : PollEnd}
    (ended : pollEnd s (.poll id clock answer) = some (k, e)) :
    k = id ∧ Polled svc s (poll svc id clock answer s) id clock e := by
  dsimp only [pollEnd] at ended
  split at ended
  · rename_i a seen stored arrived
    split at ended
    · cases ended
    · rename_i open_
      have live : suppressed a s.circuit clock.now = false := Bool.eq_false_of_not_eq_true open_
      have owner := (HeatTables.analysis_mem stored).2
      have writes := poll_commit svc clock stored live arrived
      cases ended
      refine ⟨rfl, ?_⟩
      unfold PollEnd.of
      obtain ⟨raw, status, result, rfl, normal, ends⟩ | ⟨exc, raised, ends⟩ :=
        pollBody_ends svc clock (s.memory a) seen
      · rw [ends] at writes
        simp only [normal]
        exact .answered stored owner live normal writes
      · rw [ends] at writes
        rcases raised with rfl | ⟨raw, rfl, normal⟩
        · exact .error stored owner live writes
        · simp only [normal]
          exact .error stored owner live writes
  · cases ended

/-- A poll that ends otherwise changes nothing. -/
theorem poll_silent (svc : HeatService) {s : HeatStore} {id : UUID} {clock : PollClock}
    {answer : Except Raised Dict} (silent : pollEnd s (.poll id clock answer) = none) :
    poll svc id clock answer s = s := by
  dsimp only [pollEnd] at silent
  split at silent
  · rename_i a seen stored arrived
    split at silent
    · rename_i quiet
      simp [poll, stored, arrived, quiet]
    · cases silent
  · rename_i incomplete
    unfold poll
    split
    · rename_i a seen stored arrived
      exact absurd arrived (incomplete a seen stored)
    · rfl

theorem pollFailed_retried {svc : HeatService} (clock : PollClock) {m : PollMemory}
    {exc : FortyGuardError} {x : FortyGuardActivity}
    (retry : retries svc m.activity exc = some x) : pollFailed svc clock m exc =
      (⟨{ withError m.analysis exc with status := .running }, some (retriedActivity clock x),
        some (failedCircuit clock m.circuit)⟩, []) := by
  unfold pollFailed
  rw [retry]

theorem pollFailed_gaveUp {svc : HeatService} (clock : PollClock) {m : PollMemory}
    {exc : FortyGuardError} (exhausted : retries svc m.activity exc = none) :
    pollFailed svc clock m exc =
      (⟨markFailed m.analysis exc, m.activity, some (failedCircuit clock m.circuit)⟩,
        if m.analysis.status ≠ .failed then
          [auditTerminal m.analysis "heat_analysis.failed"
            [("provider", .str "fortyguard"), ("error_code", .str exc.code)] clock.auditedAt]
        else []) := by
  unfold pollFailed
  rw [exhausted]

/-- Status and error code after a poll: an answer sets the one, an error both. -/
def PollEnd.Leaves (svc : HeatService) (activity : Option FortyGuardActivity)
    (a b : HeatAnalysis) : PollEnd → Prop
  | .answered status => b.status = status ∧ b.errorCode = a.errorCode
  | .error exc => b.status = (if (retries svc activity exc).isSome then .running else .failed) ∧
      b.errorCode = some exc.code

theorem Polled.analysis {svc : HeatService} {s t : HeatStore} {id : UUID} {clock : PollClock}
    {e : PollEnd} (polled : Polled svc s t id clock e) :
    (∀ k, k ≠ id → t.analysis k = s.analysis k) ∧ ∃ a b, s.analysis id = some a ∧
      t.analysis id = some b ∧ e.Leaves svc (s.activity id) a b := by
  cases polled with
  | @answered a raw status result stored owner live normal writes =>
    subst owner
    have row : (pollAnswered svc clock (s.memory a) raw status result).1.analysis.id = a.id :=
      analysisKeys_id (answeredAnalysis_keys svc clock a status result)
    have written := writes.wrote.analysis
    rw [row] at written
    refine ⟨fun k other => by rw [written, if_neg other],
      a, _, stored, (written a.id).trans (if_pos rfl), ?_⟩
    refine ⟨answeredAnalysis_status svc clock a status result, ?_⟩
    change (answeredAnalysis svc clock a status result).errorCode = a.errorCode
    unfold answeredAnalysis
    dsimp only
    split <;> rfl
  | @error a exc stored owner live writes =>
    subst owner
    have written := writes.wrote.analysis
    have activity : s.activity a.id = (s.memory a).activity := rfl
    cases retry : retries svc (s.memory a).activity exc with
    | some x =>
      rw [pollFailed_retried clock retry] at written
      refine ⟨fun k other => (written k).trans (if_neg other),
        a, _, stored, (written a.id).trans (if_pos rfl), ?_, rfl⟩
      rw [activity, retry]
      rfl
    | none =>
      rw [pollFailed_gaveUp clock retry] at written
      refine ⟨fun k other => (written k).trans (if_neg other),
        a, _, stored, (written a.id).trans (if_pos rfl), ?_, rfl⟩
      rw [activity, retry]
      rfl

/-- What a poll makes of the activity: an answer books the next poll, an error does where it
is to be retried. -/
def PollEnd.Books (svc : HeatService) (clock : PollClock) (old x : FortyGuardActivity) :
    PollEnd → Prop
  | .answered status => ∃ raw, x = answeredActivity clock raw status old
  | .error exc =>
      x = if decide ((old.attempts : Int) + 1 < svc.maxAttempts) && exc.retryable then
        retriedActivity clock old else old

theorem Polled.activity {svc : HeatService} {s t : HeatStore} {id : UUID} {clock : PollClock}
    {e : PollEnd} (polled : Polled svc s t id clock e) :
    (∀ k, k ≠ id → t.activity k = s.activity k) ∧
      (s.activity id = none ∧ t.activity id = none ∨ ∃ old x, s.activity id = some old ∧
        t.activity id = some x ∧ e.Books svc clock old x) := by
  cases polled with
  | @answered a raw status result stored owner live normal writes =>
    subst owner
    have row : (pollAnswered svc clock (s.memory a) raw status result).1.analysis.id = a.id :=
      analysisKeys_id (answeredAnalysis_keys svc clock a status result)
    have written := writes.wrote.activity
    rw [row] at written
    refine ⟨fun k other => by rw [written, if_neg other], ?_⟩
    have own : t.activity a.id = (s.activity a.id).map (answeredActivity clock raw status) :=
      (written a.id).trans (if_pos rfl)
    cases before : s.activity a.id with
    | none => exact .inl ⟨rfl, by rw [own, before]; rfl⟩
    | some old => exact .inr ⟨old, _, rfl, by rw [own, before]; rfl, raw, rfl⟩
  | @error a exc stored owner live writes =>
    subst owner
    have written := writes.wrote.activity
    cases retry : retries svc (s.memory a).activity exc with
    | some old =>
      rw [pollFailed_retried clock retry] at written
      obtain ⟨before, allowed⟩ := Option.filter_eq_some_iff.mp retry
      exact ⟨fun k other => (written k).trans (if_neg other), .inr ⟨old, retriedActivity clock old,
        before, (written a.id).trans (if_pos rfl), (if_pos allowed).symm⟩⟩
    | none =>
      rw [pollFailed_gaveUp clock retry] at written
      have own : t.activity a.id = s.activity a.id := (written a.id).trans (if_pos rfl)
      refine ⟨fun k other => (written k).trans (if_neg other), ?_⟩
      cases before : s.activity a.id with
      | none => exact .inl ⟨rfl, own.trans before⟩
      | some old =>
        refine .inr ⟨old, old, rfl, own.trans before, (if_neg ?_).symm⟩
        rw [retries, HeatStore.memory, before] at retry
        simpa using retry

/-- A poll records one event where it gives an analysis another terminal status, and no
event otherwise. -/
theorem Polled.audited {svc : HeatService} {s t : HeatStore} {id : UUID} {clock : PollClock}
    {e : PollEnd} (polled : Polled svc s t id clock e) :
    ∃ a b new, s.analysis id = some a ∧ t.analysis id = some b ∧ t.audits = s.audits ++ new ∧
      if b.status.terminal ∧ b.status ≠ a.status then
        ∃ metadata at_, new = [auditTerminal a ("heat_analysis." ++ b.status.value) metadata at_]
      else new = [] := by
  cases polled with
  | @answered a raw status result stored owner live normal writes =>
    subst owner
    have written := writes.wrote.analysis a.id
    have row : (pollAnswered svc clock (s.memory a) raw status result).1.analysis.id = a.id :=
      analysisKeys_id (answeredAnalysis_keys svc clock a status result)
    rw [row, if_pos rfl] at written
    have events : (pollAnswered svc clock (s.memory a) raw status result).2 =
        if status.terminal && decide (status ≠ a.status) then
          [auditTerminal a ("heat_analysis." ++ status.value)
            [("provider", .str "fortyguard"),
              ("provider_activity_id", .str (a.providerActivityId.getD ""))] clock.auditedAt]
        else [] := rfl
    have left : (pollAnswered svc clock (s.memory a) raw status result).1.analysis.status =
        status := answeredAnalysis_status svc clock a status result
    refine ⟨a, _, _, stored, written, writes.audits, ?_⟩
    rw [left, events]
    by_cases changed : status.terminal = true ∧ status ≠ a.status
    · rw [if_pos changed]
      exact ⟨_, _, if_pos (by simpa using changed)⟩
    · rw [if_neg changed]
      exact if_neg (by simpa using changed)
  | @error a exc stored owner live writes =>
    subst owner
    have written := writes.wrote.analysis a.id
    have audits := writes.audits
    cases retry : retries svc (s.memory a).activity exc with
    | some x =>
      rw [pollFailed_retried clock retry] at written audits
      exact ⟨a, _, _, stored, written.trans (if_pos rfl), audits, rfl⟩
    | none =>
      rw [pollFailed_gaveUp clock retry] at written audits
      refine ⟨a, markFailed a exc, _, stored, written.trans (if_pos rfl), audits, ?_⟩
      by_cases failed : a.status = .failed
      · have kept : ¬((markFailed a exc).status.terminal = true ∧
            (markFailed a exc).status ≠ a.status) := fun changed => changed.2 failed.symm
        rw [if_neg kept]
        exact if_neg (not_not.mpr failed)
      · have changed : (markFailed a exc).status.terminal = true ∧
            (markFailed a exc).status ≠ a.status := ⟨rfl, Ne.symm failed⟩
        rw [if_pos changed]
        exact ⟨_, _, if_pos failed⟩

/-! ## Circuit and events -/

/-- The tables that no submission writes. -/
def bookkeeping (t : HeatTables) : Option ProviderCircuit × List AuditEvent :=
  (t.circuit, t.audits)

theorem commitOr_bookkeeping (s : HeatStore) {new : HeatTables} (outcome : SubmitOutcome)
    (same : bookkeeping new = bookkeeping s.toHeatTables) :
    bookkeeping (commitOr s new outcome).store.toHeatTables = bookkeeping s.toHeatTables := by
  rcases commitOr_cases s new outcome with kept | written
  · rw [kept]
  · rw [written, same]

theorem finishSubmit_bookkeeping (req : SubmitRequest) (env : SubmitEnv) (s : HeatStore)
    {tables : HeatTables} (analysis : HeatAnalysis) (existing : Bool)
    (same : bookkeeping tables = bookkeeping s.toHeatTables) :
    bookkeeping (finishSubmit req env s tables analysis existing).store.toHeatTables =
      bookkeeping s.toHeatTables := by
  unfold finishSubmit
  split
  · rfl
  · split
    · exact commitOr_bookkeeping s _ same
    · exact commitOr_bookkeeping s _ same
  · exact commitOr_bookkeeping s _ same

theorem submit_bookkeeping (svc : HeatService) (req : SubmitRequest) (env : SubmitEnv)
    (s : HeatStore) : bookkeeping (submit svc req env s).store.toHeatTables =
      bookkeeping s.toHeatTables := by
  unfold submit
  split
  · split
    · rfl
    · exact finishSubmit_bookkeeping req env s _ _ rfl
  · dsimp only
    split
    · exact finishSubmit_bookkeeping req env s _ _ rfl
    · rfl

/-- A submission does not touch the breaker row. -/
theorem submit_circuit (svc : HeatService) (req : SubmitRequest) (env : SubmitEnv)
    (s : HeatStore) : (submit svc req env s).store.circuit = s.circuit :=
  congrArg Prod.fst (submit_bookkeeping svc req env s)

/-- A submission itself records no audit event. -/
theorem submit_audits (svc : HeatService) (req : SubmitRequest) (env : SubmitEnv)
    (s : HeatStore) : (submit svc req env s).store.audits = s.audits :=
  congrArg Prod.snd (submit_bookkeeping svc req env s)

/-! ## The breaker row -/

/-- The failed polls in a row, after one more operation. -/
def failuresAfter (failures : Nat) : Option (UUID × PollEnd) → Nat
  | some (_, .error _) => failures + 1
  | some (_, .answered _) => 0
  | none => failures

/-- The polls of any analysis that ended in a FortyGuardError since the last that was
answered. -/
def failureCount (history : List (Transition HeatStore HeatOp)) : Nat :=
  history.foldl (fun failures x => failuresAfter failures (pollEnd x.source x.label)) 0

def HeatOp.polledAt : HeatOp → Option Instant
  | .poll _ clock _ => some clock.now
  | .submit _ _ => none

def failedAt (latest : Option Instant) (x : Transition HeatStore HeatOp) : Option Instant :=
  match pollEnd x.source x.label with
  | some (_, .error _) => x.label.polledAt
  | _ => latest

/-- When the latest of the polls that ended in a FortyGuardError began. -/
def latestFailure (history : List (Transition HeatStore HeatOp)) : Option Instant :=
  history.foldl failedAt none

theorem failureCount_append (history : List (Transition HeatStore HeatOp))
    (x : Transition HeatStore HeatOp) : failureCount (history ++ [x]) =
      failuresAfter (failureCount history) (pollEnd x.source x.label) := by
  simp [failureCount]

theorem latestFailure_append (history : List (Transition HeatStore HeatOp))
    (x : Transition HeatStore HeatOp) :
    latestFailure (history ++ [x]) = failedAt (latestFailure history) x := by
  simp [latestFailure]

/-- The row agrees with a number of failures in a row and the time of the latest. -/
structure Counts (circuit : Option ProviderCircuit) (failures : Nat) (latest : Option Instant) :
    Prop where
  failures : (circuit.map ProviderCircuit.consecutiveFailures).getD 0 = failures
  isOpen : ∀ c ∈ circuit, c.isOpen = true ↔ 3 ≤ c.consecutiveFailures
  openUntil : ∀ c ∈ circuit, c.openUntil.isSome = true ↔ 3 ≤ c.consecutiveFailures
  until_ : ∀ c ∈ circuit, ∀ until_ ∈ c.openUntil,
    ∃ began ∈ latest, until_ ≤ began + seconds 30

theorem counts_answered {circuit : Option ProviderCircuit} (latest : Option Instant) :
    Counts (circuit.map fun _ => ⟨0, none, false⟩) 0 latest := by
  cases circuit <;> constructor <;> simp

theorem counts_failed {circuit : Option ProviderCircuit} {failures : Nat}
    {latest : Option Instant} (counts : Counts circuit failures latest) (clock : PollClock) :
    Counts (some (failedCircuit clock circuit)) (failures + 1) (some clock.now) := by
  have count : (failedCircuit clock circuit).consecutiveFailures = failures + 1 :=
    congrArg (· + 1) counts.failures
  refine ⟨count, ?_, ?_, ?_⟩
  · rintro _ ⟨⟩
    exact decide_eq_true_iff
  · rintro _ ⟨⟩
    unfold failedCircuit
    dsimp only
    split <;> simp_all
  · rintro _ ⟨⟩ until_ member
    refine ⟨clock.now, rfl, ?_⟩
    unfold failedCircuit at member
    dsimp only at member
    split at member
    · cases member
      exact le_rfl
    · cases member

theorem counts_step {svc : HeatService} {history : List (Transition HeatStore HeatOp)}
    {s t : HeatStore} {op : HeatOp} (step : HeatStep svc s op t)
    (counts : Counts s.circuit (failureCount history) (latestFailure history)) :
    Counts t.circuit (failureCount (history ++ [⟨s, op, t⟩]))
      (latestFailure (history ++ [⟨s, op, t⟩])) := by
  rw [failureCount_append, latestFailure_append, step]
  cases op with
  | submit req env =>
    have same : (apply svc (.submit req env) s).circuit = s.circuit := submit_circuit svc req env s
    rw [same]
    exact counts
  | poll id clock answer =>
    unfold failedAt
    dsimp only [apply]
    cases ended : pollEnd s (.poll id clock answer) with
    | none =>
      rw [poll_silent svc ended]
      exact counts
    | some how =>
      obtain ⟨k, e⟩ := how
      obtain ⟨rfl, polled⟩ := poll_ended svc ended
      cases polled with
      | answered stored owner live normal writes =>
        rw [writes.circuit]
        exact counts_answered _
      | @error a exc stored owner live writes =>
        have circuit : (pollFailed svc clock (s.memory a) exc).1.circuit =
            some (failedCircuit clock s.circuit) := by
          cases retry : retries svc (s.memory a).activity exc with
          | some x => rw [pollFailed_retried clock retry, HeatStore.memory]
          | none => rw [pollFailed_gaveUp clock retry, HeatStore.memory]
        rw [writes.circuit, circuit]
        exact counts_failed counts clock

/-- From no row on, the row counts the polls in a row that failed, is open from the third
on, and stays open for at most half a minute. -/
theorem breaker_counts_failures (svc : HeatService) {start final : HeatStore}
    {transitions : List (Transition HeatStore HeatOp)}
    (run : Run (HeatStep svc) start transitions final) (empty : start.circuit = none) :
    Counts final.circuit (failureCount transitions) (latestFailure transitions) := by
  let counted (history : List (Transition HeatStore HeatOp)) (s : HeatStore) : Prop :=
    Counts s.circuit (failureCount history) (latestFailure history)
  have start_ : counted [] start := by
    change Counts start.circuit 0 none
    rw [empty]
    exact @counts_answered none none
  exact run.history start_ fun before s op t _ step counts => counts_step step counts

def unavailable : FortyGuardError :=
  ⟨"fortyguard_unavailable", "FortyGuard is unavailable", true⟩

/-- A poll at second `at_` that cannot reach the provider. -/
def failingPoll (at_ : Nat) : HeatOp := .poll 7 (tickClock at_) (.error (.fortyGuard unavailable))

/-- Three polls in a row fail, and the fourth is not made. -/
def outageRun : List HeatOp :=
  [sampleSubmit 0 (.ok "first"), failingPoll 1, failingPoll 2, failingPoll 3, failingPoll 4]

theorem breaker_counts_failures_outage :
    Counts (outageRun.foldl (fun s op => apply sampleService op s) HeatStore.empty).circuit
      (failureCount (trace (apply sampleService) HeatStore.empty outageRun))
      (latestFailure (trace (apply sampleService) HeatStore.empty outageRun)) :=
  breaker_counts_failures sampleService (run_trace (apply sampleService) HeatStore.empty outageRun)
    rfl

example : failureCount (trace (apply sampleService) HeatStore.empty outageRun) = 3 := by decide

end CoolProof.Heat
