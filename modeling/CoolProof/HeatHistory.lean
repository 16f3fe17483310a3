import CoolProof.HeatService
import CoolProof.Library.Runs

/-! Histories of committed `submit` and `poll` operations, one after the other. What
an operation may write is said once, in `OpWrite`; each invariant of a history is a
case analysis over it. -/

namespace CoolProof.Heat
open Calendar JsonDocument Uuid Models ProviderQuery Tables Runs

inductive HeatOp where
  | submit (req : SubmitRequest) (env : SubmitEnv)
  | poll (id : UUID) (clock : PollClock) (answer : Except Raised Dict)

def HeatOp.writtenAt : HeatOp → Instant
  | .submit _ env => env.writtenAt
  | .poll _ clock _ => clock.writtenAt

def apply (svc : HeatService) : HeatOp → HeatStore → HeatStore
  | .submit req env, s => (submit svc req env s).store
  | .poll id clock answer, s => poll svc id clock answer s

def HeatStep (svc : HeatService) (s : HeatStore) (op : HeatOp) (t : HeatStore) : Prop :=
  t = apply svc op s

/-! ## What an operation writes -/

/-- The row a submission works on: an expired stored one, or a new one under a fresh id. -/
def Opens (svc : HeatService) (req : SubmitRequest) (env : SubmitEnv) (s : HeatStore)
    (a : HeatAnalysis) : Prop :=
  (s.byKey req.organizationId (svc.key req) = some a ∧ isFresh a env.now = false) ∨
    (s.byKey req.organizationId (svc.key req) = none ∧ s.analysis a.id = none ∧
      a = newAnalysis req (svc.key req) env.newId env.createdAt)

/-- The poll's try block ends in a FortyGuardError, of the client or of the normaliser. -/
def PollError (answer : Except Raised Dict) (exc : FortyGuardError) : Prop :=
  answer = .error (.fortyGuard exc) ∨ ∃ raw, answer = .ok raw ∧ normalizeActivity raw = .error exc

/-- `OpWrite svc s op a row activity`: the operation loads `a`, stores `row` in its place
and leaves `activity` as its activity. -/
inductive OpWrite (svc : HeatService) (s : HeatStore) :
    HeatOp → HeatAnalysis → HeatAnalysis → Option FortyGuardActivity → Prop where
  | stale {req env a exc} : Opens svc req env s a → env.answer = .error (.fortyGuard exc) →
      a.result.isSome = true →
      OpWrite svc s (.submit req env) a (withError a exc) (s.activity a.id)
  | refused {req env a exc} : Opens svc req env s a → env.answer = .error (.fortyGuard exc) →
      a.result = none → OpWrite svc s (.submit req env) a (markFailed a exc) (s.activity a.id)
  | requeued {req env a activityId} : Opens svc req env s a → env.answer = .ok activityId →
      OpWrite svc s (.submit req env) a (requeue req activityId a)
        (some (queuedActivity a.id activityId env.dueAt (s.activity a.id)))
  | answered {id clock raw a status result} : s.analysis id = some a →
      suppressed a s.circuit clock.now = false → normalizeActivity raw = .ok (status, result) →
      OpWrite svc s (.poll id clock (.ok raw)) a (answeredAnalysis svc clock a status result)
        ((s.activity a.id).map (answeredActivity clock raw status))
  | retried {id clock answer a exc x} : s.analysis id = some a →
      suppressed a s.circuit clock.now = false → PollError answer exc →
      retries svc (s.activity a.id) exc = some x →
      OpWrite svc s (.poll id clock answer) a { withError a exc with status := .running }
        (some (retriedActivity clock x))
  | gaveUp {id clock answer a exc} : s.analysis id = some a →
      suppressed a s.circuit clock.now = false → PollError answer exc →
      retries svc (s.activity a.id) exc = none →
      OpWrite svc s (.poll id clock answer) a (markFailed a exc) (s.activity a.id)

/-- One analysis and its activity are written, every other row is left as it was. -/
structure Wrote (s t : HeatTables) (row : HeatAnalysis) (activity : Option FortyGuardActivity) :
    Prop where
  analysis : ∀ k, t.analysis k = if k = row.id then some row else s.analysis k
  activity : ∀ k, t.activity k = if k = row.id then activity else s.activity k

theorem wrote_putAnalysis {s t : HeatTables} {row : HeatAnalysis}
    (present : (t.analysis row.id).isSome) (analyses : ∀ k, k ≠ row.id → t.analysis k = s.analysis k)
    (activities : ∀ k, t.activity k = s.activity k) :
    Wrote s (t.putAnalysis row) row (s.activity row.id) where
  analysis k := by
    obtain ⟨old, found⟩ := Option.isSome_iff_exists.mp present
    by_cases same : k = row.id
    · simp [same, found]
    · simp [same, analyses k same]
  activity k := by
    by_cases same : k = row.id <;> simp [same, activities]

theorem Wrote.putActivity {s t : HeatTables} {row : HeatAnalysis}
    {old : Option FortyGuardActivity} (wrote : Wrote s t row old) {x : FortyGuardActivity}
    (owner : x.analysisId = row.id) : Wrote s (t.putActivity x) row (some x) where
  analysis k := by rw [HeatTables.analysis_putActivity, wrote.analysis]
  activity k := by
    rw [HeatTables.activity_putActivity, wrote.activity, owner]
    by_cases same : k = row.id <;> simp [same]

/-! ## Submissions -/

theorem byKey_some {t : HeatTables} {organizationId : UUID} {key : String} {a : HeatAnalysis}
    (h : t.byKey organizationId key = some a) :
    a ∈ t.analyses ∧ a.organizationId = organizationId ∧ a.idempotencyKey = key := by
  obtain ⟨member, kept⟩ := mem_of_first h
  exact ⟨member, by simpa using kept⟩

theorem commitOr_cases (s : HeatStore) (new : HeatTables) (outcome : SubmitOutcome) :
    (commitOr s new outcome).store = s ∨ (commitOr s new outcome).store.toHeatTables = new := by
  unfold commitOr
  split
  · rename_i t committed
    exact .inr (HeatStore.commit_some committed)
  · exact .inl rfl

/-- The rest of a submission, over any tables that hold the opened row. -/
theorem finishSubmit_cases (svc : HeatService) {req : SubmitRequest} {env : SubmitEnv}
    {s : HeatStore} {tables : HeatTables} {a : HeatAnalysis} {existing : Bool}
    (opens : Opens svc req env s a) (stored : existing = true ∨ a.result = none)
    (present : (tables.analysis a.id).isSome)
    (analyses : ∀ k, k ≠ a.id → tables.analysis k = s.analysis k)
    (activities : ∀ k, tables.activity k = s.activity k) :
    (finishSubmit req env s tables a existing).store = s ∨
      ∃ row activity, OpWrite svc s (.submit req env) a row activity ∧
        Wrote s.toHeatTables (finishSubmit req env s tables a existing).store.toHeatTables row
          activity := by
  have written : ∀ row : HeatAnalysis, row.id = a.id →
      Wrote s.toHeatTables (tables.putAnalysis row) row (s.activity a.id) := by
    intro row same
    rw [← same] at present analyses ⊢
    exact wrote_putAnalysis present analyses activities
  unfold finishSubmit
  cases answer : env.answer with
  | error raised =>
    cases raised with
    | valueError text => exact .inl rfl
    | fortyGuard exc =>
      dsimp only
      split
      · rename_i kept
        have result : a.result.isSome = true := ((Bool.and_eq_true _ _).mp kept).2
        refine (commitOr_cases _ _ _).imp id fun eq => ?_
        rw [eq]
        exact ⟨_, _, .stale opens answer result, written _ rfl⟩
      · rename_i lost
        have result : a.result = none := by
          rcases stored with rfl | missing
          · simpa using lost
          · exact missing
        refine (commitOr_cases _ _ _).imp id fun eq => ?_
        rw [eq]
        exact ⟨_, _, .refused opens answer result, written _ rfl⟩
  | ok activityId =>
    dsimp only
    refine (commitOr_cases _ _ _).imp id fun eq => ?_
    rw [eq, activities]
    exact ⟨_, _, .requeued opens answer, (written (requeue req activityId a) rfl).putActivity rfl⟩

theorem submit_cases (svc : HeatService) (req : SubmitRequest) (env : SubmitEnv)
    (s : HeatStore) : (submit svc req env s).store = s ∨
      ∃ a row activity, OpWrite svc s (.submit req env) a row activity ∧
        Wrote s.toHeatTables (submit svc req env s).store.toHeatTables row activity := by
  unfold submit
  cases stored : s.byKey req.organizationId (svc.key req) with
  | some existing =>
    dsimp only
    split
    · exact .inl rfl
    · rename_i expired
      have found := s.analysis_of_mem (byKey_some stored).1
      have opens : Opens svc req env s existing := .inl ⟨stored, by simpa using expired⟩
      exact (finishSubmit_cases svc opens (.inl rfl) (by simp [found]) (fun _ _ => rfl)
        (fun _ => rfl)).imp id fun h => ⟨existing, h⟩
  | none =>
    dsimp only
    split
    · rename_i flushed committed
      have fresh : s.analysis env.newId = none := HeatTables.analysis_of_flush committed
      have opens : Opens svc req env s (newAnalysis req (svc.key req) env.newId env.createdAt) :=
        .inr ⟨stored, fresh, rfl⟩
      have present : ((s.insertAnalysis (newAnalysis req (svc.key req) env.newId
          env.createdAt)).analysis env.newId).isSome := by
        simp
      refine (finishSubmit_cases svc opens (.inr rfl) present ?_ (fun _ => rfl)).imp id fun h => ⟨_, h⟩
      intro k other
      have differs : env.newId ≠ k := Ne.symm other
      simp [differs]
    · exact .inl rfl

/-! ## Polls -/

theorem caught_error {answer : Except Raised Dict} {exc : FortyGuardError}
    (h : caught answer = some (.error exc)) : answer = .error (.fortyGuard exc) := by
  rcases answer with (_ | _) | _ <;> simp_all [caught]

theorem caught_ok {answer : Except Raised Dict} {raw : Dict}
    (h : caught answer = some (.ok raw)) : answer = .ok raw := by
  rcases answer with (_ | _) | _ <;> simp_all [caught]

/-- The three ends of the try block. -/
theorem pollBody_cases (svc : HeatService) {s : HeatStore} {id : UUID} (clock : PollClock)
    {answer : Except Raised Dict} {a : HeatAnalysis} {seen : Except FortyGuardError Dict}
    (stored : s.analysis id = some a) (live : suppressed a s.circuit clock.now = false)
    (arrived : caught answer = some seen) :
    OpWrite svc s (.poll id clock answer) a
      (pollBody svc clock ⟨a, s.activity a.id, s.circuit⟩ seen).1.analysis
      (pollBody svc clock ⟨a, s.activity a.id, s.circuit⟩ seen).1.activity := by
  have failed : ∀ exc, PollError answer exc → OpWrite svc s (.poll id clock answer) a
      (pollFailed svc clock ⟨a, s.activity a.id, s.circuit⟩ exc).1.analysis
      (pollFailed svc clock ⟨a, s.activity a.id, s.circuit⟩ exc).1.activity := by
    intro exc error
    unfold pollFailed
    cases retry : retries svc (s.activity a.id) exc with
    | some x => exact .retried stored live error retry
    | none => exact .gaveUp stored live error retry
  obtain ⟨raw, status, result, rfl, normal, ends⟩ | ⟨exc, raised, ends⟩ :=
    pollBody_ends svc clock ⟨a, s.activity a.id, s.circuit⟩ seen
  · rw [ends]
    obtain rfl := caught_ok arrived
    exact .answered stored live normal
  · rw [ends]
    refine failed exc ?_
    rcases raised with rfl | ⟨raw, rfl, normal⟩
    · exact .inl (caught_error arrived)
    · exact .inr ⟨raw, caught_ok arrived, normal⟩

theorem answeredAnalysis_keys (svc : HeatService) (clock : PollClock) (a : HeatAnalysis)
    (status : HeatAnalysisStatus) (result : Option Dict) :
    analysisKeys (answeredAnalysis svc clock a status result) = analysisKeys a := by
  unfold answeredAnalysis
  split <;> rfl

theorem answeredAnalysis_result (svc : HeatService) (clock : PollClock) (a : HeatAnalysis)
    (status : HeatAnalysisStatus) (result : Option Dict) :
    (answeredAnalysis svc clock a status result).result = result := by
  unfold answeredAnalysis
  split <;> rfl

theorem answeredAnalysis_status (svc : HeatService) (clock : PollClock) (a : HeatAnalysis)
    (status : HeatAnalysisStatus) (result : Option Dict) :
    (answeredAnalysis svc clock a status result).status = status := by
  unfold answeredAnalysis
  split <;> rfl

theorem retries_some {svc : HeatService} {activity : Option FortyGuardActivity}
    {exc : FortyGuardError} {x : FortyGuardActivity} (h : retries svc activity exc = some x) :
    activity = some x := (Option.filter_eq_some_iff.mp h).1

/-- A poll writes no column that a constraint mentions. -/
theorem OpWrite.poll_keys {svc : HeatService} {s : HeatStore} {id : UUID} {clock : PollClock}
    {answer : Except Raised Dict} {a row : HeatAnalysis} {activity : Option FortyGuardActivity}
    (write : OpWrite svc s (.poll id clock answer) a row activity) :
    s.analysis id = some a ∧ analysisKeys row = analysisKeys a ∧
      activity.map activityKeys = (s.activity a.id).map activityKeys := by
  cases write with
  | answered stored _ _ =>
    refine ⟨stored, answeredAnalysis_keys .., ?_⟩
    cases s.activity a.id <;> rfl
  | retried stored _ _ retry => exact ⟨stored, rfl, by rw [retries_some retry]; rfl⟩
  | gaveUp stored _ _ _ => exact ⟨stored, rfl, rfl⟩

theorem analysisKeys_id {a b : HeatAnalysis} (h : analysisKeys a = analysisKeys b) :
    a.id = b.id := congrArg Prod.fst h

/-- The constrained columns stay when a row is written back with its own. -/
theorem putAnalysis_keys (s : HeatStore) {a row : HeatAnalysis}
    (stored : s.analysis a.id = some a) (keys : analysisKeys row = analysisKeys a) :
    (update HeatAnalysis.id row s.analyses).map analysisKeys = s.analyses.map analysisKeys := by
  refine map_update_of_eq fun r member hit => ?_
  have found := s.analysis_of_mem member
  rw [hit, analysisKeys_id keys, stored] at found
  rw [keys, Option.some.inj found]

theorem OpWrite.id {svc : HeatService} {s : HeatStore} {op : HeatOp} {a row : HeatAnalysis}
    {activity : Option FortyGuardActivity} (write : OpWrite svc s op a row activity) :
    row.id = a.id := by
  cases write with
  | answered => exact analysisKeys_id (answeredAnalysis_keys ..)
  | _ => rfl

/-- So the commit of a poll is never refused. -/
theorem OpWrite.poll_commits {svc : HeatService} {s : HeatStore} {id : UUID} {clock : PollClock}
    {answer : Except Raised Dict} {a : HeatAnalysis} {m : PollMemory} (events : List AuditEvent)
    (write : OpWrite svc s (.poll id clock answer) a m.analysis m.activity) :
    (s.putPoll m events).Constraints ∧
      Wrote s.toHeatTables (s.putPoll m events) m.analysis m.activity := by
  obtain ⟨stored, keys, activityKept⟩ := write.poll_keys
  have sameId := analysisKeys_id keys
  have owner := (HeatTables.analysis_mem stored).2
  have own : s.analysis a.id = some a := by
    rw [owner]
    exact stored
  have analyses := putAnalysis_keys s own keys
  have wrote : Wrote s.toHeatTables (s.putAnalysis m.analysis) m.analysis (s.activity a.id) := by
    rw [← sameId]
    refine wrote_putAnalysis ?_ (fun _ _ => rfl) (fun _ => rfl)
    rw [sameId, own]
    rfl
  obtain ⟨row, activity, circuit⟩ := m
  cases activity with
  | none =>
    have absent : s.activity a.id = none := by simpa using activityKept.symm
    rw [absent] at wrote
    exact ⟨s.wf.of_keys analyses rfl, ⟨wrote.analysis, wrote.activity⟩⟩
  | some x =>
    obtain ⟨old, found, sameKeys⟩ := Option.map_eq_some_iff.mp activityKept.symm
    have oldOwner := (HeatTables.activity_mem found).2
    have ownId : x.analysisId = a.id := (congrArg Prod.fst sameKeys).symm.trans oldOwner
    have activities : (upsert FortyGuardActivity.analysisId x s.activities).map activityKeys =
        s.activities.map activityKeys := by
      have present : (find FortyGuardActivity.analysisId x.analysisId s.activities).isSome := by
        rw [ownId]
        exact Option.isSome_iff_exists.mpr ⟨old, found⟩
      rw [upsert, if_pos present]
      refine map_update_of_eq fun r member hit => ?_
      have again := s.activity_of_mem member
      rw [hit, ownId, found] at again
      rw [← Option.some.inj again, sameKeys]
    have both := wrote.putActivity (ownId.trans sameId.symm)
    exact ⟨s.wf.of_keys analyses activities, ⟨both.analysis, both.activity⟩⟩

/-- An unsuppressed poll stores what its try block left in memory. -/
theorem poll_wrote (svc : HeatService) {s : HeatStore} {id : UUID} (clock : PollClock)
    {answer : Except Raised Dict} {a : HeatAnalysis} {seen : Except FortyGuardError Dict}
    (stored : s.analysis id = some a) (live : suppressed a s.circuit clock.now = false)
    (arrived : caught answer = some seen) :
    Wrote s.toHeatTables (poll svc id clock answer s).toHeatTables
      (pollBody svc clock ⟨a, s.activity a.id, s.circuit⟩ seen).1.analysis
      (pollBody svc clock ⟨a, s.activity a.id, s.circuit⟩ seen).1.activity := by
  have write := pollBody_cases svc clock stored live arrived
  have owner := (HeatTables.analysis_mem stored).2
  unfold poll
  rw [stored, arrived]
  simp only [live, Bool.false_eq_true, if_false]
  rw [owner] at write ⊢
  obtain ⟨valid, wrote⟩ := write.poll_commits
    (pollBody svc clock ⟨a, s.activity id, s.circuit⟩ seen).2
  obtain ⟨t, committed, tables⟩ := HeatStore.commit_of _ valid
  rw [committed, Option.getD_some, tables]
  exact wrote

theorem poll_cases (svc : HeatService) (id : UUID) (clock : PollClock)
    (answer : Except Raised Dict) (s : HeatStore) : poll svc id clock answer s = s ∨
      ∃ a row activity, OpWrite svc s (.poll id clock answer) a row activity ∧
        Wrote s.toHeatTables (poll svc id clock answer s).toHeatTables row activity := by
  cases stored : s.analysis id with
  | none => exact .inl (by simp [poll, stored])
  | some a =>
    cases arrived : caught answer with
    | none => exact .inl (by simp [poll, arrived])
    | some seen =>
      cases live : suppressed a s.circuit clock.now with
      | true => exact .inl (by simp [poll, stored, arrived, live])
      | false =>
        exact .inr ⟨a, _, _, pollBody_cases svc clock stored live arrived,
          poll_wrote svc clock stored live arrived⟩

/-- What one operation can do to the store. -/
theorem apply_cases (svc : HeatService) (op : HeatOp) (s : HeatStore) : apply svc op s = s ∨
    ∃ a row activity, OpWrite svc s op a row activity ∧
      Wrote s.toHeatTables (apply svc op s).toHeatTables row activity := by
  cases op with
  | submit req env => exact submit_cases svc req env s
  | poll id clock answer => exact poll_cases svc id clock answer s

/-! ## A small instance -/

def sampleService : HeatService := ⟨id, 5, 60⟩

def sampleRequest : SubmitRequest := ⟨1, 2, 3, requestPayload [] []⟩

/-- A submission at second `at_` that the provider answers with `answer`. -/
def sampleSubmit (at_ : Nat) (answer : Except Raised String) : HeatOp :=
  .submit sampleRequest ⟨7, seconds at_, seconds at_, seconds at_, seconds at_, answer, le_rfl,
    le_rfl⟩

def tickClock (n : Nat) : PollClock :=
  ⟨seconds n, seconds n, seconds n, seconds n, seconds n, le_rfl⟩

def completedActivity : Dict := [("status", .str "completed"), ("result", .obj [])]

def samplePoll (at_ : Nat) (raw : Dict) : HeatOp := .poll 7 (tickClock at_) (.ok raw)

end CoolProof.Heat
