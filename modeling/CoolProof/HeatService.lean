import CoolProof.Library.Tables
import CoolProof.Models
import CoolProof.ProviderQuery

/-! `HeatService.submit` and `HeatService.poll`. Each operation is split where the
source awaits: the rows a session holds in memory, what the provider answers, and
the commit. The memory steps are shared by the sequential operations below and by
the interleaved sessions. A commit that breaks a declared constraint is refused as
a whole, which is how an operation fails without leaving a trace. -/

namespace CoolProof.Heat
open Calendar JsonDocument Uuid Models ProviderQuery Tables

/-- Settings of the service; the digest stands for SHA-256. -/
structure HeatService where
  sha256 : String → String
  maxAttempts : Int
  cacheTtlSeconds : Int

/-! ## Committed rows -/

structure HeatTables where
  analyses : List HeatAnalysis
  activities : List FortyGuardActivity
  circuit : Option ProviderCircuit
  audits : List AuditEvent

/-- Primary keys, unique constraints and the foreign key of an activity. -/
structure HeatTables.Constraints (t : HeatTables) : Prop where
  analysisId : (t.analyses.map HeatAnalysis.id).Nodup
  idempotency : (t.analyses.map fun a => (a.organizationId, a.idempotencyKey)).Nodup
  providerActivity : (t.analyses.filterMap HeatAnalysis.providerActivityId).Nodup
  activityAnalysis : (t.activities.map FortyGuardActivity.analysisId).Nodup
  activityProvider : (t.activities.map FortyGuardActivity.providerActivityId).Nodup
  activityOwner : ∀ x ∈ t.activities, x.analysisId ∈ t.analyses.map HeatAnalysis.id

theorem HeatTables.constraints_iff (t : HeatTables) : t.Constraints ↔
    (t.analyses.map HeatAnalysis.id).Nodup ∧
    (t.analyses.map fun a => (a.organizationId, a.idempotencyKey)).Nodup ∧
    (t.analyses.filterMap HeatAnalysis.providerActivityId).Nodup ∧
    (t.activities.map FortyGuardActivity.analysisId).Nodup ∧
    (t.activities.map FortyGuardActivity.providerActivityId).Nodup ∧
    ∀ x ∈ t.activities, x.analysisId ∈ t.analyses.map HeatAnalysis.id :=
  ⟨fun ⟨a, b, c, d, e, f⟩ => ⟨a, b, c, d, e, f⟩, fun ⟨a, b, c, d, e, f⟩ => ⟨a, b, c, d, e, f⟩⟩

instance (t : HeatTables) : Decidable t.Constraints :=
  decidable_of_iff _ t.constraints_iff.symm

/-- The columns of an analysis that a constraint mentions. -/
def analysisKeys (a : HeatAnalysis) : UUID × UUID × String × Option String :=
  (a.id, a.organizationId, a.idempotencyKey, a.providerActivityId)

def activityKeys (x : FortyGuardActivity) : UUID × String :=
  (x.analysisId, x.providerActivityId)

/-- Writes that change no constrained column cannot break a constraint. -/
theorem HeatTables.Constraints.of_keys {s t : HeatTables} (h : s.Constraints)
    (analyses : t.analyses.map analysisKeys = s.analyses.map analysisKeys)
    (activities : t.activities.map activityKeys = s.activities.map activityKeys) :
    t.Constraints := by
  have column : ∀ {β : Type} (f : UUID × UUID × String × Option String → β),
      t.analyses.map (fun a => f (analysisKeys a)) =
        s.analyses.map (fun a => f (analysisKeys a)) := by
    intro β f
    simpa [Function.comp_def] using congrArg (List.map f) analyses
  have activityColumn : ∀ {β : Type} (f : UUID × String → β),
      t.activities.map (fun x => f (activityKeys x)) =
        s.activities.map (fun x => f (activityKeys x)) := by
    intro β f
    simpa [Function.comp_def] using congrArg (List.map f) activities
  have ids : t.analyses.map HeatAnalysis.id = s.analyses.map HeatAnalysis.id := column (·.1)
  have provider : t.analyses.filterMap HeatAnalysis.providerActivityId =
      s.analyses.filterMap HeatAnalysis.providerActivityId := by
    have same : t.analyses.map HeatAnalysis.providerActivityId =
        s.analyses.map HeatAnalysis.providerActivityId := column (·.2.2.2)
    simpa [List.filterMap_map] using congrArg (List.filterMap fun p => p) same
  have owners : t.activities.map FortyGuardActivity.analysisId =
      s.activities.map FortyGuardActivity.analysisId := activityColumn (·.1)
  refine ⟨ids ▸ h.analysisId, ?_, provider ▸ h.providerActivity, owners ▸ h.activityAnalysis,
    ?_, ?_⟩
  · have keys : t.analyses.map (fun a => (a.organizationId, a.idempotencyKey)) =
        s.analyses.map fun a => (a.organizationId, a.idempotencyKey) :=
      column fun k => (k.2.1, k.2.2.1)
    exact keys ▸ h.idempotency
  · have ids : t.activities.map FortyGuardActivity.providerActivityId =
        s.activities.map FortyGuardActivity.providerActivityId := activityColumn (·.2)
    exact ids ▸ h.activityProvider
  · intro x member
    have owner : x.analysisId ∈ s.activities.map FortyGuardActivity.analysisId :=
      owners ▸ List.mem_map_of_mem member
    obtain ⟨y, stored, same⟩ := List.mem_map.mp owner
    rw [ids, ← same]
    exact h.activityOwner y stored

/-- The committed database, constraints included. -/
structure HeatStore extends HeatTables where
  wf : toHeatTables.Constraints

def HeatStore.empty : HeatStore where
  analyses := []
  activities := []
  circuit := none
  audits := []
  wf := by decide

def HeatTables.analysis (t : HeatTables) (id : UUID) : Option HeatAnalysis :=
  find HeatAnalysis.id id t.analyses

def HeatTables.activity (t : HeatTables) (analysisId : UUID) : Option FortyGuardActivity :=
  find FortyGuardActivity.analysisId analysisId t.activities

/-- A commit: the new tables if every constraint holds, otherwise IntegrityError. -/
def HeatStore.commit (new : HeatTables) : Option HeatStore :=
  if h : new.Constraints then some { new with wf := h } else none

def HeatTables.insertAnalysis (t : HeatTables) (row : HeatAnalysis) : HeatTables :=
  { t with analyses := t.analyses ++ [row] }

def HeatTables.putAnalysis (t : HeatTables) (row : HeatAnalysis) : HeatTables :=
  { t with analyses := update HeatAnalysis.id row t.analyses }

def HeatTables.putActivity (t : HeatTables) (row : FortyGuardActivity) : HeatTables :=
  { t with activities := upsert FortyGuardActivity.analysisId row t.activities }

theorem HeatStore.commit_some {new : HeatTables} {t : HeatStore}
    (h : HeatStore.commit new = some t) : t.toHeatTables = new := by
  unfold HeatStore.commit at h
  split at h
  · cases h
    rfl
  · cases h

theorem HeatStore.commit_of (new : HeatTables) (h : new.Constraints) :
    ∃ t, HeatStore.commit new = some t ∧ t.toHeatTables = new :=
  ⟨{ new with wf := h }, by simp [HeatStore.commit, h], rfl⟩

theorem HeatTables.analysis_mem {t : HeatTables} {id : UUID} {a : HeatAnalysis}
    (h : t.analysis id = some a) : a ∈ t.analyses ∧ a.id = id := find_some h

theorem HeatTables.activity_mem {t : HeatTables} {id : UUID} {x : FortyGuardActivity}
    (h : t.activity id = some x) : x ∈ t.activities ∧ x.analysisId = id := find_some h

theorem HeatStore.analysis_of_mem (s : HeatStore) {a : HeatAnalysis} (h : a ∈ s.analyses) :
    s.analysis a.id = some a := find_of_mem s.wf.analysisId h

theorem HeatStore.activity_of_mem (s : HeatStore) {x : FortyGuardActivity}
    (h : x ∈ s.activities) : s.activity x.analysisId = some x := find_of_mem s.wf.activityAnalysis h

@[simp] theorem HeatTables.analysis_insertAnalysis (t : HeatTables) (row : HeatAnalysis)
    (k : UUID) : (t.insertAnalysis row).analysis k =
      (t.analysis k).or (if row.id = k then some row else none) := find_append ..

/-- The primary key of an inserted row is new. -/
theorem HeatTables.analysis_of_insert {t : HeatTables} {row : HeatAnalysis}
    (ids : ((t.insertAnalysis row).analyses.map HeatAnalysis.id).Nodup) :
    t.analysis row.id = none := by
  refine find_eq_none.mpr fun r member same => ?_
  simp only [HeatTables.insertAnalysis, List.map_append, List.map_cons, List.map_nil,
    List.nodup_append, List.mem_singleton] at ids
  exact ids.2.2 _ (List.mem_map_of_mem member) _ rfl same

theorem HeatTables.analysis_of_flush {t : HeatTables} {row : HeatAnalysis} {flushed : HeatStore}
    (committed : HeatStore.commit (t.insertAnalysis row) = some flushed) :
    t.analysis row.id = none := by
  -- the flush checks the primary key
  have ids := flushed.wf.analysisId
  rw [HeatStore.commit_some committed] at ids
  exact analysis_of_insert ids

@[simp] theorem HeatTables.activity_insertAnalysis (t : HeatTables) (row : HeatAnalysis)
    (k : UUID) : (t.insertAnalysis row).activity k = t.activity k := rfl

@[simp] theorem HeatTables.analysis_putAnalysis (t : HeatTables) (row : HeatAnalysis)
    (k : UUID) : (t.putAnalysis row).analysis k =
      if k = row.id then (t.analysis k).map (fun _ => row) else t.analysis k := find_update ..

@[simp] theorem HeatTables.activity_putAnalysis (t : HeatTables) (row : HeatAnalysis)
    (k : UUID) : (t.putAnalysis row).activity k = t.activity k := rfl

@[simp] theorem HeatTables.analysis_putActivity (t : HeatTables) (row : FortyGuardActivity)
    (k : UUID) : (t.putActivity row).analysis k = t.analysis k := rfl

@[simp] theorem HeatTables.activity_putActivity (t : HeatTables) (row : FortyGuardActivity)
    (k : UUID) : (t.putActivity row).activity k =
      if k = row.analysisId then some row else t.activity k := find_upsert ..

/-! ## Submission -/

structure SubmitRequest where
  organizationId : UUID
  projectId : UUID
  zoneId : UUID
  payload : Dict

def HeatService.key (svc : HeatService) (req : SubmitRequest) : String :=
  analysisIdempotencyKey svc.sha256 req.zoneId req.payload

/-- The analysis stored under an organization and a key. -/
def HeatTables.byKey (t : HeatTables) (organizationId : UUID) (key : String) :
    Option HeatAnalysis :=
  first (descending HeatAnalysis.createdAt) (fun a => a.organizationId = organizationId && a.idempotencyKey = key)
    t.analyses

/-- `existing.expires_at is None or existing.expires_at > now` -/
def isFresh (existing : HeatAnalysis) (now : Instant) : Bool :=
  match existing.expiresAt with
  | none => true
  | some expiry => now < expiry

/-- The row inserted for a key that is not stored yet. -/
def newAnalysis (req : SubmitRequest) (key : String) (id : UUID) (createdAt : Instant) :
    HeatAnalysis where
  id := id
  organizationId := req.organizationId
  projectId := req.projectId
  zoneId := req.zoneId
  idempotencyKey := key
  requestPayload := req.payload
  providerActivityId := none
  status := .queued
  result := none
  errorCode := none
  errorMessage := none
  sourceUpdatedAt := none
  expiresAt := none
  createdAt := createdAt

@[simp] theorem newAnalysis_id (req : SubmitRequest) (key : String) (id : UUID)
    (createdAt : Instant) : (newAnalysis req key id createdAt).id = id := rfl

def withError (a : HeatAnalysis) (exc : FortyGuardError) : HeatAnalysis :=
  { a with errorCode := some exc.code, errorMessage := some exc.message }

/-- The analysis after `create_analysis` failed and no result is at hand. -/
def markFailed (a : HeatAnalysis) (exc : FortyGuardError) : HeatAnalysis :=
  { withError a exc with status := .failed }

/-- The analysis after `create_analysis` returned an activity. -/
def requeue (req : SubmitRequest) (activityId : String) (a : HeatAnalysis) : HeatAnalysis :=
  { a with
    projectId := req.projectId, zoneId := req.zoneId, requestPayload := req.payload,
    status := .queued, errorCode := none, errorMessage := none,
    providerActivityId := some activityId }

@[simp] theorem requeue_id (req : SubmitRequest) (activityId : String) (a : HeatAnalysis) :
    (requeue req activityId a).id = a.id := rfl

/-- The activity row of a submission, new or reused, due at once. -/
def queuedActivity (analysisId : UUID) (activityId : String) (dueAt : Instant)
    (old : Option FortyGuardActivity) : FortyGuardActivity where
  analysisId := analysisId
  providerActivityId := activityId
  status := .analysis .queued
  attempts := 0
  nextPollAt := some dueAt
  lastPayload := old.bind FortyGuardActivity.lastPayload

/-- What surrounds one submission: the fresh row id, the clock and the provider.
`now` is read before the provider is called, `dueAt` after it, `writtenAt` at commit. -/
structure SubmitEnv where
  newId : UUID
  createdAt : Instant
  now : Instant
  dueAt : Instant
  writtenAt : Instant
  answer : Except Raised String
  now_le_dueAt : now ≤ dueAt
  dueAt_le_writtenAt : dueAt ≤ writtenAt

inductive SubmitOutcome where
  | returned (analysis : HeatAnalysis) (cached : Bool)
  | raised (exc : Raised)
  | integrityError

/-- The store after a submission, its outcome, and whether `create_analysis` was called. -/
structure Submitted where
  store : HeatStore
  outcome : SubmitOutcome
  called : Bool

def commitOr (s : HeatStore) (new : HeatTables) (outcome : SubmitOutcome) : Submitted :=
  match HeatStore.commit new with
  | some t => ⟨t, outcome, true⟩
  | none => ⟨s, .integrityError, true⟩

/-- The rest of a submission once the provider has answered: `tables` is what the open
transaction sees, `analysis` the row in memory, `existing` says it was stored before. -/
def finishSubmit (req : SubmitRequest) (env : SubmitEnv) (s : HeatStore) (tables : HeatTables)
    (analysis : HeatAnalysis) (existing : Bool) : Submitted :=
  match env.answer with
  -- any other exception leaves the session without a commit
  | .error (.valueError text) => ⟨s, .raised (.valueError text), true⟩
  | .error (.fortyGuard exc) =>
      if existing && analysis.result.isSome then
        commitOr s (tables.putAnalysis (withError analysis exc))
          (.returned (withError analysis exc) true)
      else
        commitOr s (tables.putAnalysis (markFailed analysis exc)) (.raised (.fortyGuard exc))
  | .ok activityId =>
      let row := requeue req activityId analysis
      let activity := queuedActivity row.id activityId env.dueAt (tables.activity row.id)
      commitOr s ((tables.putAnalysis row).putActivity activity) (.returned row false)

/-- `HeatService.submit` -/
def submit (svc : HeatService) (req : SubmitRequest) (env : SubmitEnv) (s : HeatStore) :
    Submitted :=
  match s.byKey req.organizationId (svc.key req) with
  | some existing =>
      if isFresh existing env.now then ⟨s, .returned existing true, false⟩
      else finishSubmit req env s s.toHeatTables existing true
  | none =>
      let analysis := newAnalysis req (svc.key req) env.newId env.createdAt
      -- the insert is flushed, and its constraints checked, before the provider call
      match HeatStore.commit (s.insertAnalysis analysis) with
      | some _ => finishSubmit req env s (s.insertAnalysis analysis) analysis false
      | none => ⟨s, .integrityError, false⟩

/-! ## Polling -/

def lower (s : String) : String := String.ofList (s.toList.map Char.toLower)

/-- `str(value).lower()` as far as the status words are concerned: no other JSON value
than a string is written as one of them. -/
def stateText : Json → String
  | .str s => lower s
  | _ => ""

def invalidResponse (message : String) : FortyGuardError :=
  ⟨"fortyguard_invalid_response", message, false⟩

/-- `normalize_activity` -/
def normalizeActivity (payload : Dict) :
    Except FortyGuardError (HeatAnalysisStatus × Option Dict) :=
  let data := dictOr payload (payload.get "data")
  let state := stateText (((data.get "status").or (payload.get "status")).getD (.str ""))
  if state = "queued" ∨ state = "pending" then .ok (.queued, none)
  else if state = "running" ∨ state = "processing" then .ok (.running, none)
  else if state = "succeeded" ∨ state = "completed" ∨ state = "complete" then
    match pyOr (data.get "result") (payload.get "result") with
    | some (.obj result) => .ok (.succeeded, some result)
    | _ => .error (invalidResponse "Completed activity omitted result data")
  else if state = "failed" ∨ state = "error" ∨ state = "cancelled" then .ok (.failed, none)
  else .error (invalidResponse "FortyGuard returned an unknown activity status")

/-- Success is the one status that comes with a result. -/
theorem normalizeActivity_succeeded_iff {payload : Dict} {status : HeatAnalysisStatus}
    {result : Option Dict} (h : normalizeActivity payload = .ok (status, result)) :
    status = .succeeded ↔ result.isSome := by
  unfold normalizeActivity at h
  dsimp only at h
  split at h
  · cases h
    simp
  · split at h
    · cases h
      simp
    · split at h
      · split at h <;> cases h
        simp
      · split at h <;> cases h
        simp

/-- The rows one poll holds in memory. -/
structure PollMemory where
  analysis : HeatAnalysis
  activity : Option FortyGuardActivity
  circuit : Option ProviderCircuit

/-- The clock of one poll: at its start, when a success is stamped, when its expiry is
computed, when an audit event is recorded and at commit. -/
structure PollClock where
  now : Instant
  stampedAt : Instant
  expiryFrom : Instant
  auditedAt : Instant
  writtenAt : Instant
  now_le_writtenAt : now ≤ writtenAt

def circuitOpen (circuit : Option ProviderCircuit) (now : Instant) : Bool :=
  match circuit with
  | some c => c.isOpen && (match c.openUntil with
      | some until_ => decide (now < until_)
      | none => false)
  | none => false

/-- A poll returns at once without an activity id or while the circuit is open. -/
def suppressed (analysis : HeatAnalysis) (circuit : Option ProviderCircuit) (now : Instant) :
    Bool := ((analysis.providerActivityId.getD "") = "") || circuitOpen circuit now

def auditTerminal (a : HeatAnalysis) (eventType : String) (metadata : Dict) (at_ : Instant) :
    AuditEvent where
  organizationId := a.organizationId
  actorUserId := none
  eventType := eventType
  resourceType := "heat_analysis"
  resourceId := Uuid.toString a.id
  metadata := metadata
  occurredAt := at_

/-- The analysis a normalised answer leaves. -/
def answeredAnalysis (svc : HeatService) (clock : PollClock) (a : HeatAnalysis)
    (status : HeatAnalysisStatus) (result : Option Dict) : HeatAnalysis :=
  let a := { a with status := status, result := result }
  if status = .succeeded then
    { a with
      sourceUpdatedAt := some clock.stampedAt,
      expiresAt := some (clock.expiryFrom + seconds svc.cacheTtlSeconds) }
  else a

def answeredActivity (clock : PollClock) (raw : Dict) (status : HeatAnalysisStatus)
    (x : FortyGuardActivity) : FortyGuardActivity :=
  { x with
    status := .analysis status, lastPayload := some raw, attempts := x.attempts + 1,
    nextPollAt := if status.terminal then none
      else some (clock.now + seconds (min 60 (2 ^ min (x.attempts + 1) 5))) }

def pollAnswered (svc : HeatService) (clock : PollClock) (m : PollMemory) (raw : Dict)
    (status : HeatAnalysisStatus) (result : Option Dict) : PollMemory × List AuditEvent :=
  (⟨answeredAnalysis svc clock m.analysis status result,
      m.activity.map (answeredActivity clock raw status),
      m.circuit.map fun _ => ⟨0, none, false⟩⟩,
    if status.terminal && decide (status ≠ m.analysis.status) then
      [auditTerminal m.analysis ("heat_analysis." ++ status.value)
        [("provider", .str "fortyguard"),
          ("provider_activity_id", .str (m.analysis.providerActivityId.getD ""))]
        clock.auditedAt]
    else [])

def failedCircuit (clock : PollClock) (circuit : Option ProviderCircuit) : ProviderCircuit :=
  let failures := (circuit.map ProviderCircuit.consecutiveFailures).getD 0 + 1
  ⟨failures, if 3 ≤ failures then some (clock.now + seconds 30) else none, decide (3 ≤ failures)⟩

/-- `activity and activity.attempts + 1 < self.client.max_attempts and exc.retryable` -/
def retries (svc : HeatService) (activity : Option FortyGuardActivity) (exc : FortyGuardError) :
    Option FortyGuardActivity :=
  activity.filter fun x => decide ((x.attempts : Int) + 1 < svc.maxAttempts) && exc.retryable

def retriedActivity (clock : PollClock) (x : FortyGuardActivity) : FortyGuardActivity :=
  { x with
    attempts := x.attempts + 1, status := .retrying,
    nextPollAt := some (clock.now + seconds (min 60 (2 ^ (x.attempts + 1)))) }

def pollFailed (svc : HeatService) (clock : PollClock) (m : PollMemory) (exc : FortyGuardError) :
    PollMemory × List AuditEvent :=
  let circuit := some (failedCircuit clock m.circuit)
  match retries svc m.activity exc with
  | some x =>
      (⟨{ withError m.analysis exc with status := .running }, some (retriedActivity clock x),
        circuit⟩, [])
  | none =>
      (⟨markFailed m.analysis exc, m.activity, circuit⟩,
        if m.analysis.status ≠ .failed then
          [auditTerminal m.analysis "heat_analysis.failed"
            [("provider", .str "fortyguard"), ("error_code", .str exc.code)] clock.auditedAt]
        else [])

/-- The try block of a poll: `normalize_activity` may raise as well as the client. -/
def pollBody (svc : HeatService) (clock : PollClock) (m : PollMemory)
    (answer : Except FortyGuardError Dict) : PollMemory × List AuditEvent :=
  match answer with
  | .error exc => pollFailed svc clock m exc
  | .ok raw =>
      match normalizeActivity raw with
      | .error exc => pollFailed svc clock m exc
      | .ok (status, result) => pollAnswered svc clock m raw status result

/-- A poll ends as answered, or in the except branch with an error of the client or of
`normalize_activity`. -/
theorem pollBody_ends (svc : HeatService) (clock : PollClock) (m : PollMemory)
    (seen : Except FortyGuardError Dict) :
    (∃ raw status result, seen = .ok raw ∧ normalizeActivity raw = .ok (status, result) ∧
      pollBody svc clock m seen = pollAnswered svc clock m raw status result) ∨
    ∃ exc, (seen = .error exc ∨ ∃ raw, seen = .ok raw ∧ normalizeActivity raw = .error exc) ∧
      pollBody svc clock m seen = pollFailed svc clock m exc := by
  cases seen with
  | error exc => exact .inr ⟨exc, .inl rfl, rfl⟩
  | ok raw =>
    cases normal : normalizeActivity raw with
    | error exc => exact .inr ⟨exc, .inr ⟨raw, rfl, normal⟩, by simp [pollBody, normal]⟩
    | ok answer =>
      obtain ⟨status, result⟩ := answer
      exact .inl ⟨raw, status, result, rfl, normal, by simp [pollBody, normal]⟩

/-- The tables with the rows of a poll written back. -/
def HeatTables.putPoll (t : HeatTables) (m : PollMemory) (events : List AuditEvent) :
    HeatTables :=
  let t := t.putAnalysis m.analysis
  let t := match m.activity with
    | some x => t.putActivity x
    | none => t
  { t with circuit := m.circuit, audits := t.audits ++ events }

/-- The answer as the try block of a poll sees it; other exceptions pass through. -/
def caught {α : Type} : Except Raised α → Option (Except FortyGuardError α)
  | .ok answer => some (.ok answer)
  | .error (.fortyGuard exc) => some (.error exc)
  | .error (.valueError _) => none

/-- `HeatService.poll` of a stored analysis. -/
def poll (svc : HeatService) (id : UUID) (clock : PollClock) (answer : Except Raised Dict)
    (s : HeatStore) : HeatStore :=
  match s.analysis id, caught answer with
  | some analysis, some answer =>
      if suppressed analysis s.circuit clock.now then s
      else
        let (m, events) := pollBody svc clock ⟨analysis, s.activity id, s.circuit⟩ answer
        (HeatStore.commit (s.putPoll m events)).getD s
  | _, _ => s

end CoolProof.Heat
