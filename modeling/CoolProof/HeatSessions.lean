import CoolProof.HeatSchedule
import CoolProof.Library.Sessions

/-! Submissions, worker ticks and recovery scans as interleaved sessions. A session
holds the rows it loaded and the rows as it changed them; its commit writes only the
columns that changed, over whatever the store holds by then. An inserted row is
invisible to others until its commit, but its unique key is taken from the flush on:
another insert of that key waits. The queue is a FIFO of analysis ids. -/

namespace CoolProof.Heat
open Calendar JsonDocument Uuid Models ProviderQuery Tables Runs Sessions

/-! ## Commits by column -/

def flushAnalysis (loaded changed stored : HeatAnalysis) : HeatAnalysis where
  id := stored.id
  organizationId := stored.organizationId
  projectId := flush loaded.projectId changed.projectId stored.projectId
  zoneId := flush loaded.zoneId changed.zoneId stored.zoneId
  idempotencyKey := stored.idempotencyKey
  requestPayload := flush loaded.requestPayload changed.requestPayload stored.requestPayload
  providerActivityId :=
    flush loaded.providerActivityId changed.providerActivityId stored.providerActivityId
  status := flush loaded.status changed.status stored.status
  result := flush loaded.result changed.result stored.result
  errorCode := flush loaded.errorCode changed.errorCode stored.errorCode
  errorMessage := flush loaded.errorMessage changed.errorMessage stored.errorMessage
  sourceUpdatedAt := flush loaded.sourceUpdatedAt changed.sourceUpdatedAt stored.sourceUpdatedAt
  expiresAt := flush loaded.expiresAt changed.expiresAt stored.expiresAt
  createdAt := stored.createdAt

def flushActivity (loaded changed stored : FortyGuardActivity) : FortyGuardActivity where
  analysisId := stored.analysisId
  providerActivityId :=
    flush loaded.providerActivityId changed.providerActivityId stored.providerActivityId
  status := flush loaded.status changed.status stored.status
  attempts := flush loaded.attempts changed.attempts stored.attempts
  nextPollAt := flush loaded.nextPollAt changed.nextPollAt stored.nextPollAt
  lastPayload := flush loaded.lastPayload changed.lastPayload stored.lastPayload

def flushCircuit (loaded changed stored : ProviderCircuit) : ProviderCircuit where
  consecutiveFailures :=
    flush loaded.consecutiveFailures changed.consecutiveFailures stored.consecutiveFailures
  openUntil := flush loaded.openUntil changed.openUntil stored.openUntil
  isOpen := flush loaded.isOpen changed.isOpen stored.isOpen

def HeatTables.mergeAnalysis (t : HeatTables) (loaded changed : HeatAnalysis) : HeatTables :=
  match t.analysis loaded.id with
  | some stored => t.putAnalysis (flushAnalysis loaded changed stored)
  | none => t

/-- A row the session had not found is inserted, next to whatever is there by now. -/
def HeatTables.mergeActivity (t : HeatTables) (loaded : Option FortyGuardActivity)
    (changed : FortyGuardActivity) : HeatTables :=
  match loaded with
  | none => { t with activities := t.activities ++ [changed] }
  | some x =>
      match t.activity x.analysisId with
      | some stored => t.putActivity (flushActivity x changed stored)
      | none => t

/-- The provider's circuit is one row: inserting it a second time is an IntegrityError. -/
def mergeCircuit (loaded changed stored : Option ProviderCircuit) :
    Option (Option ProviderCircuit) :=
  match loaded, changed with
  | none, none => some stored
  | none, some c => if stored.isSome then none else some (some c)
  | some _, none => some stored
  | some c, some c' => some (stored.map (flushCircuit c c'))

/-! ## Sessions -/

structure HeatShared where
  store : HeatStore
  /-- Unique keys of inserts that are not committed yet, with the session that holds each. -/
  pending : List (Nat × UUID × String)
  queue : List UUID

inductive HeatSession where
  | idle
  /-- A submission that found no row and is about to insert one. -/
  | absent (req : SubmitRequest)
  /-- A submission with its row at hand, stored before or just inserted. -/
  | opened (req : SubmitRequest) (existing : Bool) (a : HeatAnalysis)
  | called (req : SubmitRequest) (existing : Bool) (a : HeatAnalysis)
  | answered (req : SubmitRequest) (existing : Bool) (a : HeatAnalysis)
      (answer : Except FortyGuardError String) (dueAt : Instant)
      (activity : Option FortyGuardActivity)
  /-- A worker with an id from the queue. -/
  | dequeued (id : UUID)
  | loaded (a : HeatAnalysis)
  | polling (a : HeatAnalysis) (circuit : Option ProviderCircuit) (clock : PollClock)
  | polled (m : PollMemory) (clock : PollClock) (seen : Except FortyGuardError Dict)
  /-- A worker about to decide on the next poll; the status it saw if it skipped this one. -/
  | checking (id : UUID) (skipped : Option HeatAnalysisStatus)
  | enqueueing (ids : List UUID)

inductive HeatInput where
  | read (req : SubmitRequest) (now : Instant)
  | insert (newId : UUID) (createdAt : Instant)
  | call
  | answer (answer : Except FortyGuardError String) (dueAt : Instant)
  | commit
  | dequeue
  | load
  | circuit (clock : PollClock)
  | reply (seen : Except FortyGuardError Dict)
  | commitPoll
  | check
  | push
  | recover (now : Instant) (limit : Nat)
  | abandon

def holdsKey (s : HeatShared) (organizationId : UUID) (key : String) : Bool :=
  s.pending.any fun p => p.2 = (organizationId, key)

def HeatShared.release (s : HeatShared) (i : Nat) : HeatShared :=
  { s with pending := s.pending.filter fun p => p.1 ≠ i }

/-- The analysis as a submission leaves it in memory, and whether it counts as cached. -/
def submitRow (req : SubmitRequest) (existing : Bool) (a : HeatAnalysis) :
    Except FortyGuardError String → HeatAnalysis
  | .error exc => if existing && a.result.isSome then withError a exc else markFailed a exc
  | .ok activityId => requeue req activityId a

/-- What a submission's transaction makes of the store it commits to. -/
def submitTables (t : HeatTables) (req : SubmitRequest) (existing : Bool) (a : HeatAnalysis)
    (answer : Except FortyGuardError String) (dueAt : Instant)
    (activity : Option FortyGuardActivity) : HeatTables :=
  let t := if existing then t else t.insertAnalysis a
  let t := t.mergeAnalysis a (submitRow req existing a answer)
  match answer with
  | .error _ => t
  | .ok activityId => t.mergeActivity activity (queuedActivity a.id activityId dueAt activity)

def pollTables (svc : HeatService) (t : HeatTables) (m : PollMemory) (clock : PollClock)
    (seen : Except FortyGuardError Dict) : Option HeatTables :=
  let (changed, events) := pollBody svc clock m seen
  let merged := t.mergeAnalysis m.analysis changed.analysis
  let merged := match changed.activity with
    | some x => merged.mergeActivity m.activity x
    | none => merged
  (mergeCircuit m.circuit changed.circuit t.circuit).map fun circuit =>
    { merged with circuit := circuit, audits := merged.audits ++ events }

/-- Whether a worker schedules another poll of an analysis. -/
def schedulesNext (t : HeatTables) (id : UUID) (skipped : Option HeatAnalysisStatus) : Bool :=
  match t.analysis id, t.activity id with
  | some a, some x => !(skipped.getD a.status).terminal && x.nextPollAt.isSome
  | _, _ => false

/-- One step of a session. `none`: the input does not apply, or has to wait. -/
def act (svc : HeatService) (i : Nat) (s : HeatShared) :
    HeatSession → HeatInput → Option (HeatShared × HeatSession)
  | .idle, .read req now =>
      match s.store.byKey req.organizationId (svc.key req) with
      | some existing => some (s, if isFresh existing now then .idle else .opened req true existing)
      | none => some (s, .absent req)
  | .absent req, .insert newId createdAt =>
      let a := newAnalysis req (svc.key req) newId createdAt
      if holdsKey s req.organizationId (svc.key req) then none
      else match HeatStore.commit (s.store.insertAnalysis a) with
        | some _ => some ({ s with
            pending := (i, req.organizationId, svc.key req) :: s.pending }, .opened req false a)
        | none => some (s, .idle)
  | .opened req existing a, .call => some (s, .called req existing a)
  | .called req existing a, .answer answer dueAt =>
      some (s, .answered req existing a answer dueAt (s.store.activity a.id))
  | .answered req existing a answer dueAt activity, .commit =>
      match HeatStore.commit (submitTables s.store.toHeatTables req existing a answer dueAt
        activity) with
      | some store => some ({ s.release i with store := store }, match answer with
          | .ok _ => .enqueueing [a.id]
          | .error _ => .idle)
      | none => some (s.release i, .idle)
  | .idle, .dequeue =>
      match s.queue with
      | id :: rest => some ({ s with queue := rest }, .dequeued id)
      | [] => none
  | .dequeued id, .load =>
      match s.store.analysis id with
      | some a => some (s, .loaded a)
      | none => some (s, .idle)
  | .loaded a, .circuit clock =>
      if suppressed a s.store.circuit clock.now then some (s, .checking a.id (some a.status))
      else some (s, .polling a s.store.circuit clock)
  | .polling a circuit clock, .reply seen =>
      some (s, .polled ⟨a, s.store.activity a.id, circuit⟩ clock seen)
  | .polled m clock seen, .commitPoll =>
      match (pollTables svc s.store.toHeatTables m clock seen).bind HeatStore.commit with
      | some store => some ({ s with store := store }, .checking m.analysis.id none)
      | none => some (s, .idle)
  | .checking id skipped, .check =>
      some (s, if schedulesNext s.store.toHeatTables id skipped then .enqueueing [id] else .idle)
  | .enqueueing (id :: rest), .push =>
      some ({ s with queue := s.queue ++ [id] }, .enqueueing rest)
  | .enqueueing [], .push => some (s, .idle)
  | .idle, .recover now limit =>
      some (s, .enqueueing (recoverDueHeatActivities now limit s.store.toHeatTables))
  | _, .abandon => some (s.release i, .idle)
  | _, _ => none

/-- The steps of a session, by name. -/
inductive Acts (svc : HeatService) (i : Nat) (s : HeatShared) :
    HeatSession → HeatInput → HeatShared → HeatSession → Prop where
  | cached {req now a} : s.store.byKey req.organizationId (svc.key req) = some a →
      isFresh a now = true → Acts svc i s .idle (.read req now) s .idle
  | expired {req now a} : s.store.byKey req.organizationId (svc.key req) = some a →
      isFresh a now = false → Acts svc i s .idle (.read req now) s (.opened req true a)
  | missing {req now} : s.store.byKey req.organizationId (svc.key req) = none →
      Acts svc i s .idle (.read req now) s (.absent req)
  | inserted {req newId createdAt} : holdsKey s req.organizationId (svc.key req) = false →
      (s.store.insertAnalysis (newAnalysis req (svc.key req) newId createdAt)).Constraints →
      Acts svc i s (.absent req) (.insert newId createdAt)
        { s with pending := (i, req.organizationId, svc.key req) :: s.pending }
        (.opened req false (newAnalysis req (svc.key req) newId createdAt))
  | duplicate {req newId createdAt} : Acts svc i s (.absent req) (.insert newId createdAt) s .idle
  | call {req existing a} :
      Acts svc i s (.opened req existing a) .call s (.called req existing a)
  | answer {req existing a answer dueAt} :
      Acts svc i s (.called req existing a) (.answer answer dueAt) s
        (.answered req existing a answer dueAt (s.store.activity a.id))
  | submitted {req existing a answer dueAt activity store} :
      store.toHeatTables =
        submitTables s.store.toHeatTables req existing a answer dueAt activity →
      Acts svc i s (.answered req existing a answer dueAt activity) .commit
        { s.release i with store := store } (match answer with
          | .ok _ => .enqueueing [a.id]
          | .error _ => .idle)
  | submitRefused {req existing a answer dueAt activity} :
      Acts svc i s (.answered req existing a answer dueAt activity) .commit (s.release i) .idle
  | dequeue {id rest} : s.queue = id :: rest →
      Acts svc i s .idle .dequeue { s with queue := rest } (.dequeued id)
  | found {id a} : s.store.analysis id = some a →
      Acts svc i s (.dequeued id) .load s (.loaded a)
  | gone {id} : s.store.analysis id = none → Acts svc i s (.dequeued id) .load s .idle
  | skipped {a clock} : suppressed a s.store.circuit clock.now = true →
      Acts svc i s (.loaded a) (.circuit clock) s (.checking a.id (some a.status))
  | polling {a clock} : suppressed a s.store.circuit clock.now = false →
      Acts svc i s (.loaded a) (.circuit clock) s (.polling a s.store.circuit clock)
  | reply {a circuit clock seen} :
      Acts svc i s (.polling a circuit clock) (.reply seen) s
        (.polled ⟨a, s.store.activity a.id, circuit⟩ clock seen)
  | polled {m clock seen store} :
      pollTables svc s.store.toHeatTables m clock seen = some store.toHeatTables →
      Acts svc i s (.polled m clock seen) .commitPoll { s with store := store }
        (.checking m.analysis.id none)
  | pollRefused {m clock seen} : Acts svc i s (.polled m clock seen) .commitPoll s .idle
  | again {id skipped} : schedulesNext s.store.toHeatTables id skipped = true →
      Acts svc i s (.checking id skipped) .check s (.enqueueing [id])
  | finished {id skipped} : schedulesNext s.store.toHeatTables id skipped = false →
      Acts svc i s (.checking id skipped) .check s .idle
  | push {id rest} : Acts svc i s (.enqueueing (id :: rest)) .push
      { s with queue := s.queue ++ [id] } (.enqueueing rest)
  | pushed : Acts svc i s (.enqueueing []) .push s .idle
  | recover {now limit} : Acts svc i s .idle (.recover now limit) s
      (.enqueueing (recoverDueHeatActivities now limit s.store.toHeatTables))
  | abandon {l} : Acts svc i s l .abandon (s.release i) .idle

theorem act_acts {svc : HeatService} {i : Nat} {s s' : HeatShared} {l l' : HeatSession}
    {e : HeatInput} (h : act svc i s l e = some (s', l')) : Acts svc i s l e s' l' := by
  unfold act at h
  split at h
  · split at h
    · rename_i found
      cases h
      split
      · exact .cached found ‹_›
      · exact .expired found (Bool.eq_false_of_not_eq_true ‹_›)
    · cases h
      exact .missing ‹_›
  · dsimp only at h
    split at h
    · cases h
    · split at h
      · rename_i free _ flushed committed
        cases h
        have valid := flushed.wf
        rw [HeatStore.commit_some committed] at valid
        exact .inserted (Bool.eq_false_of_not_eq_true free) valid
      · cases h
        exact .duplicate
  · cases h
    exact .call
  · cases h
    exact .answer
  · split at h
    · rename_i committed
      cases h
      exact .submitted (HeatStore.commit_some committed)
    · cases h
      exact .submitRefused
  · split at h
    · cases h
      exact .dequeue ‹_›
    · cases h
  · split at h
    · cases h
      exact .found ‹_›
    · cases h
      exact .gone ‹_›
  · split at h
    · cases h
      exact .skipped ‹_›
    · cases h
      exact .polling (Bool.eq_false_of_not_eq_true ‹_›)
  · cases h
    exact .reply
  · split at h
    · rename_i committed
      cases h
      obtain ⟨tables, merged, stored⟩ := Option.bind_eq_some_iff.mp committed
      exact .polled (by rw [merged, HeatStore.commit_some stored])
    · cases h
      exact .pollRefused
  · cases h
    split
    · exact .again ‹_›
    · exact .finished (Bool.eq_false_of_not_eq_true ‹_›)
  · cases h
    exact .push
  · cases h
    exact .pushed
  · cases h
    exact .recover
  · cases h
    exact .abandon
  · cases h

def initial : System HeatShared HeatSession := ⟨⟨HeatStore.empty, [], []⟩, fun _ => .idle⟩

abbrev HeatRun (svc : HeatService) (transitions : List (Transition (System HeatShared HeatSession)
    (Event HeatInput))) (final : System HeatShared HeatSession) : Prop :=
  Run (Step (act svc)) initial transitions final

end CoolProof.Heat
