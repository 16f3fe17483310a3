import CoolProof.HeatDelays
import CoolProof.HeatRequests
import CoolProof.HeatSchedule
import CoolProof.Library.WorkQueue

/-! The polling worker at its Redis list. A list entry is all that makes the worker look at an
analysis; it is taken off before the poll and put back after the wait, so whatever fails in
between loses it. The schedule in the database outlives that, and the recovery scan, which runs
when the list is empty, makes entries from it again. -/

namespace CoolProof.Heat
open Calendar JsonDocument Uuid Models ProviderQuery Tables Runs WorkQueue HeatRequests Projects
open Documents PortfolioRuns

/-! ## The worker -/

/-- The database, the Redis list, and the ids that workers wait to put back on it. -/
structure Polling where
  store : HeatStore
  queue : List String
  waiting : List UUID

def Polling.empty : Polling := ⟨HeatStore.empty, [], []⟩

/-- `RedisHeatQueue.enqueue` -/
def Polling.enqueue (id : UUID) (p : Polling) : Polling :=
  { p with queue := p.queue ++ [Uuid.toString id] }

/-- Where an exception leaves a tick that has taken an entry. -/
inductive Fault where
  | beforeCommit
  | afterCommit

/-- What surrounds one tick: the clock of the poll, the provider's answer, when the wait is
computed, the clock of the recovery scan, and how many of its rows are enqueued. -/
structure Tick where
  clock : PollClock
  seen : Except FortyGuardError Dict
  checkedAt : Instant
  fault : Option Fault
  scannedAt : Instant
  sent : Nat

/-- `limit` of `recover_due_heat_activities` -/
def recoveryLimit : Nat := 100

/-- `recover_due_heat_activities`, as far as it gets. -/
def Tick.recover (t : Tick) (p : Polling) : Polling :=
  ((recoverDueHeatActivities t.scannedAt recoveryLimit p.store.toHeatTables).take t.sent).foldl
    (fun p id => p.enqueue id) p

/-- `poll_queued_heat_analysis` of a stored analysis, up to the wait. -/
def Tick.poll (svc : HeatService) (t : Tick) (id : UUID) (p : Polling) : Polling :=
  let (store, delay) := pollQueuedHeatAnalysis svc id t.clock t.seen t.checkedAt p.store
  match t.fault with
  | some .beforeCommit => p
  | some .afterCommit => { p with store := store }
  | none => { p with
      store := store, waiting := if delay.isSome then p.waiting ++ [id] else p.waiting }

/-- One round of the loop in `run`, with `consume_heat_queue` in it. -/
def tick (svc : HeatService) (t : Tick) (p : Polling) : Polling :=
  match p.queue with
  | [] => t.recover p
  | value :: rest =>
      let p := { p with queue := rest }
      match Uuid.parse value.toList with
      -- `UUID(value)` raises, and the tick is over
      | none => p
      | some id =>
          match p.store.analysis id with
          | none => t.recover p
          | some _ => t.poll svc id p

/-- What happens to the queue, and to what it is a queue of. -/
inductive PollingEvent where
  /-- `create_heat_analysis`; `sent` says that it came to the enqueue after its commit -/
  | request (projects : ProjectTables) (tenant : TenantContext) (body : HeatAnalysisCreate)
      (env : SubmitEnv) (now : Instant) (sent : Bool)
  | tick (t : Tick)
  /-- a worker's wait for an id is over -/
  | wake (id : UUID)
  /-- the process that waits for an id stops, or its enqueue fails -/
  | stop (id : UUID)
  /-- Redis comes back with less than it had -/
  | lose (left : List String)

/-- The analysis that a request enqueues. -/
def enqueued : Except Stopped (HeatAnalysis × Bool) → Option UUID
  | .ok (analysis, false) => some analysis.id
  | _ => none

def actPolling (svc : HeatService) : PollingEvent → Polling → Polling
  | .request projects tenant body env now sent, p =>
      let (store, answer) := createHeatAnalysis svc projects p.store tenant body env now
      let p := { p with store := store }
      match enqueued answer with
      | some id => if sent then p.enqueue id else p
      | none => p
  | .tick t, p => tick svc t p
  | .wake id, p =>
      if id ∈ p.waiting then { p.enqueue id with waiting := p.waiting.erase id } else p
  | .stop id, p => { p with waiting := p.waiting.erase id }
  | .lose left, p => if left.Sublist p.queue then { p with queue := left } else p

def PollingStep (svc : HeatService) (p : Polling) (e : PollingEvent) (q : Polling) : Prop :=
  q = actPolling svc e p

/-! ## What strikes an analysis -/

/-- The step loses an entry of the analysis: a request that is not followed by its enqueue, an
exception in the tick that took the entry, the end of the wait for it, or Redis. -/
def Strikes (svc : HeatService) (id : UUID) (x : Transition Polling PollingEvent) : Prop :=
  match x.label with
  | .request projects tenant body env now sent =>
      sent = false ∧
        enqueued (createHeatAnalysis svc projects x.source.store tenant body env now).2 = some id
  | .tick t => t.fault.isSome ∧ x.source.queue.head? = some (Uuid.toString id)
  | .wake _ => False
  | .stop other => other = id
  | .lose left => left.count (Uuid.toString id) < x.source.queue.count (Uuid.toString id)

/-- The tick takes the entry of the analysis and polls it. -/
def Polls (svc : HeatService) (id : UUID) (x : Transition Polling PollingEvent) : Prop :=
  ∃ t, x.label = .tick t ∧ x.source.queue.head? = some (Uuid.toString id) ∧
    x.target.store = poll svc id t.clock (heard t.seen) x.source.store

/-- The analysis is on the list, or a worker waits to put it there. -/
def Covered (id : UUID) (p : Polling) : Prop := Uuid.toString id ∈ p.queue ∨ id ∈ p.waiting

def InProgress (id : UUID) (s : HeatStore) : Prop :=
  ∃ a, s.analysis id = some a ∧ a.status.terminal = false

/-- The schedule is tied to the statuses, and only stored analyses are listed. -/
structure Sound (p : Polling) : Prop where
  tied : AllTied p.store
  queued : ∀ value ∈ p.queue, ∃ id, value = Uuid.toString id ∧ (p.store.analysis id).isSome
  waits : ∀ id ∈ p.waiting, (p.store.analysis id).isSome

/-! ## One event -/

@[simp] theorem Polling.enqueue_store (id : UUID) (p : Polling) :
    (p.enqueue id).store = p.store := rfl

@[simp] theorem Polling.enqueue_waiting (id : UUID) (p : Polling) :
    (p.enqueue id).waiting = p.waiting := rfl

theorem foldl_enqueue (ids : List UUID) (p : Polling) :
    ids.foldl (fun p id => p.enqueue id) p =
      { p with queue := p.queue ++ ids.map Uuid.toString } := by
  induction ids generalizing p with
  | nil => simp
  | cons id ids ih =>
    rw [List.foldl_cons, ih]
    simp [Polling.enqueue]

theorem Tick.recover_eq (t : Tick) (p : Polling) : t.recover p =
    { p with queue := p.queue ++ ((recoverDueHeatActivities t.scannedAt recoveryLimit
        p.store.toHeatTables).take t.sent).map Uuid.toString } := foldl_enqueue _ _

theorem parse_toString (id : UUID) : Uuid.parse (Uuid.toString id).toList = some id := by
  simp [Uuid.toString, Uuid.parse_canonical]

/-- What the recovery scan lists is stored. -/
theorem recoverDue_stored {now : Instant} {limit : Nat} {t : HeatTables} {id : UUID}
    (listed : id ∈ recoverDueHeatActivities now limit t) : (t.analysis id).isSome := by
  obtain ⟨x, taken, rfl⟩ := List.mem_map.mp listed
  obtain ⟨-, -, progress⟩ := mem_dueActivities.mp (List.mem_of_mem_take taken)
  unfold inProgress at progress
  cases stored : t.analysis x.analysisId with
  | none => simp [stored] at progress
  | some a => rfl

/-- No operation removes an analysis. -/
theorem apply_stored (svc : HeatService) {s : HeatStore} (op : HeatOp) {id : UUID}
    (stored : (s.analysis id).isSome) : ((apply svc op s).analysis id).isSome := by
  rcases apply_cases svc op s with same | ⟨a, row, activity, -, wrote⟩
  · rwa [same]
  · rw [wrote.analysis]
    split
    · rfl
    · exact stored

/-- A poll leaves the other analyses as they are. -/
theorem poll_elsewhere (svc : HeatService) {s : HeatStore} {id other : UUID} (clock : PollClock)
    (answer : Except Raised Dict) (differs : other ≠ id) :
    (poll svc id clock answer s).analysis other = s.analysis other := by
  rcases poll_cases svc id clock answer s with same | ⟨a, row, activity, write, wrote⟩
  · rw [same]
  · obtain ⟨stored, -⟩ := write.poll_keys
    have owner : row.id = id := write.id.trans (HeatTables.analysis_mem stored).2
    rw [wrote.analysis, owner, if_neg differs]

/-! ## Requests -/

/-- The row that a submission returns as new. -/
def SubmitOutcome.requested : SubmitOutcome → Option UUID
  | .returned row false => some row.id
  | _ => none

/-- What a submission leaves in progress was in progress, or is the row it returns as new. -/
theorem submit_opens (svc : HeatService) (req : SubmitRequest) (env : SubmitEnv) (s : HeatStore)
    {id : UUID} (after : InProgress id (submit svc req env s).store) :
    InProgress id s ∨ (submit svc req env s).outcome.requested = some id := by
  obtain ⟨b, stored, open_⟩ := after
  have ends := submit_ends svc req env s
  generalize submit svc req env s = submitted at ends stored ⊢
  have requeued : ∀ {t : HeatStore} {row : HeatAnalysis} {activityId : String} {activity},
      Wrote s.toHeatTables t.toHeatTables (requeue req activityId row) activity →
      t.analysis id = some b → InProgress id s ∨ some row.id = some id := by
    intro t row activityId activity wrote found
    by_cases here : id = row.id
    · exact .inr (by rw [here])
    · rw [wrote.analysis, requeue_id, if_neg here] at found
      exact .inl ⟨b, found, open_⟩
  cases ends with
  | cached found fresh => exact .inl ⟨b, stored, open_⟩
  | @stale row exc t found answers wrote =>
    refine .inl ?_
    have value := wrote.analysis id
    dsimp only at stored
    rw [stored] at value
    split at value
    · rename_i here
      cases value
      exact ⟨row, by rw [here]; exact s.analysis_of_mem (byKey_some found).1, open_⟩
    · exact ⟨b, value.symm, open_⟩
  | refreshed found refreshes wrote => exact requeued wrote stored
  | inserted missing fresh owner wrote => exact requeued wrote stored
  | @refused row exc t opens unanswered wrote =>
    refine .inl ?_
    have value := wrote.analysis id
    dsimp only at stored
    rw [stored] at value
    split at value
    · cases value
      cases open_
    · exact ⟨b, value.symm, open_⟩
  | nothing silent unanswered => exact .inl ⟨b, stored, open_⟩

theorem submit_requested_stored (svc : HeatService) (req : SubmitRequest) (env : SubmitEnv)
    (s : HeatStore) {id : UUID} (sent : (submit svc req env s).outcome.requested = some id) :
    ((submit svc req env s).store.analysis id).isSome := by
  have ends := submit_ends svc req env s
  generalize submit svc req env s = submitted at ends sent ⊢
  cases ends with
  | cached | stale | refused => cases sent
  | refreshed found refreshes wrote =>
    cases sent
    simp [wrote.analysis]
  | inserted missing fresh owner wrote =>
    cases sent
    simp [wrote.analysis]
  | @nothing outcome called silent =>
    cases outcome with
    | returned row cached => exact absurd rfl (silent row cached)
    | raised exc => cases sent
    | integrityError => cases sent

/-- The rows of a request are those of its submission, if it came to one. -/
theorem createHeatAnalysis_cases (svc : HeatService) (projects : ProjectTables) (s : HeatStore)
    (tenant : TenantContext) (body : HeatAnalysisCreate) (env : SubmitEnv) (now : Instant) :
    (createHeatAnalysis svc projects s tenant body env now).1 = s ∧
        enqueued (createHeatAnalysis svc projects s tenant body env now).2 = none ∨
      ∃ req, (createHeatAnalysis svc projects s tenant body env now).1.analyses =
          (submit svc req env s).store.analyses ∧
        (createHeatAnalysis svc projects s tenant body env now).1.activities =
          (submit svc req env s).store.activities ∧
        enqueued (createHeatAnalysis svc projects s tenant body env now).2 =
          (submit svc req env s).outcome.requested := by
  unfold createHeatAnalysis
  split
  · exact .inl ⟨rfl, rfl⟩
  split
  · exact .inl ⟨rfl, rfl⟩
  rename_i zone found
  refine .inr ⟨createRequest tenant.organizationId body zone, ?_⟩
  dsimp only
  generalize submit svc (createRequest tenant.organizationId body zone) env s = submitted
  obtain ⟨t, outcome, called⟩ := submitted
  rcases outcome with ⟨row, _ | _⟩ | (_ | _) | _
  all_goals exact ⟨rfl, rfl, rfl⟩

section Requests

variable {svc : HeatService} {projects : ProjectTables} {s : HeatStore} {tenant : TenantContext}
  {body : HeatAnalysisCreate} {env : SubmitEnv} {now : Instant} {id : UUID}

theorem createHeatAnalysis_tied (inv : AllTied s) :
    AllTied (createHeatAnalysis svc projects s tenant body env now).1 := by
  rcases createHeatAnalysis_cases svc projects s tenant body env now with
    ⟨same, -⟩ | ⟨req, analyses, activities, -⟩
  · rwa [same]
  · have after := allTied_apply svc s (.submit req env) inv
    unfold AllTied HeatTables.analysis HeatTables.activity at after ⊢
    rw [analyses, activities]
    exact after

theorem createHeatAnalysis_stored (stored : (s.analysis id).isSome) :
    ((createHeatAnalysis svc projects s tenant body env now).1.analysis id).isSome := by
  rcases createHeatAnalysis_cases svc projects s tenant body env now with
    ⟨same, -⟩ | ⟨req, analyses, -⟩
  · rwa [same]
  · have after := apply_stored svc (.submit req env) stored
    unfold HeatTables.analysis at after ⊢
    rw [analyses]
    exact after

theorem createHeatAnalysis_opens
    (after : InProgress id (createHeatAnalysis svc projects s tenant body env now).1) :
    InProgress id s ∨
      enqueued (createHeatAnalysis svc projects s tenant body env now).2 = some id := by
  rcases createHeatAnalysis_cases svc projects s tenant body env now with
    ⟨same, -⟩ | ⟨req, analyses, -, answer⟩
  · rw [same] at after
    exact .inl after
  · rw [answer]
    refine submit_opens svc req env s ?_
    unfold InProgress HeatTables.analysis at after ⊢
    rwa [analyses] at after

theorem createHeatAnalysis_enqueued
    (sent : enqueued (createHeatAnalysis svc projects s tenant body env now).2 = some id) :
    ((createHeatAnalysis svc projects s tenant body env now).1.analysis id).isSome := by
  rcases createHeatAnalysis_cases svc projects s tenant body env now with
    ⟨-, answer⟩ | ⟨req, analyses, -, answer⟩
  · rw [answer] at sent
    cases sent
  · rw [answer] at sent
    have after := submit_requested_stored svc req env s sent
    unfold HeatTables.analysis at after ⊢
    rwa [analyses]

end Requests

/-! ## Ticks -/

section Ticks

variable {svc : HeatService} {t : Tick} {p : Polling} {id other : UUID}

/-- A tick of the worker scans when the list is empty, and polls otherwise. -/
theorem Sound.tick_ends (sound : Sound p) (svc : HeatService) (t : Tick) :
    p.queue = [] ∧ tick svc t p = t.recover p ∨
      ∃ id rest, p.queue = Uuid.toString id :: rest ∧ (p.store.analysis id).isSome ∧
        tick svc t p = t.poll svc id { p with queue := rest } := by
  unfold tick
  cases entries : p.queue with
  | nil => exact .inl ⟨rfl, rfl⟩
  | cons value rest =>
    obtain ⟨id, rfl, stored⟩ := sound.queued value (by rw [entries]; exact List.mem_cons_self)
    refine .inr ⟨id, rest, rfl, stored, ?_⟩
    obtain ⟨a, found⟩ := Option.isSome_iff_exists.mp stored
    dsimp only
    rw [parse_toString]
    dsimp only
    rw [found]

@[simp] theorem Tick.poll_queue : (t.poll svc id p).queue = p.queue := by
  unfold Tick.poll
  dsimp only
  split <;> rfl

theorem Tick.poll_store (svc : HeatService) (t : Tick) (id : UUID) (p : Polling) :
    (t.poll svc id p).store = p.store ∨
      (t.poll svc id p).store = Heat.poll svc id t.clock (heard t.seen) p.store := by
  unfold Tick.poll
  dsimp only
  split
  · exact .inl rfl
  · exact .inr rfl
  · exact .inr rfl

theorem Tick.poll_completes (completes : t.fault = none) : t.poll svc id p = { p with
    store := Heat.poll svc id t.clock (heard t.seen) p.store
    waiting := if (requeueDelay (Heat.poll svc id t.clock (heard t.seen) p.store).toHeatTables id
      t.checkedAt).isSome then p.waiting ++ [id] else p.waiting } := by
  unfold Tick.poll pollQueuedHeatAnalysis
  rw [completes]

theorem Tick.mem_poll_waiting :
    (∀ k ∈ p.waiting, k ∈ (t.poll svc id p).waiting) ∧
      ∀ k ∈ (t.poll svc id p).waiting, k ∈ p.waiting ∨ k = id := by
  unfold Tick.poll
  dsimp only
  split
  · exact ⟨fun k held => held, fun k => .inl⟩
  · exact ⟨fun k held => held, fun k => .inl⟩
  · dsimp only
    split
    · refine ⟨fun k => List.mem_append_left _, fun k member => ?_⟩
      rcases List.mem_append.mp member with held | new
      · exact .inl held
      · exact .inr (List.mem_singleton.mp new)
    · exact ⟨fun k held => held, fun k => .inl⟩

/-- An analysis in progress has a wait. -/
theorem requeueDelay_isSome {s : HeatStore} (tied : AllTied s) (progress : InProgress id s)
    (checkedAt : Instant) : (requeueDelay s.toHeatTables id checkedAt).isSome := by
  obtain ⟨a, stored, open_⟩ := progress
  have ties := tied id a stored
  obtain ⟨provider, started⟩ := Option.isSome_iff_exists.mp (ties.started open_)
  obtain ⟨x, found, -⟩ := ties.same provider started
  obtain ⟨due, scheduled⟩ := Option.isSome_iff_exists.mp (ties.scheduled open_ x found)
  simp [requeueDelay, stored, found, open_, scheduled]

theorem Tick.poll_elsewhere (differs : other ≠ id) :
    (t.poll svc id p).store.analysis other = p.store.analysis other := by
  rcases t.poll_store svc id p with same | polled
  · rw [same]
  · rw [polled]
    exact Heat.poll_elsewhere svc t.clock (heard t.seen) differs

theorem Tick.poll_stored (stored : (p.store.analysis other).isSome) :
    ((t.poll svc id p).store.analysis other).isSome := by
  rcases t.poll_store svc id p with same | polled
  · rwa [same]
  · rw [polled]
    exact apply_stored svc (.poll id t.clock (heard t.seen)) stored

theorem Tick.poll_tied (tied : AllTied p.store) : AllTied (t.poll svc id p).store := by
  rcases t.poll_store svc id p with same | polled
  · rwa [same]
  · rw [polled]
    exact allTied_apply svc p.store (.poll id t.clock (heard t.seen)) tied

end Ticks

/-! ## What every event keeps -/

theorem Sound.recover {t : Tick} {p : Polling} (sound : Sound p) : Sound (t.recover p) := by
  rw [Tick.recover_eq]
  refine ⟨sound.tied, fun value member => ?_, sound.waits⟩
  rcases List.mem_append.mp member with old | new
  · exact sound.queued value old
  · obtain ⟨id, listed, rfl⟩ := List.mem_map.mp new
    exact ⟨id, rfl, recoverDue_stored (List.mem_of_mem_take listed)⟩

theorem Sound.enqueue {p : Polling} {id : UUID} (sound : Sound p)
    (stored : (p.store.analysis id).isSome) : Sound (p.enqueue id) := by
  refine ⟨sound.tied, fun value member => ?_, sound.waits⟩
  rcases List.mem_append.mp member with old | new
  · exact sound.queued value old
  · exact ⟨id, List.mem_singleton.mp new, stored⟩

/-- A list that shrinks stays sound. -/
theorem Sound.within {p : Polling} {left : List String} (sound : Sound p)
    (within : left ⊆ p.queue) : Sound { p with queue := left } :=
  ⟨sound.tied, fun value member => sound.queued value (within member), sound.waits⟩

theorem Sound.released {p : Polling} (sound : Sound p) (id : UUID) :
    Sound { p with waiting := p.waiting.erase id } :=
  ⟨sound.tied, sound.queued, fun k member => sound.waits k (List.mem_of_mem_erase member)⟩

theorem sound_act {svc : HeatService} {p : Polling} (e : PollingEvent) (sound : Sound p) :
    Sound (actPolling svc e p) := by
  cases e with
  | request projects tenant body env now sent =>
    have moved : Sound
        { p with store := (createHeatAnalysis svc projects p.store tenant body env now).1 } := by
      refine ⟨createHeatAnalysis_tied sound.tied, fun value member => ?_, fun id member => ?_⟩
      · obtain ⟨id, same, stored⟩ := sound.queued value member
        exact ⟨id, same, createHeatAnalysis_stored stored⟩
      · exact createHeatAnalysis_stored (sound.waits id member)
    dsimp only [actPolling]
    split
    · rename_i id answer
      split
      · exact moved.enqueue (createHeatAnalysis_enqueued answer)
      · exact moved
    · exact moved
  | tick t =>
    change Sound (tick svc t p)
    rcases sound.tick_ends svc t with ⟨-, scans⟩ | ⟨id, rest, entries, stored, polls⟩
    · rw [scans]
      exact sound.recover
    · rw [polls]
      refine ⟨Tick.poll_tied sound.tied, fun value member => ?_, fun k member => ?_⟩
      · rw [Tick.poll_queue] at member
        obtain ⟨k, same, known⟩ := sound.queued value
          (by rw [entries]; exact List.mem_cons_of_mem _ member)
        exact ⟨k, same, Tick.poll_stored known⟩
      · refine Tick.poll_stored ?_
        rcases Tick.mem_poll_waiting.2 k member with held | rfl
        · exact sound.waits k held
        · exact stored
  | wake id =>
    dsimp only [actPolling]
    split
    · rename_i held
      exact (sound.enqueue (sound.waits id held)).released id
    · exact sound
  | stop id => exact sound.released id
  | lose left =>
    dsimp only [actPolling]
    split
    · rename_i lost
      exact sound.within lost.subset
    · exact sound

theorem sound_empty : Sound Polling.empty :=
  ⟨fun id a stored => (by cases stored), by simp [Polling.empty], by simp [Polling.empty]⟩

theorem sound_run {svc : HeatService} {events : List (Transition Polling PollingEvent)}
    {p : Polling} (run : Run (PollingStep svc) Polling.empty events p) : Sound p := by
  refine (run.always Sound ?_ sound_empty).2
  rintro p e q sound rfl
  exact sound_act e sound

/-! ## No analysis in progress is forgotten -/

/-- An analysis in progress is on the list, or some worker will put it there. -/
def Kept (id : UUID) (p : Polling) : Prop := InProgress id p.store → Covered id p

theorem Covered.recover {t : Tick} {p : Polling} {id : UUID} (covered : Covered id p) :
    Covered id (t.recover p) := by
  rw [Tick.recover_eq]
  exact covered.imp (List.mem_append_left _) fun held => held

theorem Covered.enqueue {p : Polling} {id : UUID} (covered : Covered id p) (other : UUID) :
    Covered id (p.enqueue other) := covered.imp (List.mem_append_left _) fun held => held

theorem Polling.enqueue_covers (p : Polling) (id : UUID) : Covered id (p.enqueue id) :=
  .inl (List.mem_append_right _ (List.mem_singleton.mpr rfl))

/-- A tick that nothing interrupts keeps the entry of what it polls, as long as that is in
progress, and the entries of all others. -/
theorem kept_tick {svc : HeatService} {p : Polling} {t : Tick} {id : UUID} (sound : Sound p)
    (unstruck : ¬(t.fault.isSome ∧ p.queue.head? = some (Uuid.toString id))) (kept : Kept id p) :
    Kept id (tick svc t p) := by
  intro progress
  have after : Sound (tick svc t p) := sound_act (.tick t) sound
  rcases sound.tick_ends svc t with ⟨-, scans⟩ | ⟨k, rest, entries, stored, polls⟩
  · rw [scans, Tick.recover_eq] at progress
    rw [scans]
    exact (kept progress).recover
  · rw [polls] at progress after ⊢
    by_cases own : id = k
    · subst own
      have completes : t.fault = none := by simpa [entries] using unstruck
      have waits := requeueDelay_isSome after.tied progress t.checkedAt
      rw [Tick.poll_completes completes] at waits ⊢
      refine .inr ?_
      rw [if_pos waits]
      exact List.mem_append_right _ (List.mem_singleton.mpr rfl)
    · have before : InProgress id p.store := by
        unfold InProgress at progress ⊢
        rwa [Tick.poll_elsewhere own] at progress
      rcases kept before with listed | held
      · rw [entries] at listed
        have differs : Uuid.toString id ≠ Uuid.toString k := Uuid.toString_injective.ne own
        refine .inl ?_
        rw [Tick.poll_queue]
        exact (List.mem_cons.mp listed).resolve_left differs
      · exact .inr (Tick.mem_poll_waiting.1 id held)

theorem kept_act {svc : HeatService} {p : Polling} {e : PollingEvent} {id : UUID} (sound : Sound p)
    (unstruck : ¬Strikes svc id ⟨p, e, actPolling svc e p⟩) (kept : Kept id p) :
    Kept id (actPolling svc e p) := by
  cases e with
  | request projects tenant body env now sent =>
    intro progress
    dsimp only [actPolling, Strikes] at progress unstruck ⊢
    have same : InProgress id (createHeatAnalysis svc projects p.store tenant body env now).1 := by
      split at progress
      · split at progress
        · exact progress
        · exact progress
      · exact progress
    rcases createHeatAnalysis_opens same with before | answer
    · have covered : Covered id
          { p with store := (createHeatAnalysis svc projects p.store tenant body env now).1 } :=
        kept before
      split
      · split
        · exact covered.enqueue _
        · exact covered
      · exact covered
    · have arrives : sent = true := by simpa [answer] using unstruck
      rw [answer, arrives]
      exact Polling.enqueue_covers _ id
  | tick t => exact kept_tick sound unstruck kept
  | wake other =>
    dsimp only [actPolling]
    split
    · intro progress
      rcases kept progress with listed | held
      · exact .inl (List.mem_append_left _ listed)
      · by_cases own : id = other
        · subst own
          exact .inl (List.mem_append_right _ (List.mem_singleton.mpr rfl))
        · exact .inr ((List.mem_erase_of_ne own).mpr held)
    · exact kept
  | stop other =>
    intro progress
    exact (kept progress).imp (fun listed => listed) (List.mem_erase_of_ne (Ne.symm unstruck)).mpr
  | lose left =>
    dsimp only [actPolling]
    split
    · intro progress
      refine (kept progress).imp (fun listed => ?_) fun held => held
      have counted := List.count_pos_iff.mpr listed
      exact List.count_pos_iff.mp (counted.trans_le (Nat.le_of_not_lt unstruck))
    · exact kept

/-! ## First in, first out -/

def PollingEvent.ticks : PollingEvent → Nat
  | .tick _ => 1
  | _ => 0

/-- How often the worker looks at its list. -/
def ticks (events : List (Transition Polling PollingEvent)) : Nat :=
  (events.map fun x => x.label.ticks).sum

/-- A listed analysis that is neither struck nor polled comes nearer with every tick. -/
theorem nearer_act {svc : HeatService} {p : Polling} {e : PollingEvent} {id : UUID}
    (sound : Sound p) (listed : Uuid.toString id ∈ p.queue)
    (unstruck : ¬Strikes svc id ⟨p, e, actPolling svc e p⟩)
    (unpolled : ¬Polls svc id ⟨p, e, actPolling svc e p⟩) :
    Nearer (Uuid.toString id) e.ticks p.queue (actPolling svc e p).queue := by
  cases e with
  | request projects tenant body env now sent =>
    dsimp only [actPolling, PollingEvent.ticks]
    split
    · split
      · exact .joined listed _
      · exact .refl listed
    · exact .refl listed
  | tick t =>
    change Nearer (Uuid.toString id) 1 p.queue (tick svc t p).queue
    rcases sound.tick_ends svc t with ⟨none_listed, -⟩ | ⟨k, rest, entries, stored, polls⟩
    · rw [none_listed] at listed
      cases listed
    · have other : Uuid.toString k ≠ Uuid.toString id := by
        intro same
        have front : p.queue.head? = some (Uuid.toString id) := by rw [entries, same]; rfl
        have own : k = id := Uuid.toString_injective same
        have completes : t.fault = none := by
          by_contra interrupted
          exact unstruck ⟨Option.isSome_iff_ne_none.mpr interrupted, front⟩
        refine unpolled ⟨t, rfl, front, ?_⟩
        change (tick svc t p).store = _
        rw [polls, Tick.poll_completes completes, own]
      rw [polls, Tick.poll_queue, entries]
      rw [entries] at listed
      exact .taken listed other
  | wake other =>
    dsimp only [actPolling, PollingEvent.ticks]
    split
    · exact .joined listed _
    · exact .refl listed
  | stop other => exact .refl listed
  | lose left =>
    dsimp only [actPolling, PollingEvent.ticks]
    split
    · rename_i lost
      exact .spared lost (Nat.le_of_not_lt unstruck) listed
    · exact .refl listed

/-- An entry is polled within as many ticks as it has to wait for, and one. -/
theorem polled_within {svc : HeatService} {p q : Polling} {id : UUID}
    {later : List (Transition Polling PollingEvent)} (run : Run (PollingStep svc) p later q)
    (sound : Sound p) (listed : Uuid.toString id ∈ p.queue)
    (unstruck : ∀ x ∈ later, ¬Strikes svc id x)
    (long : p.queue.idxOf (Uuid.toString id) < ticks later) : ∃ x ∈ later, Polls svc id x := by
  refine run.happens_within (Polls svc id) (fun p => Sound p ∧ Uuid.toString id ∈ p.queue)
    (fun x => x.label.ticks) (fun p => p.queue.idxOf (Uuid.toString id)) ⟨sound, listed⟩ ?_ long
  rintro ⟨s, e, m⟩ member ⟨held, waits⟩ unpolled
  obtain rfl : m = actPolling svc e s := run.steps _ member
  have nearer := nearer_act held waits (unstruck _ member) unpolled
  exact ⟨⟨sound_act e held, nearer.1⟩, nearer.2⟩

/-- In every history, an analysis in progress that nothing has struck is on the list or in the
hands of a worker that will put it there, and from its place on the list it is polled after as
many ticks as there are places before it. -/
theorem polled_in_turn (svc : HeatService)
    {events later : List (Transition Polling PollingEvent)} {p q : Polling}
    (run : Run (PollingStep svc) Polling.empty events p) (next : Run (PollingStep svc) p later q)
    {a : HeatAnalysis} (stored : a ∈ p.store.analyses)
    (progress : a.status = .queued ∨ a.status = .running)
    (unstruck : ∀ x ∈ events ++ later, ¬Strikes svc a.id x) :
    Covered a.id p ∧ (Uuid.toString a.id ∈ p.queue →
      p.queue.idxOf (Uuid.toString a.id) < ticks later → ∃ x ∈ later, Polls svc a.id x) := by
  have open_ : a.status.terminal = false := by rcases progress with h | h <;> rw [h] <;> rfl
  have sound := sound_run run
  have kept : Kept a.id p := by
    refine (run.invariant (fun x => ¬Strikes svc a.id x) (fun p => Sound p ∧ Kept a.id p) ?_
      ⟨sound_empty, ?_⟩ fun x member => unstruck x (List.mem_append_left _ member)).2.2
    · rintro s e m ⟨held, kept⟩ rfl spared
      exact ⟨sound_act e held, kept_act held spared kept⟩
    · rintro ⟨b, found, -⟩
      cases found
  refine ⟨kept ⟨a, p.store.analysis_of_mem stored, open_⟩, fun listed long => ?_⟩
  exact polled_within next sound listed
    (fun x member => unstruck x (List.mem_append_right _ member)) long

/-! ## Recovery -/

/-- The step puts an entry of the analysis on the list: a request for it, or the scan of a
worker that finds the list empty. -/
def PutsBack (svc : HeatService) (id : UUID) (x : Transition Polling PollingEvent) : Prop :=
  match x.label with
  | .request projects tenant body env now sent =>
      sent = true ∧
        enqueued (createHeatAnalysis svc projects x.source.store tenant body env now).2 = some id
  | .tick t => x.source.queue = [] ∧ id ∈
      (recoverDueHeatActivities t.scannedAt recoveryLimit x.source.store.toHeatTables).take t.sent
  | .wake _ | .stop _ | .lose _ => False

theorem uncovered_enqueue {p : Polling} {id other : UUID} (lost : ¬Covered id p)
    (differs : other ≠ id) : ¬Covered id (p.enqueue other) := by
  rintro (listed | held)
  · rcases List.mem_append.mp listed with old | new
    · exact lost (.inl old)
    · exact differs (Uuid.toString_injective (List.mem_singleton.mp new)).symm
  · exact lost (.inr held)

/-- Nothing else makes an entry for an analysis that has none. -/
theorem uncovered_act {svc : HeatService} {p : Polling} {e : PollingEvent} {id : UUID}
    (sound : Sound p) (lost : ¬Covered id p)
    (unhelped : ¬PutsBack svc id ⟨p, e, actPolling svc e p⟩) :
    ¬Covered id (actPolling svc e p) := by
  cases e with
  | request projects tenant body env now sent =>
    dsimp only [actPolling, PutsBack] at unhelped ⊢
    split
    · rename_i other answer
      split
      · rename_i arrives
        refine uncovered_enqueue lost fun same => unhelped ⟨arrives, ?_⟩
        rw [answer, same]
      · exact lost
    · exact lost
  | tick t =>
    change ¬Covered id (tick svc t p)
    rcases sound.tick_ends svc t with ⟨none_listed, scans⟩ | ⟨k, rest, entries, stored, polls⟩
    · rw [scans, Tick.recover_eq]
      rintro (listed | held)
      · rcases List.mem_append.mp listed with old | new
        · exact lost (.inl old)
        · obtain ⟨j, taken, same⟩ := List.mem_map.mp new
          obtain rfl := Uuid.toString_injective same
          exact unhelped ⟨none_listed, taken⟩
      · exact lost (.inr held)
    · rw [polls]
      rintro (listed | held)
      · rw [Tick.poll_queue] at listed
        exact lost (.inl (by rw [entries]; exact List.mem_cons_of_mem _ listed))
      · rcases Tick.mem_poll_waiting.2 id held with old | rfl
        · exact lost (.inr old)
        · exact lost (.inl (by rw [entries]; exact List.mem_cons_self))
  | wake other =>
    dsimp only [actPolling]
    split
    · rename_i held
      have differs : other ≠ id := by
        rintro rfl
        exact lost (.inr held)
      intro covered
      exact uncovered_enqueue lost differs
        (covered.imp (fun listed => listed) fun stays => List.mem_of_mem_erase stays)
    · exact lost
  | stop other =>
    exact fun covered => lost
      (covered.imp (fun listed => listed) fun stays => List.mem_of_mem_erase stays)
  | lose left =>
    dsimp only [actPolling]
    split
    · rename_i shorter
      exact fun covered => lost (covered.imp (fun listed => shorter.subset listed) fun held => held)
    · exact lost

/-- A complete scan lists what is due, unless more than the limit is due before it. -/
theorem scan_lists {now : Instant} {limit : Nat} {t : HeatTables} {y : FortyGuardActivity}
    {due : Instant} (stored : y ∈ t.activities) (scheduled : y.nextPollAt = some due)
    (late : due ≤ now) (progress : inProgress t y = true)
    (room : (t.activities.filter fun z => dueBy due z && inProgress t z).length ≤ limit) :
    y.analysisId ∈ recoverDueHeatActivities now limit t := by
  refine List.mem_map_of_mem (mem_take_ascending (List.mem_filter.mpr ⟨stored, ?_⟩) ?_)
  · simp [dueBy, scheduled, late, progress]
  · rw [List.filter_filter]
    refine Nat.le_trans (Nat.le_of_eq ?_) room
    congr 2
    funext z
    cases next : z.nextPollAt with
    | none => simp [dueBy, next]
    | some other =>
      simp only [dueBy, next, scheduled, Option.getD_some]
      by_cases before : other ≤ due
      · simp [before, before.trans late]
      · simp [before]

/-- The rows that a tick scans for. -/
def Tick.due (t : Tick) (p : Polling) : List UUID :=
  recoverDueHeatActivities t.scannedAt recoveryLimit p.store.toHeatTables

theorem Tick.due_length (t : Tick) (p : Polling) : (t.due p).length ≤ recoveryLimit := by
  simp [Tick.due, recoverDueHeatActivities]

/-- However an analysis in progress has lost its entry, nothing but a request for it or a scan
makes a worker poll it again; and the scan of a worker that finds the list empty, once the
analysis is due, does so within as many ticks as it lists rows. -/
theorem recovered_when_idle (svc : HeatService) {events : List (Transition Polling PollingEvent)}
    {p : Polling} (run : Run (PollingStep svc) Polling.empty events p) {a : HeatAnalysis}
    (stored : a ∈ p.store.analyses) (progress : a.status = .queued ∨ a.status = .running) :
    (¬Covered a.id p → ∀ later x q, Run (PollingStep svc) p (later ++ [x]) q →
      Polls svc a.id x → ∃ y ∈ later, PutsBack svc a.id y) ∧
    ∃ y ∈ p.store.activities, ∃ due, y.analysisId = a.id ∧ y.nextPollAt = some due ∧
      ∀ t : Tick, p.queue = [] → due ≤ t.scannedAt → (t.due p).length ≤ t.sent →
        (p.store.activities.filter fun z =>
          dueBy due z && inProgress p.store.toHeatTables z).length ≤ recoveryLimit →
        ∀ later q, Run (PollingStep svc) (actPolling svc (.tick t) p) later q →
          (∀ x ∈ later, ¬Strikes svc a.id x) → (t.due p).length ≤ ticks later →
          ∃ x ∈ later, Polls svc a.id x := by
  have open_ : a.status.terminal = false := by rcases progress with h | h <;> rw [h] <;> rfl
  have sound := sound_run run
  constructor
  · intro lost later x q next polls
    by_contra unhelped
    obtain ⟨m, first, last⟩ := next.split
    have still := (first.invariant (fun y => ¬PutsBack svc a.id y)
      (fun s => Sound s ∧ ¬Covered a.id s)
      (fun s e t held step alone => by
        obtain rfl : t = actPolling svc e s := step
        exact ⟨sound_act e held.1, uncovered_act held.1 held.2 alone⟩)
      ⟨sound, lost⟩ fun y member helps => unhelped ⟨y, member, helps⟩).2.2
    cases last with
    | cons _ _ =>
      obtain ⟨t, -, front, -⟩ := polls
      exact still (.inl (List.mem_of_mem_head? front))
  · have found := p.store.analysis_of_mem stored
    have ties := sound.tied a.id a found
    obtain ⟨provider, started⟩ := Option.isSome_iff_exists.mp (ties.started open_)
    obtain ⟨y, activity, -⟩ := ties.same provider started
    obtain ⟨due, scheduled⟩ := Option.isSome_iff_exists.mp (ties.scheduled open_ y activity)
    obtain ⟨inTable, owner⟩ := HeatTables.activity_mem activity
    refine ⟨y, inTable, due, owner, scheduled, fun t idle late whole room later q next unstruck
      long => ?_⟩
    have listed : a.id ∈ t.due p := by
      rw [← owner]
      exact scan_lists inTable scheduled late (by simp [inProgress, owner, found, open_]) room
    have entries : (actPolling svc (.tick t) p).queue = (t.due p).map Uuid.toString := by
      change (tick svc t p).queue = _
      unfold tick
      rw [idle]
      dsimp only
      rw [Tick.recover_eq, idle, List.nil_append]
      exact congrArg (List.map Uuid.toString) (List.take_of_length_le whole)
    have member : Uuid.toString a.id ∈ (t.due p).map Uuid.toString := List.mem_map_of_mem listed
    have place := List.idxOf_lt_length_of_mem member
    rw [List.length_map] at place
    rw [← entries] at member place
    exact polled_within next (sound_act (.tick t) sound) member unstruck (place.trans_le long)

/-! ### One analysis, enqueued or not -/

/-- A project of the tenant, with a zone. -/
def harbour : ProjectTables := ⟨[⟨11, 1, "Riverside", none⟩], [⟨12, 1, 11, "Quay", []⟩], []⟩

/-- A request at second 1, whose entry reaches the list or not. -/
def quayRequest (sent : Bool) : PollingEvent :=
  .request harbour ⟨1, 10, .analyst⟩ ⟨11, 12, []⟩
    ⟨7, seconds 1, seconds 1, seconds 1, seconds 1, .ok "activity", le_rfl, le_rfl⟩ (seconds 1) sent

/-- A round at a second, in which the provider is still at work. -/
def quayTick (n : Nat) : Tick :=
  ⟨tickClock n, .ok [("status", .str "running")], seconds n, none, seconds n, recoveryLimit⟩

def quayPolling (sent : Bool) : Polling := actPolling sampleService (quayRequest sent) .empty

theorem quay_run (sent : Bool) : Run (PollingStep sampleService) Polling.empty
    [⟨Polling.empty, quayRequest sent, quayPolling sent⟩] (quayPolling sent) :=
  .cons rfl (.nil _)

/-- The row that the request stores. -/
def quayAnalysis : HeatAnalysis :=
  let req := createRequest 1 ⟨11, 12, []⟩ ⟨12, 1, 11, "Quay", []⟩
  requeue req "activity" (newAnalysis req (sampleService.key req) 7 (seconds 1))

theorem quay_stored (sent : Bool) : quayAnalysis ∈ (quayPolling sent).store.analyses := by
  cases sent with
  | true => exact List.mem_singleton.mpr rfl
  | false => exact List.mem_singleton.mpr rfl

theorem quay_ticks (n : Nat) (p : Polling) : Run (PollingStep sampleService) p
    [⟨p, .tick (quayTick n), tick sampleService (quayTick n) p⟩]
    (tick sampleService (quayTick n) p) := .cons rfl (.nil _)

theorem polled_in_turn_quay : ∃ x ∈ [Transition.mk (quayPolling true) (.tick (quayTick 2))
    (tick sampleService (quayTick 2) (quayPolling true))], Polls sampleService 7 x := by
  refine (polled_in_turn sampleService (quay_run true) (quay_ticks 2 _) (quay_stored true)
    (.inl rfl) ?_).2 (List.mem_singleton.mpr rfl) (by decide +kernel)
  intro x member struck
  rcases List.mem_pair.mp member with rfl | rfl
  · exact absurd struck.1 (by decide)
  · exact absurd struck.1 (by decide)

/-- The entry is lost before the list; the next round finds it empty, and the one after polls. -/
theorem recovered_when_idle_quay : ∃ x ∈ [Transition.mk
    (tick sampleService (quayTick 2) (quayPolling false)) (.tick (quayTick 3))
    (tick sampleService (quayTick 3) (tick sampleService (quayTick 2) (quayPolling false)))],
    Polls sampleService 7 x := by
  obtain ⟨y, inTable, due, owner, scheduled, recovers⟩ :=
    (recovered_when_idle sampleService (quay_run false) (quay_stored false) (.inl rfl)).2
  obtain rfl : y = queuedActivity 7 "activity" (seconds 1) none := List.mem_singleton.mp inTable
  obtain rfl : seconds 1 = due := Option.some.inj scheduled
  refine recovers (quayTick 2) rfl (by decide) (by decide +kernel) (by decide +kernel) _ _
    (quay_ticks 3 _) ?_ (by decide +kernel)
  intro x member struck
  rw [List.mem_singleton.mp member] at struck
  exact absurd struck.1 (by decide)

end CoolProof.Heat
