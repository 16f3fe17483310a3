import CoolProof.AgentRuntime
import CoolProof.Library.Sessions

/-! Requests on agent runs as interleaved sessions: one that starts a run and executes it,
and approval requests that read the row, decide on it in memory, commit, and then
execute or finalize in later commits. A session keeps the row as it read or last changed it.
Every transaction changes the row before it reads the event log, and the pending UPDATE is
sent with that reading, so the row is locked from there to the end of the transaction. -/

namespace CoolProof.Agents
open Calendar JsonDocument Uuid Models Tables Runs Sessions

/-- What a request has yet to do. -/
inductive Stage where
  | execute
  /-- Grounding is resolved and the graph runs. -/
  | invoke
  /-- The checkpoints of the nodes still listed, then the approval gate. -/
  | checkpoints (state : Dict) (names : List String)
  | fail
  | finalize

/-- The next transaction of a request; the graph runs outside of any, and a run that is not
approved cannot be finalized. -/
def Stage.draft (run : AgentRun) : Stage → Option (Draft run)
  | .execute => some (startExecution run)
  | .invoke => none
  | .checkpoints state (name :: _) => some (completeNode state name run)
  | .checkpoints _ [] => some (awaitApproval run)
  | .fail => some (failExecution run)
  | .finalize => (finalizeApprovedRun run).toOption

/-- What follows that transaction. -/
def Stage.next : Stage → Option Stage
  | .execute => some .invoke
  | .checkpoints state (_ :: names) => some (.checkpoints state names)
  | .checkpoints _ [] | .invoke | .fail | .finalize => none

/-- What `approve_agent_run` does once the decision is committed. -/
def afterDecision : String → Option Stage
  | "revise" => some .execute
  | "approve" => some .finalize
  | _ => none

inductive AgentSession where
  | idle
  | loaded (run : AgentRun) (request : ApprovalRequest)
  | ready (run : AgentRun) (stage : Stage)
  /-- A transaction that has read the event log and is about to commit. -/
  | writing (run : AgentRun) (draft : Draft run) (sequence : Nat) (next : Option Stage)

inductive AgentInput where
  | start (new : NewRun)
  | read (request : ApprovalRequest)
  | decide (now : Instant)
  | prepare
  /-- The final state of the graph, or the failure of grounding or of a node. -/
  | invoked (outcome : Option Dict)
  | commit
  | abandon

/-- A session that goes on with a stage, or is done. -/
def proceed (run : AgentRun) : Option Stage → AgentSession
  | some stage => .ready run stage
  | none => .idle

/-- The run for which a session has an open transaction. -/
def writes : AgentSession → Option UUID
  | .writing run _ _ _ => some run.id
  | .idle | .loaded _ _ | .ready _ _ => none

/-- The committed tables, and the runs whose rows an open transaction has changed. -/
structure AgentDatabase extends AgentStore where
  locked : List UUID

def AgentDatabase.unlocked (s : AgentStore) : AgentDatabase := ⟨s, []⟩

def AgentDatabase.lock (d : AgentDatabase) (id : UUID) : AgentDatabase :=
  { d with locked := id :: d.locked }

/-- The transaction on the row ends and leaves these tables. -/
def AgentDatabase.release (d : AgentDatabase) (id : UUID) (s : AgentStore) : AgentDatabase :=
  ⟨s, d.locked.filter fun held => held ≠ id⟩

@[simp] theorem AgentDatabase.unlocked_locked (s : AgentStore) : (unlocked s).locked = [] := rfl

/-- A transaction that takes the row and ends leaves nothing locked. -/
@[simp] theorem AgentDatabase.release_lock (s t : AgentStore) (id : UUID) :
    ((unlocked s).lock id).release id t = unlocked t := by
  simp [unlocked, lock, release]

/-- One step of a session. `none`: the input does not apply, or waits for the row. -/
def act (_ : Nat) (d : AgentDatabase) :
    AgentSession → AgentInput → Option (AgentDatabase × AgentSession)
  | .idle, .start new =>
      match createRun d.toAgentStore new with
      | some store => some ({ d with toAgentStore := store }, .ready new.row .execute)
      | none => some (d, .idle)
  | .idle, .read request =>
      match d.run request.runId with
      | some run => some (d, .loaded run request)
      | none => some (d, .idle)
  | .loaded run request, .decide now =>
      match decideRun run request now with
      | .ok draft =>
          if run.id ∈ d.locked then none
          else some (d.lock run.id,
            .writing run draft (d.nextSequence run.id) (afterDecision request.decision))
      | .error _ => some (d, .idle)
  | .ready run stage, .prepare =>
      if run.id ∈ d.locked then none
      else (stage.draft run).map fun draft =>
        (d.lock run.id, .writing run draft (d.nextSequence run.id) stage.next)
  | .ready run .invoke, .invoked outcome =>
      some (d, .ready run (match outcome with
        | some state => .checkpoints state agentNames
        | none => .fail))
  | .writing run draft sequence next, .commit =>
      some (d.release run.id (d.commit run draft sequence), proceed draft.changed next)
  | .writing run _ _ _, .abandon => some (d.release run.id d.toAgentStore, .idle)
  | _, .abandon => some (d, .idle)
  | _, _ => none

/-- What the steps of a session do to the tables, by name. -/
inductive Acts (s : AgentStore) :
    AgentSession → AgentInput → AgentStore → AgentSession → Prop where
  | started {new store} : createRun s new = some store →
      Acts s .idle (.start new) store (.ready new.row .execute)
  | startRefused {new} : Acts s .idle (.start new) s .idle
  | read {request run} : s.run request.runId = some run →
      Acts s .idle (.read request) s (.loaded run request)
  | missing {request} : Acts s .idle (.read request) s .idle
  | decided {run request now draft} : decideRun run request now = .ok draft →
      Acts s (.loaded run request) (.decide now) s
        (.writing run draft (s.nextSequence run.id) (afterDecision request.decision))
  | refused {run request now} : Acts s (.loaded run request) (.decide now) s .idle
  | prepared {run stage draft} : stage.draft run = some draft →
      Acts s (.ready run stage) .prepare s
        (.writing run draft (s.nextSequence run.id) stage.next)
  | completed {run state} : Acts s (.ready run .invoke) (.invoked (some state)) s
      (.ready run (.checkpoints state agentNames))
  | raised {run} : Acts s (.ready run .invoke) (.invoked none) s (.ready run .fail)
  | committed {run draft sequence next} : Acts s (.writing run draft sequence next) .commit
      (s.commit run draft sequence) (proceed draft.changed next)
  | abandoned {l} : Acts s l .abandon s .idle

theorem act_acts {i : Nat} {d d' : AgentDatabase} {l l' : AgentSession} {e : AgentInput}
    (h : act i d l e = some (d', l')) : Acts d.toAgentStore l e d'.toAgentStore l' := by
  unfold act at h
  split at h
  · split at h
    · cases h
      exact .started ‹_›
    · cases h
      exact .startRefused
  · split at h
    · cases h
      exact .read ‹_›
    · cases h
      exact .missing
  · split at h
    · split at h
      · cases h
      · cases h
        exact .decided ‹_›
    · cases h
      exact .refused
  · split at h
    · cases h
    · obtain ⟨draft, prepared, same⟩ := Option.map_eq_some_iff.mp h
      cases same
      exact .prepared prepared
  · rename_i outcome
    cases outcome with
    | none =>
      cases h
      exact .raised
    | some state =>
      cases h
      exact .completed
  · cases h
    exact .committed
  · cases h
    exact .abandoned
  · cases h
    exact .abandoned
  · cases h

/-- What a step does to the locks: nothing, or a transaction begins on a row that nobody
has locked, or the session's transaction ends. -/
inductive Locks (d : AgentDatabase) (l : AgentSession) (d' : AgentDatabase) (l' : AgentSession) :
    Prop where
  | kept : d'.locked = d.locked → writes l = none → writes l' = none → Locks d l d' l'
  | taken {id} : id ∉ d.locked → d'.locked = id :: d.locked → writes l' = some id →
      Locks d l d' l'
  | released {id} : writes l = some id → d'.locked = d.locked.filter (fun held => held ≠ id) →
      writes l' = none → Locks d l d' l'

theorem writes_proceed (run : AgentRun) (next : Option Stage) : writes (proceed run next) = none := by
  cases next <;> rfl

theorem act_locks {i : Nat} {d d' : AgentDatabase} {l l' : AgentSession} {e : AgentInput}
    (h : act i d l e = some (d', l')) : Locks d l d' l' := by
  unfold act at h
  split at h
  · split at h <;> cases h <;> exact .kept rfl rfl rfl
  · split at h <;> cases h <;> exact .kept rfl rfl rfl
  · split at h
    · split at h
      · cases h
      · cases h
        exact .taken ‹_› rfl rfl
    · cases h
      exact .kept rfl rfl rfl
  · split at h
    · cases h
    · obtain ⟨draft, _, same⟩ := Option.map_eq_some_iff.mp h
      cases same
      exact .taken ‹_› rfl rfl
  · cases h
    exact .kept rfl rfl rfl
  · cases h
    exact .released rfl rfl (writes_proceed _ _)
  · cases h
    exact .released rfl rfl rfl
  · rename_i noTransaction
    cases h
    cases l with
    | writing run draft sequence next => exact absurd rfl (noTransaction run draft sequence next)
    | _ => exact .kept rfl rfl rfl
  · cases h

def initial : System AgentDatabase AgentSession := ⟨.unlocked AgentStore.empty, fun _ => .idle⟩

abbrev AgentStep := Step act

abbrev AgentRunning (transitions : List (Transition (System AgentDatabase AgentSession)
    (Event AgentInput))) (final : System AgentDatabase AgentSession) : Prop :=
  Run AgentStep initial transitions final

/-! ## Row locks -/

/-- A row that an open transaction has changed is locked, and no other transaction is open on
it. -/
structure RowsLocked (c : System AgentDatabase AgentSession) : Prop where
  locked : ∀ i id, writes (c.locals i) = some id → id ∈ c.shared.locked
  oneWriter : Exclusive writes c

theorem rowsLocked_step {c d : System AgentDatabase AgentSession} {e : Event AgentInput}
    (rows : RowsLocked c) (step : AgentStep c e d) : RowsLocked d := by
  have held : Holds (fun _ => True) (fun _ s l => ∀ id, writes l = some id → id ∈ s.locked) d := by
    refine step.holds ⟨trivial, rows.locked⟩ ?_ ?_
    · intro s l done
      refine ⟨trivial, fun id mine => ?_⟩
      cases act_locks done with
      | kept _ _ none => exact absurd (none.symm.trans mine) (by simp)
      | taken _ grown now =>
        cases now.symm.trans mine
        exact grown ▸ List.mem_cons_self
      | released _ _ none => exact absurd (none.symm.trans mine) (by simp)
    · intro s l done j other before id theirs
      have locked := before id theirs
      cases act_locks done with
      | kept same => exact same ▸ locked
      | taken _ grown => exact grown ▸ List.mem_cons_of_mem _ locked
      | @released ended was left =>
        -- the row that is released is the acting session's, not the other one's
        have differs : id ≠ ended := fun same =>
          other (rows.oneWriter j e.session ended (same ▸ theirs) was)
        rw [left]
        exact List.mem_filter.mpr ⟨locked, by simpa using differs⟩
  refine ⟨held.2, step.exclusive rows.oneWriter fun s l id done mine => ?_⟩
  cases act_locks done with
  | kept _ _ none => exact absurd (none.symm.trans mine) (by simp)
  | taken free _ now =>
    cases now.symm.trans mine
    exact .inr fun j theirs => free (rows.locked j _ theirs)
  | released _ _ none => exact absurd (none.symm.trans mine) (by simp)

theorem rowsLocked_initial : RowsLocked initial where
  locked _ _ nobody := by cases nobody
  oneWriter _ _ _ nobody := by cases nobody

end CoolProof.Agents
