import CoolProof.ApprovalSafety
import CoolProof.Library.Replay

/-! Event replay. A transaction takes the number after the largest it reads, and commits
later; a client reads above the largest number it has received. The transaction has locked
the row of its run by then, so its number is still the next one when it commits, and the
client's copy is the committed log. -/

namespace CoolProof.Agents
open JsonDocument Uuid Models Tables Runs Sessions Replay

/-- The events of a run in the order of their commits. -/
def AgentTables.eventsOf (t : AgentTables) (runId : UUID) : List AgentEvent :=
  t.events.filter fun e => e.runId = runId

theorem nextSequence_eq (t : AgentTables) (runId : UUID) :
    t.nextSequence runId = last AgentEvent.sequence (t.eventsOf runId) + 1 := rfl

/-! ## The client -/

/-- The sessions, and what a client of one run has received. -/
structure Watched where
  sessions : System AgentDatabase AgentSession
  received : List AgentEvent

inductive WatchLabel where
  | request (e : Event AgentInput)
  | read (batch : List AgentEvent)

/-- A request takes a step, or the client reads `stream_events` above the largest sequence
it has received. -/
inductive WatchStep (runId : UUID) : Watched → WatchLabel → Watched → Prop where
  | request {c d received e} : AgentStep c e d →
      WatchStep runId ⟨c, received⟩ (.request e) ⟨d, received⟩
  | read {c received batch} :
      Answers AgentEvent.sequence (c.shared.eventsOf runId)
        (last AgentEvent.sequence received) batch →
      WatchStep runId ⟨c, received⟩ (.read batch) ⟨c, received ++ batch⟩

abbrev WatchTransition := Transition Watched WatchLabel

def requestOf (x : WatchTransition) : Option AgentTransition :=
  match x.label with
  | .request e => some ⟨x.source.sessions, e, x.target.sessions⟩
  | .read _ => none

/-- The requests of a watched run, the readings left out. -/
def requests (watch : List WatchTransition) : List AgentTransition := watch.filterMap requestOf

/-- After each reading the client has the committed events of the run, each once and in
the order of their commits. -/
def ReadsExact (runId : UUID) (watch : List WatchTransition) : Prop :=
  ∀ x ∈ watch, ∀ batch, x.label = .read batch →
    x.target.received = x.target.sessions.shared.eventsOf runId

/-! ## What is appended -/

theorem events_created {s t : AgentStore} {new : NewRun} (h : createRun s new = some t) :
    t.events = s.events ++ [(created new.row).event (s.nextSequence new.id)] := by
  unfold createRun at h
  split at h
  · cases h
    rfl
  · cases h

/-- A session's step appends nothing, the first event of a new run, or the event of the
transaction it commits. -/
theorem events_cases {s s' : AgentStore} {l l' : AgentSession} {e : AgentInput}
    (acts : Acts s l e s' l') : s'.events = s.events ∨
      (∃ new : NewRun, s.run new.id = none ∧
        s'.events = s.events ++ [(created new.row).event (s.nextSequence new.id)]) ∨
      ∃ (run : AgentRun) (draft : Draft run) (sequence : Nat) (next : Option Stage),
        l = .writing run draft sequence next ∧ e = .commit ∧
          s'.events = s.events ++ [draft.event sequence] := by
  cases acts with
  | @started new store made => exact .inr (.inl ⟨new, (createRun_some made).1, events_created made⟩)
  | @committed run draft sequence next =>
    exact .inr (.inr ⟨run, draft, sequence, next, rfl, rfl, rfl⟩)
  | _ => exact .inl rfl

theorem eventsOf_append {s t : AgentTables} {e : AgentEvent} (h : t.events = s.events ++ [e])
    (runId : UUID) :
    t.eventsOf runId = if e.runId = runId then s.eventsOf runId ++ [e] else s.eventsOf runId := by
  unfold AgentTables.eventsOf
  rw [h, List.filter_append, List.filter_singleton]
  split <;> simp_all

theorem eventsOf_grows {s s' : AgentStore} {l l' : AgentSession} {e : AgentInput}
    (acts : Acts s l e s' l') (runId : UUID) : s.eventsOf runId <+: s'.eventsOf runId := by
  have appended : ∀ x : AgentEvent, s'.events = s.events ++ [x] →
      s.eventsOf runId <+: s'.eventsOf runId := by
    intro x h
    rw [eventsOf_append h]
    split
    · exact List.prefix_append _ _
    · exact List.prefix_rfl
  rcases events_cases acts with same | ⟨new, _, first⟩ | ⟨_, _, _, _, _, _, more⟩
  · unfold AgentTables.eventsOf
    rw [same]
  · exact appended _ first
  · exact appended _ more

/-! ## One writer at a time -/

/-- What a session remembers is stored, and an open transaction of the run has the next
number. -/
def Prepared (runId : UUID) (s : AgentStore) : AgentSession → Prop
  | .idle => True
  | .loaded run _ | .ready run _ => (s.run run.id).isSome
  | .writing run _ sequence _ =>
      (s.run run.id).isSome ∧ (run.id = runId → sequence = s.nextSequence runId)

theorem isSome_run_mono {s s' : AgentStore} {l l' : AgentSession} {e : AgentInput}
    (acts : Acts s l e s' l') {id : UUID} (stored : (s.run id).isSome) :
    (s'.run id).isSome := by
  cases acts with
  | @started new store made =>
    rw [(createRun_some made).2.1]
    split
    · rfl
    · exact stored
  | @committed run draft sequence next =>
    rw [AgentStore.run_commit]
    split
    · simpa using stored
    · exact stored
  | _ => exact stored

theorem prepared_acting {runId : UUID} {s s' : AgentStore} {l l' : AgentSession} {e : AgentInput}
    (acts : Acts s l e s' l') (prepared : Prepared runId s l) : Prepared runId s' l' := by
  have mono : ∀ id, (s.run id).isSome → (s'.run id).isSome := fun _ => isSome_run_mono acts
  cases acts with
  | @started new store made =>
    have created := (createRun_some made).2.1 new.id
    rw [if_pos rfl] at created
    exact Option.isSome_iff_exists.mpr ⟨_, created⟩
  | @read request run found =>
    have owner : run.id = request.runId := (find_some found).2
    change (s.run run.id).isSome
    rw [owner, found]
    rfl
  | decided | prepared => exact ⟨prepared, fun own => own ▸ rfl⟩
  | completed | raised => exact prepared
  | @committed run draft sequence next =>
    have stored := mono run.id prepared.1
    cases next with
    | none => trivial
    | some stage =>
      change ((s.commit run draft sequence).run draft.changed.id).isSome
      rw [draft.sameRow]
      exact stored
  | _ => trivial

theorem Prepared.stored {runId id : UUID} {s : AgentStore} {l : AgentSession}
    (prepared : Prepared runId s l) (busy : writes l = some id) : (s.run id).isSome := by
  cases l with
  | writing run draft sequence next =>
    cases busy
    exact prepared.1
  | _ => cases busy

/-- A step that appends no event of the run leaves other transactions prepared. -/
theorem Prepared.of_next {runId : UUID} {s s' : AgentStore} {l : AgentSession}
    (prepared : Prepared runId s l) (mono : ∀ id, (s.run id).isSome → (s'.run id).isSome)
    (next : writes l = some runId → s'.nextSequence runId = s.nextSequence runId) :
    Prepared runId s' l := by
  cases l with
  | idle => trivial
  | loaded run request => exact mono _ prepared
  | ready run stage => exact mono _ prepared
  | writing run draft sequence stage =>
    refine ⟨mono _ prepared.1, fun own => ?_⟩
    rw [prepared.2 own, next (congrArg some own)]

/-- The rows are locked, and every open transaction of the run has the next number. -/
structure Numbering (runId : UUID) (c : System AgentDatabase AgentSession) : Prop where
  rows : RowsLocked c
  prepared : Holds (fun _ => True) (fun _ d => Prepared runId d.toAgentStore) c

theorem numbering_step {runId : UUID} {c d : System AgentDatabase AgentSession}
    {e : Event AgentInput} (numbering : Numbering runId c) (step : AgentStep c e d) :
    Numbering runId d := by
  obtain ⟨rows, inv⟩ := numbering
  refine ⟨rowsLocked_step rows step, step.holds inv (fun s l done => ⟨trivial, ?_⟩)
    fun s l done j other prepared => ?_⟩
  · exact prepared_acting (act_acts done) (inv.2 e.session)
  · have acts := act_acts done
    refine prepared.of_next (fun id => isSome_run_mono acts) fun busy => ?_
    rcases events_cases acts with same | ⟨new, fresh, first⟩ |
      ⟨run, draft, sequence, next, writing, commit, appended⟩
    · unfold AgentTables.nextSequence
      rw [same]
    · have differs : ((created new.row).event (c.shared.nextSequence new.id)).runId ≠ runId := by
        intro own
        have owner : new.id = runId := own
        have stored := prepared.stored busy
        rw [← owner, fresh] at stored
        cases stored
      rw [nextSequence_eq, nextSequence_eq, eventsOf_append first, if_neg differs]
    · have differs : (draft.event sequence).runId ≠ runId := by
        intro own
        have mine : writes (c.locals e.session) = some runId := by
          rw [writing]
          exact congrArg some own
        exact other (rows.oneWriter j e.session runId busy mine)
      rw [nextSequence_eq, nextSequence_eq, eventsOf_append appended, if_neg differs]

/-- The transaction that a session commits still has the next number. -/
theorem Numbering.next {runId : UUID} {c : System AgentDatabase AgentSession}
    (numbering : Numbering runId c) {i : Nat} {run : AgentRun} {draft : Draft run}
    {sequence : Nat} {stage : Option Stage} (writing : c.locals i = .writing run draft sequence stage)
    (own : run.id = runId) : sequence = c.shared.nextSequence runId := by
  have prepared := numbering.prepared.2 i
  rw [writing] at prepared
  exact prepared.2 own

theorem numbering_initial (runId : UUID) : Numbering runId initial :=
  ⟨rowsLocked_initial, trivial, fun _ => trivial⟩

/-! ## The log in order -/

/-- The events of the run are numbered in the order of their commits. -/
def InOrder (runId : UUID) (s : AgentStore) : Prop :=
  Numbered AgentEvent.sequence (s.eventsOf runId)

theorem InOrder.append {runId : UUID} {s t : AgentStore} {e : AgentEvent}
    (inOrder : InOrder runId s) (h : t.events = s.events ++ [e])
    (next : e.runId = runId → e.sequence = s.nextSequence runId) : InOrder runId t := by
  unfold InOrder at inOrder ⊢
  rw [eventsOf_append h]
  split
  · rename_i own
    refine numbered_append.mpr ⟨inOrder, ?_⟩
    rw [next own, nextSequence_eq, last_of_numbered inOrder]
  · exact inOrder

theorem inOrder_step {runId : UUID} {c d : System AgentDatabase AgentSession} {e : Event AgentInput}
    (inOrder : InOrder runId c.shared.toAgentStore) (step : AgentStep c e d)
    (numbering : Numbering runId c) : InOrder runId d.shared.toAgentStore := by
  obtain ⟨l, done, _⟩ := step.acts
  rcases events_cases (act_acts done) with same | ⟨new, _, first⟩ |
    ⟨run, draft, sequence, next, writing, _, appended⟩
  · unfold InOrder AgentTables.eventsOf
    rwa [same]
  · refine inOrder.append first fun own => ?_
    have owner : new.id = runId := own
    rw [← owner]
    rfl
  · exact inOrder.append appended fun own => numbering.next writing own

/-! ## Replay -/

/-- The client has a beginning of the log, and the log is in order. -/
structure Following (runId : UUID) (c : Watched) : Prop where
  numbering : Numbering runId c.sessions
  inOrder : InOrder runId c.sessions.shared.toAgentStore
  received : c.received <+: c.sessions.shared.eventsOf runId

theorem following_step {runId : UUID} {c d : Watched} {label : WatchLabel}
    (following : Following runId c) (step : WatchStep runId c label d) : Following runId d := by
  obtain ⟨numbering, inOrder, received⟩ := following
  cases step with
  | request next =>
    obtain ⟨l, done, _⟩ := next.acts
    exact ⟨numbering_step numbering next, inOrder_step inOrder next numbering,
      received.trans (eventsOf_grows (act_acts done) runId)⟩
  | read answers =>
    exact ⟨numbering, inOrder, (answers.complete inOrder received).symm ▸ List.prefix_rfl⟩

theorem following_initial (runId : UUID) : Following runId ⟨initial, []⟩ :=
  ⟨numbering_initial runId, rfl, List.nil_prefix⟩

/-- Whatever the requests on a run do, and whenever a client reads, the client receives every
committed event once and in the order of the commits. -/
theorem events_replayed {runId : UUID} {watch : List WatchTransition} {stop : Watched}
    (run : Run (WatchStep runId) ⟨initial, []⟩ watch stop) : ReadsExact runId watch := by
  have followed := (run.always (Following runId)
    (fun _ _ _ following step => following_step following step) (following_initial runId)).1
  intro x member batch reading
  have before := (followed x member).1
  have step := run.steps x member
  obtain ⟨source, label, target⟩ := x
  cases step with
  | request => cases reading
  | read answers => exact answers.complete before.inOrder before.received

/-! ## Two decisions and a client -/

/-- The step of a request as the client sees it. -/
def watching (received : List AgentEvent) (x : AgentTransition) : WatchTransition :=
  ⟨⟨x.source, received⟩, .request x.label, ⟨x.target, received⟩⟩

theorem run_watching {c d : System AgentDatabase AgentSession} {transitions : List AgentTransition}
    (runId : UUID) (received : List AgentEvent) (run : Run AgentStep c transitions d) :
    Run (WatchStep runId) ⟨c, received⟩ (transitions.map (watching received)) ⟨d, received⟩ := by
  induction run with
  | nil => exact .nil _
  | cons next _ ih => exact .cons (.request next) ih

theorem requests_append (first second : List WatchTransition) :
    requests (first ++ second) = requests first ++ requests second := List.filterMap_append

theorem requests_read (c d : Watched) (batch : List AgentEvent)
    (watch : List WatchTransition) : requests (⟨c, .read batch, d⟩ :: watch) = requests watch :=
  rfl

theorem requests_watching (received : List AgentEvent) (transitions : List AgentTransition) :
    requests (transitions.map (watching received)) = transitions := by
  unfold requests
  rw [List.filterMap_map]
  exact List.filterMap_some

/-- A client that reads after the approval has eight events, and at the end the other two. -/
theorem events_replayed_decisions : ∃ watch stop,
    Run (WatchStep 7) ⟨initial, []⟩ watch stop ∧
      requests watch = script act initial approvedAndRejected ∧
      (∃ x ∈ watch, ∃ batch, x.label = .read batch ∧
        batch.map AgentEvent.sequence = List.range' 1 8) ∧
      ∃ x ∈ watch, ∃ batch, x.label = .read batch ∧ batch.map AgentEvent.sequence = [9, 10] := by
  obtain ⟨final, run⟩ := run_script act initial approvedAndRejected
  rw [← List.take_append_drop 18 (script act initial approvedAndRejected)] at run
  obtain ⟨middle, first, rest⟩ := run.split
  have approved : (middle.shared.eventsOf 7).map AgentEvent.sequence = List.range' 1 8 := by
    rw [first.ends (by decide)]
    decide
  have rejected : (final.shared.eventsOf 7).map AgentEvent.sequence = List.range' 1 10 := by
    rw [rest.ends (by decide)]
    decide
  obtain ⟨seen, early⟩ := exists_answers AgentEvent.sequence (middle.shared.eventsOf 7)
    (last AgentEvent.sequence [])
  obtain ⟨later, late⟩ := exists_answers AgentEvent.sequence (final.shared.eventsOf 7)
    (last AgentEvent.sequence seen)
  have watched : Run (WatchStep 7) ⟨initial, []⟩
      (((script act initial approvedAndRejected).take 18).map (watching []) ++
        ⟨⟨middle, []⟩, .read seen, ⟨middle, seen⟩⟩ ::
          (((script act initial approvedAndRejected).drop 18).map (watching seen) ++
            [⟨⟨final, seen⟩, .read later, ⟨final, seen ++ later⟩⟩])) ⟨final, seen ++ later⟩ :=
    (run_watching 7 [] first).append
      (.cons (.read early) ((run_watching 7 seen rest).append (.cons (.read late) (.nil _))))
  have reads := events_replayed watched
  have had : seen = middle.shared.eventsOf 7 :=
    reads ⟨⟨middle, []⟩, .read seen, ⟨middle, seen⟩⟩ (by simp) seen rfl
  have has : seen ++ later = final.shared.eventsOf 7 :=
    reads ⟨⟨final, seen⟩, .read later, ⟨final, seen ++ later⟩⟩ (by simp) later rfl
  refine ⟨_, _, watched, ?_,
    ⟨⟨⟨middle, []⟩, .read seen, ⟨middle, seen⟩⟩, by simp, seen, rfl, had ▸ approved⟩,
    ⟨⟨⟨final, seen⟩, .read later, ⟨final, seen ++ later⟩⟩, by simp, later, rfl, ?_⟩⟩
  · rw [requests_append, requests_read, requests_append, requests_watching, requests_watching,
      requests_read, show requests [] = [] from rfl, List.append_nil, List.take_append_drop]
  · rw [← has, List.map_append, had, approved] at rejected
    exact List.append_cancel_left rejected

end CoolProof.Agents
