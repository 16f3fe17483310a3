import CoolProof.HeatPolls

/-! The worker's wait between two polls of an analysis. It lasts until `next_poll_at`, which
a suppressed poll leaves as it is and any other poll counts from its own start. -/

namespace CoolProof.Heat
open Calendar JsonDocument Uuid Models ProviderQuery Tables Runs

/-! ## The worker -/

/-- What the client returns or raises, for a poll that ends in the one way or the other. -/
def heard (seen : Except FortyGuardError Dict) : Except Raised Dict :=
  seen.mapError Raised.fortyGuard

/-- How long the worker waits before it enqueues an id again; `none` where it does not. -/
def requeueDelay (t : HeatTables) (id : UUID) (checkedAt : Instant) : Option Int :=
  match t.analysis id, t.activity id with
  | some a, some x =>
      if a.status.terminal then none
      else x.nextPollAt.map fun due => max 0 (due - checkedAt)
  | _, _ => none

/-- `poll_queued_heat_analysis` with a queue at hand: what is committed, and the wait that is
computed at `checkedAt`. -/
def pollQueuedHeatAnalysis (svc : HeatService) (id : UUID) (clock : PollClock)
    (seen : Except FortyGuardError Dict) (checkedAt : Instant) (s : HeatStore) :
    HeatStore × Option Int :=
  let t := poll svc id clock (heard seen) s
  (t, requeueDelay t.toHeatTables id checkedAt)

/-- An analysis left in progress is due later than its poll began, and the worker waits before
the next one. -/
structure NeverSpins (clock : PollClock) (id : UUID) (done : HeatStore × Option Int) : Prop where
  due : ∀ a x, done.1.analysis id = some a → a.status.terminal = false →
    done.1.activity id = some x → ∃ due, x.nextPollAt = some due ∧ clock.now < due
  waits : ∀ delay ∈ done.2, 0 < delay

/-- The analysis in progress is due later than the worker looks at it. -/
def DueAfter (t : HeatTables) (id : UUID) (checkedAt : Instant) : Prop :=
  ∀ a x, t.analysis id = some a → a.status.terminal = false → t.activity id = some x →
    ∃ due, x.nextPollAt = some due ∧ checkedAt < due

theorem wait_pos_iff (due checkedAt : Int) : 0 < max 0 (due - checkedAt) ↔ checkedAt < due := by
  omega

theorem neverSpins_iff {clock : PollClock} {id : UUID} {t : HeatStore} {checkedAt : Instant}
    (late : clock.writtenAt ≤ checkedAt) :
    NeverSpins clock id (t, requeueDelay t.toHeatTables id checkedAt) ↔
      DueAfter t.toHeatTables id checkedAt := by
  have began : clock.now ≤ checkedAt := clock.now_le_writtenAt.trans late
  constructor
  · rintro ⟨due, waits⟩ a x stored open_ activity
    obtain ⟨at_, scheduled, -⟩ := due a x stored open_ activity
    have delay : requeueDelay t.toHeatTables id checkedAt = some (max 0 (at_ - checkedAt)) := by
      simp [requeueDelay, stored, activity, open_, scheduled]
    exact ⟨at_, scheduled, (wait_pos_iff _ _).mp (waits _ delay)⟩
  · intro due
    refine ⟨fun a x stored open_ activity => ?_, fun delay computed => ?_⟩
    · obtain ⟨at_, scheduled, later⟩ := due a x stored open_ activity
      exact ⟨at_, scheduled, began.trans_lt later⟩
    · change requeueDelay t.toHeatTables id checkedAt = some delay at computed
      unfold requeueDelay at computed
      split at computed
      · rename_i a x stored activity
        split at computed
        · cases computed
        · rename_i open_
          obtain ⟨at_, scheduled, later⟩ := due a x stored (by simpa using open_) activity
          rw [scheduled] at computed
          rw [← Option.some.inj computed]
          exact (wait_pos_iff _ _).mpr later
      · cases computed

/-! ## What a poll leaves to wait for -/

/-- When the next poll is due after a poll that ended so, counted from the row before it. -/
def PollEnd.nextDelay (svc : HeatService) (old : FortyGuardActivity) : PollEnd → Option Int
  | .answered status =>
      if status.terminal then none else some (seconds (min 60 (2 ^ min (old.attempts + 1) 5)))
  | .error exc =>
      if decide ((old.attempts : Int) + 1 < svc.maxAttempts) && exc.retryable then
        some (seconds (min 60 (2 ^ (old.attempts + 1))))
      else none

theorem dueAfter_polled {svc : HeatService} {s t : HeatStore} {id : UUID} {clock : PollClock}
    {e : PollEnd} (polled : Polled svc s t id clock e) (checkedAt : Instant) :
    DueAfter t.toHeatTables id checkedAt ↔ ∀ x, s.activity id = some x →
      ∀ delay ∈ e.nextDelay svc x, checkedAt < clock.now + delay := by
  obtain ⟨-, a, b, -, left, leaves⟩ := polled.analysis
  rcases polled.activity.2 with ⟨before, after⟩ | ⟨old, x, before, after, books⟩
  · constructor
    · intro _ x activity
      cases before.symm.trans activity
    · intro _ c x _ _ activity
      cases after.symm.trans activity
  · have single : DueAfter t.toHeatTables id checkedAt ↔
        (b.status.terminal = false → ∃ due, x.nextPollAt = some due ∧ checkedAt < due) := by
      constructor
      · exact fun due open_ => due b x left open_ after
      · rintro due c y stored open_ activity
        cases left.symm.trans stored
        cases after.symm.trans activity
        exact due open_
    rw [single, before]
    simp only [Option.some.injEq, forall_eq']
    cases e with
    | answered status =>
      obtain ⟨raw, rfl⟩ := books
      rw [leaves.1]
      dsimp only [PollEnd.nextDelay, answeredActivity]
      cases status.terminal <;> simp
    | error exc =>
      obtain ⟨status, -⟩ := leaves
      dsimp only [PollEnd.Books, PollEnd.nextDelay] at books ⊢
      rw [before] at status
      by_cases again : (decide ((old.attempts : Int) + 1 < svc.maxAttempts) && exc.retryable) = true
      · rw [if_pos again] at books ⊢
        have running : b.status = .running := by simpa [retries, Option.filter, again] using status
        rw [books, running]
        simp [HeatAnalysisStatus.terminal, retriedActivity]
      · rw [if_neg again]
        have failed : b.status = .failed := by
          rw [status, retries, Option.filter, if_neg again]
          rfl
        rw [failed]
        simp [HeatAnalysisStatus.terminal]

/-- The poll leaves the worker something to wait for: a suppressed poll of an analysis in
progress meets an activity that is due after the worker's look at it, and any other poll that
leaves the analysis in progress is over before its delay has passed. -/
def LeavesTime (svc : HeatService) (s : HeatStore) (id : UUID) (clock : PollClock)
    (seen : Except FortyGuardError Dict) (checkedAt : Instant) : Prop :=
  match pollEnd s (.poll id clock (heard seen)) with
  | none => DueAfter s.toHeatTables id checkedAt
  | some (_, e) => ∀ x, s.activity id = some x →
      ∀ delay ∈ e.nextDelay svc x, checkedAt < clock.now + delay

/-- The worker never enqueues an id at once exactly where the poll leaves it time to wait. -/
theorem poll_never_spins_iff (svc : HeatService) (s : HeatStore) (id : UUID) (clock : PollClock)
    (seen : Except FortyGuardError Dict) {checkedAt : Instant}
    (late : clock.writtenAt ≤ checkedAt) :
    NeverSpins clock id (pollQueuedHeatAnalysis svc id clock seen checkedAt s) ↔
      LeavesTime svc s id clock seen checkedAt := by
  unfold LeavesTime
  refine (neverSpins_iff late).trans ?_
  cases ended : pollEnd s (.poll id clock (heard seen)) with
  | none => rw [poll_silent svc ended]
  | some how =>
    obtain ⟨k, e⟩ := how
    obtain ⟨rfl, polled⟩ := poll_ended svc ended
    exact dueAfter_polled polled checkedAt

/-- The store after three failed polls, which open the circuit until second 33. -/
def outageStore : HeatStore :=
  (outageRun.take 4).foldl (fun s op => apply sampleService op s) HeatStore.empty

theorem poll_never_spins_iff_outage :
    NeverSpins (tickClock 4) 7 (pollQueuedHeatAnalysis sampleService 7 (tickClock 4)
      (.error unavailable) (seconds 4) outageStore) ↔
    LeavesTime sampleService outageStore 7 (tickClock 4) (.error unavailable) (seconds 4) :=
  poll_never_spins_iff sampleService outageStore 7 (tickClock 4) (.error unavailable) le_rfl

/-- Due at second 11, the analysis is polled in vain, and enqueued at once, until second 33. -/
theorem outage_spins : ¬∀ (svc : HeatService) (s : HeatStore) (id : UUID) (clock : PollClock)
    (seen : Except FortyGuardError Dict) (checkedAt : Instant), clock.writtenAt ≤ checkedAt →
      NeverSpins clock id (pollQueuedHeatAnalysis svc id clock seen checkedAt s) := by
  intro patient
  have waits := (patient sampleService outageStore 7 (tickClock 11) (.error unavailable)
    (seconds 11) le_rfl).waits 0 (by decide)
  exact absurd waits (by decide)

end CoolProof.Heat
