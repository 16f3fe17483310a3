import CoolProof.FortyGuardClient
import CoolProof.HeatEnds
import CoolProof.HeatRetention

/-! The requests behind submissions and polls. Every call builds a client of its own, so the
breaker in the client forgets, and only the row in the database could hold a request back. -/

namespace CoolProof.ProviderTraffic
open Calendar JsonDocument Uuid Models ProviderQuery Tables Runs Heat FortyGuard

/-! ## Calls -/

/-- The settings of the client, with the library that it calls. -/
structure Adapter where
  baseUrl : Option String
  apiKey : Option String
  http : Http

/-- The client that the API and the worker build for one call. -/
def freshClient (svc : HeatService) (adapter : Adapter) : FortyGuardClient where
  baseUrl := adapter.baseUrl
  apiKey := adapter.apiKey
  maxAttempts := svc.maxAttempts

/-- What surrounds the client's part of a call that began at some time: the clock of the
translation, the event loop's time and the exchanges, one after the other. -/
structure Dealings (began : Instant) where
  translatedAt : Instant
  loopTime : Instant
  exchanges : Nat → Exchange
  after : began ≤ (exchanges 0).sentAt
  ordered : ∀ k, (exchanges k).sentAt ≤ (exchanges (k + 1)).sentAt

theorem Dealings.ordered_from_zero {began : Instant} (dealings : Dealings began) (k : Nat) :
    (dealings.exchanges 0).sentAt ≤ (dealings.exchanges k).sentAt := by
  induction k with
  | zero => exact le_rfl
  | succ k ih => exact ih.trans (dealings.ordered k)

/-- A call of `submit` or `poll`; the client answers where `env` would. -/
inductive ServiceCall where
  | submit (req : SubmitRequest) (env : SubmitEnv) (dealings : Dealings env.now)
  | poll (id : UUID) (clock : PollClock) (dealings : Dealings clock.now)

/-- An exception of the client as the handlers of the service tell it apart: every other than
FortyGuardError passes them. -/
def escaped : ClientError → Raised
  | .fortyGuard exc => .fortyGuard exc
  | .valueError text => .valueError text
  | .unbuilt .valueError => .valueError "ValueError"
  | .unbuilt .unicodeEncodeError => .valueError "UnicodeEncodeError"
  | .unbuilt .invalidUrl => .valueError "InvalidURL"
  | .undecodable => .valueError "JSONDecodeError"
  | .overflow => .valueError "OverflowError"
  | .unreachable => .valueError "AssertionError"

def creates (svc : HeatService) (adapter : Adapter) (req : SubmitRequest) {began : Instant}
    (dealings : Dealings began) : Requested String :=
  (freshClient svc adapter).createAnalysis dealings.translatedAt dealings.loopTime adapter.http
    dealings.exchanges req.payload

def asks (svc : HeatService) (adapter : Adapter) (s : HeatStore) (id : UUID) {began : Instant}
    (dealings : Dealings began) : Requested Dict :=
  (freshClient svc adapter).getActivity dealings.loopTime adapter.http dealings.exchanges
    (((s.analysis id).bind HeatAnalysis.providerActivityId).getD "")

def answered (svc : HeatService) (adapter : Adapter) (req : SubmitRequest) (env : SubmitEnv)
    (dealings : Dealings env.now) : SubmitEnv :=
  { env with answer := (creates svc adapter req dealings).outcome.mapError escaped }

/-- The operation on the store, with what the client answers. -/
def ServiceCall.op (svc : HeatService) (adapter : Adapter) (s : HeatStore) : ServiceCall → HeatOp
  | .submit req env dealings => .submit req (answered svc adapter req env dealings)
  | .poll id clock dealings =>
      .poll id clock ((asks svc adapter s id dealings).outcome.mapError escaped)

def CallStep (svc : HeatService) (adapter : Adapter) (s : HeatStore) (call : ServiceCall)
    (t : HeatStore) : Prop := t = apply svc (call.op svc adapter s) s

/-- The requests that are sent during a call. -/
def requests (svc : HeatService) (adapter : Adapter) (s : HeatStore) :
    ServiceCall → List ProviderRequest
  | .submit req env dealings =>
      if (submit svc req (answered svc adapter req env dealings) s).called then
        (creates svc adapter req dealings).sent
      else []
  | .poll id clock dealings =>
      match s.analysis id with
      | some a =>
          if suppressed a s.circuit clock.now then [] else (asks svc adapter s id dealings).sent
      | none => []

/-- No request of a call is sent while the row, which the call changes only once it is
answered, is open. -/
def Protected (svc : HeatService) (adapter : Adapter) (x : Transition HeatStore ServiceCall) :
    Prop :=
  ∀ r ∈ requests svc adapter x.source x.label, circuitOpen x.source.circuit r.sentAt = false

/-- A submission that comes to send a request does so while the row is open. -/
def MeetsOpenCircuit (svc : HeatService) (adapter : Adapter) (s : HeatStore) : ServiceCall → Prop
  | .submit req env dealings =>
      (opened svc s req env).isSome ∧
        Sendable adapter.http dealings.translatedAt req.payload ∧
        (freshClient svc adapter).ready dealings.loopTime = .ok () ∧ 0 < svc.maxAttempts ∧
        circuitOpen s.circuit (dealings.exchanges 0).sentAt = true
  | .poll .. => False

/-! ## The row -/

/-- A circuit that is closed stays closed while nothing is written. -/
theorem circuitOpen_of_le {circuit : Option ProviderCircuit} {now later : Instant}
    (le : now ≤ later) (closed : circuitOpen circuit now = false) :
    circuitOpen circuit later = false := by
  cases circuit with
  | none => rfl
  | some c =>
    cases until_ : c.openUntil with
    | none => simp [circuitOpen, until_]
    | some at_ =>
      simp only [circuitOpen, until_, Bool.and_eq_false_iff, decide_eq_false_iff_not, not_lt]
        at closed ⊢
      exact closed.imp id fun passed => passed.trans le

/-- A submission calls the provider where it has a row to work on. -/
theorem submit_called_iff {svc : HeatService} {req : SubmitRequest} {env : SubmitEnv}
    {s : HeatStore} : (submit svc req env s).called = true ↔ (opened svc s req env).isSome := by
  cases works : opened svc s req env with
  | some a =>
    obtain ⟨flushed, existing, -, -, same⟩ := submit_of_opened works
    rw [same, finishSubmit_called]
    simp
  | none =>
    simp only [Option.isSome_none, Bool.false_eq_true, iff_false, Bool.not_eq_true]
    unfold opened at works
    split at works
    · rename_i existing stored
      split at works
      · rename_i fresh
        simp [submit, stored, fresh]
      · cases works
    · rename_i absent
      unfold submit
      rw [absent]
      split at works
      · rename_i taken
        -- the flush of a row under a stored id is refused
        dsimp only
        split
        · rename_i flushed committed
          have unused : s.analysis env.newId = none := HeatTables.analysis_of_flush committed
          rw [unused] at taken
          cases taken
        · rfl
      · cases works

/-! ## Protection -/

theorem protected_iff (svc : HeatService) (adapter : Adapter) (s t : HeatStore)
    (call : ServiceCall) :
    Protected svc adapter ⟨s, call, t⟩ ↔ ¬MeetsOpenCircuit svc adapter s call := by
  cases call with
  | poll id clock dealings =>
    refine ⟨fun _ meets => meets, fun _ r sent => ?_⟩
    dsimp only [requests] at sent
    split at sent
    · rename_i a stored
      split at sent
      · cases sent
      · rename_i live
        have closed : circuitOpen s.circuit clock.now = false := by
          simp only [suppressed, Bool.or_eq_true, not_or, Bool.not_eq_true] at live
          exact live.2
        obtain ⟨-, -, -, k, rfl⟩ := (request_sent ..).1 r sent
        exact circuitOpen_of_le (dealings.after.trans (dealings.ordered_from_zero k)) closed
    · cases sent
  | submit req env dealings =>
    obtain ⟨only, first⟩ := createAnalysis_sent (freshClient svc adapter) dealings.translatedAt
      dealings.loopTime adapter.http dealings.exchanges req.payload
    unfold Protected
    dsimp only [requests]
    constructor
    · rintro closed ⟨works, translated, ready, enters, open_⟩
      have called : (submit svc req (answered svc adapter req env dealings) s).called = true :=
        submit_called_iff.mpr works
      rw [if_pos called] at closed
      obtain ⟨r, sent, at_⟩ := first translated ready enters
      rw [← at_, closed r sent] at open_
      cases open_
    · intro meets r sent
      split at sent
      · rename_i called
        have works : (opened svc s req (answered svc adapter req env dealings)).isSome :=
          submit_called_iff.mp called
        obtain ⟨translated, ready, enters, k, at_⟩ := only r sent
        have closed : circuitOpen s.circuit (dealings.exchanges 0).sentAt = false := by
          by_contra open_
          exact meets ⟨works, translated, ready, enters, Bool.eq_true_of_not_eq_false open_⟩
        rw [at_]
        exact circuitOpen_of_le (dealings.ordered_from_zero k) closed
      · cases sent

/-- The open circuit protects the provider exactly in the histories in which no submission
that comes to send a request meets it. -/
theorem circuit_protects_iff (svc : HeatService) (adapter : Adapter) {start final : HeatStore}
    {transitions : List (Transition HeatStore ServiceCall)}
    (run : Run (CallStep svc adapter) start transitions final) :
    (∀ x ∈ transitions, Protected svc adapter x) ↔
      ∀ x ∈ transitions, ¬MeetsOpenCircuit svc adapter x.source x.label :=
  run.forall_steps_iff (fun _ => True) (fun _ _ _ _ _ => trivial)
    (fun s call t _ _ => protected_iff svc adapter s t call) trivial

/-! ## An outage -/

/-- The bytes of an object with the one member `id`, which is `a`. -/
def identified : List UInt8 := [123, 34, 105, 100, 34, 58, 34, 97, 34, 125]

def sampleAdapter : Adapter where
  baseUrl := some "https://api.fortyguard.com"
  apiKey := some "key"
  http :=
    { refuses := fun _ => none
      decode := fun body => if body = identified then some (.obj [("id", .str "a")]) else none }

/-- Every attempt of a call ends in the same reply, and takes no time. -/
def repeated (began : Instant) (reply : Reply) : Dealings began :=
  ⟨began, began, fun _ => ⟨began, began, reply⟩, Int.le_refl began, fun _ => Int.le_refl began⟩

/-- A submission that takes no time; the client's answer takes the place of the empty one. -/
def promptEnv (newId : UUID) (now : Instant) : SubmitEnv :=
  ⟨newId, now, now, now, now, .ok "", Int.le_refl now, Int.le_refl now⟩

def sampleCreate (at_ : Nat) (newId : UUID) (parameters : Dict) (reply : Reply) : ServiceCall :=
  .submit ⟨1, 2, 3, requestPayload [] parameters⟩ (promptEnv newId (seconds at_))
    (repeated (seconds at_) reply)

def sampleAsk (at_ : Nat) (reply : Reply) : ServiceCall :=
  .poll 7 (tickClock at_) (repeated (seconds at_) reply)

/-- After three failed polls another analysis is submitted. -/
def outageCalls : List ServiceCall :=
  [sampleCreate 0 7 [] (.response 200 identified), sampleAsk 1 .httpError, sampleAsk 2 .httpError,
   sampleAsk 3 .httpError, sampleCreate 5 8 [("threshold", .int 30)] .httpError]

def sampleNext (call : ServiceCall) (s : HeatStore) : HeatStore :=
  apply sampleService (call.op sampleService sampleAdapter s) s

theorem circuit_protects_iff_outage :
    (∀ x ∈ trace sampleNext HeatStore.empty outageCalls, Protected sampleService sampleAdapter x) ↔
      ∀ x ∈ trace sampleNext HeatStore.empty outageCalls,
        ¬MeetsOpenCircuit sampleService sampleAdapter x.source x.label :=
  circuit_protects_iff sampleService sampleAdapter
    (run_trace sampleNext HeatStore.empty outageCalls)

/-- Its request is sent at second 5, and the circuit is open until second 33. -/
theorem submission_ignores_circuit : ¬∀ (svc : HeatService) (adapter : Adapter)
    (transitions : List (Transition HeatStore ServiceCall)) (final : HeatStore),
    Run (CallStep svc adapter) HeatStore.empty transitions final →
      ∀ x ∈ transitions, Protected svc adapter x := by
  intro protects
  have each := protects sampleService sampleAdapter _ _
    (run_trace sampleNext HeatStore.empty outageCalls)
  simp only [outageCalls, trace, List.forall_mem_cons] at each
  obtain ⟨-, -, -, -, last, -⟩ := each
  exact (protected_iff ..).mp last ⟨by decide, ⟨_, rfl, rfl⟩, rfl, by decide, by decide⟩

end CoolProof.ProviderTraffic
