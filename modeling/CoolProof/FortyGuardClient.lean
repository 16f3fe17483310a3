import CoolProof.ProviderQuery

/-! The FortyGuard adapter: its own breaker, the retry loop and the two calls. What httpx
refuses to build a request from, and what `response.json()` makes of a body, are parameters;
every other exception that can leave the loop is kept apart from FortyGuardError, which is
all that the service catches. -/

namespace CoolProof.FortyGuard
open JsonDocument Calendar ProviderQuery

/-! ## Replies -/

inductive Reply where
  /-- `httpx.HTTPError` -/
  | httpError
  | response (status : Int) (body : List UInt8)
deriving DecidableEq

/-- One request of the loop: when it is sent, the event loop's time when it has failed, and
what comes back. -/
structure Exchange where
  sentAt : Instant
  loopTime : Instant
  reply : Reply

/-- What `client.request` is called with. -/
structure Outgoing where
  method : String
  path : String
  json : Option Dict

/-- What httpx raises while it builds a request and that is no `httpx.HTTPError`: for a number
that is not finite, for a text that has no UTF-8 form, and for an address that is no URL. -/
inductive BuildError where
  | valueError
  | unicodeEncodeError
  | invalidUrl
deriving DecidableEq

/-- The library: the requests it cannot build, and `response.json()`, `none` where it raises:
ValueError, or RecursionError on arrays nested too deep. -/
structure Http where
  refuses : Outgoing → Option BuildError
  decode : List UInt8 → Option Json

/-- How the try block of an attempt ends; an `httpx.HTTPError` counts as the FortyGuardError
it is turned into. -/
inductive Tried where
  | unbuilt (exc : BuildError)
  | returned (payload : Dict)
  | raised (exc : FortyGuardError)
  | undecodable
deriving DecidableEq

def answeredWith (http : Http) : Reply → Tried
  | .httpError => .raised ⟨"fortyguard_unavailable", "FortyGuard is unavailable", true⟩
  | .response status body =>
      if status = 429 ∨ 500 ≤ status then
        .raised ⟨if status = 429 then "fortyguard_rate_limited" else "fortyguard_unavailable",
          "FortyGuard temporarily failed", true⟩
      else if 400 ≤ status then
        .raised ⟨"fortyguard_request_rejected", "FortyGuard rejected the request", false⟩
      else
        match http.decode body with
        | none => .undecodable
        | some (.obj payload) => .returned payload
        | some _ =>
            .raised ⟨"fortyguard_invalid_response", "FortyGuard returned an invalid response",
              false⟩

/-- The try block: the request is built before it is sent. -/
def tried (http : Http) (outgoing : Outgoing) (reply : Reply) : Tried :=
  match http.refuses outgoing with
  | some exc => .unbuilt exc
  | none => answeredWith http reply

/-! ## The client -/

structure FortyGuardClient where
  baseUrl : Option String
  apiKey : Option String
  maxAttempts : Int
  failures : Nat := 0
  openUntil : Instant := 0

/-- `_ready` -/
def FortyGuardClient.ready (client : FortyGuardClient) (loopTime : Instant) :
    Except FortyGuardError Unit :=
  if client.baseUrl.getD "" = "" ∨ client.apiKey.getD "" = "" then
    .error ⟨"fortyguard_not_configured", "FortyGuard is not configured", false⟩
  else if loopTime < client.openUntil then
    .error ⟨"fortyguard_circuit_open", "FortyGuard is temporarily unavailable", true⟩
  else .ok ()

def FortyGuardClient.failed (client : FortyGuardClient) (loopTime : Instant) :
    FortyGuardClient :=
  { client with
    failures := client.failures + 1
    openUntil := if 3 ≤ client.failures + 1 then loopTime + seconds 30 else client.openUntil }

/-- What leaves a call of the adapter: FortyGuardError, the ValueError of `int`, what httpx
raises while it builds the request, what `response.json()` raises, the OverflowError of
`0.5 * 2**attempt`, or the final AssertionError. -/
inductive ClientError where
  | fortyGuard (exc : FortyGuardError)
  | valueError (text : String)
  | unbuilt (exc : BuildError)
  | undecodable
  | overflow
  | unreachable
deriving DecidableEq

/-- A request as it is sent. -/
structure ProviderRequest extends Outgoing where
  sentAt : Instant

/-- The client after a call, how the call ended and what it sent, in order. -/
structure Requested (α : Type) where
  client : FortyGuardClient
  outcome : Except ClientError α
  sent : List ProviderRequest

/-- The loop of `_request`, from one attempt on with so many left in its range. -/
def requestLoop (http : Http) (exchanges : Nat → Exchange) (outgoing : Outgoing)
    (client : FortyGuardClient) : (remaining attempt : Nat) → Requested Dict
  | 0, _ => ⟨client, .error .unreachable, []⟩
  | remaining + 1, attempt =>
      let x := exchanges attempt
      match tried http outgoing x.reply with
      | .unbuilt exc => ⟨client, .error (.unbuilt exc), []⟩
      | .returned payload => ⟨{ client with failures := 0 }, .ok payload, [⟨outgoing, x.sentAt⟩]⟩
      | .undecodable => ⟨client, .error .undecodable, [⟨outgoing, x.sentAt⟩]⟩
      | .raised exc =>
          if exc.retryable = false ∨ client.maxAttempts ≤ (attempt : Int) + 1 then
            ⟨client.failed x.loopTime, .error (.fortyGuard exc), [⟨outgoing, x.sentAt⟩]⟩
          -- a power of two from 2^1024 on is too large for the product with 0.5
          else if 1024 ≤ attempt then ⟨client, .error .overflow, [⟨outgoing, x.sentAt⟩]⟩
          else
            let rest := requestLoop http exchanges outgoing client remaining (attempt + 1)
            { rest with sent := ⟨outgoing, x.sentAt⟩ :: rest.sent }

/-- `_request` -/
def FortyGuardClient.request (client : FortyGuardClient) (loopTime : Instant) (http : Http)
    (exchanges : Nat → Exchange) (outgoing : Outgoing) : Requested Dict :=
  match client.ready loopTime with
  | .error exc => ⟨client, .error (.fortyGuard exc), []⟩
  | .ok _ => requestLoop http exchanges outgoing client client.maxAttempts.toNat 0

def statusRequest (activityId : String) : Outgoing := ⟨"GET", "/v1/status/" ++ activityId, none⟩

def heatmapRequest (query : Dict) : Outgoing := ⟨"POST", "/v1/heatmap", some query⟩

/-- `get_activity` -/
def FortyGuardClient.getActivity (client : FortyGuardClient) (loopTime : Instant)
    (http : Http) (exchanges : Nat → Exchange) (activityId : String) : Requested Dict :=
  client.request loopTime http exchanges (statusRequest activityId)

/-- The activity identifier of a response. -/
def activityIdOf (response : Dict) : Except FortyGuardError String :=
  let data := dictOr [] (response.get "data")
  match pyOr (pyOr (data.get "activity_id") (response.get "activity_id")) (response.get "id") with
  | some (.str activityId) =>
      if activityId = "" then
        .error ⟨"fortyguard_invalid_response", "FortyGuard response omitted activity identifier",
          false⟩
      else .ok activityId
  | _ => .error ⟨"fortyguard_invalid_response", "FortyGuard response omitted activity identifier",
      false⟩

/-- `create_analysis`: the payload is translated before the client is asked whether it is
ready. -/
def FortyGuardClient.createAnalysis (client : FortyGuardClient) (now loopTime : Instant)
    (http : Http) (exchanges : Nat → Exchange) (payload : Dict) : Requested String :=
  match heatmapPayload now payload with
  | .error (.fortyGuard exc) => ⟨client, .error (.fortyGuard exc), []⟩
  | .error (.valueError text) => ⟨client, .error (.valueError text), []⟩
  | .ok query =>
      let done := client.request loopTime http exchanges (heatmapRequest query)
      match done.outcome with
      | .error e => ⟨done.client, .error e, done.sent⟩
      | .ok response =>
          ⟨done.client, (activityIdOf response).mapError ClientError.fortyGuard, done.sent⟩

/-! ## Requests -/

variable {http : Http} {exchanges : Nat → Exchange} {outgoing : Outgoing}
  {client : FortyGuardClient}

theorem tried_of_builds (builds : http.refuses outgoing = none) (reply : Reply) :
    tried http outgoing reply = answeredWith http reply := by
  rw [tried, builds]

theorem tried_of_refused {exc : BuildError} (refused : http.refuses outgoing = some exc)
    (reply : Reply) : tried http outgoing reply = .unbuilt exc := by
  rw [tried, refused]

theorem answeredWith_ne_unbuilt (http : Http) (reply : Reply) (exc : BuildError) :
    answeredWith http reply ≠ .unbuilt exc := by
  cases reply with
  | httpError => exact nofun
  | response status body =>
    unfold answeredWith
    dsimp only
    repeat' split
    all_goals exact nofun

theorem requestLoop_of_refused {exc : BuildError} (refused : http.refuses outgoing = some exc)
    (remaining attempt : Nat) :
    requestLoop http exchanges outgoing client (remaining + 1) attempt =
      ⟨client, .error (.unbuilt exc), []⟩ := by
  unfold requestLoop
  dsimp only
  rw [tried_of_refused refused]

theorem requestLoop_sent_length (remaining attempt : Nat) :
    (requestLoop http exchanges outgoing client remaining attempt).sent.length ≤ remaining := by
  induction remaining generalizing attempt with
  | zero => exact le_rfl
  | succ remaining ih =>
    unfold requestLoop
    dsimp only
    split
    · exact Nat.zero_le _
    · exact Nat.succ_le_succ (Nat.zero_le _)
    · exact Nat.succ_le_succ (Nat.zero_le _)
    · split
      · exact Nat.succ_le_succ (Nat.zero_le _)
      · split
        · exact Nat.succ_le_succ (Nat.zero_le _)
        · exact Nat.succ_le_succ (ih (attempt + 1))

theorem request_sent_length (loopTime : Instant) :
    ((client.request loopTime http exchanges outgoing).sent.length : Int) ≤
      max 1 client.maxAttempts := by
  unfold FortyGuardClient.request
  split
  · exact (Int.zero_le_ofNat 1).trans (le_max_left _ _)
  · have bound := @requestLoop_sent_length http exchanges outgoing client
      client.maxAttempts.toNat 0
    omega

/-- What is sent is the request that was built, at the times of its attempts. -/
theorem requestLoop_sent (remaining attempt : Nat) :
    (∀ r ∈ (requestLoop http exchanges outgoing client remaining attempt).sent,
      http.refuses outgoing = none ∧ ∃ k, attempt ≤ k ∧ r = ⟨outgoing, (exchanges k).sentAt⟩) ∧
    (0 < remaining → http.refuses outgoing = none → ⟨outgoing, (exchanges attempt).sentAt⟩ ∈
      (requestLoop http exchanges outgoing client remaining attempt).sent) := by
  induction remaining generalizing attempt with
  | zero =>
    constructor
    · rintro r ⟨⟩
    · rintro ⟨⟩
  | succ remaining ih =>
    cases builds : http.refuses outgoing with
    | some exc =>
      rw [requestLoop_of_refused builds]
      constructor
      · rintro r ⟨⟩
      · rintro - ⟨⟩
    | none =>
      have single : ∀ r ∈ [(⟨outgoing, (exchanges attempt).sentAt⟩ : ProviderRequest)],
          (none : Option BuildError) = none ∧
            ∃ k, attempt ≤ k ∧ r = ⟨outgoing, (exchanges k).sentAt⟩ :=
        fun r member => ⟨rfl, attempt, le_rfl, List.mem_singleton.mp member⟩
      unfold requestLoop
      dsimp only
      rw [tried_of_builds builds]
      split
      · rename_i exc unbuilt
        exact absurd unbuilt (answeredWith_ne_unbuilt _ _ _)
      · exact ⟨single, fun _ _ => List.mem_cons_self⟩
      · exact ⟨single, fun _ _ => List.mem_cons_self⟩
      · split
        · exact ⟨single, fun _ _ => List.mem_cons_self⟩
        · split
          · exact ⟨single, fun _ _ => List.mem_cons_self⟩
          · refine ⟨fun r member => ⟨rfl, ?_⟩, fun _ _ => List.mem_cons_self⟩
            rcases List.mem_cons.mp member with rfl | later
            · exact ⟨attempt, le_rfl, rfl⟩
            · obtain ⟨-, k, least, same⟩ := (ih (attempt + 1)).1 r later
              exact ⟨k, by omega, same⟩

theorem request_sent (client : FortyGuardClient) (loopTime : Instant) (http : Http)
    (exchanges : Nat → Exchange) (outgoing : Outgoing) :
    (∀ r ∈ (client.request loopTime http exchanges outgoing).sent,
      client.ready loopTime = .ok () ∧ 0 < client.maxAttempts ∧ http.refuses outgoing = none ∧
        ∃ k, r = ⟨outgoing, (exchanges k).sentAt⟩) ∧
    (client.ready loopTime = .ok () → 0 < client.maxAttempts → http.refuses outgoing = none →
      ⟨outgoing, (exchanges 0).sentAt⟩ ∈
        (client.request loopTime http exchanges outgoing).sent) := by
  unfold FortyGuardClient.request
  split
  · rename_i exc refused
    refine ⟨fun r member => (by cases member), fun ready => ?_⟩
    cases refused.symm.trans ready
  · rename_i ready
    obtain ⟨only, first⟩ := @requestLoop_sent http exchanges outgoing client
      client.maxAttempts.toNat 0
    refine ⟨fun r member => ?_, fun _ enters => first (by omega)⟩
    obtain ⟨builds, k, -, same⟩ := only r member
    have length := @requestLoop_sent_length http exchanges outgoing client
      client.maxAttempts.toNat 0
    have some_ := List.length_pos_of_mem member
    exact ⟨ready, by omega, builds, k, same⟩

theorem createAnalysis_sent_of_query {now : Instant} {payload query : Dict} (loopTime : Instant)
    (translated : heatmapPayload now payload = .ok query) :
    (client.createAnalysis now loopTime http exchanges payload).sent =
      (client.request loopTime http exchanges (heatmapRequest query)).sent := by
  unfold FortyGuardClient.createAnalysis
  rw [translated]
  dsimp only
  split <;> rfl

theorem createAnalysis_sent_of_raised {now : Instant} {payload : Dict} {raised : Raised}
    (loopTime : Instant) (refused : heatmapPayload now payload = .error raised) :
    (client.createAnalysis now loopTime http exchanges payload).sent = [] := by
  unfold FortyGuardClient.createAnalysis
  rw [refused]
  cases raised <;> rfl

/-- The payload translates into a query that httpx can build a request from. -/
def Sendable (http : Http) (now : Instant) (payload : Dict) : Prop :=
  ∃ query, heatmapPayload now payload = .ok query ∧ http.refuses (heatmapRequest query) = none

/-- A call of `create_analysis` sends something where its payload can be sent, the client is
ready and there is an attempt to make. -/
theorem createAnalysis_sent (client : FortyGuardClient) (now loopTime : Instant)
    (http : Http) (exchanges : Nat → Exchange) (payload : Dict) :
    (∀ r ∈ (client.createAnalysis now loopTime http exchanges payload).sent,
      Sendable http now payload ∧ client.ready loopTime = .ok () ∧
        0 < client.maxAttempts ∧ ∃ k, r.sentAt = (exchanges k).sentAt) ∧
    (Sendable http now payload → client.ready loopTime = .ok () →
      0 < client.maxAttempts →
        ∃ r ∈ (client.createAnalysis now loopTime http exchanges payload).sent,
          r.sentAt = (exchanges 0).sentAt) := by
  unfold Sendable
  cases translated : heatmapPayload now payload with
  | error raised =>
    rw [createAnalysis_sent_of_raised loopTime translated]
    constructor
    · rintro r ⟨⟩
    · rintro ⟨query, ⟨⟩, -⟩
  | ok query =>
    obtain ⟨only, first⟩ := request_sent client loopTime http exchanges (heatmapRequest query)
    rw [createAnalysis_sent_of_query loopTime translated]
    refine ⟨fun r member => ?_, ?_⟩
    · obtain ⟨ready, enters, builds, k, rfl⟩ := only r member
      exact ⟨⟨query, rfl, builds⟩, ready, enters, k, rfl⟩
    · rintro ⟨_, same, builds⟩ ready enters
      cases same
      exact ⟨_, first ready enters builds, rfl⟩

/-- The attempt fails with an error that is tried again. -/
def Retried (http : Http) (x : Exchange) : Prop :=
  ∃ exc, answeredWith http x.reply = .raised exc ∧ exc.retryable = true

/-- The attempt does not end the loop with another exception: what has to be decoded can be,
and only the first 1024 delays are computed. -/
def Attempted (client : FortyGuardClient) (http : Http) (exchanges : Nat → Exchange)
    (n : Nat) : Prop :=
  answeredWith http (exchanges n).reply ≠ .undecodable ∧
    (Retried http (exchanges n) → (n : Int) + 1 < client.maxAttempts → n < 1024)

/-- Every attempt that is made from this one on ends so. -/
def SettlesFrom (client : FortyGuardClient) (http : Http) (exchanges : Nat → Exchange)
    (attempt : Nat) : Prop :=
  ∀ n : Nat, attempt ≤ n → (n : Int) < client.maxAttempts →
    (∀ k, attempt ≤ k → k < n → Retried http (exchanges k)) →
    Attempted client http exchanges n

theorem settlesFrom_iff {attempt : Nat} (within : (attempt : Int) < client.maxAttempts) :
    SettlesFrom client http exchanges attempt ↔ Attempted client http exchanges attempt ∧
      (Retried http (exchanges attempt) →
        SettlesFrom client http exchanges (attempt + 1)) := by
  constructor
  · intro settles
    refine ⟨settles attempt le_rfl within fun k least less => by omega, fun first => ?_⟩
    intro n least inRange retried
    refine settles n (by omega) inRange fun k from_ less => ?_
    rcases Nat.eq_or_lt_of_le from_ with rfl | later
    · exact first
    · exact retried k later less
  · rintro ⟨here, later⟩ n least inRange retried
    rcases Nat.eq_or_lt_of_le least with rfl | more
    · exact here
    · exact later (retried attempt le_rfl more) n more inRange
        fun k from_ less => retried k (by omega) less

/-- The call returns or raises FortyGuardError. -/
def Clean {α : Type} (outcome : Except ClientError α) : Prop :=
  ∀ e, outcome = .error e → ∃ exc, e = .fortyGuard exc

@[simp] theorem clean_ok {α : Type} (x : α) : Clean (.ok x : Except ClientError α) := by
  rintro e ⟨⟩

@[simp] theorem clean_error {α : Type} (e : ClientError) :
    Clean (.error e : Except ClientError α) ↔ ∃ exc, e = .fortyGuard exc :=
  ⟨fun clean => clean e rfl, fun raised other same => by cases same; exact raised⟩

theorem requestLoop_clean_iff (builds : http.refuses outgoing = none)
    {remaining attempt : Nat} (enters : 0 < remaining)
    (total : (attempt : Int) + remaining = client.maxAttempts) :
    Clean (requestLoop http exchanges outgoing client remaining attempt).outcome ↔
      SettlesFrom client http exchanges attempt := by
  induction remaining generalizing attempt with
  | zero => exact absurd enters (lt_irrefl 0)
  | succ remaining ih =>
    have within : (attempt : Int) < client.maxAttempts := by omega
    rw [settlesFrom_iff within]
    unfold requestLoop Attempted
    dsimp only
    rw [tried_of_builds builds]
    split
    · rename_i exc unbuilt
      exact absurd unbuilt (answeredWith_ne_unbuilt _ _ _)
    · rename_i payload returned
      simp [returned, Retried]
    · rename_i undecodable
      simp [undecodable]
    · rename_i exc raised
      have retried : Retried http (exchanges attempt) ↔ exc.retryable = true := by
        simp [Retried, raised]
      rw [raised, retried]
      split
      · rename_i ended
        simp only [clean_error, ClientError.fortyGuard.injEq, exists_eq', true_iff]
        refine ⟨⟨by simp, fun retryable inRange => ?_⟩, fun retryable n least inRange => ?_⟩
        · rcases ended with fatal | last
          · simp [fatal] at retryable
          · omega
        · rcases ended with fatal | last
          · simp [fatal] at retryable
          · omega
      · rename_i again
        obtain ⟨retryable, inRange⟩ := not_or.mp again
        have retryable : exc.retryable = true := by simpa using retryable
        split
        · rename_i large
          simp only [clean_error, reduceCtorEq, exists_false, false_iff]
          rintro ⟨⟨-, small⟩, -⟩
          exact absurd (small retryable (by omega)) (by omega)
        · rename_i small
          dsimp only
          rw [ih (by omega) (by push_cast; omega)]
          simp only [ne_eq, reduceCtorEq, not_false_eq_true, retryable, forall_const, true_and]
          exact ⟨fun later => ⟨fun _ => by omega, later⟩, fun both => both.2⟩

/-- The loop is entered, httpx can build the request, and every attempt that is made is answered,
refused or failed in a way that the loop provides for. -/
def Settles (client : FortyGuardClient) (http : Http) (exchanges : Nat → Exchange)
    (outgoing : Outgoing) : Prop :=
  0 < client.maxAttempts ∧ http.refuses outgoing = none ∧ SettlesFrom client http exchanges 0

theorem request_clean_iff (loopTime : Instant) :
    Clean (client.request loopTime http exchanges outgoing).outcome ↔
      (client.ready loopTime = .ok () → Settles client http exchanges outgoing) := by
  unfold FortyGuardClient.request Settles
  split
  · rename_i exc refused
    simp [refused]
  · rename_i ready
    simp only [ready, forall_const]
    by_cases enters : 0 < client.maxAttempts
    · have total : ((0 : Nat) : Int) + client.maxAttempts.toNat = client.maxAttempts := by omega
      have positive : 0 < client.maxAttempts.toNat := by omega
      cases builds : http.refuses outgoing with
      | some exc =>
        obtain ⟨left, same⟩ := Nat.exists_eq_succ_of_ne_zero positive.ne'
        rw [same, Nat.succ_eq_add_one, requestLoop_of_refused builds]
        simp
      | none =>
        rw [requestLoop_clean_iff builds positive total]
        simp [enters]
    · have none_ : client.maxAttempts.toNat = 0 := by omega
      rw [none_]
      unfold requestLoop
      simp [enters]

/-! ## Calls -/

/-- What the handlers of `submit` and `poll` rely on: the call returns or raises
FortyGuardError, after no more requests than there are attempts. -/
def Reliable {α : Type} (client : FortyGuardClient) (done : Requested α) : Prop :=
  Clean done.outcome ∧ (done.sent.length : Int) ≤ max 1 client.maxAttempts

/-- The payload can be translated, or is refused as lacking a geometry. -/
def Translates (now : Instant) (payload : Dict) : Prop :=
  ∀ text, heatmapPayload now payload ≠ .error (.valueError text)

theorem createAnalysis_clean_iff (now loopTime : Instant) (payload : Dict) :
    Clean (client.createAnalysis now loopTime http exchanges payload).outcome ↔
      Translates now payload ∧ ∀ query, heatmapPayload now payload = .ok query →
        client.ready loopTime = .ok () →
          Settles client http exchanges (heatmapRequest query) := by
  unfold FortyGuardClient.createAnalysis Translates
  split
  · rename_i exc refused
    simp [refused]
  · rename_i text raised
    simp [raised]
  · rename_i query translated
    rw [translated]
    simp only [ne_eq, reduceCtorEq, not_false_eq_true, implies_true, Except.ok.injEq,
      forall_eq', true_and]
    rw [← @request_clean_iff http exchanges (heatmapRequest query) client loopTime]
    split
    · rename_i e failed
      rw [failed]
      simp
    · rename_i response returned
      rw [returned]
      simp only [clean_ok, iff_true]
      cases activityIdOf response with
      | ok activityId => exact clean_ok activityId
      | error exc => exact (clean_error _).mpr ⟨exc, rfl⟩

theorem createAnalysis_sent_length (now loopTime : Instant) (payload : Dict) :
    ((client.createAnalysis now loopTime http exchanges payload).sent.length : Int) ≤
      max 1 client.maxAttempts := by
  cases translated : heatmapPayload now payload with
  | error raised =>
    rw [createAnalysis_sent_of_raised loopTime translated]
    exact (Int.zero_le_ofNat 1).trans (le_max_left _ _)
  | ok query =>
    rw [createAnalysis_sent_of_query loopTime translated]
    exact request_sent_length loopTime

/-- The adapter fails only with FortyGuardError exactly where the payload translates and,
once a ready client is to send something, there is an attempt to make, httpx can build the
request and every attempt that is made settles. -/
theorem adapter_reliable_iff (client : FortyGuardClient) (now loopTime : Instant)
    (http : Http) (exchanges : Nat → Exchange) (payload : Dict) (activityId : String) :
    (Reliable client (client.createAnalysis now loopTime http exchanges payload) ↔
      Translates now payload ∧ ∀ query, heatmapPayload now payload = .ok query →
        client.ready loopTime = .ok () →
          Settles client http exchanges (heatmapRequest query)) ∧
    (Reliable client (client.getActivity loopTime http exchanges activityId) ↔
      (client.ready loopTime = .ok () →
        Settles client http exchanges (statusRequest activityId))) := by
  constructor
  · rw [← createAnalysis_clean_iff]
    exact and_iff_left (createAnalysis_sent_length now loopTime payload)
  · rw [← request_clean_iff]
    exact and_iff_left (request_sent_length loopTime)

def sampleClient : FortyGuardClient where
  baseUrl := some "https://api.fortyguard.com"
  apiKey := some "key"
  maxAttempts := 5

/-- A page of markup with status 200. -/
def markup : Exchange := ⟨0, 0, .response 200 "<html>".toUTF8.toList⟩

/-- The page cannot be decoded, and the ValueError of `response.json()` escapes. -/
theorem markup_escapes : ¬∀ (client : FortyGuardClient) (now loopTime : Instant)
    (http : Http) (exchanges : Nat → Exchange) (payload : Dict) (activityId : String),
    (∃ fields, payload.get "parameters" = some (.obj fields)) →
      Reliable client (client.createAnalysis now loopTime http exchanges payload) ∧
        Reliable client (client.getActivity loopTime http exchanges activityId) := by
  intro reliable
  have call := (reliable sampleClient 0 0 ⟨fun _ => none, fun _ => none⟩ (fun _ => markup)
    (requestPayload [] []) "first" ⟨[], rfl⟩).2
  obtain ⟨exc, escaped⟩ := call.1 .undecodable rfl
  cases escaped

end CoolProof.FortyGuard
