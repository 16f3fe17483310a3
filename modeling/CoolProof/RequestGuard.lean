import CoolProof.Library.SlidingWindow
import CoolProof.Library.Uuid
import Mathlib.Algebra.Order.Ring.Rat
import Mathlib.Tactic.Linarith

/-! The guard in front of the API: large bodies are refused, and so are the requests of a
client beyond a number in a minute. Nothing is awaited between reading a bucket and writing
it, so requests are served one after the other; the readings of the clock are exact. -/

namespace CoolProof.RequestGuard
open PythonText SlidingWindow Uuid

/-! ## Requests and answers -/

/-- A request with the reading of the clock it meets. Header values are Latin-1 text. -/
structure Request where
  contentLength : Option String
  client : Option String
  requestId : Option String
  newId : UUID
  now : ℚ

/-- The body of an answer that the guard gives itself. -/
structure ErrorResponse where
  statusCode : Nat
  code : String
  message : String
  retryable : Bool
  requestId : String
deriving DecidableEq

inductive Outcome where
  | rejected (response : ErrorResponse)
  | forwarded
  /-- `int` raises a `ValueError` on the length. -/
  | raised
deriving DecidableEq

structure Guard where
  maxBytes : Int
  perMinute : Int

/-- `self._hits`; a client that was never seen has an empty bucket. -/
abbrev Hits := String → List ℚ

/-! ## One request -/

/-- `text.isdigit()` for Latin-1 text, where three superscripts are digits. -/
def isDigitText (cs : List Char) : Bool :=
  !cs.isEmpty && cs.all fun c => ('0' ≤ c && c ≤ '9') || c == '²' || c == '³' || c == '¹'

/-- The check of the length, `none` where `int` raises. -/
def exceedsLimit (maxBytes : Int) (contentLength : Option String) : Option Bool :=
  match contentLength with
  | none => some false
  | some length =>
      if isDigitText length.toList then
        (int 10 length.toList).map fun n => decide (maxBytes < n)
      else some false

example : exceedsLimit 100 (some "101") = some true := by decide
example : exceedsLimit 100 (some "²") = none := by decide

/-- `request.client.host if request.client else "unknown"` -/
def clientKey (request : Request) : String := request.client.getD "unknown"

def requestIdOf (request : Request) : String :=
  request.requestId.getD (Uuid.toString request.newId)

def requestTooLarge (request : Request) : ErrorResponse :=
  ⟨413, "request_too_large", "Request body exceeds configured limit", false, requestIdOf request⟩

def rateLimited (request : Request) : ErrorResponse :=
  ⟨429, "rate_limited", "Too many requests", true, requestIdOf request⟩

/-- `RequestGuardMiddleware.dispatch`, up to `call_next`. -/
def dispatch (guard : Guard) (hits : Hits) (request : Request) : Outcome × Hits :=
  match exceedsLimit guard.maxBytes request.contentLength with
  | none => (.raised, hits)
  | some true => (.rejected (requestTooLarge request), hits)
  | some false =>
      let bucket := expire 60 request.now (hits (clientKey request))
      if guard.perMinute ≤ bucket.length then
        (.rejected (rateLimited request), Function.update hits (clientKey request) bucket)
      else
        (.forwarded, Function.update hits (clientKey request) (bucket ++ [request.now]))

/-- The guard after it has served requests, with what became of each. -/
structure Served where
  hits : Hits
  log : List (Request × Outcome)

def serveOne (guard : Guard) (s : Served) (request : Request) : Served :=
  let answer := dispatch guard s.hits request
  ⟨answer.2, s.log ++ [(request, answer.1)]⟩

def serve (guard : Guard) (requests : List Request) : Served :=
  requests.foldl (serveOne guard) ⟨fun _ => [], []⟩

theorem serve_append_singleton (guard : Guard) (requests : List Request) (request : Request) :
    serve guard (requests ++ [request]) = serveOne guard (serve guard requests) request := by
  rw [serve, List.foldl_append]
  rfl

/-! ## What was accepted -/

/-- The times at which requests of a client were accepted. -/
def acceptedTimes (key : String) (log : List (Request × Outcome)) : List ℚ :=
  log.filterMap fun entry =>
    if clientKey entry.1 = key ∧ entry.2 = .forwarded then some entry.1.now else none

/-- How many of them lie after `start` and not after `stop`. -/
def acceptedWithin (start stop : ℚ) (key : String) (log : List (Request × Outcome)) : Nat :=
  (acceptedTimes key log).countP fun x => decide (start < x ∧ x ≤ stop)

theorem acceptedTimes_append (key : String) (first second : List (Request × Outcome)) :
    acceptedTimes key (first ++ second) = acceptedTimes key first ++ acceptedTimes key second :=
  List.filterMap_append

theorem acceptedTimes_forwarded {key : String} {request : Request}
    (own : clientKey request = key) :
    acceptedTimes key [(request, .forwarded)] = [request.now] := by
  simp [acceptedTimes, own]

theorem acceptedTimes_other {key : String} {request : Request} {outcome : Outcome}
    (other : clientKey request ≠ key ∨ outcome ≠ .forwarded) :
    acceptedTimes key [(request, outcome)] = [] := by
  have never : ¬ (clientKey request = key ∧ outcome = .forwarded) := by
    rintro ⟨own, accepted⟩
    rcases other with foreign | refused
    · exact foreign own
    · exact refused accepted
  simp [acceptedTimes, never]

theorem log_requests (guard : Guard) (requests : List Request) :
    (serve guard requests).log.map Prod.fst = requests := by
  induction requests using List.reverseRecOn with
  | nil => rfl
  | append_singleton requests request ih =>
    rw [serve_append_singleton, serveOne, List.map_append, ih]
    rfl

theorem acceptedTimes_sublist (key : String) (log : List (Request × Outcome)) :
    (acceptedTimes key log).Sublist ((log.map Prod.fst).map Request.now) := by
  induction log with
  | nil => exact .slnil
  | cons entry log ih =>
    by_cases accepted : clientKey entry.1 = key ∧ entry.2 = .forwarded
    · simp only [acceptedTimes, List.filterMap_cons, if_pos accepted]
      exact ih.cons_cons _
    · simp only [acceptedTimes, List.filterMap_cons, if_neg accepted]
      exact ih.cons _

/-! ## The buckets -/

/-- What the limiter decides on a request whose length passes. -/
theorem dispatch_cases {guard : Guard} {hits : Hits} {request : Request}
    (passes : exceedsLimit guard.maxBytes request.contentLength = some false) :
    let bucket := expire 60 request.now (hits (clientKey request))
    (guard.perMinute ≤ bucket.length ∧ dispatch guard hits request =
        (.rejected (rateLimited request), Function.update hits (clientKey request) bucket)) ∨
      ((bucket.length : Int) < guard.perMinute ∧ dispatch guard hits request =
        (.forwarded, Function.update hits (clientKey request) (bucket ++ [request.now]))) := by
  intro bucket
  rw [dispatch, passes]
  by_cases full : guard.perMinute ≤ bucket.length
  · exact .inl ⟨full, if_pos full⟩
  · exact .inr ⟨lt_of_not_ge full, if_neg full⟩

/-- The bucket of the client expires and takes the time of the request if it is accepted. -/
theorem dispatch_own {guard : Guard} (hits : Hits) {request : Request} {key : String}
    (own : clientKey request = key)
    (passes : exceedsLimit guard.maxBytes request.contentLength = some false) :
    ∃ added, (added = [] ∨ added = [request.now]) ∧
      (dispatch guard hits request).2 key = expire 60 request.now (hits key) ++ added ∧
      acceptedTimes key [(request, (dispatch guard hits request).1)] = added := by
  subst own
  rcases @dispatch_cases guard hits request passes with ⟨-, step⟩ | ⟨-, step⟩
  · refine ⟨[], .inl rfl, ?_, ?_⟩
    · rw [step, List.append_nil]
      exact Function.update_self _ _ _
    · rw [step]
      exact acceptedTimes_other (.inr nofun)
  · refine ⟨[request.now], .inr rfl, ?_, ?_⟩
    · rw [step]
      exact Function.update_self _ _ _
    · rw [step]
      exact acceptedTimes_forwarded rfl

/-- A request whose length does not pass changes nothing and is not accepted. -/
theorem dispatch_stopped {guard : Guard} {request : Request}
    (stopped : exceedsLimit guard.maxBytes request.contentLength ≠ some false) (hits : Hits) :
    (dispatch guard hits request).2 = hits ∧ (dispatch guard hits request).1 ≠ .forwarded := by
  unfold dispatch
  split
  · exact ⟨rfl, nofun⟩
  · exact ⟨rfl, nofun⟩
  · exact absurd ‹_› stopped

/-- The bucket of another client stays as it is. -/
theorem dispatch_other (guard : Guard) (hits : Hits) {request : Request} {key : String}
    (other : clientKey request ≠ key) : (dispatch guard hits request).2 key = hits key := by
  by_cases passes : exceedsLimit guard.maxBytes request.contentLength = some false
  · rcases @dispatch_cases guard hits request passes with ⟨-, step⟩ | ⟨-, step⟩
    · rw [step]
      exact Function.update_of_ne (Ne.symm other) _ _
    · rw [step]
      exact Function.update_of_ne (Ne.symm other) _ _
  · rw [(dispatch_stopped passes hits).1]

/-- The answer and the new bucket of a client depend on its own bucket only. -/
theorem dispatch_congr (guard : Guard) {hits hits' : Hits} {request : Request}
    (same : hits (clientKey request) = hits' (clientKey request)) :
    (dispatch guard hits request).1 = (dispatch guard hits' request).1 ∧
      (dispatch guard hits request).2 (clientKey request) =
        (dispatch guard hits' request).2 (clientKey request) := by
  unfold dispatch
  rw [← same]
  split
  · exact ⟨rfl, same⟩
  · exact ⟨rfl, same⟩
  · dsimp only
    split
    · exact ⟨rfl, by simp⟩
    · exact ⟨rfl, by simp⟩

section Ordered

variable {guard : Guard} {requests : List Request}
  (ordered : requests.Pairwise fun a b => a.now ≤ b.now)

include ordered

theorem acceptedTimes_sorted (key : String) :
    (acceptedTimes key (serve guard requests).log).Pairwise (· ≤ ·) := by
  have times : (requests.map Request.now).Pairwise (· ≤ ·) := List.pairwise_map.mpr ordered
  rw [← log_requests guard requests] at times
  exact times.sublist (acceptedTimes_sublist key _)

omit ordered in
theorem acceptedTimes_le {now : ℚ} (late : ∀ a ∈ requests, a.now ≤ now) (key : String) :
    ∀ x ∈ acceptedTimes key (serve guard requests).log, x ≤ now := by
  intro x accepted
  have member := (acceptedTimes_sublist key _).subset accepted
  rw [log_requests, List.mem_map] at member
  obtain ⟨a, inRequests, rfl⟩ := member
  exact late a inRequests

/-- From the last request on, a bucket drops to the accepted times that are recent then. -/
theorem expire_bucket {now : ℚ} (late : ∀ a ∈ requests, a.now ≤ now) (key : String) :
    expire 60 now ((serve guard requests).hits key) =
      recent 60 now (acceptedTimes key (serve guard requests).log) := by
  induction requests using List.reverseRecOn generalizing now with
  | nil => rfl
  | append_singleton requests request ih =>
    obtain ⟨earlier, -, before⟩ := List.pairwise_append.mp ordered
    have notAfter : ∀ a ∈ requests, a.now ≤ request.now :=
      fun a member => before a member request (by simp)
    have lateBefore : ∀ a ∈ requests, a.now ≤ now :=
      fun a member => late a (List.mem_append_left _ member)
    have lateNow : request.now ≤ now := late request (by simp)
    rw [serve_append_singleton]
    simp only [serveOne, acceptedTimes_append]
    by_cases own : clientKey request = key
    · by_cases passes : exceedsLimit guard.maxBytes request.contentLength = some false
      · obtain ⟨added, new, bucket, accepted⟩ :=
          dispatch_own (serve guard requests).hits own passes
        rw [bucket, accepted]
        exact expire_next (acceptedTimes_sorted earlier key) (acceptedTimes_le notAfter key)
          (ih earlier notAfter) lateNow new
      · obtain ⟨unchanged, refused⟩ := dispatch_stopped passes (serve guard requests).hits
        rw [unchanged, acceptedTimes_other (.inr refused), List.append_nil]
        exact ih earlier lateBefore
    · rw [dispatch_other guard _ own, acceptedTimes_other (.inl own), List.append_nil]
      exact ih earlier lateBefore

/-- What is in a bucket that has expired is what was accepted in the minute up to now. -/
theorem length_expire_bucket {now : ℚ} (late : ∀ a ∈ requests, a.now ≤ now) (key : String) :
    (expire 60 now ((serve guard requests).hits key)).length =
      acceptedWithin (now - 60) now key (serve guard requests).log := by
  rw [expire_bucket ordered late, recent, ← List.countP_eq_length_filter, acceptedWithin]
  apply List.countP_congr
  intro x accepted
  have past : x ≤ now := acceptedTimes_le late key x accepted
  simp [past]

theorem forwarded_iff {request : Request} (late : ∀ a ∈ requests, a.now ≤ request.now)
    (passes : exceedsLimit guard.maxBytes request.contentLength = some false) :
    (dispatch guard (serve guard requests).hits request).1 = .forwarded ↔
      (acceptedWithin (request.now - 60) request.now (clientKey request)
        (serve guard requests).log : Int) < guard.perMinute := by
  rw [← length_expire_bucket ordered late]
  rcases @dispatch_cases guard (serve guard requests).hits request passes with
    ⟨full, step⟩ | ⟨free, step⟩
  · rw [step]
    exact ⟨nofun, fun few => absurd full (not_le_of_gt few)⟩
  · rw [step]
    exact ⟨fun _ => free, fun _ => rfl⟩

/-- Each accepted request found fewer than the limit in its minute. -/
theorem acceptedTimes_limited (key : String) :
    Limited 60 guard.perMinute.toNat (acceptedTimes key (serve guard requests).log) := by
  induction requests using List.reverseRecOn with
  | nil => exact Limited.nil _
  | append_singleton requests request ih =>
    obtain ⟨earlier, -, before⟩ := List.pairwise_append.mp ordered
    have notAfter : ∀ a ∈ requests, a.now ≤ request.now :=
      fun a member => before a member request (by simp)
    rw [serve_append_singleton]
    simp only [serveOne, acceptedTimes_append]
    by_cases accepted : clientKey request = key ∧
        (dispatch guard (serve guard requests).hits request).1 = .forwarded
    · obtain ⟨own, forwarded⟩ := accepted
      rw [forwarded, acceptedTimes_forwarded own]
      apply (ih earlier).append_singleton
      have passes : exceedsLimit guard.maxBytes request.contentLength = some false := by
        by_contra stopped
        exact (dispatch_stopped stopped _).2 forwarded
      have few := (forwarded_iff earlier notAfter passes).mp forwarded
      rw [← length_expire_bucket earlier notAfter, expire_bucket earlier notAfter, own] at few
      omega
    · rw [acceptedTimes_other (not_and_or.mp accepted), List.append_nil]
      exact ih earlier

/-- No part of the accepted times that spans less than a minute is larger than the limit. -/
theorem accepted_countP_le (key : String) (inside : ℚ → Bool)
    (narrow : ∀ x y, inside x → inside y → y - 60 < x) :
    ((acceptedTimes key (serve guard requests).log).countP inside : Int) ≤
      max 0 guard.perMinute := by
  have limited : Limited 60 guard.perMinute.toNat
      (acceptedTimes key (serve guard requests).log) := acceptedTimes_limited ordered key
  have bound := limited.count_le inside fun x _ y _ => narrow x y
  have limit : ((guard.perMinute.toNat : Nat) : Int) = max 0 guard.perMinute := by omega
  rw [← limit]
  exact_mod_cast bound

end Ordered

/-! ## Clients -/

def ofClient (key : String) (request : Request) : Bool := clientKey request = key

/-- What a client is answered, and its bucket, is as if nobody else had called. -/
theorem serve_filter (guard : Guard) (requests : List Request) (key : String) :
    (serve guard requests).log.filter (fun entry => ofClient key entry.1) =
        (serve guard (requests.filter (ofClient key))).log ∧
      (serve guard requests).hits key = (serve guard (requests.filter (ofClient key))).hits key := by
  induction requests using List.reverseRecOn with
  | nil => exact ⟨rfl, rfl⟩
  | append_singleton requests request ih =>
    obtain ⟨log, bucket⟩ := ih
    by_cases own : clientKey request = key
    · have kept : ofClient key request = true := decide_eq_true own
      have alone : (requests ++ [request]).filter (ofClient key) =
          requests.filter (ofClient key) ++ [request] := by
        rw [List.filter_append, List.filter_cons_of_pos kept, List.filter_nil]
      subst own
      obtain ⟨answer, next⟩ := dispatch_congr guard bucket
      rw [alone, serve_append_singleton, serve_append_singleton]
      refine ⟨?_, next⟩
      simp [serveOne, log, answer, kept]
    · have dropped : ¬ ofClient key request = true := by simpa [ofClient] using own
      have alone : (requests ++ [request]).filter (ofClient key) =
          requests.filter (ofClient key) := by
        rw [List.filter_append, List.filter_cons_of_neg dropped, List.filter_nil, List.append_nil]
      rw [alone, serve_append_singleton]
      refine ⟨?_, (dispatch_other guard _ own).trans bucket⟩
      simp [serveOne, log, dropped]

/-- An entry of the log is the answer in the state that the earlier requests led to. -/
theorem log_split {guard : Guard} {requests : List Request} {a : Request} {outcome : Outcome}
    {before after : List (Request × Outcome)}
    (split : (serve guard requests).log = before ++ (a, outcome) :: after) :
    ∃ first rest, requests = first ++ a :: rest ∧ before = (serve guard first).log ∧
      outcome = (dispatch guard (serve guard first).hits a).1 := by
  induction requests using List.reverseRecOn generalizing after with
  | nil => simp [serve] at split
  | append_singleton requests request ih =>
    rw [serve_append_singleton] at split
    rcases List.eq_nil_or_concat after with rfl | ⟨front, last, rfl⟩
    · obtain ⟨same, entry⟩ := List.append_inj' split rfl
      cases entry
      exact ⟨requests, [], rfl, same.symm, rfl⟩
    · have shape : (serveOne guard (serve guard requests) request).log =
          (before ++ (a, outcome) :: front) ++ [last] := by
        rw [split, List.concat_eq_append, List.append_assoc]
        rfl
      obtain ⟨first, rest, rfl, start, answer⟩ := ih (List.append_inj' shape rfl).1
      exact ⟨first, rest ++ [request], by simp, start, answer⟩

/-- A request without a body from one host. -/
def visit (now : ℚ) : Request := ⟨none, some "10.0.0.1", none, 0, now⟩

example : (serve ⟨100, 1⟩ [visit 0, visit 59, visit 60]).log.map Prod.snd =
    [.forwarded, .rejected (rateLimited (visit 59)), .forwarded] := by decide +kernel

end CoolProof.RequestGuard
