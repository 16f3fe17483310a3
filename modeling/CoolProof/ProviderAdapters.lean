import CoolProof.AgentExecution
import CoolProof.Library.Loops
import Mathlib.Algebra.Order.Field.Rat

/-! The providers of an agent run: which one the settings name, and what the adapters of the
HTTP providers make of a response. A response may be anything, so every unwrapping of it may
raise; the handlers list the exceptions that become a provider error. -/

namespace CoolProof.Agents
open JsonDocument Loops

/-! ## Settings -/

/-- The settings that a provider is built from; a secret is its value. -/
structure Settings where
  agentProvider : String
  nimBaseUrl : Option String
  nimApiKey : Option String
  nimModel : String
  backboardBaseUrl : String
  backboardApiKey : Option String
  backboardModel : String
  backboardLlmProvider : String

structure HTTPJSONProvider where
  baseUrl : String
  apiKey : String
  model : String
  name : String
  endpoint : String
deriving DecidableEq

structure BackboardProvider where
  baseUrl : String
  apiKey : String
  model : String
  llmProvider : String
deriving DecidableEq

inductive Provider where
  | deterministic
  | http (provider : HTTPJSONProvider)
  | backboard (provider : BackboardProvider)
deriving DecidableEq

/-- `value.rstrip("/")` -/
def rstripSlash (value : String) : String :=
  String.ofList (value.toList.reverse.dropWhile (· = '/')).reverse

/-- A setting that is neither absent nor empty. -/
def configured (value : Option String) : Option String := value.filter fun text => text ≠ ""

/-- `NIMProvider(settings)` -/
def nimProvider (settings : Settings) : Except ProviderError HTTPJSONProvider :=
  match configured settings.nimBaseUrl, configured settings.nimApiKey with
  | some baseUrl, some apiKey => .ok {
      baseUrl := rstripSlash baseUrl
      apiKey := apiKey
      model := settings.nimModel
      name := "nim"
      endpoint := "/v1/chat/completions" }
  | _, _ => .error ⟨"nim_provider_not_configured"⟩

/-- `BackboardProvider(settings)` -/
def backboardProvider (settings : Settings) : Except ProviderError BackboardProvider :=
  match configured settings.backboardApiKey with
  | some apiKey => .ok {
      baseUrl := rstripSlash settings.backboardBaseUrl
      apiKey := apiKey
      model := settings.backboardModel
      llmProvider := settings.backboardLlmProvider }
  | none => .error ⟨"backboard_provider_not_configured"⟩

/-- `provider_from_settings` -/
def providerFromSettings (settings : Settings) : Except ProviderError Provider :=
  if settings.agentProvider ∈ ["nim", "nvidia_nim"] then (nimProvider settings).map .http
  else if settings.agentProvider = "backboard" then (backboardProvider settings).map .backboard
  else .ok .deterministic

/-- The provider that is named has what it needs. -/
def Settings.Complete (settings : Settings) : Prop :=
  (settings.agentProvider ∈ ["nim", "nvidia_nim"] →
    (configured settings.nimBaseUrl).isSome ∧ (configured settings.nimApiKey).isSome) ∧
  (settings.agentProvider = "backboard" → (configured settings.backboardApiKey).isSome)

/-- A provider is built exactly when the one that is named has what it needs. -/
theorem providerFromSettings_ok_iff (settings : Settings) :
    (∃ provider, providerFromSettings settings = .ok provider) ↔ settings.Complete := by
  unfold providerFromSettings Settings.Complete
  by_cases nim : settings.agentProvider ∈ ["nim", "nvidia_nim"]
  · have other : settings.agentProvider ≠ "backboard" := by
      intro same
      rw [same] at nim
      exact absurd nim (by decide)
    unfold nimProvider
    cases configured settings.nimBaseUrl <;> cases configured settings.nimApiKey <;>
      simp [nim, other, Except.map]
  · unfold backboardProvider
    by_cases named : settings.agentProvider = "backboard"
    · cases configured settings.backboardApiKey <;> simp [named, Except.map]
    · simp [nim, named]

/-! ## The deterministic provider -/

/-- The keys of a context, sorted. -/
def contextKeys : List String :=
  ["grounding", "heat_evidence", "intervention_evidence", "portfolio", "verification"]

/-- What the deterministic provider answers, whatever it is given. -/
def deterministicOutput (agent : String) : AgentOutput where
  summary := agent ++ " completed using deterministic domain services"
  citations := []
  facts := [("agent", .str agent), ("input_keys", .arr (contextKeys.map .str))]
  summarized := by
    rw [String.length_append]
    exact Nat.le_add_left_of_le (by decide)
  distinct := by simp

/-- `DeterministicProvider.complete` -/
def deterministicProvider : LLMProvider := fun agent _ => .ok (deterministicOutput agent)

/-! ## Exceptions -/

/-- The exceptions that unwrapping a response can raise, and those the handlers name. -/
inductive PyException where
  | httpError
  | valueError
  | typeError
  | validationError
  | keyError
  | indexError
  | attributeError
  | recursionError
deriving DecidableEq

/-- What `json.loads` raises: text that is no document, or a document nested too deep. -/
inductive DecodeError where
  | invalid
  | tooDeep
deriving DecidableEq

def DecodeError.exception : DecodeError → PyException
  | .invalid => .valueError
  | .tooDeep => .recursionError

inductive Raised where
  | provider (error : ProviderError)
  | escaped (exception : PyException)
deriving DecidableEq

/-- The handler of `complete`; a `ValidationError` is a `ValueError` as well. -/
def completeCatches : PyException → Bool
  | .httpError | .valueError | .typeError | .validationError | .keyError => true
  | .indexError | .attributeError | .recursionError => false

/-- The handler of `tool_call`. -/
def toolCallCatches : PyException → Bool
  | .httpError | .valueError | .typeError | .validationError | .keyError | .indexError => true
  | .attributeError | .recursionError => false

/-- `try: .. except (..) as exc: raise ProviderError(message)` -/
def handled {α : Type} (catches : PyException → Bool) (message : String) :
    Except PyException α → Except Raised α
  | .ok value => .ok value
  | .error e => if catches e then .error (.provider ⟨message⟩) else .error (.escaped e)

/-- What comes back, if anything but a value, is a provider error. -/
def OnlyProviderErrors {α : Type} (x : Except Raised α) : Prop := ∀ e, x ≠ .error (.escaped e)

theorem onlyProviderErrors_handled {α : Type} (catches : PyException → Bool) (message : String)
    (x : Except PyException α) : OnlyProviderErrors (handled catches message x) ↔
      ∀ e, x = .error e → catches e = true := by
  cases x with
  | ok value => simp [OnlyProviderErrors, handled]
  | error e => cases caught : catches e <;> simp [OnlyProviderErrors, handled, caught]

/-! ## Responses -/

/-- How a request ends: without a response, or with a status and a body that decodes or not. -/
inductive HttpOutcome where
  | transportError
  | response (status : Nat) (body : Except DecodeError Json)

/-- `response.raise_for_status()` and `response.json()` -/
def fetch : HttpOutcome → Except PyException Json
  | .transportError => .error .httpError
  | .response status body =>
      if 200 ≤ status ∧ status < 300 then body.mapError DecodeError.exception
      else .error .httpError

/-- What is left to the libraries: `json.loads`, and what pydantic reads as a number and as a
truth value. -/
structure Parsers where
  loads : String → Except DecodeError Json
  number : Json → Option ℚ
  truth : Json → Option Bool

/-- `value.get(key, default)` -/
def getDefault (value : Json) (key : String) (default : Json) : Except PyException Json :=
  match value with
  | .obj fields => .ok ((Dict.get fields key).getD default)
  | _ => .error .attributeError

/-- An `AgentOutput` within its declared bounds. -/
structure ValidatedOutput where
  summary : String
  citations : List String
  facts : Dict
  confidence : ℚ
  needsApproval : Bool
  summaryLength : 1 ≤ summary.length ∧ summary.length ≤ 4000
  citationCount : citations.length ≤ 50
  confidenceRange : 0 ≤ confidence ∧ confidence ≤ 1

def outputKeys : List String := ["summary", "citations", "facts", "confidence", "needs_approval"]

/-- `AgentOutput.model_validate`; `none` is a validation error. -/
def validateOutput (py : Parsers) : Json → Option ValidatedOutput
  | .obj fields =>
      if fields.all fun entry => outputKeys.contains entry.1 then do
        let summary ← (Dict.get fields "summary").bind Json.asStr
        let citations ← field asTexts [] fields "citations"
        let facts ← field Json.asDict [] fields "facts"
        let confidence ← field py.number 0 fields "confidence"
        let needsApproval ← field py.truth false fields "needs_approval"
        if bounds : (1 ≤ summary.length ∧ summary.length ≤ 4000) ∧ citations.length ≤ 50 ∧
            0 ≤ confidence ∧ confidence ≤ 1 then
          some ⟨summary, citations, facts, confidence, needsApproval, bounds.1, bounds.2.1,
            bounds.2.2⟩
        else none
      else none
  | _ => none

/-- The first of the choices of a chat response. -/
def firstChoice : Json → Option Json
  | .obj fields =>
      match Dict.get fields "choices" with
      | some (.arr (choice :: _)) => some choice
      | _ => none
  | _ => none

/-- `complete`, from the body to what is validated. -/
def unwrapOutput (body : Json) : Except PyException Json := do
  let raw ← getDefault body "output" body
  match firstChoice raw with
  | some choice =>
      match ← getDefault choice "message" (.obj []) with
      | .obj message => pure ((Dict.get message "content").getD raw)
      | _ => pure raw
  | none => pure raw

/-- `if isinstance(raw, str): raw = json.loads(raw)` -/
def decodeText (py : Parsers) : Json → Except PyException Json
  | .str text => (py.loads text).mapError DecodeError.exception
  | raw => .ok raw

def validated (py : Parsers) (raw : Json) : Except PyException ValidatedOutput :=
  match validateOutput py raw with
  | some output => .ok output
  | none => .error .validationError

/-- `HTTPJSONProvider.complete` -/
def HTTPJSONProvider.complete (p : HTTPJSONProvider) (py : Parsers) (outcome : HttpOutcome) :
    Except Raised ValidatedOutput :=
  handled completeCatches (p.name ++ "_provider_failed") do
    let body ← fetch outcome
    let raw ← unwrapOutput body
    validated py (← decodeText py raw)

/-- The first tool call of a chat message, or else the message. -/
def calledTool (raw : Json) : Json → Json
  | .obj message =>
      match Dict.get message "tool_calls" with
      | some (.arr (call :: _)) => call
      | _ => .obj message
  | _ => raw

/-- `tool_call`, from the body to the tool that is called. -/
def unwrapToolCall : Json → Except PyException Json
  | .obj fields =>
      let raw := (Dict.get fields "tool_call").getD (.obj fields)
      match firstChoice raw with
      | some choice => (getDefault choice "message" (.obj [])).map (calledTool raw)
      | none => .ok raw
  | _ => .error .typeError

/-- The answer of a tool call is a dictionary. -/
def toolAnswer : Json → Except PyException Dict
  | .obj fields => .ok fields
  | _ => .error .typeError

/-- `HTTPJSONProvider.tool_call` -/
def HTTPJSONProvider.toolCall (p : HTTPJSONProvider) (outcome : HttpOutcome) :
    Except Raised Dict :=
  handled toolCallCatches (p.name ++ "_tool_call_failed") do
    let body ← fetch outcome
    toolAnswer (← unwrapToolCall body)

/-- The text that a Backboard message carries. -/
def messageText (body : Json) : Except PyException Json :=
  match body.asDict.bind fun fields => Dict.get fields "content" with
  | some (.str text) => .ok (.str text)
  | _ => .error .typeError

/-- `BackboardProvider.complete` -/
def BackboardProvider.complete (_ : BackboardProvider) (py : Parsers) (outcome : HttpOutcome) :
    Except Raised ValidatedOutput :=
  handled completeCatches "backboard_provider_failed" do
    let body ← fetch outcome
    let raw ← messageText body
    validated py (← decodeText py raw)

/-! ## Shapes of a body -/

def IsObject (value : Json) : Prop := ∃ fields, value = .obj fields

/-- The response is a success with this body. -/
def HttpOutcome.Delivers (outcome : HttpOutcome) (body : Json) : Prop :=
  ∃ status, 200 ≤ status ∧ status < 300 ∧ outcome = .response status (.ok body)

/-- The response is a success with a body that is nested too deep to be decoded. -/
def HttpOutcome.TooDeep (outcome : HttpOutcome) : Prop :=
  ∃ status, 200 ≤ status ∧ status < 300 ∧ outcome = .response status (.error .tooDeep)

/-- What a body holds under a key, or else the body. -/
def under (key : String) (fields : Dict) : Json := (Dict.get fields key).getD (.obj fields)

/-- The content of the first choice of a chat response, or else the value. -/
def chatContent (raw : Json) : Json :=
  match firstChoice raw with
  | some (.obj choice) =>
      match (Dict.get choice "message").getD (.obj []) with
      | .obj message => (Dict.get message "content").getD raw
      | _ => raw
  | _ => raw

/-- `complete` is given an object whose first choice, if there is one, is an object, and whose
text, if it is a text, can be decoded or is no document. -/
structure CompleteReads (py : Parsers) (body : Json) : Prop where
  choices : ∃ fields, body = .obj fields ∧ ∀ choice ∈ firstChoice (under "output" fields),
    IsObject choice
  text : ∀ fields text, body = .obj fields → chatContent (under "output" fields) = .str text →
    py.loads text ≠ .error .tooDeep

/-- Where `tool_call` is given an object, its first choice is an object. -/
def ToolCallReads (body : Json) : Prop :=
  ∀ fields, body = .obj fields → ∀ choice ∈ firstChoice (under "tool_call" fields),
    IsObject choice

def BackboardReads (py : Parsers) (body : Json) : Prop :=
  ∀ fields text, body = .obj fields → Dict.get fields "content" = some (.str text) →
    py.loads text ≠ .error .tooDeep

/-! ## What escapes -/

theorem fetch_ok_iff {outcome : HttpOutcome} {body : Json} :
    fetch outcome = .ok body ↔ outcome.Delivers body := by
  unfold HttpOutcome.Delivers
  cases outcome with
  | transportError => simp [fetch]
  | response status decoded =>
    by_cases success : 200 ≤ status ∧ status < 300
    · cases decoded <;> simp [fetch, success, Except.mapError]
    · have refused : ¬∃ known, 200 ≤ known ∧ known < 300 ∧
          HttpOutcome.response status decoded = .response known (.ok body) := by
        rintro ⟨known, low, high, same⟩
        cases same
        exact success ⟨low, high⟩
      simp only [fetch, if_neg success, reduceCtorEq, false_iff]
      exact refused

theorem fetch_error {outcome : HttpOutcome} {e : PyException} (failed : fetch outcome = .error e) :
    e = .httpError ∨ e = .valueError ∨ e = .recursionError ∧ outcome.TooDeep := by
  cases outcome with
  | transportError =>
    cases failed
    exact .inl rfl
  | response status decoded =>
    by_cases success : 200 ≤ status ∧ status < 300
    · rw [fetch, if_pos success] at failed
      cases decoded with
      | ok body => cases failed
      | error kind =>
        cases failed
        cases kind with
        | invalid => exact .inr (.inl rfl)
        | tooDeep => exact .inr (.inr ⟨rfl, status, success.1, success.2, rfl⟩)
    · rw [fetch, if_neg success] at failed
      cases failed
      exact .inl rfl

theorem fetch_tooDeep {outcome : HttpOutcome} (deep : outcome.TooDeep) :
    fetch outcome = .error .recursionError := by
  obtain ⟨status, low, high, rfl⟩ := deep
  rw [fetch, if_pos ⟨low, high⟩]
  rfl

/-- A call whose response can be read raises what reading the body raises. -/
theorem onlyProviderErrors_call {α : Type} {catches : PyException → Bool}
    (usual : catches .httpError = true ∧ catches .valueError = true)
    (deep : catches .recursionError = false) (message : String) (outcome : HttpOutcome)
    (read : Json → Except PyException α) :
    OnlyProviderErrors (handled catches message (fetch outcome >>= read)) ↔
      ¬outcome.TooDeep ∧
        ∀ body, outcome.Delivers body → ∀ e, read body = .error e → catches e = true := by
  rw [onlyProviderErrors_handled]
  constructor
  · intro caught
    refine ⟨fun tooDeep => ?_, fun body delivers e raised => caught e ?_⟩
    · have escaped := caught .recursionError (by rw [fetch_tooDeep tooDeep]; rfl)
      rw [deep] at escaped
      cases escaped
    · rw [fetch_ok_iff.mpr delivers]
      exact raised
  · rintro ⟨shallow, reads⟩ e raised
    cases fetched : fetch outcome with
    | error f =>
      rw [fetched] at raised
      cases raised
      rcases fetch_error fetched with rfl | rfl | ⟨rfl, tooDeep⟩
      · exact usual.1
      · exact usual.2
      · exact absurd tooDeep shallow
    | ok body =>
      rw [fetched] at raised
      exact reads body (fetch_ok_iff.mp fetched) e raised

theorem getDefault_of_not_object {value : Json} (other : ¬IsObject value) (key : String)
    (default : Json) : getDefault value key default = .error .attributeError := by
  cases value with
  | obj fields => exact absurd ⟨fields, rfl⟩ other
  | _ => rfl

/-- On an object whose first choice is an object, nothing is raised. -/
theorem unwrapOutput_ok {fields : Dict}
    (objects : ∀ choice ∈ firstChoice (under "output" fields), IsObject choice) :
    unwrapOutput (.obj fields) = .ok (chatContent (under "output" fields)) := by
  have output : getDefault (.obj fields) "output" (.obj fields) = .ok (under "output" fields) := rfl
  unfold unwrapOutput chatContent
  rw [output]
  cases first : firstChoice (under "output" fields) with
  | none => simp only [bind, Except.bind, first, pure, Except.pure]
  | some choice =>
    obtain ⟨entries, rfl⟩ := objects choice first
    simp only [bind, Except.bind, first, getDefault]
    split <;> rfl

/-- Otherwise a list, a text or a number is asked for a key. -/
theorem unwrapOutput_raises {body : Json}
    (shape : ¬∃ fields, body = .obj fields ∧ ∀ choice ∈ firstChoice (under "output" fields),
      IsObject choice) : unwrapOutput body = .error .attributeError := by
  unfold unwrapOutput
  by_cases object : IsObject body
  · obtain ⟨fields, rfl⟩ := object
    have output : getDefault (.obj fields) "output" (.obj fields) = .ok (under "output" fields) :=
      rfl
    rw [output]
    cases first : firstChoice (under "output" fields) with
    | none =>
      refine absurd ⟨fields, rfl, fun choice member => ?_⟩ shape
      rw [first] at member
      cases member
    | some choice =>
      have other : ¬IsObject choice := by
        intro object
        refine shape ⟨fields, rfl, fun known member => ?_⟩
        rw [first] at member
        cases member
        exact object
      simp only [bind, Except.bind, first, getDefault_of_not_object other]
  · rw [getDefault_of_not_object object]
    rfl

theorem validated_raises {py : Parsers} {raw : Json} {e : PyException}
    (raised : validated py raw = .error e) : e = .validationError := by
  unfold validated at raised
  split at raised
  · cases raised
  · cases raised
    rfl

/-- A text is decoded and validated; only one that is nested too deep escapes. -/
theorem decoded_caught_iff (py : Parsers) (raw : Json) :
    (∀ e, (decodeText py raw >>= validated py) = .error e → completeCatches e = true) ↔
      ∀ text, raw = .str text → py.loads text ≠ .error .tooDeep := by
  have checks : ∀ value, ∀ e, validated py value = .error e → completeCatches e = true := by
    intro value e raised
    rw [validated_raises raised]
    rfl
  constructor
  · rintro caught text rfl deep
    have escaped := caught .recursionError (by rw [decodeText, deep]; rfl)
    cases escaped
  · intro shallow e raised
    unfold decodeText at raised
    split at raised
    · rename_i text
      cases decoded : py.loads text with
      | ok value =>
        rw [decoded] at raised
        exact checks value e raised
      | error kind =>
        rw [decoded] at raised
        cases raised
        cases kind with
        | invalid => rfl
        | tooDeep => exact absurd decoded (shallow text rfl)
    · exact checks raw e raised

theorem complete_caught_iff (py : Parsers) (body : Json) :
    (∀ e, (unwrapOutput body >>= fun raw => decodeText py raw >>= validated py) = .error e →
      completeCatches e = true) ↔ CompleteReads py body := by
  by_cases shape : ∃ fields, body = .obj fields ∧
      ∀ choice ∈ firstChoice (under "output" fields), IsObject choice
  · obtain ⟨fields, rfl, objects⟩ := shape
    rw [unwrapOutput_ok objects]
    refine (decoded_caught_iff py (chatContent (under "output" fields))).trans ?_
    constructor
    · intro shallow
      refine ⟨⟨fields, rfl, objects⟩, fun known text same => ?_⟩
      cases same
      exact shallow text
    · intro reads text
      exact reads.text fields text rfl
  · rw [unwrapOutput_raises shape]
    constructor
    · intro caught
      have escaped := caught .attributeError rfl
      cases escaped
    · intro reads
      exact absurd reads.choices shape

theorem toolAnswer_raises {raw : Json} {e : PyException} (raised : toolAnswer raw = .error e) :
    e = .typeError := by
  unfold toolAnswer at raised
  split at raised
  · cases raised
  · cases raised
    rfl

theorem unwrapToolCall_ok {fields : Dict}
    (objects : ∀ choice ∈ firstChoice (under "tool_call" fields), IsObject choice) :
    ∃ raw, unwrapToolCall (.obj fields) = .ok raw := by
  change ∃ raw, (match firstChoice (under "tool_call" fields) with
    | some choice => (getDefault choice "message" (.obj [])).map
        (calledTool (under "tool_call" fields))
    | none => .ok (under "tool_call" fields)) = .ok raw
  cases first : firstChoice (under "tool_call" fields) with
  | none => exact ⟨_, rfl⟩
  | some choice =>
    obtain ⟨entries, rfl⟩ := objects choice first
    exact ⟨_, rfl⟩

theorem unwrapToolCall_raises {fields : Dict} {choice : Json}
    (first : firstChoice (under "tool_call" fields) = some choice) (other : ¬IsObject choice) :
    unwrapToolCall (.obj fields) = .error .attributeError := by
  change (match firstChoice (under "tool_call" fields) with
    | some choice => (getDefault choice "message" (.obj [])).map
        (calledTool (under "tool_call" fields))
    | none => .ok (under "tool_call" fields)) = _
  rw [first]
  dsimp only
  rw [getDefault_of_not_object other]
  rfl

theorem toolCall_caught_iff (body : Json) :
    (∀ e, (unwrapToolCall body >>= toolAnswer) = .error e → toolCallCatches e = true) ↔
      ToolCallReads body := by
  constructor
  · rintro caught fields rfl choice first
    by_contra other
    have escaped := caught .attributeError (by rw [unwrapToolCall_raises first other]; rfl)
    cases escaped
  · intro reads e raised
    by_cases object : IsObject body
    · obtain ⟨fields, rfl⟩ := object
      obtain ⟨raw, unwrapped⟩ := unwrapToolCall_ok (reads fields rfl)
      rw [unwrapped] at raised
      rw [toolAnswer_raises raised]
      rfl
    · have refused : unwrapToolCall body = .error .typeError := by
        cases body with
        | obj fields => exact absurd ⟨fields, rfl⟩ object
        | _ => rfl
      rw [refused] at raised
      cases raised
      rfl

theorem backboard_caught_iff (py : Parsers) (body : Json) :
    (∀ e, (messageText body >>= fun raw => decodeText py raw >>= validated py) = .error e →
      completeCatches e = true) ↔ BackboardReads py body := by
  by_cases carried : ∃ fields text, body = .obj fields ∧
      Dict.get fields "content" = some (.str text)
  · obtain ⟨fields, text, rfl, content⟩ := carried
    have message : messageText (.obj fields) = .ok (.str text) := by
      simp only [messageText, Json.asDict, Option.bind_some, content]
    rw [message]
    refine (decoded_caught_iff py (.str text)).trans ?_
    constructor
    · rintro shallow known other ⟨⟩ same
      cases content.symm.trans same
      exact shallow text rfl
    · rintro reads other ⟨⟩
      exact reads fields text rfl content
  · have omitted : messageText body = .error .typeError := by
      unfold messageText
      split
      · rename_i text found
        obtain ⟨fields, object, content⟩ := Option.bind_eq_some_iff.mp found
        cases body with
        | obj known =>
          cases object
          exact absurd ⟨_, text, rfl, content⟩ carried
        | _ => cases object
      · rfl
    rw [omitted]
    refine ⟨fun _ fields text object content => absurd ⟨fields, text, object, content⟩ carried,
      fun _ e raised => ?_⟩
    cases raised
    rfl

/-- An adapter returns an output or raises a provider error exactly when the response is not a
success, or its body can be read: it is decoded, and the adapter finds objects where it asks
for keys. -/
theorem adapters_total_iff (http : HTTPJSONProvider) (backboard : BackboardProvider)
    (py : Parsers) (outcome : HttpOutcome) :
    (OnlyProviderErrors (http.complete py outcome) ↔
      ¬outcome.TooDeep ∧ ∀ body, outcome.Delivers body → CompleteReads py body) ∧
    (OnlyProviderErrors (http.toolCall outcome) ↔
      ¬outcome.TooDeep ∧ ∀ body, outcome.Delivers body → ToolCallReads body) ∧
    (OnlyProviderErrors (backboard.complete py outcome) ↔
      ¬outcome.TooDeep ∧ ∀ body, outcome.Delivers body → BackboardReads py body) := by
  refine ⟨?_, ?_, ?_⟩
  · refine (onlyProviderErrors_call ⟨rfl, rfl⟩ rfl _ outcome _).trans (and_congr_right fun _ => ?_)
    exact forall₂_congr fun body _ => complete_caught_iff py body
  · refine (onlyProviderErrors_call ⟨rfl, rfl⟩ rfl _ outcome _).trans (and_congr_right fun _ => ?_)
    exact forall₂_congr fun body _ => toolCall_caught_iff body
  · refine (onlyProviderErrors_call ⟨rfl, rfl⟩ rfl _ outcome _).trans (and_congr_right fun _ => ?_)
    exact forall₂_congr fun body _ => backboard_caught_iff py body

/-! ## Responses that escape -/

def sampleSettings : Settings where
  agentProvider := "nim"
  nimBaseUrl := some "https://nim.example/"
  nimApiKey := some "key"
  nimModel := "model"
  backboardBaseUrl := "https://backboard.example/api"
  backboardApiKey := none
  backboardModel := "model"
  backboardLlmProvider := "openai"

def sampleNim : HTTPJSONProvider :=
  ⟨"https://nim.example", "key", "model", "nim", "/v1/chat/completions"⟩

example : providerFromSettings sampleSettings = .ok (.http sampleNim) := by decide +kernel

/-- Parsers that read nothing. -/
def noParsers : Parsers := ⟨fun _ => .error .invalid, fun _ => none, fun _ => none⟩

/-- A list for a body, and a text for a choice, are asked for a key. -/
theorem adapters_not_total :
    sampleNim.complete noParsers (.response 200 (.ok (.arr []))) =
        .error (.escaped .attributeError) ∧
      sampleNim.complete noParsers
          (.response 200 (.ok (.obj [("choices", .arr [.str "stop"])]))) =
        .error (.escaped .attributeError) ∧
      sampleNim.toolCall (.response 200 (.ok (.obj [("choices", .arr [.str "stop"])]))) =
        .error (.escaped .attributeError) :=
  ⟨rfl, rfl, rfl⟩

end CoolProof.Agents
