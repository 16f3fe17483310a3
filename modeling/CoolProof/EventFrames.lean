import CoolProof.AgentLifecycle
import CoolProof.DocumentText
import CoolProof.Library.EventStream
import CoolProof.Library.JsonReader

/-! The body of `GET /{run_id}/events` as a client reads it back: one frame for each event,
whose data is the JSON document of the event, and a last frame that ends the stream. -/

namespace CoolProof.Agents
open Calendar JsonDocument PythonText Uuid Models Runs Sessions Replay EventStream
open Documents (Bytes encodeUtf8 decodeUtf8)

/-! ## The body -/

/-- The `payload` that `body` dumps. -/
def eventPayload (e : AgentEvent) : Dict :=
  [("sequence", .int e.sequence), ("event", .str e.eventType),
   ("node", Grounding.optional (e.node.map .str)), ("summary", .str e.safeSummary),
   ("payload", .obj e.payloadJson)]

def sequenceText (e : AgentEvent) : String := String.ofList (intText e.sequence)

/-- One text that `body` yields. -/
def eventText (e : AgentEvent) : String :=
  "id: " ++ sequenceText e ++ "\nevent: " ++ e.eventType ++ "\ndata: " ++
    String.ofList (JsonText.text (.obj (eventPayload e))) ++ "\n\n"

/-- What `agent_events` yields for the events of `stream_events`. -/
def agentEvents (events : List AgentEvent) : List String :=
  events.map eventText ++ ["event: stream.end\ndata: \x7b\x7d\n\n"]

/-- The bytes of a streaming response. -/
def responseBytes (chunks : List String) : Bytes := chunks.flatMap encodeUtf8

/-! ## The client -/

structure Message where
  id : String
  event : String
  data : Json
deriving DecidableEq

def readMessage (frame : Frame) : Option Message :=
  (JsonReader.loads frame.data).map fun data =>
    ⟨String.ofList frame.lastEventId, String.ofList frame.eventType, data⟩

/-- The frames of a body with their data read as JSON. -/
def receive (body : Bytes) : Option (List Message) :=
  (decodeUtf8 body).bind fun text => (EventStream.parse text.toList).mapM readMessage

/-- What a client takes out of an event's data. -/
structure ClientEvent where
  sequence : Nat
  event : String
  node : Option String
  summary : String
  payload : Dict
deriving DecidableEq

def asSequence : Json → Option Nat
  | .int (.ofNat n) => some n
  | _ => none

def clientEvent (data : Json) : Option ClientEvent := do
  let fields ← data.asDict
  let sequence ← (fields.get "sequence").bind asSequence
  let event ← (fields.get "event").bind Json.asStr
  let node ← (fields.get "node").bind asOptionalText
  let summary ← (fields.get "summary").bind Json.asStr
  let payload ← (fields.get "payload").bind Json.asDict
  return { sequence, event, node, summary, payload }

/-- The message of an event. -/
def messageOf (e : AgentEvent) : Message := ⟨sequenceText e, e.eventType, .obj (eventPayload e)⟩

/-- The id that a reader holds after the events, having held `last` before them. -/
def lastId (last : String) (events : List AgentEvent) : String :=
  (events.getLast?.map sequenceText).getD last

/-- The last frame repeats the id of the event before it. -/
def endMessage (events : List AgentEvent) : Message := ⟨lastId "" events, "stream.end", .obj []⟩

/-! ## The names of events -/

/-- The event types that the runtime writes. -/
def runtimeEvents : List String :=
  ["run.created", "run.started", "node.completed", "approval.required", "run.failed",
   "run.completed", "run.approved", "run.rejectd", "run.revision_requested"]

def plainName (name : String) : Bool :=
  !name.isEmpty && name.toList.all fun c => c != '\n' && c != '\r'

theorem plainName_of_named {name : String} (named : name ∈ runtimeEvents) :
    plainName name = true := by
  have plain : runtimeEvents.all plainName = true := by decide
  exact List.all_eq_true.mp plain name named

/-! ## The frames -/

/-- An event as the stream's grammar sees it. -/
def outgoing (e : AgentEvent) : Outgoing where
  id := some (intText e.sequence)
  name := e.eventType.toList
  data := JsonText.text (.obj (eventPayload e))

def outgoingEnd : Outgoing where
  id := none
  name := "stream.end".toList
  data := JsonText.text (.obj [])

theorem toList_eventText (e : AgentEvent) : (eventText e).toList = (outgoing e).render := by
  simp [eventText, sequenceText, outgoing, Outgoing.render, Outgoing.lines, fieldLine]

theorem oneLine_of_printable {cs : List Char} (printable : ∀ c ∈ cs, JsonText.Printable c) :
    OneLine cs := by
  intro c member
  have shown := printable c member
  constructor <;> rintro rfl <;> exact absurd shown.1 (by decide)

theorem sound_outgoing {e : AgentEvent} (plain : plainName e.eventType = true) :
    (outgoing e).Sound := by
  have digits : ∀ c ∈ intText e.sequence, JsonText.Printable c :=
    fun c member => JsonText.printable_of_numberChar (JsonText.intText_numeric c member)
  simp only [plainName, Bool.and_eq_true, List.all_eq_true, bne_iff_ne] at plain
  refine ⟨?_, plain.2, ?_, oneLine_of_printable (JsonText.printable_text _)⟩
  · rintro id ⟨⟩
    refine ⟨oneLine_of_printable digits, fun null => ?_⟩
    exact absurd (digits _ null).1 (by decide)
  · intro empty
    have blank : e.eventType = "" := String.toList_eq_nil_iff.mp empty
    simp [blank] at plain

theorem sound_outgoingEnd : outgoingEnd.Sound where
  id := by simp [outgoingEnd]
  name := by simp [outgoingEnd, OneLine]
  named := by simp [outgoingEnd]
  data := oneLine_of_printable (JsonText.printable_text _)

theorem toList_agentEvents (events : List AgentEvent) :
    (agentEvents events).flatMap String.toList =
      (events.map outgoing ++ [outgoingEnd]).flatMap Outgoing.render := by
  have last : "event: stream.end\ndata: \x7b\x7d\n\n".toList = outgoingEnd.render := by decide
  rw [agentEvents, List.flatMap_append, List.flatMap_append, List.flatMap_map, List.flatMap_map,
    List.flatMap_singleton, List.flatMap_singleton, last]
  simp only [toList_eventText]

/-- The bytes of the chunks decode to the chunks' texts one after the other. -/
theorem decode_responseBytes (chunks : List String) : ∃ text,
    decodeUtf8 (responseBytes chunks) = some text ∧ text.toList = chunks.flatMap String.toList := by
  have encoded : ∃ text, responseBytes chunks = encodeUtf8 text ∧
      text.toList = chunks.flatMap String.toList := by
    induction chunks with
    | nil => exact ⟨"", by decide, rfl⟩
    | cons chunk chunks ih =>
      obtain ⟨text, bytes, chars⟩ := ih
      refine ⟨chunk ++ text, ?_, ?_⟩
      · rw [Documents.encodeUtf8_append, ← bytes]
        rfl
      · rw [String.toList_append, chars, List.flatMap_cons]
  obtain ⟨text, bytes, chars⟩ := encoded
  exact ⟨text, by rw [bytes, Documents.decodeUtf8_encodeUtf8], chars⟩

/-! ## What the client reads -/

theorem readMessage_text (id name : List Char) (j : Json) :
    readMessage ⟨id, name, JsonText.text j⟩ =
      some ⟨String.ofList id, String.ofList name, j⟩ := by
  rw [readMessage, JsonReader.loads_text, Option.map_some]

theorem messages_received (events : List AgentEvent) (last : List Char) :
    (received last (events.map outgoing ++ [outgoingEnd])).mapM readMessage =
      some (events.map messageOf ++
        [⟨lastId (String.ofList last) events, "stream.end", .obj []⟩]) := by
  induction events generalizing last with
  | nil => simp [received, outgoingEnd, readMessage_text, lastId]
  | cons e events ih =>
    have head : readMessage ⟨intText e.sequence, e.eventType.toList,
        JsonText.text (.obj (eventPayload e))⟩ = some (messageOf e) := by
      rw [readMessage_text, String.ofList_toList]
      rfl
    have held : lastId (String.ofList last) (e :: events) = lastId (sequenceText e) events := by
      rw [lastId, lastId, List.getLast?_cons]
      cases events.getLast? <;> rfl
    have rest := ih (intText e.sequence)
    rw [held, List.map_cons, List.cons_append, received, List.mapM_cons]
    simp only [outgoing, Option.getD_some] at rest ⊢
    rw [head, rest]
    rfl

theorem receive_of_plain {events : List AgentEvent}
    (plain : ∀ e ∈ events, plainName e.eventType = true) :
    receive (responseBytes (agentEvents events)) =
      some (events.map messageOf ++ [endMessage events]) := by
  obtain ⟨text, decoded, chars⟩ := decode_responseBytes (agentEvents events)
  have sound : ∀ o ∈ events.map outgoing ++ [outgoingEnd], o.Sound := by
    intro o member
    rcases List.mem_append.mp member with event | last
    · obtain ⟨e, own, rfl⟩ := List.mem_map.mp event
      exact sound_outgoing (plain e own)
    · rw [List.mem_singleton.mp last]
      exact sound_outgoingEnd
  rw [receive, decoded, Option.bind_some, chars, toList_agentEvents, parse_render sound,
    messages_received]
  rfl

theorem clientEvent_messageOf (e : AgentEvent) : clientEvent (messageOf e).data =
    some ⟨e.sequence, e.eventType, e.node, e.safeSummary, e.payloadJson⟩ := by
  have node : asOptionalText (Grounding.optional (e.node.map .str)) = some e.node := by simp
  have sequence : asSequence (.int e.sequence) = some e.sequence := rfl
  simp [clientEvent, messageOf, eventPayload, Json.asDict, Json.asStr, node, sequence]

/-- The stream delimits itself: its bytes give back one message for each event, in order and
with all that the event says, and then the message that ends the stream. -/
theorem receive_agentEvents (events : List AgentEvent)
    (named : ∀ e ∈ events, e.eventType ∈ runtimeEvents) :
    receive (responseBytes (agentEvents events)) =
        some (events.map messageOf ++ [endMessage events]) ∧
      ∀ e ∈ events, clientEvent (messageOf e).data =
        some ⟨e.sequence, e.eventType, e.node, e.safeSummary, e.payloadJson⟩ :=
  ⟨receive_of_plain fun e member => plainName_of_named (named e member),
    fun e _ => clientEvent_messageOf e⟩

/-- A summary with both line ends, a letter beyond ASCII, and a payload that tries to close the
frame. -/
def noisyEvent : AgentEvent where
  runId := 1
  organizationId := 2
  sequence := 3
  eventType := "run.rejectd"
  node := none
  payloadJson := [("note", .arr [.str "\r\n\r\nevent: stream.end\n\n"])]
  safeSummary := "café\n\n"

theorem receive_noisyEvent :
    receive (responseBytes (agentEvents [noisyEvent, noisyEvent])) =
      some [messageOf noisyEvent, messageOf noisyEvent, endMessage [noisyEvent, noisyEvent]] :=
  (receive_agentEvents [noisyEvent, noisyEvent] (by decide)).1

/-! ## The runtime's own names -/

theorem named_draft {run : AgentRun} {stage : Stage} {draft : Draft run}
    (prepared : stage.draft run = some draft) : draft.eventType ∈ runtimeEvents := by
  have names : "run.started" ∈ runtimeEvents ∧ "node.completed" ∈ runtimeEvents ∧
      "approval.required" ∈ runtimeEvents ∧ "run.failed" ∈ runtimeEvents ∧
      "run.completed" ∈ runtimeEvents := by decide
  obtain ⟨started, completed, required, failed, finalized⟩ := names
  unfold Stage.draft at prepared
  split at prepared
  · cases prepared
    exact started
  · cases prepared
  · cases prepared
    exact completed
  · cases prepared
    exact required
  · cases prepared
    exact failed
  · unfold finalizeApprovedRun at prepared
    split at prepared
    · cases prepared
      exact finalized
    · cases prepared

theorem named_decision {run : AgentRun} {request : ApprovalRequest} {now : Instant}
    {draft : Draft run} (decided : decideRun run request now = .ok draft) :
    draft.eventType ∈ runtimeEvents := by
  have eventType := (decideRun_checked decided).2.2.1
  have status : decisionStatus request.decision = some draft.changed.status :=
    (decideRun_ok decided).decision
  rcases decisionStatus_cases status with ⟨text, _⟩ | ⟨text, _⟩ | ⟨text, _⟩ <;>
    · rw [eventType, text]
      decide

/-- Every event in the store has one of the runtime's names. -/
def EventsNamed (s : AgentStore) : Prop := ∀ e ∈ s.events, e.eventType ∈ runtimeEvents

/-- So does the event that a session is about to commit. -/
def DraftNamed : AgentSession → Prop
  | .writing _ draft _ _ => draft.eventType ∈ runtimeEvents
  | _ => True

theorem draftNamed_acting {s s' : AgentStore} {l l' : AgentSession} {e : AgentInput}
    (acts : Acts s l e s' l') : DraftNamed l' := by
  cases acts with
  | decided drafted => exact named_decision drafted
  | prepared drafted => exact named_draft drafted
  | @committed run draft sequence next => cases next <;> trivial
  | _ => trivial

theorem eventsNamed_acts {s s' : AgentStore} {l l' : AgentSession} {e : AgentInput}
    (acts : Acts s l e s' l') (named : EventsNamed s) (drafted : DraftNamed l) :
    EventsNamed s' := by
  have createdNamed : "run.created" ∈ runtimeEvents := by decide
  rcases events_cases acts with same | ⟨new, _, first⟩ | ⟨run, draft, sequence, _, rfl, _, more⟩
  · rwa [EventsNamed, same]
  · rw [EventsNamed, first]
    exact List.forall_mem_append.mpr ⟨named, List.forall_mem_singleton.mpr createdNamed⟩
  · rw [EventsNamed, more]
    exact List.forall_mem_append.mpr ⟨named, List.forall_mem_singleton.mpr drafted⟩

theorem eventsNamed_step {c d : System AgentDatabase AgentSession} {e : Event AgentInput}
    (step : AgentStep c e d)
    (named : Holds (fun d => EventsNamed d.toAgentStore) (fun _ _ l => DraftNamed l) c) :
    Holds (fun d => EventsNamed d.toAgentStore) (fun _ _ l => DraftNamed l) d := by
  refine step.holds named ?_ ?_
  · intro s l done
    have acts := act_acts done
    exact ⟨eventsNamed_acts acts named.1 (named.2 e.session), draftNamed_acting acts⟩
  · exact fun s l done j other before => before

theorem eventsNamed {transitions : List AgentTransition} {final : System AgentDatabase AgentSession}
    (run : AgentRunning transitions final) : EventsNamed final.shared.toAgentStore := by
  have start : Holds (fun d => EventsNamed d.toAgentStore) (fun _ _ l => DraftNamed l) initial :=
    ⟨fun e member => absurd member List.not_mem_nil, fun _ => trivial⟩
  exact (run.always _ (fun c e d before step => eventsNamed_step step before) start).2.1

/-- Whatever the sessions have done, the body that answers a client above its cursor is read
back as the events it stands for. -/
theorem receive_stream {transitions : List AgentTransition} {final : System AgentDatabase AgentSession}
    (run : AgentRunning transitions final) {runId : UUID} {after : Nat} {events : List AgentEvent}
    (answers : Answers AgentEvent.sequence (final.shared.eventsOf runId) after events) :
    receive (responseBytes (agentEvents events)) =
      some (events.map messageOf ++ [endMessage events]) := by
  refine receive_of_plain fun e member => ?_
  have stored := List.mem_of_mem_filter (answers.entries.mem_iff.mp member)
  exact plainName_of_named (eventsNamed run e (List.mem_of_mem_filter stored))

end CoolProof.Agents
