import CoolProof.AgentLifecycle
import CoolProof.Library.Loops
import CoolProof.ProviderText
import Mathlib.Data.List.Dedup

/-! Citations over revise cycles. An execution extends the citations of the last checkpoint
and replaces its grounding, so what a reviewer is shown is current as long as nothing that
was cited before has gone from the new grounding. -/

namespace CoolProof.Agents
open Calendar JsonDocument Loops Uuid Models Tables Grounding Runs

/-- The citations of a resolved grounding. -/
def cited (grounding : Dict) : List String :=
  match grounding.get "citations" with
  | some (.arr values) => values.filterMap Json.asStr
  | _ => []

/-- The citations in a state as it is stored. -/
def storedCitations (stateJson : Dict) : List String := cited stateJson

/-- The citations of the grounding in a state as it is stored. -/
def groundingCitations (stateJson : Dict) : List String :=
  match stateJson.get "grounding" with
  | some (.obj grounding) => cited grounding
  | _ => []

/-- The citations of a stored state are those of its grounding, each once. -/
structure Current (stateJson : Dict) : Prop where
  nodup : (storedCitations stateJson).Nodup
  exact : ∀ c, c ∈ storedCitations stateJson ↔ c ∈ groundingCitations stateJson

/-- Whatever waits for approval shows current citations. -/
def CitationsCurrent (s : AgentStore) : Prop :=
  ∀ id row, s.run id = some row → row.status = .waitingApproval → Current row.stateJson

/-- A set of strings is iterated in some order, each element once. -/
def Host.IteratesSets (host : Host) : Prop :=
  ∀ values, (host.setOrder values).Nodup ∧ ∀ c, c ∈ host.setOrder values ↔ c ∈ values

/-- A request that sends a waiting run back. -/
structure Revises (request : ApprovalRequest) (row : AgentRun) : Prop extends
    Decision request row where
  decision : request.decision = "revise"

/-- If a request sends a run back and its next execution reaches the gate, everything cited
so far is cited by the new grounding. -/
def KeepsCitations (rt : Runtime) (s : AgentStore) : AgentRequest → Prop
  | .start _ _ => True
  | .approve request _ env => ∀ row state grounding final, s.run request.runId = some row →
      Revises request row → loadState row = some state →
      resolveGrounding rt.collate env.tables row.organizationId row.projectId row.inputJson
        env.now = .ok grounding →
      runGraph rt env row state = .ok final →
      ∀ c ∈ storedCitations row.stateJson, c ∈ cited grounding

/-! ## One execution -/

theorem mem_extendNew (citations more : List String) (c : String) :
    c ∈ extendNew citations more ↔ c ∈ citations ∨ c ∈ more := by
  induction more generalizing citations with
  | nil => simp [extendNew]
  | cons x more ih =>
    have step : extendNew citations (x :: more) =
        extendNew (if x ∈ citations then citations else citations ++ [x]) more := rfl
    rw [step, ih]
    split
    · rename_i known
      constructor
      · exact Or.imp_right (List.mem_cons_of_mem x)
      · rintro (old | new)
        · exact .inl old
        · rcases List.mem_cons.mp new with rfl | later
          · exact .inl known
          · exact .inr later
    · simp [or_assoc]

theorem nodup_extendNew {citations : List String} (nodup : citations.Nodup)
    (more : List String) : (extendNew citations more).Nodup := by
  induction more generalizing citations with
  | nil => exact nodup
  | cons x more ih =>
    have step : extendNew citations (x :: more) =
        extendNew (if x ∈ citations then citations else citations ++ [x]) more := rfl
    rw [step]
    apply ih
    split
    · exact nodup
    · rename_i unknown
      exact List.nodup_append.mpr ⟨nodup, List.nodup_singleton x, by
        rintro a known b new rfl
        exact unknown (List.mem_singleton.mp new ▸ known)⟩

theorem mem_groundedCitations {host : Host} (iterates : host.IteratesSets) (grounding : Dict)
    (c : String) : c ∈ groundedCitations host grounding ↔ c ∈ cited grounding := by
  unfold groundedCitations cited
  cases grounding.get "citations" with
  | none => rfl
  | some value =>
    cases value with
    | arr values => exact (iterates _).2 c
    | _ => rfl

/-- A node with a grounding adds the citations of the grounding. -/
structure Cites (host : Host) (before after : GraphInput) : Prop where
  grounding : after.grounding = before.grounding
  citations : after.citations =
    extendNew before.citations (groundedCitations host before.grounding)

theorem record_keeps (name summary : String) (facts : Dict) (s : CoolProofState) :
    (record name summary facts s).grounding = s.grounding ∧
      (record name summary facts s).citations = s.citations := by
  unfold record
  split
  · exact ⟨rfl, rfl⟩
  split
  · exact ⟨rfl, rfl⟩
  split <;> exact ⟨rfl, rfl⟩

theorem invoke_cites {host : Host} {provider : LLMProvider} {name : String}
    {before after : GraphInput} (grounded : before.grounding ≠ [])
    (h : invoke host provider name before = .ok after) : Cites host before after := by
  obtain ⟨output, rfl⟩ := invoke_ok h
  have same : (before.state "langgraph" "langgraph" none).grounding ≠ [] := grounded
  rw [absorb_grounded host same]
  exact ⟨(record_keeps _ _ _ _).1, (record_keeps _ _ _ _).2⟩

/-- The nodes of a graph, one after the other. -/
theorem nodes_cite {host : Host} {provider : LLMProvider} (iterates : host.IteratesSets)
    {names : List String} {before after : GraphInput} (grounded : before.grounding ≠ [])
    (h : (names.map (invoke host provider)).foldlM (fun raw node => node raw) before = .ok after) :
    after.grounding = before.grounding ∧ (before.citations.Nodup → after.citations.Nodup) ∧
      ∀ c, c ∈ after.citations ↔
        c ∈ before.citations ∨ (names ≠ [] ∧ c ∈ cited before.grounding) := by
  induction names generalizing before with
  | nil =>
    cases h
    exact ⟨rfl, id, by simp⟩
  | cons name names ih =>
    rw [List.map_cons, List.foldlM_cons] at h
    obtain ⟨next, first, rest⟩ := bind_ok_iff.mp h
    have cites := invoke_cites grounded first
    obtain ⟨grounding, nodup, members⟩ := ih (cites.grounding ▸ grounded) rest
    refine ⟨grounding.trans cites.grounding, fun distinct => nodup ?_, fun c => ?_⟩
    · rw [cites.citations]
      exact nodup_extendNew distinct _
    · rw [members, cites.citations, mem_extendNew, mem_groundedCitations iterates,
        cites.grounding]
      constructor
      · rintro ((old | new) | ⟨_, new⟩)
        · exact .inl old
        · exact .inr ⟨by simp, new⟩
        · exact .inr ⟨by simp, new⟩
      · rintro (old | ⟨_, new⟩)
        · exact .inl (.inl old)
        · exact .inl (.inr new)

theorem resolveGrounding_ne_nil {collate : String → String → Bool} {t : GroundingTables}
    {organizationId : UUID} {projectId : Option UUID} {inputData grounding : Dict} {now : Instant}
    (h : resolveGrounding collate t organizationId projectId inputData now = .ok grounding) :
    grounding ≠ [] := by
  obtain ⟨project, _, rest⟩ := bind_ok_iff.mp h
  obtain ⟨heat, _, rest⟩ := bind_ok_iff.mp rest
  obtain ⟨portfolio, _, rest⟩ := bind_ok_iff.mp rest
  obtain ⟨interventions, _, last⟩ := bind_ok_iff.mp rest
  cases last
  simp

/-- The state at the gate cites what the loaded state cited and what its grounding cites. -/
theorem runGraph_cites {rt : Runtime} (inOrder : rt.graph.RunsInOrder)
    (iterates : rt.host.IteratesSets) {env : Surroundings} {run : AgentRun}
    {state final : CoolProofState} (h : runGraph rt env run state = .ok final) :
    ∃ grounding, resolveGrounding rt.collate env.tables run.organizationId run.projectId
        run.inputJson env.now = .ok grounding ∧ final.grounding = grounding ∧
      (state.citations.Nodup → final.citations.Nodup) ∧
      ∀ c, c ∈ final.citations ↔ c ∈ state.citations ∨ c ∈ cited grounding := by
  unfold runGraph at h
  cases resolved : resolveGrounding rt.collate env.tables run.organizationId run.projectId
      run.inputJson env.now with
  | error e =>
    rw [resolved] at h
    cases h
  | ok grounding =>
    rw [resolved] at h
    dsimp only at h
    rw [inOrder] at h
    split at h
    · cases h
    · rename_i result ran
      have ends := Except.ok.inj h
      subst ends
      obtain ⟨same, nodup, members⟩ := nodes_cite iterates (resolveGrounding_ne_nil resolved) ran
      refine ⟨grounding, rfl, same, nodup, fun c => (members c).trans ?_⟩
      have nodes : agentNames ≠ [] := by simp [agentNames]
      simp only [nodes, ne_eq, not_false_eq_true, true_and]
      rfl

/-! ## Stored states -/

theorem asTexts_eq_some {value : Json} {values : List String} (h : asTexts value = some values) :
    value = texts values := by
  cases value with
  | arr items =>
    have decoded : items.mapM Json.asStr = some values := h
    have encoded : items = values.map .str := by
      clear h
      induction items generalizing values with
      | nil => cases decoded; rfl
      | cons item items ih =>
        rw [List.mapM_cons] at decoded
        obtain ⟨s, first, rest⟩ := Option.bind_eq_some_iff.mp decoded
        obtain ⟨tail, later, same⟩ := Option.bind_eq_some_iff.mp rest
        cases same
        rw [ih later, List.map_cons]
        cases item with
        | str text => cases first; rfl
        | _ => cases first
    rw [encoded, texts]
  | _ => cases h

theorem cited_texts {d : Dict} {values : List String} (h : d.get "citations" = some (texts values)) :
    cited d = values := by
  have read : ∀ values : List String, (values.map Json.str).filterMap Json.asStr = values := by
    intro values
    rw [List.filterMap_map]
    exact List.filterMap_some
  rw [cited, h]
  exact read values

/-- What is loaded are the stored citations. -/
theorem storedCitations_load {run : AgentRun} {state : CoolProofState}
    (loads : loadState run = some state) : storedCitations run.stateJson = state.citations := by
  have field_read : field asTexts [] run.stateJson "citations" = some state.citations := by
    unfold loadState at loads
    simp only [Option.bind_eq_bind, Option.bind_eq_some_iff, Option.some.injEq] at loads
    obtain ⟨_, _, _, _, _, _, _, _, citations, read, _, _, _, _, _, _, rfl⟩ := loads
    exact read
  unfold field at field_read
  cases stored : run.stateJson.get "citations" with
  | none =>
    rw [stored] at field_read
    rw [storedCitations, cited, stored]
    exact Option.some.inj field_read
  | some value =>
    rw [stored] at field_read
    rw [asTexts_eq_some field_read] at stored
    exact cited_texts stored

theorem storedCitations_gated (final : CoolProofState) (run : AgentRun) :
    storedCitations (gatedRun final run).stateJson = final.citations := cited_texts rfl

theorem groundingCitations_gated (final : CoolProofState) (run : AgentRun) :
    groundingCitations (gatedRun final run).stateJson = cited final.grounding := rfl

/-- After an execution the citations are current exactly when the new grounding cites all
that was cited before. -/
theorem current_gated_iff {rt : Runtime} (inOrder : rt.graph.RunsInOrder)
    (iterates : rt.host.IteratesSets) {env : Surroundings} {run : AgentRun}
    {state final : CoolProofState} {grounding : Dict} (nodup : state.citations.Nodup)
    (resolved : resolveGrounding rt.collate env.tables run.organizationId run.projectId
      run.inputJson env.now = .ok grounding)
    (h : runGraph rt env run state = .ok final) :
    Current (gatedRun final run).stateJson ↔ ∀ c ∈ state.citations, c ∈ cited grounding := by
  obtain ⟨g, again, same, distinct, members⟩ := runGraph_cites inOrder iterates h
  rw [resolved] at again
  cases again
  constructor
  · intro current c old
    have exact := current.exact c
    rw [storedCitations_gated, groundingCitations_gated, members, same] at exact
    exact exact.mp (.inl old)
  · intro within
    refine ⟨storedCitations_gated final run ▸ distinct nodup, fun c => ?_⟩
    rw [storedCitations_gated, groundingCitations_gated, members, same]
    exact ⟨fun h => h.elim (within c) id, .inr⟩

/-! ## One request -/

theorem CitationsCurrent.of_moves {s t : AgentStore} {changed : AgentRun} {entries : List Entry}
    {given : List AgentApproval} (moves : Moves s t changed entries given)
    (before : CitationsCurrent s) :
    CitationsCurrent t ↔ (changed.status = .waitingApproval → Current changed.stateJson) := by
  constructor
  · exact fun after => after changed.id changed moves.row
  · intro mine id row stored waiting
    by_cases own : id = changed.id
    · subst own
      rw [moves.row] at stored
      cases stored
      exact mine waiting
    · rw [(moves.others id own).row] at stored
      exact before id row stored waiting

theorem CitationsCurrent.of_created {s made : AgentStore} {new : NewRun}
    (create : createRun s new = some made) (before : CitationsCurrent s) :
    CitationsCurrent made := by
  intro id row stored waiting
  rw [(createRun_some create).2.1] at stored
  split at stored
  · cases stored
    cases waiting
  · exact before id row stored waiting

/-- A first execution cites nothing but its grounding. -/
theorem start_current {rt : Runtime} (inOrder : rt.graph.RunsInOrder)
    (iterates : rt.host.IteratesSets) (env : Surroundings) {s : AgentStore}
    (request : StartRequest) (before : CitationsCurrent s) :
    CitationsCurrent (startAgentRun rt env s request).1 := by
  rcases start_moves rt env (s := s) request with same |
    ⟨made, state, changed, entries, create, loads, moves, executed⟩
  · rw [same]
    exact before
  · rw [CitationsCurrent.of_moves moves (before.of_created create)]
    have nothing : state.citations = [] := (storedCitations_load loads).symm
    cases executed with
    | failed ran => exact fun waiting => nomatch waiting
    | gated ran =>
      intro _
      obtain ⟨grounding, resolved, _⟩ := runGraph_cites inOrder iterates ran
      have distinct : state.citations.Nodup := nothing ▸ List.nodup_nil
      refine (current_gated_iff inOrder iterates distinct resolved ran).mpr ?_
      simp [nothing]

/-- A decision keeps citations current exactly under the condition on what it sends back. -/
theorem approve_current_iff {rt : Runtime} (inOrder : rt.graph.RunsInOrder)
    (iterates : rt.host.IteratesSets) (env : Surroundings) {s : AgentStore}
    (request : ApprovalRequest) (now : Instant)
    (loads : ∀ run, s.run request.runId = some run → (loadState run).isSome)
    (before : CitationsCurrent s) :
    CitationsCurrent (approveAgentRun rt env s request now).1 ↔
      KeepsCitations rt s (.approve request now env) := by
  rcases approve_moves rt env request now loads with ⟨same, refused⟩ |
    ⟨run, changed, entries, found, decision, moves, _, followed⟩
  · rw [same]
    refine iff_of_true before ?_
    intro row _ _ _ stored revises
    exact absurd revises.toDecision (refused row stored)
  · rw [CitationsCurrent.of_moves moves before]
    have only : ∀ row, s.run request.runId = some row → row = run := by
      intro row stored
      rw [found] at stored
      exact (Option.some.inj stored).symm
    have old := before request.runId run found decision.waiting
    generalize text : request.decision = word at followed
    cases followed with
    | rejected | completed =>
      refine iff_of_true (fun waiting => nomatch waiting) ?_
      intro row _ _ _ _ revises
      rw [revises.decision] at text
      exact absurd text (by decide)
    | @revised state _ _ loaded executed =>
      cases executed with
      | failed ran =>
        refine iff_of_true (fun waiting => nomatch waiting) ?_
        intro row again grounding final stored _ reloads _ completes
        obtain rfl := only row stored
        rw [loaded] at reloads
        cases reloads
        have stops : runGraph rt env row state = .error _ := ran
        rw [completes] at stops
        cases stops
      | @gated final ran =>
        have cites := storedCitations_load loaded
        obtain ⟨grounding, resolved, _⟩ := runGraph_cites inOrder iterates ran
        have distinct : state.citations.Nodup := cites ▸ old.nodup
        have iff := current_gated_iff inOrder iterates distinct resolved ran
        rw [← cites] at iff
        constructor
        · intro current row again g last stored _ _ resolves _
          obtain rfl := only row stored
          have same : g = grounding := by
            have twice := resolves.symm.trans resolved
            exact Except.ok.inj twice
          rw [same]
          exact iff.mp (current rfl)
        · intro keeps _
          exact iff.mpr (keeps run state grounding final found ⟨decision, text⟩ loaded resolved ran)

/-! ## Runs of requests -/

/-- One request after another. -/
def Serves (rt : Runtime) (s : AgentStore) (request : AgentRequest) (t : AgentStore) : Prop :=
  t = serve rt s request

/-- In every state of a run of requests, whatever waits for approval shows current citations,
exactly when no run is sent back to a gate whose new grounding lacks a citation it has. -/
theorem citations_current_iff {rt : Runtime} (inOrder : rt.graph.RunsInOrder)
    (iterates : rt.host.IteratesSets)
    {transitions : List (Transition AgentStore AgentRequest)} {final : AgentStore}
    (run : Run (Serves rt) AgentStore.empty transitions final) :
    (∀ s ∈ visited AgentStore.empty transitions, CitationsCurrent s) ↔
      ∀ x ∈ transitions, KeepsCitations rt x.source x.label := by
  refine run.visited_iff_steps (fun s => ∃ asked, ∀ id, Recorded asked s id) CitationsCurrent
    ?_ ?_ ⟨[], fun id => .inl ⟨rfl, rfl, rfl⟩⟩ (fun id row stored => nomatch stored)
  · rintro s request t ⟨asked, recorded⟩ rfl
    exact ⟨_, recorded_serve rt recorded request⟩
  · rintro s request t ⟨asked, recorded⟩ before rfl
    cases request with
    | start request env =>
      exact iff_of_true (start_current inOrder iterates env request before) trivial
    | approve request now env =>
      refine approve_current_iff inOrder iterates env request now (fun run found => ?_) before
      rcases recorded request.runId with unstarted | ⟨row, h, lives⟩
      · rw [unstarted.missing] at found
        cases found
      · rw [lives.stored] at found
        cases found
        exact lives.loads

/-! ## Evidence that is removed between two executions -/

/-- A graph that runs its nodes in order, over a provider with nothing to say. -/
def plainRuntime : Runtime where
  host := ⟨fun _ => "", List.dedup⟩
  collate := fun _ _ => true
  graph := fun nodes channels => nodes.foldlM (fun raw node => node raw) channels

theorem plainRuntime_runsInOrder : plainRuntime.graph.RunsInOrder := fun _ _ => rfl

theorem plainRuntime_iteratesSets : plainRuntime.host.IteratesSets :=
  fun values => ⟨List.nodup_dedup values, fun _ => List.mem_dedup⟩

/-- One intervention with the listed evidence in one document. -/
def catalogue (evidence : List InterventionEvidence) : GroundingTables where
  projects := []
  heatAnalyses := []
  portfolioRuns := []
  interventions := [⟨3, 1, "Cool roof", "surface", .one, .one, [], none, true⟩]
  interventionEvidence := evidence
  documents := [⟨4, 1, none, "roofs.txt", "text/plain", "1/4", "", .ready, [], 1⟩]
  documentChunks := [⟨5, 1, 4, 0, none, "Roofs.", "roofs.", none, []⟩]

def roofEvidence : InterventionEvidence := ⟨6, 1, 3, 4, 5, "Roofs cool.", none, [], 0⟩

def meets (evidence : List InterventionEvidence) : Surroundings :=
  ⟨catalogue evidence, 0, constantProvider quietOutput⟩

def startRequest : AgentRequest :=
  .start ⟨⟨7, 1, none, "thread", []⟩, .analyst⟩ (meets [roofEvidence])

def reviseRequest : ApprovalRequest := ⟨7, 1, 2, .manager, "revise", none⟩

/-- The evidence that the first execution cites is gone when the run is sent back. -/
def removedBetween : List AgentRequest := [startRequest, .approve reviseRequest 0 (meets [])]

def serveTrace (rt : Runtime) (requests : List AgentRequest) :
    List (Transition AgentStore AgentRequest) :=
  trace (fun request s => serve rt s request) AgentStore.empty requests

theorem run_serveTrace (rt : Runtime) (requests : List AgentRequest) :
    Run (Serves rt) AgentStore.empty (serveTrace rt requests) (serveAll rt requests) :=
  run_trace (fun request s => serve rt s request) AgentStore.empty requests

theorem citations_current_iff_removed :
    (∀ s ∈ visited AgentStore.empty (serveTrace plainRuntime removedBetween), CitationsCurrent s) ↔
      ∀ x ∈ serveTrace plainRuntime removedBetween, KeepsCitations plainRuntime x.source x.label :=
  citations_current_iff plainRuntime_runsInOrder plainRuntime_iteratesSets
    (run_serveTrace plainRuntime removedBetween)

/-- The reviewer of the second execution is shown the removed evidence. -/
theorem removed_evidence_still_cited : ¬∀ (rt : Runtime), rt.graph.RunsInOrder →
    rt.host.IteratesSets → ∀ (transitions : List (Transition AgentStore AgentRequest)) final,
      Run (Serves rt) AgentStore.empty transitions final →
        ∀ s ∈ visited AgentStore.empty transitions, CitationsCurrent s := by
  intro current
  have always := current plainRuntime plainRuntime_runsInOrder plainRuntime_iteratesSets _ _
    (run_serveTrace plainRuntime removedBetween)
  have keeps := (citations_current_iff plainRuntime_runsInOrder plainRuntime_iteratesSets
    (run_serveTrace plainRuntime removedBetween)).mp always
    ((serveTrace plainRuntime removedBetween).get ⟨1, by decide⟩) (List.get_mem _ _)
  have gone := keeps _ _ _ _ rfl ⟨⟨by decide, .inl rfl, rfl, rfl⟩, rfl⟩ rfl rfl rfl
    ("evidence:" ++ Uuid.toString 6) (List.mem_singleton.mpr rfl)
  have none_cited : ("evidence:" ++ Uuid.toString 6) ∈ ([] : List String) := gone
  cases none_cited

end CoolProof.Agents
