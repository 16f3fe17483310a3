import CoolProof.AgentDurability
import CoolProof.ProviderAdapters

/-! Executing a run again. A run that is sent back starts from its last checkpoint, and each
node adds its answer to a field of its own. Merging a dictionary, citing what is cited and
putting a summary under its name change nothing the second time; appending an entry does. -/

namespace CoolProof.Agents
open Calendar JsonDocument Uuid Models Tables Grounding Loops

/-! ## One grounding at two times -/

/-- What the nodes read of a grounding. -/
structure SameReview (host : Host) (g h : Dict) : Prop where
  citations : h.get "citations" = g.get "citations"
  summaries : ∀ name, summaryForAgent host name h = summaryForAgent host name g

/-- The clock only tells whether the analysis is stale. -/
theorem resolveHeat_later {t : GroundingTables} {organizationId : UUID} {projectId : Option UUID}
    {refs : List Json} {now : Instant} {heat : Option Dict}
    (h : resolveHeat t organizationId projectId refs now = .ok heat) (later : Instant) :
    ∃ row : Option HeatAnalysis, heat = row.map (heatSummary now) ∧
      resolveHeat t organizationId projectId refs later = .ok (row.map (heatSummary later)) := by
  unfold resolveHeat at h ⊢
  obtain ⟨wanted, read, rest⟩ := bind_ok_iff.mp h
  simp only [bind_ok_iff]
  cases selected : selectHeat t organizationId projectId wanted with
  | none =>
    rw [selected] at rest
    unfold resolveRow at rest
    dsimp only at rest
    split_ifs at rest with asked
    · cases rest
      refine ⟨none, rfl, wanted, read, ?_⟩
      rw [selected]
      exact if_neg asked
  | some row =>
    rw [selected] at rest
    unfold resolveRow at rest
    dsimp only at rest
    split_ifs at rest with mismatched
    · cases rest
      refine ⟨some row, rfl, wanted, read, ?_⟩
      rw [selected]
      exact if_neg mismatched

/-- Over the same rows, what resolves once resolves at any time, and reads alike. -/
theorem resolveGrounding_later {collate : String → String → Bool} {t : GroundingTables}
    {organizationId : UUID} {projectId : Option UUID} {inputData : Dict} {now : Instant}
    {g : Dict} (h : resolveGrounding collate t organizationId projectId inputData now = .ok g)
    (host : Host) (later : Instant) :
    ∃ g', resolveGrounding collate t organizationId projectId inputData later = .ok g' ∧
      SameReview host g g' := by
  unfold resolveGrounding at h ⊢
  obtain ⟨project, named, h⟩ := bind_ok_iff.mp h
  obtain ⟨heat, analysed, h⟩ := bind_ok_iff.mp h
  obtain ⟨portfolio, planned, h⟩ := bind_ok_iff.mp h
  obtain ⟨interventions, listed, h⟩ := bind_ok_iff.mp h
  obtain ⟨row, rfl, again⟩ := resolveHeat_later analysed later
  cases h
  rw [named]
  refine ⟨_, bind_ok_iff.mpr ⟨_, rfl, bind_ok_iff.mpr ⟨_, again, bind_ok_iff.mpr ⟨_, planned,
    bind_ok_iff.mpr ⟨_, listed, rfl⟩⟩⟩⟩, ?_, fun name => ?_⟩
  · cases row <;> rfl
  · unfold summaryForAgent
    cases row <;> rfl

/-! ## One execution -/

/-- What an execution meets whose tenant changes no row. -/
def undisturbed (tables : GroundingTables) (now : Instant) : Surroundings :=
  ⟨tables, now, deterministicProvider⟩

/-- The entry that the analyst adds. -/
def analystEntry (host : Host) (g : Dict) : Dict :=
  Dict.merge [("summary", .str (summaryForAgent host "intervention_analyst" g))]
    [("agent", .str "intervention_analyst")]

/-- The state after the four nodes over the deterministic provider. -/
def governed (host : Host) (s : CoolProofState) : CoolProofState :=
  { s with
    input := []
    heatEvidence := s.heatEvidence.merge [("agent", .str "heat_intelligence")]
    interventionEvidence := s.interventionEvidence ++ [analystEntry host s.grounding]
    portfolio := s.portfolio.merge [("agent", .str "portfolio")]
    verification := s.verification.merge [("agent", .str "verification")]
    citations := citedAfter host s agentNames
    summaries := summariesAfter host s agentNames
    currentAgent := some "verification" }

/-- Of the facts, the keys of the context are scrubbed. -/
theorem safeProviderFacts_deterministic {name : String} (node : name ∈ agentNames) :
    safeProviderFacts (deterministicOutput name).facts = [("agent", .str name)] := by
  revert name
  decide

theorem runNodes_deterministic (host : Host) {s : CoolProofState} (grounded : s.grounding ≠ []) :
    runNodes host deterministicProvider agentNames s = .ok (governed host s) := by
  have absorbed : runNodes host deterministicProvider agentNames s =
      .ok (absorbAll host agentNames (agentNames.map deterministicOutput) s) := rfl
  rw [absorbed]
  unfold governed
  refine congrArg Except.ok ((absorbAll_grounded host grounded _ _ _ _).trans ?_)
  rw [safeProviderFacts_deterministic (by decide), safeProviderFacts_deterministic (by decide),
    safeProviderFacts_deterministic (by decide), safeProviderFacts_deterministic (by decide)]
  rfl

/-- With a deterministic provider the graph cannot fail once the grounding has resolved. -/
theorem runGraph_deterministic {rt : Runtime} (inOrder : rt.graph.RunsInOrder)
    {tables : GroundingTables} {now : Instant} {run : AgentRun} {state : CoolProofState}
    {g : Dict} (grounded : resolveGrounding rt.collate tables run.organizationId run.projectId
      run.inputJson now = .ok g) :
    runGraph rt (undisturbed tables now) run state =
      .ok ((governed rt.host { state with grounding := g }).channels.state
        (Uuid.toString run.id) (Uuid.toString run.organizationId)
        (run.projectId.map Uuid.toString)) := by
  have kept : CoolProofState.grounding { state with grounding := g } ≠ [] :=
    resolveGrounding_ne_nil grounded
  have done : nodesAfter rt (undisturbed tables now) agentNames.length
      { state with grounding := g }.channels =
        .ok (governed rt.host { state with grounding := g }).channels := by
    refine (nodesAfter_all ..).trans ((foldlM_invoke rt.host deterministicProvider agentNames
      { state with grounding := g }).trans ?_)
    rw [runNodes_deterministic rt.host kept]
    rfl
  rw [@runGraph_of_grounded rt inOrder (undisturbed tables now) run state g grounded, done]

/-! ## Executions over one grounding -/

/-- The governed fields after `n` executions over groundings that read like `g`. -/
structure Governed (host : Host) (g : Dict) (n : ℕ) (s : CoolProofState) : Prop where
  heatEvidence : s.heatEvidence = [("agent", .str "heat_intelligence")]
  interventionEvidence : s.interventionEvidence = List.replicate n (analystEntry host g)
  portfolio : s.portfolio = [("agent", .str "portfolio")]
  verification : s.verification = [("agent", .str "verification")]
  citations : s.citations = extendNew [] (groundedCitations host g)
  summaries : s.summaries = agentNames.map fun name => (name, summaryForAgent host name g)
  grounding : SameReview host g s.grounding

theorem extendNew_of_subset {citations more : List String} (known : ∀ c ∈ more, c ∈ citations) :
    extendNew citations more = citations := by
  induction more with
  | nil => rfl
  | cons c more ih =>
    have here := known c List.mem_cons_self
    have later := ih fun d member => known d (List.mem_cons_of_mem c member)
    have step : extendNew citations (c :: more) =
        extendNew (if c ∈ citations then citations else citations ++ [c]) more := rfl
    rw [step, if_pos here, later]

/-- Citing again what has been cited changes nothing. -/
theorem extendNew_again (citations more : List String) :
    extendNew (extendNew citations more) more = extendNew citations more :=
  extendNew_of_subset fun c member => (mem_extendNew citations more c).mpr (.inr member)

/-- Identifiers and payload are not governed. -/
theorem Governed.identified {host : Host} {g : Dict} {n : ℕ} {s : CoolProofState}
    (executed : Governed host g n s) (runId organizationId : String) (projectId : Option String)
    (input : Dict) (current : Option String) : Governed host g n { s with
      runId := runId
      organizationId := organizationId
      projectId := projectId
      input := input
      currentAgent := current } :=
  ⟨executed.heatEvidence, executed.interventionEvidence, executed.portfolio,
    executed.verification, executed.citations, executed.summaries, executed.grounding⟩

theorem SameReview.refl (host : Host) (g : Dict) : SameReview host g g := ⟨rfl, fun _ => rfl⟩

section Review

variable {host : Host} {g h : Dict} (alike : SameReview host g h)
include alike

theorem SameReview.entry : analystEntry host h = analystEntry host g := by
  unfold analystEntry
  rw [alike.summaries]

theorem SameReview.cited : groundedCitations host h = groundedCitations host g := by
  unfold groundedCitations
  rw [alike.citations]

/-- Four nodes cite what one does. -/
theorem SameReview.citedAfter_eq (s : CoolProofState) :
    citedAfter host { s with grounding := h } agentNames =
      extendNew s.citations (groundedCitations host g) := by
  unfold citedAfter agentNames
  simp only [List.foldl_cons, List.foldl_nil, alike.cited, extendNew_again]

/-- Over no summaries, or over those of the four nodes, the nodes leave their four. -/
theorem SameReview.summariesAfter_eq {s : CoolProofState}
    (lines : s.summaries = [] ∨
      s.summaries = agentNames.map fun name => (name, summaryForAgent host name g)) :
    summariesAfter host { s with grounding := h } agentNames =
      agentNames.map fun name => (name, summaryForAgent host name g) := by
  have written : summariesAfter host { s with grounding := h } agentNames =
      agentNames.map fun name => (name, summaryForAgent host name h) := by
    unfold summariesAfter
    rcases lines with lines | lines <;>
      · dsimp only
        rw [lines]
        rfl
  rw [written]
  simp only [alike.summaries]

/-- The first execution of a run, over a state that holds nothing. -/
theorem governed_first {s : CoolProofState} (heat : s.heatEvidence = [])
    (evidence : s.interventionEvidence = []) (portfolio : s.portfolio = [])
    (verification : s.verification = []) (uncited : s.citations = [])
    (silent : s.summaries = []) :
    Governed host g 1 (governed host { s with grounding := h }) where
  heatEvidence := by rw [governed, heat]; rfl
  interventionEvidence := by rw [governed, evidence, alike.entry]; rfl
  portfolio := by rw [governed, portfolio]; rfl
  verification := by rw [governed, verification]; rfl
  citations := by rw [governed, alike.citedAfter_eq, uncited]
  summaries := by rw [governed, alike.summariesAfter_eq (.inl silent)]
  grounding := alike

/-- Each further execution adds the analyst's entry once more, and nothing else. -/
theorem Governed.again {n : ℕ} {s : CoolProofState} (prior : Governed host g n s) :
    Governed host g (n + 1) (governed host { s with grounding := h }) where
  heatEvidence := by rw [governed, prior.heatEvidence]; rfl
  interventionEvidence := by
    rw [governed, prior.interventionEvidence, alike.entry, List.replicate_succ']
  portfolio := by rw [governed, prior.portfolio]; rfl
  verification := by rw [governed, prior.verification]; rfl
  citations := by rw [governed, alike.citedAfter_eq, prior.citations, extendNew_again]
  summaries := by rw [governed, alike.summariesAfter_eq (.inr prior.summaries)]
  grounding := alike

end Review

theorem grounded_of_runGraph {rt : Runtime} {env : Surroundings} {run : AgentRun}
    {state final : CoolProofState} (h : runGraph rt env run state = .ok final) :
    ∃ g, resolveGrounding rt.collate env.tables run.organizationId run.projectId run.inputJson
      env.now = .ok g := by
  unfold runGraph at h
  split at h
  · cases h
  · exact ⟨_, ‹_›⟩

/-- So an execution comes to the gate, with the governed fields that the nodes left. -/
theorem executed_deterministic {rt : Runtime} (inOrder : rt.graph.RunsInOrder)
    {tables : GroundingTables} {now : Instant} {run changed : AgentRun} {state : CoolProofState}
    {g h : Dict} {entries : List Entry}
    (executes : Executed rt (undisturbed tables now) run state changed entries)
    (grounded : resolveGrounding rt.collate tables run.organizationId run.projectId
      run.inputJson now = .ok h) : ∃ final, changed = gatedRun final run ∧ ∀ {n},
      Governed rt.host g n (governed rt.host { state with grounding := h }) →
        Governed rt.host g n final := by
  have runs := @runGraph_deterministic rt inOrder tables now run state h grounded
  cases executes with
  | failed stopped => cases runs.symm.trans stopped
  | gated ran =>
    have ends := Except.ok.inj (runs.symm.trans ran)
    subst ends
    exact ⟨_, rfl, fun governs => governs.identified _ _ _ _ none⟩

/-! ## Revise cycles -/

/-- A decision to revise, and the time at which the run is grounded again. -/
structure Revision where
  request : ApprovalRequest
  decidedAt : Instant
  groundedAt : Instant

/-- A reviewer of the run's organization sends it back. -/
structure Revision.Sends (r : Revision) (run : AgentRun) : Prop where
  target : r.request.runId = run.id
  organization : r.request.organizationId = run.organizationId
  role : r.request.reviewerRole = .manager ∨ r.request.reviewerRole = .admin
  decision : r.request.decision = "revise"
  valid : r.request.validBody = true

/-- One revise cycle. -/
def revise (rt : Runtime) (tables : GroundingTables) (s : AgentStore) (r : Revision) :
    AgentStore :=
  (approveAgentRun rt (undisturbed tables r.groundedAt) s r.request r.decidedAt).1

def reviseAll (rt : Runtime) (tables : GroundingTables) (s : AgentStore)
    (revisions : List Revision) : AgentStore :=
  revisions.foldl (revise rt tables) s

/-- A run that waits for approval after `n` executions. -/
structure Stands (host : Host) (g : Dict) (n : ℕ) (first row : AgentRun) : Prop where
  columns : runColumns row = runColumns first
  waiting : row.status = .waitingApproval
  stored : ∃ state name last, row.stateJson = checkpoint state.dump name last ∧
    Governed host g n state

section Cycles

variable {rt : Runtime} (inOrder : rt.graph.RunsInOrder) {tables : GroundingTables} {g : Dict}
  {now : Instant} {first : AgentRun}
  (resolved : resolveGrounding rt.collate tables first.organizationId first.projectId
    first.inputJson now = .ok g)
include inOrder resolved

/-- A revise cycle always comes back to the gate, after one execution more. -/
theorem stands_revise {s : AgentStore} {row : AgentRun} {n : ℕ}
    (found : s.run first.id = some row) (stands : Stands rt.host g n first row) {r : Revision}
    (sends : r.Sends first) : ∃ next, (revise rt tables s r).run first.id = some next ∧
      Stands rt.host g (n + 1) first next := by
  obtain ⟨state, name, last, stored, executed⟩ := stands.stored
  have columns := stands.columns
  simp only [runColumns, Prod.mk.injEq] at columns
  obtain ⟨id, organization, project, thread, input⟩ := columns
  rw [← sends.target] at found
  have decision : Decision r.request row :=
    ⟨sends.valid, sends.role, sends.organization.trans organization.symm, stands.waiting⟩
  have loads := loadState_checkpoint stored
  have readable : ∀ run, s.run r.request.runId = some run → (loadState run).isSome := by
    intro run again
    cases found.symm.trans again
    rw [loads]
    rfl
  rcases approve_moves rt (undisturbed tables r.groundedAt) r.request r.decidedAt readable with
    ⟨_, refused⟩ | ⟨run, changed, entries, again, _, moves, same, followed⟩
  · exact absurd decision (refused row found)
  · cases found.symm.trans again
    obtain ⟨h, grounded, alike⟩ := resolveGrounding_later resolved rt.host r.groundedAt
    rw [← organization, ← project, ← input] at grounded
    have written := moves.row
    rw [same, id] at written
    generalize text : r.request.decision = word at followed
    cases followed with
    | rejected | completed => exact absurd (text.symm.trans sends.decision) (by decide)
    | revised reads executes =>
      have loaded := Option.some.inj (loads.symm.trans reads)
      subst loaded
      obtain ⟨final, rfl, governs⟩ := executed_deterministic inOrder executes grounded
      have prior := executed.identified (Uuid.toString row.id) (Uuid.toString row.organizationId)
        (row.projectId.map Uuid.toString) row.inputJson state.currentAgent
      exact ⟨_, written, stands.columns, rfl, final, _, _, rfl, governs (prior.again alike)⟩

/-- After `k` cycles the run waits after `k` executions more. -/
theorem stands_reviseAll {s : AgentStore} {row : AgentRun} {n : ℕ}
    (found : s.run first.id = some row) (stands : Stands rt.host g n first row)
    {revisions : List Revision} (sends : ∀ r ∈ revisions, r.Sends first) :
    ∃ last, (reviseAll rt tables s revisions).run first.id = some last ∧
      Stands rt.host g (n + revisions.length) first last := by
  induction revisions generalizing s row n with
  | nil => exact ⟨row, found, stands⟩
  | cons r revisions ih =>
    obtain ⟨next, written, again⟩ :=
      stands_revise inOrder resolved found stands (sends r List.mem_cons_self)
    obtain ⟨last, left, done⟩ :=
      ih written again fun r member => sends r (List.mem_cons_of_mem _ member)
    refine ⟨last, left, ?_⟩
    rw [List.length_cons, Nat.add_comm revisions.length 1, ← Nat.add_assoc]
    exact done

end Cycles

/-- The first execution of a run that reaches the gate. -/
theorem stands_start {rt : Runtime} (inOrder : rt.graph.RunsInOrder) {tables : GroundingTables}
    {now : Instant} {s : AgentStore} {request : StartRequest} {first : AgentRun}
    (fresh : s.run request.id = none)
    (started : (startAgentRun rt (undisturbed tables now) s request).1.run request.id =
      some first) (waiting : first.status = .waitingApproval) :
    first.id = request.id ∧ ∃ g, resolveGrounding rt.collate tables first.organizationId
      first.projectId first.inputJson now = .ok g ∧ Stands rt.host g 1 first first := by
  rcases start_moves rt (undisturbed tables now) (s := s) request with same |
    ⟨made, state, changed, entries, create, loads, moves, executes⟩
  · rw [same, fresh] at started
    cases started
  have owner : changed.id = request.id := by cases executes <;> rfl
  have written := moves.row
  rw [owner, started] at written
  cases written
  refine ⟨owner, ?_⟩
  cases executes with
  | failed => cases waiting
  | gated ran =>
    obtain ⟨g, grounded⟩ := grounded_of_runGraph ran
    obtain ⟨final, same, governs⟩ := executed_deterministic inOrder (.gated ran) grounded
    have blank := Option.some.inj loads
    subst blank
    have governed := governs (governed_first (SameReview.refl rt.host g) rfl rfl rfl rfl rfl rfl)
    rw [same]
    exact ⟨g, grounded, rfl, rfl, final, _, _, rfl, governed⟩

/-! ## Governed fields -/

/-- The governed fields of a stored state that are compared as documents. -/
def governedFields : List String :=
  ["heat_evidence", "intervention_evidence", "portfolio", "verification", "summaries", "grounding"]

/-- Equality of the governed fields; the citations are compared as sets. -/
structure SameGoverned (a b : Dict) : Prop where
  fields : ∀ key ∈ governedFields, SameField (a.get key) (b.get key)
  citations : ∀ c, c ∈ storedCitations a ↔ c ∈ storedCitations b

theorem length_canonItems (items : List Json) : (canonItems items).length = items.length := by
  induction items with
  | nil => rfl
  | cons x items ih => simp [canonItems, ih]

/-- The number of entries is read back from the stored evidence. -/
theorem Stands.evidence {host : Host} {g : Dict} {n : ℕ} {first row : AgentRun}
    (stands : Stands host g n first row) : row.stateJson.get "intervention_evidence" =
      some (.arr (List.replicate n (.obj (analystEntry host g)))) := by
  obtain ⟨state, name, last, stored, executed⟩ := stands.stored
  rw [stored, checkpoint, Dict.get_append]
  simp [CoolProofState.dump, executed.interventionEvidence]

/-- Runs that stand alike have executed equally often. -/
theorem executions_eq {host : Host} {g : Dict} {m n : ℕ} {first a b : AgentRun}
    (left : Stands host g m first a) (right : Stands host g n first b)
    (same : SameGoverned a.stateJson b.stateJson) : m = n := by
  have evidence := same.fields "intervention_evidence" (by decide)
  rw [left.evidence, right.evidence, sameField_some] at evidence
  unfold Same at evidence
  rw [Json.canon, Json.canon] at evidence
  have lengths := congrArg List.length (Json.arr.inj evidence)
  rwa [length_canonItems, length_canonItems, List.length_replicate,
    List.length_replicate] at lengths

/-- The governed fields that no execution but the first changes. -/
def settledFields : List String :=
  ["heat_evidence", "portfolio", "verification", "citations", "summaries"]

theorem settled_eq {host : Host} {g : Dict} {m n : ℕ} {first a b : AgentRun}
    (left : Stands host g m first a) (right : Stands host g n first b) :
    ∀ key ∈ settledFields, b.stateJson.get key = a.stateJson.get key := by
  obtain ⟨s, name, last, stored, before⟩ := left.stored
  obtain ⟨t, node, prior, dumped, after⟩ := right.stored
  rw [stored, dumped]
  simp only [checkpoint, Dict.get_append, settledFields, List.forall_mem_cons]
  simp [CoolProofState.dump, before.heatEvidence, after.heatEvidence, before.portfolio,
    after.portfolio, before.verification, after.verification, before.citations, after.citations,
    before.summaries, after.summaries]

section Revised

variable {rt : Runtime} (inOrder : rt.graph.RunsInOrder) (tables : GroundingTables)
  (now : Instant) {s : AgentStore} {request : StartRequest} {first : AgentRun}
  (fresh : s.run request.id = none)
  (started : (startAgentRun rt (undisturbed tables now) s request).1.run request.id = some first)
  (waiting : first.status = .waitingApproval) {revisions : List Revision}
  (sends : ∀ r ∈ revisions, r.Sends first)
include inOrder fresh started waiting sends

/-- What the revise cycles leave: the analyst's entry is there once for each execution, and the
other fields that the nodes write are as the first execution left them. -/
theorem revised_governed : ∃ last entry,
    (reviseAll rt tables (startAgentRun rt (undisturbed tables now) s request).1
      revisions).run request.id = some last ∧
    last.stateJson.get "intervention_evidence" =
      some (.arr (List.replicate (revisions.length + 1) entry)) ∧
    ∀ key ∈ settledFields, last.stateJson.get key = first.stateJson.get key := by
  obtain ⟨owner, g, resolved, stands⟩ := stands_start inOrder fresh started waiting
  rw [← owner] at started ⊢
  obtain ⟨last, left, done⟩ := stands_reviseAll inOrder resolved started stands sends
  rw [Nat.add_comm] at done
  exact ⟨last, .obj (analystEntry rt.host g), left, done.evidence, settled_eq stands done⟩

/-- If the fields are as they were, there was no cycle. -/
theorem revisions_of_same {last : AgentRun}
    (found : (reviseAll rt tables (startAgentRun rt (undisturbed tables now) s request).1
      revisions).run request.id = some last)
    (same : SameGoverned first.stateJson last.stateJson) : revisions.length = 0 := by
  obtain ⟨owner, g, resolved, stands⟩ := stands_start inOrder fresh started waiting
  rw [← owner] at started found
  obtain ⟨row, left, done⟩ := stands_reviseAll inOrder resolved started stands sends
  cases left.symm.trans found
  have often := executions_eq stands done same
  omega

/-- Executing a run again over the same rows leaves the governed fields as they were only when it
is not done at all: every revise cycle adds the analyst's entry once more. -/
theorem reexecution_idempotent_iff :
    (∃ last, (reviseAll rt tables (startAgentRun rt (undisturbed tables now) s request).1
        revisions).run request.id = some last ∧
      SameGoverned first.stateJson last.stateJson) ↔ revisions.length = 0 := by
  constructor
  · rintro ⟨last, found, same⟩
    exact revisions_of_same inOrder tables now fresh started waiting sends found same
  · intro none_sent
    rw [List.eq_nil_of_length_eq_zero none_sent]
    exact ⟨first, started, fun key _ => rfl, fun c => Iff.rfl⟩

end Revised

/-! ## One cycle -/

def firstRequest : StartRequest := ⟨⟨7, 1, none, "thread", []⟩, .analyst⟩

def sendBack : Revision := ⟨reviseRequest, 0, 0⟩

theorem sendBack_sends (final : CoolProofState) : sendBack.Sends (gatedRun final firstRequest.row) :=
  ⟨rfl, rfl, .inl rfl, rfl, rfl⟩

/-- One cycle is enough. -/
theorem reexecution_not_idempotent : ¬∀ (rt : Runtime), rt.graph.RunsInOrder →
    ∀ (tables : GroundingTables) (now : Instant) (s : AgentStore) (request : StartRequest)
      (first : AgentRun) (revisions : List Revision), s.run request.id = none →
    (startAgentRun rt (undisturbed tables now) s request).1.run request.id = some first →
    first.status = .waitingApproval → (∀ r ∈ revisions, r.Sends first) →
    ∃ last, (reviseAll rt tables (startAgentRun rt (undisturbed tables now) s request).1
        revisions).run request.id = some last ∧
      SameGoverned first.stateJson last.stateJson := by
  intro idempotent
  have sends : ∀ final, ∀ r ∈ [sendBack], r.Sends (gatedRun final firstRequest.row) :=
    fun final r member => List.mem_singleton.mp member ▸ sendBack_sends final
  obtain ⟨last, found, same⟩ := idempotent plainRuntime plainRuntime_runsInOrder (catalogue []) 0
    AgentStore.empty firstRequest _ [sendBack] rfl rfl rfl (sends _)
  have none_sent := revisions_of_same plainRuntime_runsInOrder (catalogue []) 0 rfl rfl rfl
    (sends _) found same
  cases none_sent

theorem reexecution_idempotent_sample : ∃ first : AgentRun,
    (∃ last, (reviseAll plainRuntime (catalogue []) (startAgentRun plainRuntime
        (undisturbed (catalogue []) 0) AgentStore.empty firstRequest).1 [sendBack]).run 7 =
          some last ∧ SameGoverned first.stateJson last.stateJson) ↔ [sendBack].length = 0 :=
  ⟨_, reexecution_idempotent_iff plainRuntime_runsInOrder (catalogue []) 0 rfl rfl rfl
    fun _ member => List.mem_singleton.mp member ▸ sendBack_sends _⟩

end CoolProof.Agents
