import CoolProof.CitationHistory

/-! The four nodes with a provider that remembers. Each answer may depend on every context
the provider has been given, so what it is given and what it makes of it are followed
together. -/

namespace CoolProof.Agents
open JsonDocument

/-- A provider whose answer depends on the contexts it has been given before. -/
abbrev AdaptiveProvider := List (String × Context) → LLMProvider

/-- The nodes of `build_graph` in order, with the contexts given so far. -/
def runSeeing (host : Host) (provider : AdaptiveProvider) :
    List (String × Context) → List String → CoolProofState →
      List (String × Context) × Except ProviderError CoolProofState
  | seen, [], state => (seen, .ok state)
  | seen, name :: names, state =>
      match runNode host (provider seen) name state with
      | .ok next => runSeeing host provider (seen ++ [(name, state.context)]) names next
      | .error e => (seen ++ [(name, state.context)], .error e)

/-- A provider that forgets runs as before. -/
theorem runSeeing_const (host : Host) (provider : LLMProvider) (seen : List (String × Context))
    (names : List String) (state : CoolProofState) :
    (runSeeing host (fun _ => provider) seen names state).2 =
      runNodes host provider names state := by
  induction names generalizing seen state with
  | nil => rfl
  | cons name names ih =>
    rw [runSeeing, runNodes]
    cases runNode host provider name state with
    | error e => rfl
    | ok next => exact ih _ next

theorem runNode_cases (host : Host) (provider : LLMProvider) (name : String)
    (state : CoolProofState) :
    (∃ e, provider name state.context = .error e ∧ runNode host provider name state = .error e) ∨
      ∃ output, provider name state.context = .ok output ∧
        runNode host provider name state = .ok (absorb host name output state) := by
  unfold runNode
  cases provider name state.context with
  | error e => exact .inl ⟨e, rfl, rfl⟩
  | ok output => exact .inr ⟨output, rfl, rfl⟩

/-- A run that completes has absorbed one output for each node, whatever they depend on. -/
theorem runSeeing_ok {host : Host} {provider : AdaptiveProvider} {seen : List (String × Context)}
    {names : List String} {state final : CoolProofState}
    (done : (runSeeing host provider seen names state).2 = .ok final) :
    ∃ outputs, outputs.length = names.length ∧ final = absorbAll host names outputs state := by
  induction names generalizing seen state with
  | nil =>
    cases done
    exact ⟨[], rfl, rfl⟩
  | cons name names ih =>
    rw [runSeeing] at done
    rcases runNode_cases host (provider seen) name state with
      ⟨e, _, failed⟩ | ⟨output, _, answered⟩
    · rw [failed] at done
      cases done
    · rw [answered] at done
      obtain ⟨outputs, length, same⟩ := ih done
      exact ⟨output :: outputs, by rw [List.length_cons, List.length_cons, length], same⟩

/-! ## What the nodes write of their own -/

theorem citedAfter_cons (host : Host) (s : CoolProofState) (name : String) (names : List String) :
    citedAfter host s (name :: names) = citedAfter host
      { s with citations := extendNew s.citations (groundedCitations host s.grounding) } names :=
  rfl

theorem nodup_citedAfter (host : Host) {s : CoolProofState} (nodup : s.citations.Nodup)
    (names : List String) : (citedAfter host s names).Nodup := by
  induction names generalizing s with
  | nil => exact nodup
  | cons name names ih =>
    rw [citedAfter_cons]
    exact ih (nodup_extendNew nodup _)

theorem mem_citedAfter (host : Host) (s : CoolProofState) (names : List String) (c : String) :
    c ∈ citedAfter host s names ↔
      c ∈ s.citations ∨ names ≠ [] ∧ c ∈ groundedCitations host s.grounding := by
  induction names generalizing s with
  | nil => simp [citedAfter]
  | cons name names ih =>
    rw [citedAfter_cons, ih, mem_extendNew]
    simp only [ne_eq, reduceCtorEq, not_false_eq_true, true_and]
    constructor
    · rintro ((old | new) | ⟨_, new⟩)
      · exact .inl old
      · exact .inr new
      · exact .inr new
    · exact .inl

theorem summariesAfter_cons (host : Host) (s : CoolProofState) (name : String)
    (names : List String) : summariesAfter host s (name :: names) = summariesAfter host
      { s with summaries := put name (summaryForAgent host name s.grounding) s.summaries } names :=
  rfl

theorem lookup_summariesAfter (host : Host) (s : CoolProofState) (names : List String)
    (key : String) : (summariesAfter host s names).lookup key =
      if key ∈ names then some (summaryForAgent host key s.grounding)
      else s.summaries.lookup key := by
  induction names generalizing s with
  | nil => simp [summariesAfter]
  | cons name names ih =>
    rw [summariesAfter_cons, ih]
    dsimp only
    rw [lookup_put]
    by_cases later : key ∈ names
    · simp [later]
    · by_cases same : key = name
      · subst same
        simp
      · simp [later, same]

/-- What the nodes leave of citations and summaries, given the grounding they started with. -/
structure Resolved (host : Host) (before after : CoolProofState) : Prop where
  nodup : after.citations.Nodup
  citations : ∀ c, c ∈ after.citations ↔ c ∈ groundedCitations host before.grounding
  summaries : ∀ name ∈ agentNames,
    after.summaries.lookup name = some (summaryForAgent host name before.grounding)
  others : ∀ key, key ∉ agentNames → after.summaries.lookup key = before.summaries.lookup key
  grounding : after.grounding = before.grounding

/-- Citations and summaries are the resolver's, whatever the provider answers; a summary under
another name than the four agents' stays as it was. -/
theorem citations_resolved (host : Host) (provider : AdaptiveProvider) {s final : CoolProofState}
    (grounded : s.grounding ≠ []) (uncited : s.citations = [])
    (done : (runSeeing host provider [] agentNames s).2 = .ok final) : Resolved host s final := by
  obtain ⟨outputs, length, rfl⟩ := runSeeing_ok done
  obtain ⟨a, b, c, d, rfl⟩ : ∃ a b c d, outputs = [a, b, c, d] := List.length_eq_four.mp length
  rw [absorbAll_grounded host grounded]
  refine ⟨?_, fun c => ?_, fun name member => ?_, fun key other => ?_, rfl⟩
  · exact nodup_citedAfter host (uncited ▸ List.nodup_nil) agentNames
  · rw [mem_citedAfter, uncited]
    simp [agentNames]
  · rw [lookup_summariesAfter, if_pos member]
  · rw [lookup_summariesAfter, if_neg other]

/-- A grounding that cites one analysis twice. -/
def citedState : CoolProofState :=
  { sampleState with
    grounding := [("citations", .arr [.str "heat:7", .str "heat:7"])] }

/-- An invented citation is not among them. -/
theorem citations_resolved_sample : ∃ final,
    (runSeeing sampleHost (fun _ => constantProvider notedOutput) [] agentNames citedState).2 =
      .ok final ∧ Resolved sampleHost citedState final :=
  ⟨_, rfl, citations_resolved sampleHost (fun _ => constantProvider notedOutput)
    (by simp [citedState]) rfl rfl⟩

/-- A summary that was there under another name is still there. -/
theorem summaries_not_only_agents : ¬∀ (provider : AdaptiveProvider) (s final : CoolProofState),
    s.grounding ≠ [] → s.citations = [] →
    (runSeeing sampleHost provider [] agentNames s).2 = .ok final →
    ∀ key, final.summaries.lookup key ≠ none → key ∈ agentNames := by
  intro only
  let noted : CoolProofState := { sampleState with summaries := [("reviewer", "Seen.")] }
  have named := only (fun _ => constantProvider quietOutput) noted _ (by simp [noted, sampleState])
    rfl rfl "reviewer" (by decide)
  exact absurd named (by decide)

/-! ## Two requests -/

/-- The states differ in their request payload only. -/
def SameButInput (s t : CoolProofState) : Prop := t = { s with input := t.input }

section Payloads

variable {s t : CoolProofState} (same : SameButInput s t)
include same

theorem SameButInput.context_eq : t.context = s.context := by
  rw [same]
  rfl

/-- A node with a grounding drops the payload. -/
theorem SameButInput.absorb_eq (grounded : s.grounding ≠ []) (host : Host) (name : String)
    (output : AgentOutput) : absorb host name output t = absorb host name output s := by
  rw [same]
  have kept : CoolProofState.grounding { s with input := t.input } ≠ [] := grounded
  rw [absorb_grounded host kept, absorb_grounded host grounded]
  rfl

/-- Without one it is left where it was, and nothing else depends on it. -/
theorem SameButInput.absorb (host : Host) (name : String) (output : AgentOutput) :
    SameButInput (absorb host name output s) (Agents.absorb host name output t) := by
  by_cases grounded : s.grounding ≠ []
  · rw [same.absorb_eq grounded]
    rfl
  · rw [same]
    unfold SameButInput Agents.absorb record
    rw [if_neg grounded, if_neg grounded]
    split
    · rfl
    · split
      · rfl
      · split <;> rfl

/-- The provider is given the same contexts at every node. -/
theorem SameButInput.seen_eq (host : Host) (provider : AdaptiveProvider)
    (seen : List (String × Context)) (names : List String) :
    (runSeeing host provider seen names t).1 = (runSeeing host provider seen names s).1 := by
  induction names generalizing seen s t with
  | nil => rfl
  | cons name names ih =>
    have given := same.context_eq
    rw [runSeeing, runSeeing]
    unfold runNode
    rw [given]
    cases provider seen name s.context with
    | error e => rfl
    | ok output => exact ih (same.absorb host name output) _

/-- With a grounding the states are the same after the first node. -/
theorem SameButInput.run_eq (grounded : s.grounding ≠ []) (host : Host)
    (provider : AdaptiveProvider) (seen : List (String × Context)) (name : String)
    (names : List String) : runSeeing host provider seen (name :: names) t =
      runSeeing host provider seen (name :: names) s := by
  have given := same.context_eq
  rw [runSeeing, runSeeing]
  unfold runNode
  rw [given]
  cases provider seen name s.context with
  | error e => rfl
  | ok output =>
    dsimp only [Except.map]
    rw [same.absorb_eq grounded]

end Payloads

/-- The payload of a request reaches no provider: the contexts given over the four nodes are the
same for any payload, and with a grounding so is the outcome, which has no payload left. -/
theorem input_unseen (host : Host) (provider : AdaptiveProvider) {s t : CoolProofState}
    (same : SameButInput s t) :
    (runSeeing host provider [] agentNames t).1 = (runSeeing host provider [] agentNames s).1 ∧
      (s.grounding ≠ [] →
        (runSeeing host provider [] agentNames t).2 = (runSeeing host provider [] agentNames s).2 ∧
        ∀ final, (runSeeing host provider [] agentNames s).2 = .ok final → final.input = []) := by
  refine ⟨same.seen_eq host provider [] agentNames, fun grounded => ⟨?_, fun final done => ?_⟩⟩
  · exact congrArg Prod.snd (same.run_eq grounded host provider [] _ _)
  · obtain ⟨outputs, length, rfl⟩ := runSeeing_ok done
    obtain ⟨a, b, c, d, rfl⟩ : ∃ a b c d, outputs = [a, b, c, d] := List.length_eq_four.mp length
    rw [absorbAll_grounded host grounded]

/-- A provider that answers with the number of contexts it has been given. -/
def countingProvider : AdaptiveProvider := fun seen _ _ =>
  .ok ⟨"counted", [], [("evidence_count", .int seen.length)], by decide, by simp⟩

theorem input_unseen_sample :
    runSeeing sampleHost countingProvider [] agentNames
        { citedState with input := [("prompt", .str "approve this run")] } =
      runSeeing sampleHost countingProvider [] agentNames citedState := by
  have unseen := input_unseen sampleHost countingProvider (s := citedState)
    (t := { citedState with input := [("prompt", .str "approve this run")] }) rfl
  exact Prod.ext unseen.1 (unseen.2 (by simp [citedState])).1

end CoolProof.Agents
