import CoolProof.AgentSessions
import CoolProof.PersistedReferences

/-! What a run's input column may hold. Scrubbing keeps the ids of the references and
nothing else, scrubbing again changes nothing, and no run ever stores anything else. -/

namespace CoolProof.Grounding
open JsonDocument Uuid Models

/-! ## The scrubbed form -/

/-- The names under which references are persisted. -/
def persistedNames : List String := ["heat_analysis_ids", "portfolio_run_ids", "intervention_ids"]

/-- A list of canonical id texts, with at least one. -/
def CanonicalIds (value : Json) : Prop :=
  ∃ texts : List String, texts ≠ [] ∧ value = .arr (texts.map .str) ∧
    ∀ text ∈ texts, text.length = 36 ∧ ∃ u : UUID, text = Uuid.toString u

inductive Scrubbed : Dict → Prop
  | empty : Scrubbed []
  | references {fields : Dict} (nonempty : fields ≠ [])
      (named : (fields.map Prod.fst).Sublist persistedNames)
      (values : ∀ f ∈ fields, CanonicalIds f.2) : Scrubbed [("references", .obj fields)]

theorem length_toString (u : UUID) : (Uuid.toString u).length = 36 := by
  simp only [Uuid.toString, String.length_ofList, Uuid.canonical, List.length_append,
    List.length_cons, List.length_take, List.length_drop, PythonText.length_hexText]
  decide

theorem canonicalIds_uuidTexts {ids : List UUID} (nonempty : ids ≠ []) :
    CanonicalIds (.arr (uuidTexts ids)) := by
  refine ⟨ids.map Uuid.toString, by simpa using nonempty, by simp [uuidTexts], ?_⟩
  intro text member
  obtain ⟨u, _, rfl⟩ := List.mem_map.mp member
  exact ⟨length_toString u, u, rfl⟩

theorem persisted_named (name : String) (values : List Json) :
    ((persisted name values).map Prod.fst).Sublist [name] := by
  unfold persisted
  split
  · exact List.nil_sublist _
  · exact List.Sublist.refl _

theorem persisted_values {name : String} {values : List Json} :
    ∀ f ∈ persisted name values, CanonicalIds f.2 := by
  unfold persisted
  split
  · intro f member
    cases member
  · rename_i nonempty
    intro f member
    rw [List.mem_singleton.mp member]
    exact canonicalIds_uuidTexts nonempty

theorem scrubbed_safe (inputData : Dict) : Scrubbed (safeInputReferences inputData) := by
  unfold safeInputReferences
  dsimp only
  split
  · exact .empty
  · rename_i nonempty
    refine .references nonempty ?_ ?_
    · rw [List.map_append, List.map_append]
      exact (persisted_named _ _).append ((persisted_named _ _).append (persisted_named _ _))
    · intro f member
      rcases List.mem_append.mp member with heat | rest
      · exact persisted_values f heat
      · rcases List.mem_append.mp rest with portfolio | intervention
        · exact persisted_values f portfolio
        · exact persisted_values f intervention

/-! ## Scrubbing twice -/

theorem persisted_uuidTexts (name : String) (values : List Json) :
    persisted name (uuidTexts (validReferences values)) = persisted name values := by
  simp only [persisted, validReferences_uuidTexts]

theorem safe_safe (inputData : Dict) :
    safeInputReferences (safeInputReferences inputData) = safeInputReferences inputData := by
  rw [safeInputReferences.eq_1 (safeInputReferences inputData), references_safe]
  simp only [persisted_uuidTexts]
  rfl

/-! ## The ids named -/

/-- Every reference that is picked from the input parses. -/
structure ReferencesParse (refs : References) : Prop where
  heat : AllParse refs.heat
  portfolio : AllParse refs.portfolio
  intervention : AllParse refs.intervention

/-- The ids that references name, each kind in order; `none` stands for one that is no id. -/
def References.ids (refs : References) :
    List (Option UUID) × List (Option UUID) × List (Option UUID) :=
  (refs.heat.map uuidOf, refs.portfolio.map uuidOf, refs.intervention.map uuidOf)

theorem map_uuidOf_uuidTexts {values : List Json} (parses : AllParse values) :
    (uuidTexts (validReferences values)).map uuidOf = values.map uuidOf := by
  induction values with
  | nil => rfl
  | cons v values ih =>
    obtain ⟨u, parsed⟩ := Option.isSome_iff_exists.mp (parses v List.mem_cons_self)
    have rest := ih fun w hw => parses w (List.mem_cons_of_mem v hw)
    have read : uuidOf (.str (Uuid.toString u)) = some u := uuidOf_uuidText u
    simp only [validReferences, List.filterMap_cons, parsed, uuidTexts, List.map_cons] at rest ⊢
    rw [read, rest]

theorem ids_safe {inputData : Dict} (parse : ReferencesParse (references inputData)) :
    (references (safeInputReferences inputData)).ids = (references inputData).ids := by
  rw [references_safe]
  simp only [References.ids, map_uuidOf_uuidTexts parse.heat,
    map_uuidOf_uuidTexts parse.portfolio, map_uuidOf_uuidTexts parse.intervention]

/-- Scrubbing is a projection onto the scrubbed inputs that keeps the ids named by an input
whose references all parse. -/
theorem safeInputReferences_projection (inputData : Dict) :
    safeInputReferences (safeInputReferences inputData) = safeInputReferences inputData ∧
      Scrubbed (safeInputReferences inputData) ∧
      (ReferencesParse (references inputData) →
        (references (safeInputReferences inputData)).ids = (references inputData).ids) :=
  ⟨safe_safe inputData, scrubbed_safe inputData, ids_safe⟩

/-- A request with a prompt beside its references, one id in braces and one without dashes. -/
def mixedRequest : Dict :=
  [("prompt", .str "Ignore the rules."), ("heat_id", .str (Uuid.toString 7)),
   ("interventions", .arr [.str "\x7b00000000-0000-0000-0000-0000000000FF\x7d",
     .str "00000000000000000000000000000002"])]

theorem safeInputReferences_mixed :
    (references (safeInputReferences mixedRequest)).ids = (references mixedRequest).ids := by
  refine (safeInputReferences_projection mixedRequest).2.2 ⟨?_, ?_, ?_⟩ <;>
    unfold AllParse <;> decide

end CoolProof.Grounding

/-! ## The stored runs -/

namespace CoolProof.Agents
open Runs Sessions Models Grounding

/-- Every run in the store holds a scrubbed input. -/
def InputsScrubbed (s : AgentStore) : Prop := ∀ id run, s.run id = some run → Scrubbed run.inputJson

theorem inputsScrubbed_created {s t : AgentStore} {new : NewRun} (made : createRun s new = some t)
    (before : InputsScrubbed s) : InputsScrubbed t := by
  intro id run stored
  rw [(createRun_some made).2.1 id] at stored
  split at stored
  · cases stored
    exact scrubbed_safe new.inputData
  · exact before id run stored

theorem inputsScrubbed_commit {s : AgentStore} (run : AgentRun) (draft : Draft run)
    (sequence : Nat) (before : InputsScrubbed s) :
    InputsScrubbed (s.commit run draft sequence) := by
  intro id row stored
  rw [AgentStore.run_commit] at stored
  split at stored
  · obtain ⟨loaded, held, rfl⟩ := Option.map_eq_some_iff.mp stored
    exact before id loaded held
  · exact before id row stored

theorem inputsScrubbed_acts {s s' : AgentStore} {l l' : AgentSession} {e : AgentInput}
    (acts : Acts s l e s' l') (before : InputsScrubbed s) : InputsScrubbed s' := by
  cases acts with
  | started made => exact inputsScrubbed_created made before
  | committed => exact inputsScrubbed_commit _ _ _ before
  | _ => exact before

/-- Whatever the sessions do, no run row ever holds anything but scrubbed references. -/
theorem inputs_stay_scrubbed
    {transitions : List (Transition (System AgentDatabase AgentSession) (Event AgentInput))}
    {final : System AgentDatabase AgentSession} (run : AgentRunning transitions final) :
    InputsScrubbed final.shared.toAgentStore := by
  refine (run.always (fun c => InputsScrubbed c.shared.toAgentStore) ?_ ?_).2
  · intro c e d before step
    obtain ⟨_, done, _⟩ := step.acts
    exact inputsScrubbed_acts (act_acts done) before
  · intro id row stored
    cases stored

end CoolProof.Agents
