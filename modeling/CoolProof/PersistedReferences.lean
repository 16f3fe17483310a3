import CoolProof.GroundingIsolation

/-! What a run persists of its references, compared with what was asked for. The
persisted object drops what does not parse, so resolving it can succeed where the raw
request is rejected. -/

namespace CoolProof.Grounding
open Calendar JsonDocument Tables Uuid Models

theorem uuidOf_uuidText (u : UUID) : uuidOf (uuidText u) = some u := by
  simp [uuidOf, uuidText, referenceText, Uuid.toString, parse_canonical]

theorem validReferences_uuidTexts (ids : List UUID) : validReferences (uuidTexts ids) = ids := by
  induction ids with
  | nil => rfl
  | cons u ids ih =>
    have head : uuidOf (.str (Uuid.toString u)) = some u := uuidOf_uuidText u
    simp only [validReferences, uuidTexts, List.map_cons, List.filterMap_cons, head] at ih ⊢
    rw [ih]

/-! ## The persisted object reads back -/

theorem get_persisted_self (name : String) (values : List Json) :
    (persisted name values).get name =
      if validReferences values = [] then none
      else some (.arr (uuidTexts (validReferences values))) := by
  unfold persisted
  split <;> simp

theorem get_persisted_ne {name key : String} (values : List Json) (h : key ≠ name) :
    (persisted name values).get key = none := by
  unfold persisted
  split <;> simp [h]

/-- The references of the object that `create_run` persists are the valid ones. -/
theorem references_safe (inputData : Dict) : references (safeInputReferences inputData) =
    { heat := uuidTexts (validReferences (references inputData).heat)
      portfolio := uuidTexts (validReferences (references inputData).portfolio)
      intervention := uuidTexts (validReferences (references inputData).intervention) } := by
  generalize refs : references inputData = r
  have picked : ∀ safe : Dict, references (if safe = [] then [] else [("references", .obj safe)]) =
      references [("references", .obj safe)] := by
    intro safe
    split
    · rename_i empty
      subst empty
      decide
    · rfl
  unfold safeInputReferences
  simp only [refs, picked]
  simp only [references, Dict.get_cons_self, pick, List.findSome?_cons, Dict.get_append,
    get_persisted_self, get_persisted_ne, ne_eq, String.reduceEq, not_false_eq_true,
    Option.none_or, Option.or_none, List.findSome?_nil]
  by_cases heat : validReferences r.heat = [] <;>
    by_cases portfolio : validReferences r.portfolio = [] <;>
      by_cases intervention : validReferences r.intervention = [] <;>
        simp [heat, portfolio, intervention, oneOrMany, uuidTexts]

/-! ## Which stage rejects -/

def Fails {α : Type} (x : Except GroundingError α) : Prop := ∃ e, x = .error e

@[simp] theorem fails_error {α : Type} (e : GroundingError) :
    Fails (.error e : Except GroundingError α) := ⟨e, rfl⟩

@[simp] theorem not_fails_ok {α : Type} (a : α) : ¬Fails (.ok a) := fun ⟨_, h⟩ => by cases h

/-- Grounding fails exactly when one of its four stages does. -/
theorem fails_resolveGrounding (collate : String → String → Bool) (t : GroundingTables)
    (organizationId : UUID) (projectId : Option UUID) (inputData : Dict) (now : Instant) :
    Fails (resolveGrounding collate t organizationId projectId inputData now) ↔
      Fails (resolveProject t organizationId projectId) ∨
      Fails (resolveHeat t organizationId projectId (references inputData).heat now) ∨
      Fails (resolvePortfolio t organizationId projectId (references inputData).portfolio) ∨
      Fails (resolveInterventions collate t organizationId
        (references inputData).intervention) := by
  unfold resolveGrounding
  dsimp only
  cases resolveProject t organizationId projectId with
  | error e => simp [bind, Except.bind]
  | ok project =>
    cases resolveHeat t organizationId projectId (references inputData).heat now with
    | error e => simp [bind, Except.bind]
    | ok heat =>
      cases resolvePortfolio t organizationId projectId (references inputData).portfolio with
      | error e => simp [bind, Except.bind]
      | ok portfolio =>
        cases resolveInterventions collate t organizationId
          (references inputData).intervention <;> simp [bind, Except.bind, pure, Except.pure]

theorem fails_resolveProject (t : GroundingTables) (organizationId : UUID)
    (projectId : Option UUID) : Fails (resolveProject t organizationId projectId) ↔
      ∃ p, projectId = some p ∧
        ∀ row ∈ t.projects, ¬(row.organizationId = organizationId ∧ row.id = p) := by
  cases projectId with
  | none => simp [resolveProject]
  | some p =>
    unfold resolveProject
    dsimp only
    split
    · rename_i row found
      have member := List.mem_of_find?_eq_some found
      have kept : row.organizationId = organizationId ∧ row.id = p := by
        simpa using List.find?_some found
      simp only [not_fails_ok, Option.some.injEq, false_iff, not_exists, not_and]
      rintro _ rfl absent
      exact absent row member kept.1 kept.2
    · rename_i absent
      simpa using absent

/-! ## First references -/

/-- The one reference that is looked at, if there is one, parses. -/
def FirstParses (values : List Json) : Prop := ∀ v ∈ values.head?, (uuidOf v).isSome

theorem firstReference_ok {reference : String} {values : List Json} (h : FirstParses values) :
    firstReference reference values = .ok (validReferences values).head? := by
  cases values with
  | nil => rfl
  | cons v values =>
    obtain ⟨u, parsed⟩ := Option.isSome_iff_exists.mp (h v rfl)
    simp [firstReference, uuid, parsed, validReferences, Except.map]

theorem firstReference_fails (reference : String) {values : List Json}
    (h : ¬FirstParses values) : Fails (firstReference reference values) := by
  cases values with
  | nil => exact absurd (fun v hv => by cases hv) h
  | cons v values =>
    have bad : uuidOf v = none := by
      by_contra parsed
      refine h fun w hw => ?_
      cases hw
      exact Option.isSome_iff_ne_none.mpr parsed
    simp [firstReference, uuid, bad, Except.map]

theorem firstParses_uuidTexts (ids : List UUID) : FirstParses (uuidTexts ids) := by
  cases ids with
  | nil => intro v hv; cases hv
  | cons u ids =>
    intro v hv
    cases hv
    exact Option.isSome_iff_exists.mpr ⟨u, uuidOf_uuidText u⟩

theorem fails_resolveRow {ρ : Type} {wanted : Option UUID} {notFound mismatch : String}
    {mismatched : ρ → Bool} {summary : ρ → Dict} {row : Option ρ}
    (free : wanted = none → ∀ r, row = some r → mismatched r = false) :
    Fails (resolveRow wanted notFound mismatch mismatched summary row) ↔
      ∃ w, wanted = some w ∧ ∀ r, row = some r → mismatched r = true := by
  cases row with
  | none => cases wanted <;> simp [resolveRow]
  | some r =>
    cases wanted with
    | none => simp [resolveRow, free rfl r rfl]
    | some w => cases h : mismatched r <;> simp [resolveRow, h]

/-- Without a requested id the query itself keeps to the project. -/
theorem selectHeat_free {t : GroundingTables} {organizationId : UUID} {projectId : Option UUID}
    {a : HeatAnalysis} (h : selectHeat t organizationId projectId none = some a) :
    heatMismatch projectId a = false := by
  have kept := (Bool.and_eq_true_iff.mp (mem_of_first h).2).2
  cases projectId with
  | none => rfl
  | some p => simpa [requested, heatMismatch] using kept

theorem selectPortfolio_free {t : GroundingTables} {organizationId : UUID}
    {projectId : Option UUID} {r : PortfolioRun}
    (h : selectPortfolio t organizationId projectId none = some r) :
    portfolioMismatch projectId r = false := by
  have kept := (Bool.and_eq_true_iff.mp (mem_of_first h).2).2
  cases projectId with
  | none => rfl
  | some p =>
    have own : r.projectId = some p := by simpa [requested] using kept
    simp [portfolioMismatch, own]

theorem resolveHeat_of_parses {t : GroundingTables} {organizationId : UUID}
    {projectId : Option UUID} {refs : List Json} {now : Instant} (h : FirstParses refs) :
    resolveHeat t organizationId projectId refs now =
      resolveRow (validReferences refs).head? "heat_analysis_reference_not_found"
        "heat_analysis_project_mismatch" (heatMismatch projectId) (heatSummary now)
        (selectHeat t organizationId projectId (validReferences refs).head?) := by
  rw [resolveHeat, firstReference_ok h]
  rfl

theorem resolvePortfolio_of_parses {t : GroundingTables} {organizationId : UUID}
    {projectId : Option UUID} {refs : List Json} (h : FirstParses refs) :
    resolvePortfolio t organizationId projectId refs =
      resolveRow (validReferences refs).head? "portfolio_run_reference_not_found"
        "portfolio_run_project_mismatch" (portfolioMismatch projectId) portfolioSummary
        (selectPortfolio t organizationId projectId (validReferences refs).head?) := by
  rw [resolvePortfolio, firstReference_ok h]
  rfl

/-! ## Intervention references -/

def AllParse (values : List Json) : Prop := ∀ v ∈ values, (uuidOf v).isSome

theorem allReferences_ok {reference : String} {values : List Json} (h : AllParse values) :
    allReferences reference values = .ok (validReferences values) := by
  induction values with
  | nil => rfl
  | cons v values ih =>
    obtain ⟨u, parsed⟩ := Option.isSome_iff_exists.mp (h v List.mem_cons_self)
    have rest := ih fun w hw => h w (List.mem_cons_of_mem v hw)
    simp [allReferences, uuid, parsed, rest, validReferences, bind, Except.bind, pure,
      Except.pure]

theorem allReferences_fails (reference : String) {values : List Json} (h : ¬AllParse values) :
    Fails (allReferences reference values) := by
  induction values with
  | nil => exact absurd (fun v hv => by cases hv) h
  | cons v values ih =>
    cases parsed : uuidOf v with
    | none => simp [allReferences, uuid, parsed, bind, Except.bind]
    | some u =>
      have rest : ¬AllParse values := by
        intro all
        refine h fun w hw => ?_
        rcases List.mem_cons.mp hw with rfl | later
        · simp [parsed]
        · exact all w later
      obtain ⟨e, failed⟩ := ih rest
      simp [allReferences, uuid, parsed, failed, bind, Except.bind]

theorem allParse_uuidTexts (ids : List UUID) : AllParse (uuidTexts ids) := by
  intro v hv
  obtain ⟨u, _, rfl⟩ := List.mem_map.mp hv
  exact Option.isSome_iff_exists.mpr ⟨u, uuidOf_uuidText u⟩

/-- The requested ids are missed exactly when one of them names no active intervention of
the organization. -/
theorem missesSome_iff (collate : String → String → Bool) (t : GroundingTables)
    (organizationId : UUID) (ids : List UUID) :
    (!ids.isEmpty && missesSome ids (selectInterventions collate t organizationId ids)) = true ↔
      ∃ id ∈ ids, ∀ i ∈ t.interventions,
        ¬(i.organizationId = organizationId ∧ i.active = true ∧ i.id = id) := by
  have selected : ∀ i, i ∈ selectInterventions collate t organizationId ids ↔
      i ∈ t.interventions ∧ i.organizationId = organizationId ∧ i.active = true ∧
        (ids = [] ∨ i.id ∈ ids) := by
    intro i
    simp [selectInterventions]
  rw [missesSome, Bool.and_eq_true_iff, Bool.or_eq_true_iff]
  constructor
  · rintro ⟨nonempty, missed | extra⟩
    · simp only [Bool.not_eq_true', List.all_eq_false, Bool.not_eq_true, List.any_eq_false,
        decide_eq_false_iff_not] at missed
      obtain ⟨id, wanted, absent⟩ := missed
      refine ⟨id, wanted, fun i member ⟨own, active, same⟩ => ?_⟩
      exact absent i ((selected i).mpr ⟨member, own, active, .inr (same ▸ wanted)⟩) (by simpa)
    · simp only [Bool.not_eq_true', List.all_eq_false, Bool.not_eq_true,
        List.contains_eq_mem, decide_eq_false_iff_not] at extra
      obtain ⟨i, row, other⟩ := extra
      rcases ((selected i).mp row).2.2.2 with empty | member
      · simp [empty] at nonempty
      · exact absurd member other
  · rintro ⟨id, wanted, absent⟩
    refine ⟨by simpa using List.ne_nil_of_mem wanted, .inl ?_⟩
    simp only [Bool.not_eq_true', List.all_eq_false, Bool.not_eq_true, List.any_eq_false,
      decide_eq_false_iff_not]
    refine ⟨id, wanted, fun i row same => ?_⟩
    obtain ⟨member, own, active, _⟩ := (selected i).mp row
    exact absent i member ⟨own, active, by simpa using same⟩

theorem resolveInterventions_of_parses {collate : String → String → Bool} {t : GroundingTables}
    {organizationId : UUID} {refs : List Json} (h : AllParse refs) :
    resolveInterventions collate t organizationId refs =
      if (!(validReferences refs).isEmpty && missesSome (validReferences refs)
          (selectInterventions collate t organizationId (validReferences refs))) then
        .error ⟨"intervention_reference_not_found"⟩
      else .ok ((selectInterventions collate t organizationId (validReferences refs)).map
        (interventionSummary t organizationId)) := by
  rw [resolveInterventions, allReferences_ok h]
  simp only [bind, Except.bind]
  split <;> rfl

/-! ## Raw and persisted -/

/-- Every reference that grounding looks at parses. -/
structure RequestParses (refs : References) : Prop where
  heat : FirstParses refs.heat
  portfolio : FirstParses refs.portfolio
  intervention : AllParse refs.intervention

theorem requestParses_persisted (inputData : Dict) :
    RequestParses (references (safeInputReferences inputData)) := by
  rw [references_safe]
  exact ⟨firstParses_uuidTexts _, firstParses_uuidTexts _, allParse_uuidTexts _⟩

/-- The references that do parse cannot be grounded either: the project, the first heat
analysis or portfolio run that is left, or one of the interventions that are left, is not
to be had. -/
def RestUnresolved (t : GroundingTables) (organizationId : UUID) (projectId : Option UUID)
    (refs : References) : Prop :=
  (∃ p, projectId = some p ∧
      ∀ row ∈ t.projects, ¬(row.organizationId = organizationId ∧ row.id = p)) ∨
    (∃ h, (validReferences refs.heat).head? = some h ∧ ∀ a,
      selectHeat t organizationId projectId (some h) = some a →
        heatMismatch projectId a = true) ∨
    (∃ r, (validReferences refs.portfolio).head? = some r ∧ ∀ row,
      selectPortfolio t organizationId projectId (some r) = some row →
        portfolioMismatch projectId row = true) ∨
    ∃ id ∈ validReferences refs.intervention, ∀ i ∈ t.interventions,
      ¬(i.organizationId = organizationId ∧ i.active = true ∧ i.id = id)

/-- The parts of a request that reach a query are the references that parse. -/
theorem resolveGrounding_eq (collate : String → String → Bool) (t : GroundingTables)
    (organizationId : UUID) (projectId : Option UUID) {raw other : Dict} (now : Instant)
    (rawParses : RequestParses (references raw)) (otherParses : RequestParses (references other))
    (heat : validReferences (references raw).heat = validReferences (references other).heat)
    (portfolio : validReferences (references raw).portfolio =
      validReferences (references other).portfolio)
    (intervention : validReferences (references raw).intervention =
      validReferences (references other).intervention) :
    resolveGrounding collate t organizationId projectId raw now =
      resolveGrounding collate t organizationId projectId other now := by
  simp only [resolveGrounding, resolveHeat_of_parses rawParses.heat,
    resolveHeat_of_parses otherParses.heat, resolvePortfolio_of_parses rawParses.portfolio,
    resolvePortfolio_of_parses otherParses.portfolio,
    resolveInterventions_of_parses rawParses.intervention,
    resolveInterventions_of_parses otherParses.intervention, heat, portfolio, intervention]

theorem fails_of_parses {collate : String → String → Bool} {t : GroundingTables}
    {organizationId : UUID} {projectId : Option UUID} {inputData : Dict} {now : Instant}
    (parses : RequestParses (references inputData)) :
    Fails (resolveGrounding collate t organizationId projectId inputData now) ↔
      RestUnresolved t organizationId projectId (references inputData) := by
  rw [fails_resolveGrounding, fails_resolveProject, resolveHeat_of_parses parses.heat,
    resolvePortfolio_of_parses parses.portfolio,
    resolveInterventions_of_parses parses.intervention, fails_resolveRow, fails_resolveRow]
  · refine or_congr Iff.rfl (or_congr ?_ (or_congr ?_ ?_))
    · exact exists_congr fun h => and_congr_right fun wanted => by rw [wanted]
    · exact exists_congr fun r => and_congr_right fun wanted => by rw [wanted]
    · rw [← missesSome_iff collate]
      split
      · rename_i missed
        simp only [fails_error, missed]
      · rename_i found
        simp only [not_fails_ok, found, Bool.false_eq_true]
  · exact fun none row found => selectPortfolio_free (none ▸ found)
  · exact fun none row found => selectHeat_free (none ▸ found)

/-- A reference that does not parse is rejected, if nothing before it was. -/
theorem fails_of_malformed {collate : String → String → Bool} {t : GroundingTables}
    {organizationId : UUID} {projectId : Option UUID} {inputData : Dict} {now : Instant}
    (malformed : ¬RequestParses (references inputData)) :
    Fails (resolveGrounding collate t organizationId projectId inputData now) := by
  rw [fails_resolveGrounding]
  by_cases heat : FirstParses (references inputData).heat
  · by_cases portfolio : FirstParses (references inputData).portfolio
    · have intervention : ¬AllParse (references inputData).intervention :=
        fun all => malformed ⟨heat, portfolio, all⟩
      obtain ⟨e, failed⟩ := allReferences_fails "intervention" intervention
      refine .inr (.inr (.inr ⟨e, ?_⟩))
      rw [resolveInterventions, failed]
      rfl
    · obtain ⟨e, failed⟩ := firstReference_fails "portfolio_run" portfolio
      refine .inr (.inr (.inl ⟨e, ?_⟩))
      rw [resolvePortfolio, failed]
      rfl
  · obtain ⟨e, failed⟩ := firstReference_fails "heat_analysis" heat
    refine .inr (.inl ⟨e, ?_⟩)
    rw [resolveHeat, failed]
    rfl

/-- Both return the same grounding, or both raise a GroundingError. -/
def SameGrounding : Except GroundingError Dict → Except GroundingError Dict → Prop
  | .ok a, .ok b => a = b
  | .error _, .error _ => True
  | _, _ => False

theorem sameGrounding_of_fails {x y : Except GroundingError Dict} (h : Fails x) :
    SameGrounding x y ↔ Fails y := by
  obtain ⟨e, rfl⟩ := h
  cases y <;> simp [SameGrounding]

/-- Resolving what a run persists agrees with resolving the request exactly when every
reference that is looked at parses, or what is left of the request fails as well. -/
theorem persisted_references_agree_iff (collate : String → String → Bool)
    (t : GroundingTables) (organizationId : UUID) (projectId : Option UUID) (inputData : Dict)
    (now : Instant) :
    SameGrounding (resolveGrounding collate t organizationId projectId inputData now)
        (resolveGrounding collate t organizationId projectId (safeInputReferences inputData) now) ↔
      RequestParses (references inputData) ∨
        RestUnresolved t organizationId projectId (references inputData) := by
  have kept := requestParses_persisted inputData
  have rest : RestUnresolved t organizationId projectId
      (references (safeInputReferences inputData)) ↔
      RestUnresolved t organizationId projectId (references inputData) := by
    rw [references_safe]
    simp only [RestUnresolved, validReferences_uuidTexts]
  by_cases parses : RequestParses (references inputData)
  · have same := resolveGrounding_eq collate t organizationId projectId now parses kept
      (by rw [references_safe, validReferences_uuidTexts])
      (by rw [references_safe, validReferences_uuidTexts])
      (by rw [references_safe, validReferences_uuidTexts])
    rw [same]
    refine ⟨fun _ => .inl parses, fun _ => ?_⟩
    cases resolveGrounding collate t organizationId projectId (safeInputReferences inputData) now
    · trivial
    · rfl
  · rw [sameGrounding_of_fails (fails_of_malformed parses), fails_of_parses kept, rest]
    simp [parses]

/-! ## A malformed reference -/

def malformedRequest : Dict := [("heat_analysis_id", .str "not-a-uuid")]

/-- An organization with one succeeded analysis. -/
def oneAnalysis : GroundingTables := { noRows with heatAnalyses := [sharedIdAnalysis 1 0] }

/-- The request is rejected, while the run that persists it is grounded on the latest
analysis. -/
theorem malformed_reference_replaced :
    ¬∀ (collate : String → String → Bool) (t : GroundingTables) (organizationId : UUID)
        (projectId : Option UUID) (inputData : Dict) (now : Instant),
      SameGrounding (resolveGrounding collate t organizationId projectId inputData now)
        (resolveGrounding collate t organizationId projectId (safeInputReferences inputData)
          now) := by
  intro agree
  have same := agree (fun _ _ => true) oneAnalysis 1 none malformedRequest 0
  have rejected : Fails (resolveGrounding (fun _ _ => true) oneAnalysis 1 none
      malformedRequest 0) := ⟨⟨"invalid_heat_analysis_reference"⟩, rfl⟩
  obtain ⟨e, failed⟩ := (sameGrounding_of_fails rejected).mp same
  cases failed

end CoolProof.Grounding
