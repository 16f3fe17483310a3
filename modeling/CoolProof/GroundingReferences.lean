import CoolProof.PersistedReferences

/-! Which of the references in a request are checked against the organization's rows. Every
intervention is; of the heat analyses and of the portfolio runs, only the first. -/

namespace CoolProof.Grounding
open Calendar JsonDocument Tables Uuid Models

section Named

variable (t : GroundingTables) (organizationId : UUID) (projectId : Option UUID)

/-- An analysis of the organization, and of the project where there is one. -/
def NamesHeat (id : UUID) : Prop := ∃ a ∈ t.heatAnalyses,
  a.organizationId = organizationId ∧ a.id = id ∧ ∀ p ∈ projectId, a.projectId = p

/-- A portfolio run of the organization, and of the project or of none. -/
def NamesPortfolio (id : UUID) : Prop := ∃ r ∈ t.portfolioRuns,
  r.organizationId = organizationId ∧ r.id = id ∧ ∀ p ∈ projectId, ∀ q ∈ r.projectId, q = p

def NamesIntervention (id : UUID) : Prop := ∃ i ∈ t.interventions,
  i.organizationId = organizationId ∧ i.active = true ∧ i.id = id

/-- Every reference names a row that the request may use. -/
structure AllNamed (refs : References) : Prop where
  heat : ∀ id ∈ validReferences refs.heat, NamesHeat t organizationId projectId id
  portfolio : ∀ id ∈ validReferences refs.portfolio, NamesPortfolio t organizationId projectId id
  intervention : ∀ id ∈ validReferences refs.intervention, NamesIntervention t organizationId id

/-- The references that no query asks for name such rows too. -/
structure LaterNamed (refs : References) : Prop where
  heat : ∀ id ∈ (validReferences refs.heat).tail, NamesHeat t organizationId projectId id
  portfolio : ∀ id ∈ (validReferences refs.portfolio).tail,
    NamesPortfolio t organizationId projectId id

end Named

section Checked

variable {t : GroundingTables} {organizationId : UUID} {projectId : Option UUID}

/-- The analysis that the query for an id selects is named by it, unless the project differs. -/
theorem namesHeat_of_selected {id : UUID} {a : HeatAnalysis}
    (selected : selectHeat t organizationId projectId (some id) = some a)
    (matching : heatMismatch projectId a = false) : NamesHeat t organizationId projectId id := by
  obtain ⟨member, kept⟩ := mem_of_first selected
  have own : a.organizationId = organizationId ∧ a.id = id := by simpa [requested] using kept
  refine ⟨a, member, own.1, own.2, fun p project => ?_⟩
  cases project
  simpa [heatMismatch] using matching

theorem namesPortfolio_of_selected {id : UUID} {r : PortfolioRun}
    (selected : selectPortfolio t organizationId projectId (some id) = some r)
    (matching : portfolioMismatch projectId r = false) :
    NamesPortfolio t organizationId projectId id := by
  obtain ⟨member, kept⟩ := mem_of_first selected
  have own : r.organizationId = organizationId ∧ r.id = id := by simpa [requested] using kept
  refine ⟨r, member, own.1, own.2, fun p project q rowProject => ?_⟩
  cases project
  rw [Option.mem_def] at rowProject
  simpa [portfolioMismatch, rowProject] using matching

/-- A list is named when its first reference is and the rest are. -/
theorem forall_of_head_tail {P : UUID → Prop} {ids : List UUID} (first : ∀ id ∈ ids.head?, P id)
    (later : ∀ id ∈ ids.tail, P id) : ∀ id ∈ ids, P id := by
  cases ids with
  | nil => simp
  | cons id ids => exact List.forall_mem_cons.mpr ⟨first id rfl, later⟩

/-- What is not refused has named its first references and all its interventions. -/
theorem allNamed_iff_of_resolved {refs : References}
    (resolved : ¬RestUnresolved t organizationId projectId refs) :
    AllNamed t organizationId projectId refs ↔ LaterNamed t organizationId projectId refs := by
  simp only [RestUnresolved, not_or, not_exists, not_and] at resolved
  obtain ⟨_, heat, portfolio, intervention⟩ := resolved
  constructor
  · intro named
    exact ⟨fun id later => named.heat id (List.mem_of_mem_tail later),
      fun id later => named.portfolio id (List.mem_of_mem_tail later)⟩
  · intro later
    refine ⟨forall_of_head_tail (fun id first => ?_) later.heat,
      forall_of_head_tail (fun id first => ?_) later.portfolio, fun id wanted => ?_⟩
    · obtain ⟨a, selected, matching⟩ := not_forall₂.mp (heat id first)
      exact namesHeat_of_selected selected (Bool.not_eq_true _ ▸ matching)
    · obtain ⟨r, selected, matching⟩ := not_forall₂.mp (portfolio id first)
      exact namesPortfolio_of_selected selected (Bool.not_eq_true _ ▸ matching)
    · by_contra absent
      exact intervention id wanted fun i member own active same =>
        absent ⟨i, member, own, active, same⟩

end Checked

theorem resolved_of_parses {collate : String → String → Bool} {t : GroundingTables}
    {organizationId : UUID} {projectId : Option UUID} {inputData : Dict} {now : Instant}
    (parses : RequestParses (references inputData))
    (resolved : ¬RestUnresolved t organizationId projectId (references inputData)) :
    ∃ grounding, resolveGrounding collate t organizationId projectId inputData now =
      .ok grounding := by
  cases outcome : resolveGrounding collate t organizationId projectId inputData now with
  | error e => exact absurd ((fails_of_parses parses).mp ⟨e, outcome⟩) resolved
  | ok grounding => exact ⟨grounding, rfl⟩

/-- Whatever is returned has all its references named exactly when the request is refused for
the references that are looked at, or the heat and portfolio references after the first, which
are not looked at, name rows too. -/
theorem references_checked_iff (collate : String → String → Bool) (t : GroundingTables)
    (organizationId : UUID) (projectId : Option UUID) {inputData : Dict} (now : Instant)
    (heat : AllParse (references inputData).heat)
    (portfolio : AllParse (references inputData).portfolio)
    (intervention : AllParse (references inputData).intervention) :
    (∀ grounding,
      resolveGrounding collate t organizationId projectId inputData now = .ok grounding →
        AllNamed t organizationId projectId (references inputData)) ↔
      RestUnresolved t organizationId projectId (references inputData) ∨
        LaterNamed t organizationId projectId (references inputData) := by
  have firsts : RequestParses (references inputData) :=
    ⟨fun v first => heat v (List.mem_of_mem_head? first),
      fun v first => portfolio v (List.mem_of_mem_head? first), intervention⟩
  by_cases unresolved : RestUnresolved t organizationId projectId (references inputData)
  · obtain ⟨e, failed⟩ := (fails_of_parses firsts).mpr unresolved
    refine ⟨fun _ => .inl unresolved, fun _ grounding returned => ?_⟩
    cases failed.symm.trans returned
  · rw [allNamed_iff_of_resolved unresolved, or_iff_right unresolved]
    refine ⟨fun checked => ?_, fun later _ _ => later⟩
    obtain ⟨grounding, returned⟩ := resolved_of_parses firsts unresolved
    exact checked grounding returned

/-! ## A second reference -/

/-- An analysis of the organization, and then one that does not exist. -/
def twoAnalyses : Dict := [("heat_analysis_ids", .arr [uuidText 7, uuidText 8])]

/-- A request is resolved where the first analysis that it names is stored. -/
theorem resolved_first {t : GroundingTables} {inputData : Dict} {id : UUID} {later : List Json}
    {a : HeatAnalysis} (refs : references inputData = ⟨uuidText id :: later, [], []⟩)
    (stored : selectHeat t 1 none (some id) = some a) : ∃ grounding,
      resolveGrounding (fun _ _ => true) t 1 none inputData 0 = .ok grounding := by
  have parses : RequestParses (references inputData) := by
    rw [refs]
    refine ⟨fun v first => ?_, firstParses_uuidTexts [], allParse_uuidTexts []⟩
    cases first
    rw [uuidOf_uuidText]
    rfl
  refine resolved_of_parses parses ?_
  rw [refs]
  rintro (⟨p, absent, _⟩ | ⟨asked, first, missing⟩ | ⟨id, absent, _⟩ | ⟨id, absent, _⟩)
  · cases absent
  · have wanted : asked = id := by
      rw [validReferences, List.filterMap_cons, uuidOf_uuidText] at first
      exact (Option.some.inj first).symm
    subst wanted
    cases missing a stored
  · cases absent
  · cases absent

/-- The request is grounded on the first analysis, and nobody asks for the second. -/
theorem references_checked_fails :
    (∃ grounding,
      resolveGrounding (fun _ _ => true) oneAnalysis 1 none twoAnalyses 0 = .ok grounding) ∧
      ¬AllNamed oneAnalysis 1 none (references twoAnalyses) := by
  refine ⟨@resolved_first oneAnalysis twoAnalyses 7 [uuidText 8]
    (sharedIdAnalysis 1 0) rfl rfl, fun named => ?_⟩
  have second : (8 : UUID) ∈ validReferences (references twoAnalyses).heat := by
    rw [show (references twoAnalyses).heat = uuidTexts [7, 8] from rfl, validReferences_uuidTexts]
    simp
  obtain ⟨a, member, _, same, _⟩ := named.heat 8 second
  rw [List.mem_singleton.mp member] at same
  exact absurd same (by decide)

/-- Both analyses of the request are the organization's. -/
def bothAnalyses : GroundingTables :=
  { noRows with heatAnalyses := [sharedIdAnalysis 1 0, { sharedIdAnalysis 1 1 with id := 8 }] }

theorem references_checked_sample :
    AllNamed bothAnalyses 1 none (references twoAnalyses) := by
  obtain ⟨grounding, returned⟩ := @resolved_first bothAnalyses twoAnalyses 7 [uuidText 8]
    (sharedIdAnalysis 1 0) rfl rfl
  have heat : (references twoAnalyses).heat = uuidTexts [7, 8] := rfl
  have parses : AllParse (references twoAnalyses).heat := allParse_uuidTexts [7, 8]
  have laterNamed : LaterNamed bothAnalyses 1 none (references twoAnalyses) := by
    refine ⟨fun id later => ?_, fun id later => ?_⟩
    · rw [heat, validReferences_uuidTexts] at later
      rw [List.mem_singleton.mp later]
      exact ⟨_, List.mem_cons_of_mem _ List.mem_cons_self, rfl, rfl, fun p named => nomatch named⟩
    · cases later
  exact (references_checked_iff (fun _ _ => true) bothAnalyses 1 none 0 parses
    (allParse_uuidTexts []) (allParse_uuidTexts [])).mpr (.inr laterNamed) grounding returned

end CoolProof.Grounding
