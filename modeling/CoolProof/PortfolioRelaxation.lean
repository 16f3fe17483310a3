import CoolProof.PortfolioReadback

/-! Requests compared. A request relaxes another if every zone and every catalogue entry of the
other is there with terms that are no worse, and budget, minimums, penalty and pair constraints
demand no more. What the other request allows can then be moved over, pair by pair. -/

namespace CoolProof.Portfolio
open BinaryProgram Loops Tables

/-! ## Relaxed requests -/

/-- The same zone, with at least the capacity, and counted wherever it was. -/
structure ZoneDemand.Within (zone wider : ZoneDemand) : Prop where
  zoneId : wider.zoneId = zone.zoneId
  landUse : wider.landUse = zone.landUse
  equity : zone.equityPriority = true → wider.equityPriority = true
  school : zone.isSchool = true → wider.isSchool = true
  capacity : zone.implementationCapacity ≤ wider.implementationCapacity

/-- The same entry, for no more money, no less cooling and no more uncertainty. -/
structure InterventionSpec.Within (spec better : InterventionSpec) : Prop where
  interventionId : better.interventionId = spec.interventionId
  unitCost : better.unitCost ≤ spec.unitCost
  coolingScore : spec.coolingScore ≤ better.coolingScore
  eligibleLandUses : spec.eligibleLandUses ⊆ better.eligibleLandUses
  uncertainty : better.uncertainty ≤ spec.uncertainty

structure Relaxes (casefold : String → String) (r relaxed : Request) : Prop where
  zones : ∀ zone ∈ r.zones, ∃ wider ∈ relaxed.zones, zone.Within wider
  interventions : ∀ spec ∈ r.interventions, ∃ better ∈ relaxed.interventions, spec.Within better
  budget : r.budget ≤ relaxed.budget
  equity : relaxed.minEquityUnits ≤ r.minEquityUnits
  school : relaxed.minSchoolUnits ≤ r.minSchoolUnits
  penalty : relaxed.uncertaintyPenalty ≤ r.uncertaintyPenalty
  /-- A pair that must be allocated had to be before. -/
  required : ∀ pair ∈ eligiblePairs casefold relaxed, key pair ∈ relaxed.required →
    ∃ old ∈ eligiblePairs casefold r, key old = key pair ∧ key old ∈ r.required
  incompatible : relaxed.incompatible ⊆ r.incompatible

theorem ZoneDemand.Within.refl (zone : ZoneDemand) : zone.Within zone :=
  ⟨rfl, rfl, id, id, le_rfl⟩

theorem InterventionSpec.Within.refl (spec : InterventionSpec) : spec.Within spec :=
  ⟨rfl, le_rfl, le_rfl, List.Subset.refl _, le_rfl⟩

/-- A larger budget relaxes a request. -/
theorem Relaxes.of_budget (casefold : String → String) {r : Request} {budget : ℚ}
    (more : r.budget ≤ budget) : Relaxes casefold r { r with budget := budget } where
  zones zone member := ⟨zone, member, .refl zone⟩
  interventions spec member := ⟨spec, member, .refl spec⟩
  budget := more
  equity := le_rfl
  school := le_rfl
  penalty := le_rfl
  required pair member needed := ⟨pair, member, rfl, needed⟩
  incompatible := List.Subset.refl _

/-! ## Moving pairs -/

/-- The pair of the relaxed request with the same ids. -/
structure Moves (relaxed : Request) (pair moved : Pair) : Prop where
  zone : moved.1 ∈ relaxed.zones
  spec : moved.2 ∈ relaxed.interventions
  wider : pair.1.Within moved.1
  better : pair.2.Within moved.2

theorem Moves.key_eq {relaxed : Request} {pair moved : Pair} (moves : Moves relaxed pair moved) :
    key moved = key pair := Prod.ext moves.wider.zoneId moves.better.interventionId

section Moved

variable {casefold : String → String} {r relaxed : Request}

theorem Relaxes.exists_moved (relaxes : Relaxes casefold r relaxed) {pair : Pair}
    (member : pair ∈ eligiblePairs casefold r) : ∃ moved, Moves relaxed pair moved := by
  obtain ⟨inZones, inSpecs, -⟩ := mem_eligiblePairs.mp member
  obtain ⟨wider, zone, within⟩ := relaxes.zones pair.1 inZones
  obtain ⟨better, spec, improves⟩ := relaxes.interventions pair.2 inSpecs
  exact ⟨(wider, better), zone, spec, within, improves⟩

theorem Moves.eligible {pair moved : Pair} (moves : Moves relaxed pair moved)
    (eligible : isEligible casefold pair.2 pair.1.landUse = true) :
    isEligible casefold moved.2 moved.1.landUse = true := by
  unfold isEligible at eligible ⊢
  rw [moves.wider.landUse, List.contains_iff_mem]
  exact List.map_subset casefold moves.better.eligibleLandUses (List.contains_iff_mem.mp eligible)

theorem Moves.netBenefit_le (relaxes : Relaxes casefold r relaxed)
    (penalty : 0 ≤ relaxed.uncertaintyPenalty) {pair moved : Pair}
    (moves : Moves relaxed pair moved) : netBenefit r pair ≤ netBenefit relaxed moved := by
  have doubt : max 0 moved.2.uncertainty ≤ max 0 pair.2.uncertainty :=
    max_le_max le_rfl moves.better.uncertainty
  have charged : relaxed.uncertaintyPenalty * max 0 moved.2.uncertainty ≤
      r.uncertaintyPenalty * max 0 pair.2.uncertainty :=
    mul_le_mul relaxes.penalty doubt (le_max_left _ _) (penalty.trans relaxes.penalty)
  exact sub_le_sub moves.better.coolingScore charged

/-- The moved pairs keep every rule of the relaxed request. -/
theorem Relaxes.admissible (relaxes : Relaxes casefold r relaxed) (unique : UniqueIds r)
    (uniqueRelaxed : UniqueIds relaxed) (plan : Plan casefold r) {move : Pair → Pair}
    (moves : ∀ pair ∈ plan.pairs, Moves relaxed pair (move pair))
    (injective : Set.InjOn move plan.pairs) :
    Admissible casefold relaxed (plan.pairs.image move) := by
  have inPairs : ∀ pair ∈ plan.pairs, pair ∈ eligiblePairs casefold r := fun pair member =>
    mem_eligiblePairs.mpr (plan.admissible.eligible pair member)
  have counted : ∀ (old new : Pair → Prop) [DecidablePred old] [DecidablePred new],
      (∀ pair ∈ plan.pairs, old pair → new (move pair)) →
      (plan.pairs.filter old).card ≤ ((plan.pairs.image move).filter new).card := by
    intro old new _ _ kept
    rw [← Finset.card_image_of_injOn (injective.mono (Finset.filter_subset old plan.pairs))]
    refine Finset.card_le_card fun moved member => ?_
    obtain ⟨pair, chosen, rfl⟩ := Finset.mem_image.mp member
    obtain ⟨inPlan, holds⟩ := Finset.mem_filter.mp chosen
    exact Finset.mem_filter.mpr ⟨Finset.mem_image_of_mem move inPlan, kept pair inPlan holds⟩
  refine ⟨fun moved member => ?_, ?_, ?_, ?_, fun zone inZones => ?_,
    fun zone inZones spec inSpecs eligible needed => ?_, fun moved member forbidden => ?_⟩
  · obtain ⟨pair, inPlan, rfl⟩ := Finset.mem_image.mp member
    have moved := moves pair inPlan
    exact ⟨moved.zone, moved.spec, moved.eligible (plan.admissible.eligible pair inPlan).2.2⟩
  · rw [Finset.sum_image injective]
    calc ∑ pair ∈ plan.pairs, (move pair).2.unitCost
        ≤ ∑ pair ∈ plan.pairs, pair.2.unitCost :=
          Finset.sum_le_sum fun pair inPlan => (moves pair inPlan).better.unitCost
      _ ≤ r.budget := plan.admissible.budget
      _ ≤ relaxed.budget := relaxes.budget
  · refine relaxes.equity.trans (plan.admissible.equity.trans (Int.ofNat_le.mpr ?_))
    exact counted _ _ fun pair inPlan => (moves pair inPlan).wider.equity
  · refine relaxes.school.trans (plan.admissible.school.trans (Int.ofNat_le.mpr ?_))
    exact counted _ _ fun pair inPlan => (moves pair inPlan).wider.school
  · -- all that is moved to a zone comes from one zone
    rcases Finset.eq_empty_or_nonempty ((plan.pairs.image move).filter fun pair => pair.1 = zone)
      with none_ | ⟨moved, member⟩
    · rw [none_]
      exact le_max_left _ _
    · obtain ⟨inImage, here⟩ := Finset.mem_filter.mp member
      obtain ⟨first, inPlan, rfl⟩ := Finset.mem_image.mp inImage
      have within := (moves first inPlan).wider
      rw [here] at within
      have origin : (plan.pairs.image move).filter (fun pair => pair.1 = zone) ⊆
          (plan.pairs.filter fun pair => pair.1 = first.1).image move := by
        intro other member
        obtain ⟨inImage, there⟩ := Finset.mem_filter.mp member
        obtain ⟨pair, chosen, rfl⟩ := Finset.mem_image.mp inImage
        have same : pair.1.zoneId = first.1.zoneId := by
          rw [← (moves pair chosen).wider.zoneId, there, within.zoneId]
        refine Finset.mem_image_of_mem move (Finset.mem_filter.mpr ⟨chosen, ?_⟩)
        exact List.inj_on_of_nodup_map unique.zones (plan.admissible.eligible pair chosen).1
          (plan.admissible.eligible first inPlan).1 same
      have room := plan.admissible.capacity first.1 (plan.admissible.eligible first inPlan).1
      have fewer := (Finset.card_le_card origin).trans Finset.card_image_le
      calc (((plan.pairs.image move).filter fun pair => pair.1 = zone).card : Int)
          ≤ ((plan.pairs.filter fun pair => pair.1 = first.1).card : Int) := Int.ofNat_le.mpr fewer
        _ ≤ max 0 first.1.implementationCapacity := room
        _ ≤ max 0 zone.implementationCapacity := max_le_max le_rfl within.capacity
  · have there : (zone, spec) ∈ eligiblePairs casefold relaxed :=
      mem_eligiblePairs.mpr ⟨inZones, inSpecs, eligible⟩
    obtain ⟨old, inOld, sameKey, before⟩ := relaxes.required (zone, spec) there needed
    obtain ⟨oldZone, oldSpec, oldEligible⟩ := mem_eligiblePairs.mp inOld
    have allocated : old ∈ plan.pairs :=
      plan.admissible.required old.1 oldZone old.2 oldSpec oldEligible before
    have moved := moves old allocated
    have arrived : move old ∈ eligiblePairs casefold relaxed :=
      mem_eligiblePairs.mpr ⟨moved.zone, moved.spec, moved.eligible oldEligible⟩
    rw [← uniqueRelaxed.key_inj arrived there (moved.key_eq.trans sameKey)]
    exact Finset.mem_image_of_mem move allocated
  · obtain ⟨pair, inPlan, rfl⟩ := Finset.mem_image.mp member
    have same : key (move pair) = key pair := (moves pair inPlan).key_eq
    change key (move pair) ∈ relaxed.incompatible at forbidden
    rw [same] at forbidden
    exact plan.admissible.compatible pair inPlan (relaxes.incompatible forbidden)

/-- Every plan of a request is worth no more than some plan of a relaxed one. -/
theorem Relaxes.exists_plan (relaxes : Relaxes casefold r relaxed) (unique : UniqueIds r)
    (uniqueRelaxed : UniqueIds relaxed) (penalty : 0 ≤ relaxed.uncertaintyPenalty)
    (plan : Plan casefold r) : ∃ moved : Plan casefold relaxed, plan.benefit ≤ moved.benefit := by
  have inPairs : ∀ pair ∈ plan.pairs, pair ∈ eligiblePairs casefold r := fun pair member =>
    mem_eligiblePairs.mpr (plan.admissible.eligible pair member)
  have inhabited : Nonempty Pair := ⟨⟨"", "", false, false, 0⟩, ⟨"", 0, 0, [], 0⟩⟩
  have each : ∀ pair ∈ plan.pairs, ∃ moved, Moves relaxed pair moved := fun pair member =>
    relaxes.exists_moved (inPairs pair member)
  choose! move moves using each
  have injective : Set.InjOn move plan.pairs := by
    intro a inA b inB same
    refine unique.key_inj (inPairs a inA) (inPairs b inB) ?_
    rw [← (moves a inA).key_eq, ← (moves b inB).key_eq, same]
  refine ⟨⟨plan.pairs.image move, relaxes.admissible unique uniqueRelaxed plan moves injective⟩, ?_⟩
  unfold Plan.benefit
  rw [Finset.sum_image injective]
  exact Finset.sum_le_sum fun pair member => (moves pair member).netBenefit_le relaxes penalty

end Moved

/-! ## Reported benefits -/

/-- The cooling score of the first entry of an id. -/
def firstScore (r : Request) (id : String) : ℚ :=
  ((find InterventionSpec.interventionId id r.interventions).map InterventionSpec.coolingScore).getD
    0

theorem allocation_benefit {r : Request} {k : Key} {units : Int} {a : Allocation}
    (made : allocation r k units = .ok a) : a.benefit = firstScore r a.interventionId * a.units := by
  unfold allocation at made
  split at made
  · cases made
  · rename_i spec found
    unfold validatedCost at made
    split_ifs at made
    · cases made
    · cases made
    · cases made
      rw [firstScore, found]
      rfl

section Reported

variable {casefold : String → String} {solve : Program Key ℚ → Outcome Key ℚ} {r : Request}

/-- The total adds up the cooling scores of the pairs that are reported. -/
theorem totalBenefit_eq (unique : UniqueIds r) {result : PortfolioResult} {plan : Plan casefold r}
    (reports : Reports plan result) (answered : optimizePortfolio casefold solve r = .ok result) :
    result.totalBenefit = round 4 (∑ pair ∈ plan.pairs, pair.2.coolingScore) := by
  obtain ⟨-, x, allocated, -, read, rfl⟩ := optimizePortfolio_ok answered
  have amounts : allocated.map Allocation.benefit =
      (allocated.map Allocation.key).map fun k => firstScore r k.2 := by
    rw [List.map_map]
    refine List.map_congr_left fun a member => ?_
    obtain ⟨k, -, made⟩ := mem_of_mapM_ok read a member
    rw [allocation_benefit made, reports.units a member, Int.cast_one, mul_one]
    rfl
  have nodup : (allocated.map Allocation.key).Nodup := reports.once
  have inPairs : ∀ pair ∈ plan.pairs, pair ∈ eligiblePairs casefold r := fun pair member =>
    mem_eligiblePairs.mpr (plan.admissible.eligible pair member)
  have keys : (allocated.map Allocation.key).toFinset = plan.pairs.image key := by
    ext k
    have listed := reports.allocated k.1 k.2
    simp only [List.mem_toFinset, List.mem_map, Finset.mem_image, Allocation.key, key,
      Prod.ext_iff]
    exact listed
  change round 4 (allocated.map Allocation.benefit).sum = _
  rw [amounts, ← List.sum_toFinset _ nodup, keys, Finset.sum_image fun a inA b inB same =>
    unique.key_inj (inPairs a inA) (inPairs b inB) same]
  refine congrArg (round 4) (Finset.sum_congr rfl fun pair member => ?_)
  have found := find_of_mem unique.interventions (plan.admissible.eligible pair member).2.1
  rw [firstScore, show find InterventionSpec.interventionId (key pair).2 r.interventions =
    some pair.2 from found]
  rfl

/-- Where there is a plan, an exact solver makes the optimizer answer. -/
theorem answered_of_plan (exact : Exact solve) (unique : UniqueIds r) (valid : ValidArguments r)
    (catalogue : ∀ spec ∈ r.interventions, 0 < spec.unitCost ∧ 0 ≤ spec.coolingScore)
    (plan : Plan casefold r) : ∃ result, optimizePortfolio casefold solve r = .ok result := by
  obtain ⟨y, answer, optimal⟩ := exact.optimal _ _ (plan.feasible unique)
  have admissible := ((feasible_iff_admissible unique).mp optimal.feasible).2
  obtain ⟨allocated, read, -⟩ := allocations_ok unique
    (fun pair member => catalogue _ (admissible.eligible pair member).2.1) optimal.feasible.binary
  have assigned : (solve (program casefold r)).assignment = some y := by
    rw [answer]
    rfl
  exact ⟨_, optimizePortfolio_some valid assigned read⟩

theorem benefit_of_no_penalty (free : r.uncertaintyPenalty = 0) (plan : Plan casefold r) :
    plan.benefit = ∑ pair ∈ plan.pairs, pair.2.coolingScore := by
  unfold Plan.benefit
  refine Finset.sum_congr rfl fun pair _ => ?_
  rw [netBenefit, free, zero_mul, sub_zero]

end Reported

/-- Ten more to spend. -/
def largerBudget : Request := { sampleRequest with budget := 60 }

end CoolProof.Portfolio
