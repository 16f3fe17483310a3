import CoolProof.Library.Tables
import CoolProof.Library.Runs

/-! Tables that several owners share. The slice of an owner is its rows, in their order; an
operation on rows of one owner acts on that slice alone. A system whose operations all do so
runs, slice by slice, like a system of the owner alone. -/

namespace Slices
open Tables

variable {ρ ι κ : Type*} [DecidableEq ι]

/-- The rows of an owner. -/
def slice (owner : ρ → ι) (k : ι) (rows : List ρ) : List ρ :=
  rows.filter fun r => owner r = k

variable {owner : ρ → ι} {k : ι} {rows new : List ρ}

theorem mem_slice {r : ρ} : r ∈ slice owner k rows ↔ r ∈ rows ∧ owner r = k := by
  simp [slice]

theorem slice_append : slice owner k (rows ++ new) = slice owner k rows ++ slice owner k new :=
  List.filter_append _ _

theorem slice_all (own : ∀ r ∈ new, owner r = k) : slice owner k new = new :=
  List.filter_eq_self.mpr fun r member => decide_eq_true (own r member)

theorem slice_none (others : ∀ r ∈ new, owner r ≠ k) : slice owner k new = [] :=
  List.filter_eq_nil_iff.mpr fun r member same => others r member (of_decide_eq_true same)

/-- Rows that are added to the owner's. -/
theorem slice_added (own : ∀ r ∈ new, owner r = k) :
    slice owner k (rows ++ new) = slice owner k rows ++ new := by
  rw [slice_append, slice_all own]

theorem slice_added_other (others : ∀ r ∈ new, owner r ≠ k) :
    slice owner k (rows ++ new) = slice owner k rows := by
  rw [slice_append, slice_none others, List.append_nil]

/-- One row that is added. -/
theorem slice_concat {r : ρ} (own : owner r = k) :
    slice owner k (rows ++ [r]) = slice owner k rows ++ [r] :=
  slice_added fun _ member => List.mem_singleton.mp member ▸ own

theorem slice_concat_other {r : ρ} (other : owner r ≠ k) :
    slice owner k (rows ++ [r]) = slice owner k rows :=
  slice_added_other fun _ member => List.mem_singleton.mp member ▸ other

theorem slice_congr {owner' : ρ → ι} (same : ∀ r ∈ rows, owner' r = owner r) :
    slice owner' k rows = slice owner k rows :=
  List.filter_congr fun r member => by rw [same r member]

/-- A rewriting that leaves every row with its owner. -/
theorem slice_map {f : ρ → ρ} (same : ∀ r ∈ rows, owner (f r) = owner r) :
    slice owner k (rows.map f) = (slice owner k rows).map f := by
  rw [slice, slice, List.filter_map]
  refine congrArg (List.map f) (List.filter_congr fun r member => ?_)
  rw [Function.comp_apply, same r member]

/-- A rewriting of other owners' rows. -/
theorem slice_map_other {f : ρ → ρ} (same : ∀ r ∈ rows, owner (f r) = owner r)
    (untouched : ∀ r ∈ rows, owner r = k → f r = r) :
    slice owner k (rows.map f) = slice owner k rows := by
  rw [slice_map same]
  exact (List.map_congr_left fun r member =>
    untouched r (mem_slice.mp member).1 (mem_slice.mp member).2).trans (List.map_id _)

/-- A condition inside the slice. -/
theorem slice_filter (keep : ρ → Bool) :
    slice owner k (rows.filter keep) = (slice owner k rows).filter keep := by
  rw [slice, slice, List.filter_filter, List.filter_filter]
  exact List.filter_congr fun r _ => Bool.and_comm _ _

/-- A condition that only drops rows of others. -/
theorem slice_kept {keep : ρ → Bool} (kept : ∀ r ∈ rows, owner r = k → keep r = true) :
    slice owner k (rows.filter keep) = slice owner k rows := by
  rw [slice_filter]
  exact List.filter_eq_self.mpr fun r member =>
    kept r (mem_slice.mp member).1 (mem_slice.mp member).2

/-- A selection that names the owner reads the slice only. -/
theorem filter_slice {keep : ρ → Bool} (within : ∀ r ∈ rows, keep r = true → owner r = k) :
    (slice owner k rows).filter keep = rows.filter keep := by
  rw [slice, List.filter_filter]
  refine List.filter_congr fun r member => ?_
  cases kept : keep r with
  | false => rfl
  | true => simp [within r member kept]

theorem find?_slice {keep : ρ → Bool} (within : ∀ r ∈ rows, keep r = true → owner r = k) :
    (slice owner k rows).find? keep = rows.find? keep := by
  rw [← List.head?_filter, ← List.head?_filter, filter_slice within]

theorem any_slice {keep : ρ → Bool} (within : ∀ r ∈ rows, keep r = true → owner r = k) :
    (slice owner k rows).any keep = rows.any keep := by
  rw [Bool.eq_iff_iff, List.any_eq_true, List.any_eq_true]
  refine exists_congr fun r => ?_
  rw [mem_slice]
  exact ⟨fun inSlice => ⟨inSlice.1.1, inSlice.2⟩,
    fun stored => ⟨⟨stored.1, within r stored.1 stored.2⟩, stored.2⟩⟩

/-- A join to which the rows of others add nothing. -/
theorem flatMap_slice {β : Type*} {join : ρ → List β}
    (within : ∀ r ∈ rows, owner r ≠ k → join r = []) :
    (slice owner k rows).flatMap join = rows.flatMap join := by
  induction rows with
  | nil => rfl
  | cons head rows ih =>
    have later := ih fun r member => within r (List.mem_cons_of_mem _ member)
    simp only [slice, List.filter_cons, List.flatMap_cons] at later ⊢
    by_cases mine : owner head = k
    · simp [mine, later]
    · simp [mine, later, within head List.mem_cons_self mine]

theorem first_slice {rank : ρ → ρ → Prop} [DecidableRel rank] {keep : ρ → Bool}
    (within : ∀ r, keep r = true → owner r = k) :
    first rank keep (slice owner k rows) = first rank keep rows :=
  first_filter (fun r kept => decide_eq_true (within r kept)) rows

section Keys

variable [DecidableEq κ] {key : ρ → κ}

/-- A lookup in the slice, where the key is unique. -/
theorem find_slice (unique : (rows.map key).Nodup) (wanted : κ) :
    find key wanted (slice owner k rows) =
      (find key wanted rows).filter fun r => owner r = k := by
  cases found : find key wanted rows with
  | none =>
    have missing := find_eq_none.mp found
    exact find_eq_none.mpr fun r member => missing r (mem_slice.mp member).1
  | some r =>
    obtain ⟨member, rfl⟩ := find_some found
    by_cases own : owner r = k
    · have inSlice : r ∈ slice owner k rows := mem_slice.mpr ⟨member, own⟩
      have sub : ((slice owner k rows).map key).Nodup :=
        unique.sublist (List.filter_sublist.map key)
      rw [find_of_mem sub inSlice]
      simp [Option.filter, own]
    · have missing : find key (key r) (slice owner k rows) = none := by
        refine find_eq_none.mpr fun other inSlice same => own ?_
        obtain ⟨stored, mine⟩ := mem_slice.mp inSlice
        exact List.inj_on_of_nodup_map unique stored member same ▸ mine
      rw [missing]
      simp [Option.filter, own]

/-- A row of the owner's is written back. -/
theorem slice_update {row : ρ} (own : owner row = k)
    (before : ∀ r ∈ rows, key r = key row → owner r = k) :
    slice owner k (update key row rows) = update key row (slice owner k rows) := by
  induction rows with
  | nil => rfl
  | cons head rows ih =>
    have later := ih fun r member => before r (List.mem_cons_of_mem _ member)
    simp only [slice, update, List.map_cons, List.filter_cons] at later ⊢
    by_cases hit : key head = key row
    · simp [hit, own, before head List.mem_cons_self hit, later]
    · by_cases mine : owner head = k
      · simp [hit, mine, later]
      · simp [hit, mine, later]

theorem slice_update_other {row : ρ} (other : owner row ≠ k)
    (before : ∀ r ∈ rows, key r = key row → owner r ≠ k) :
    slice owner k (update key row rows) = slice owner k rows := by
  induction rows with
  | nil => rfl
  | cons head rows ih =>
    have later := ih fun r member => before r (List.mem_cons_of_mem _ member)
    simp only [slice, update, List.map_cons, List.filter_cons] at later ⊢
    by_cases hit : key head = key row
    · simp [hit, other, before head List.mem_cons_self hit, later]
    · by_cases mine : owner head = k
      · simp [hit, mine, later]
      · simp [hit, mine, later]

/-- A row of the owner's is written back or added. -/
theorem slice_upsert {row : ρ} (own : owner row = k)
    (before : ∀ r ∈ rows, key r = key row → owner r = k) :
    slice owner k (upsert key row rows) = upsert key row (slice owner k rows) := by
  have looked : find key (key row) (slice owner k rows) = find key (key row) rows :=
    find?_slice fun r member hit => before r member (of_decide_eq_true hit)
  unfold upsert
  rw [looked]
  split
  · exact slice_update own before
  · exact slice_concat own

end Keys

/-! ## Constraints -/

/-- Rows of different owners are related. -/
def Apart (owner : ρ → ι) (related : ρ → ρ → Prop) (rows : List ρ) : Prop :=
  ∀ r ∈ rows, ∀ r' ∈ rows, owner r ≠ owner r' → related r r'

theorem pairwise_of_slices {related : ρ → ρ → Prop} (apart : Apart owner related rows)
    (each : ∀ j, (slice owner j rows).Pairwise related) : rows.Pairwise related := by
  induction rows with
  | nil => exact .nil
  | cons head rows ih =>
    refine List.pairwise_cons.mpr ⟨fun r member => ?_, ih ?_ fun j => ?_⟩
    · by_cases same : owner r = owner head
      · have own := each (owner head)
        rw [slice, List.filter_cons_of_pos (by simp), List.pairwise_cons] at own
        exact own.1 r (mem_slice.mpr ⟨member, same⟩)
      · exact apart head List.mem_cons_self r (List.mem_cons_of_mem _ member) (Ne.symm same)
    · exact fun r member r' member' =>
        apart r (List.mem_cons_of_mem _ member) r' (List.mem_cons_of_mem _ member')
    · exact (each j).sublist ((List.sublist_cons_self _ _).filter _)

/-- Where the rows of others are as they must be and apart from those of one owner, a constraint
between rows is checked on the slice of that owner. -/
theorem pairwise_slice_iff {related : ρ → ρ → Prop} (apart : Apart owner related rows)
    (others : ∀ j, j ≠ k → (slice owner j rows).Pairwise related) :
    rows.Pairwise related ↔ (slice owner k rows).Pairwise related := by
  refine ⟨fun all => all.sublist List.filter_sublist, fun own => ?_⟩
  refine pairwise_of_slices apart fun j => ?_
  by_cases mine : j = k
  · rw [mine]
    exact own
  · exact others j mine

/-- So a unique key is, when only the slice of that owner has changed. -/
theorem nodup_slice_iff {key : ρ → κ} {before after : List ρ}
    (apart : Apart owner (fun r r' => key r ≠ key r') after)
    (others : ∀ j, j ≠ k → slice owner j after = slice owner j before)
    (held : (before.map key).Nodup) :
    (after.map key).Nodup ↔ ((slice owner k after).map key).Nodup := by
  have pairs : ∀ rows : List ρ, (rows.map key).Nodup ↔ rows.Pairwise fun r r' => key r ≠ key r' :=
    fun rows => List.pairwise_map
  rw [pairs] at held
  rw [pairs, pairs]
  refine pairwise_slice_iff apart fun j differ => ?_
  rw [others j differ]
  exact held.sublist List.filter_sublist

omit [DecidableEq ι] in
theorem apart_of_pairwise {related : ρ → ρ → Prop} [Std.Symm related]
    (all : rows.Pairwise related) : Apart owner related rows := fun _ member _ member' differ =>
  all.forall member member' fun same => differ (congrArg owner same)

omit [DecidableEq ι] in
theorem apart_of_nodup {key : ρ → κ} (unique : (rows.map key).Nodup) :
    Apart owner (fun r r' => key r ≠ key r') rows := fun _ member _ member' differ same =>
  differ (congrArg owner (List.inj_on_of_nodup_map unique member member' same))

omit [DecidableEq ι] in
/-- Rows of one owner under keys that no row of another has. -/
theorem apart_added {key : ρ → κ} (unique : (rows.map key).Nodup)
    (own : ∀ r ∈ new, owner r = k)
    (fresh : ∀ r ∈ rows, ∀ r' ∈ new, key r = key r' → owner r = k) :
    Apart owner (fun r r' => key r ≠ key r') (rows ++ new) := by
  intro r member r' member' differ same
  rcases List.mem_append.mp member with old | added
  · rcases List.mem_append.mp member' with old' | added'
    · exact differ (congrArg owner (List.inj_on_of_nodup_map unique old old' same))
    · exact differ ((fresh r old r' added' same).trans (own r' added').symm)
  · rcases List.mem_append.mp member' with old' | added'
    · exact differ ((own r added).trans (fresh r' old' r added same.symm).symm)
    · exact differ ((own r added).trans (own r' added').symm)

omit [DecidableEq ι] in
theorem apart_concat {key : ρ → κ} {r : ρ} (unique : (rows.map key).Nodup) (own : owner r = k)
    (fresh : ∀ r' ∈ rows, key r' = key r → owner r' = k) :
    Apart owner (fun r r' => key r ≠ key r') (rows ++ [r]) :=
  apart_added unique (fun _ member => List.mem_singleton.mp member ▸ own)
    fun r' old _ member same => fresh r' old (List.mem_singleton.mp member ▸ same)

/-! ## Runs -/

section Runs

variable {σ τ ε : Type*} {step : σ → ε → σ} {alone : τ → ε → τ} {mine : ε → Bool}
  {guard : σ → τ → ε → Prop} {sliced : σ → τ → Prop} {s : σ} {t : τ}

/-- Each event of a run meets the guard, where the run has got to and where the owner's own
events alone would have got to. -/
def Guarded (step : σ → ε → σ) (alone : τ → ε → τ) (mine : ε → Bool) (guard : σ → τ → ε → Prop)
    (s : σ) (t : τ) (events : List ε) : Prop :=
  ∀ before e after, events = before ++ e :: after →
    guard (before.foldl step s) ((before.filter mine).foldl alone t) e

theorem Guarded.earlier {events more : List ε}
    (guarded : Guarded step alone mine guard s t (events ++ more)) :
    Guarded step alone mine guard s t events := by
  intro before e after split
  exact guarded before e (after ++ more) (by rw [split, List.append_assoc, List.cons_append])

theorem guarded_nil : Guarded step alone mine guard s t [] := by
  intro before e after split
  simp at split

theorem Guarded.cons {e : ε} {events : List ε} (now : guard s t e)
    (later : Guarded step alone mine guard (step s e) (if mine e then alone t e else t) events) :
    Guarded step alone mine guard s t (e :: events) := by
  intro before e' after split
  cases before with
  | nil =>
    obtain ⟨rfl, -⟩ := List.cons_eq_cons.mp split
    exact now
  | cons first before =>
    obtain ⟨rfl, rest⟩ := List.cons_eq_cons.mp split
    have held := later before e' after rest
    rw [List.foldl_cons]
    cases taken : mine e with
    | true =>
      rw [List.filter_cons_of_pos taken, List.foldl_cons]
      simpa only [taken, if_true] using held
    | false =>
      rw [List.filter_cons_of_neg (by simp [taken])]
      simpa only [taken, Bool.false_eq_true, if_false] using held

/-- If the owner's events act on the slice as they act alone, and the events of others leave it,
then a run of all does to the slice what the owner's events alone do. -/
theorem sliced_foldl
    (own : ∀ s t e, sliced s t → guard s t e → mine e = true → sliced (step s e) (alone t e))
    (other : ∀ s t e, sliced s t → guard s t e → mine e = false → sliced (step s e) t)
    (start : sliced s t) (events : List ε) (guarded : Guarded step alone mine guard s t events) :
    sliced (events.foldl step s) ((events.filter mine).foldl alone t) := by
  induction events using List.reverseRecOn with
  | nil => exact start
  | append_singleton events e ih =>
    have held := ih guarded.earlier
    have now := guarded events e [] rfl
    rw [List.foldl_append, List.filter_append, List.foldl_append]
    cases taken : mine e with
    | true =>
      rw [List.filter_singleton, taken]
      exact own _ _ e held now taken
    | false =>
      rw [List.filter_singleton, taken]
      exact other _ _ e held now taken

end Runs

end Slices
