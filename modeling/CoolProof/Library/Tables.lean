import Mathlib.Data.List.Sort
import Mathlib.Data.List.Nodup
import Mathlib.Data.List.Dedup
import Mathlib.Data.List.Perm.Subperm

/-! Tables of a relational store as lists of rows in scan order, with the few
operations a unit of work needs: a row looked up by a key, a row written back
under its key, the first row of an ordered selection. -/

namespace Tables

variable {ρ κ : Type*} [DecidableEq κ]

def find (key : ρ → κ) (k : κ) (rows : List ρ) : Option ρ :=
  rows.find? fun r => key r = k

/-- Write a row back under its key; rows with other keys are left alone. -/
def update (key : ρ → κ) (row : ρ) (rows : List ρ) : List ρ :=
  rows.map fun r => if key r = key row then row else r

/-- Write a row back, or add it when its key is new. -/
def upsert (key : ρ → κ) (row : ρ) (rows : List ρ) : List ρ :=
  if (find key (key row) rows).isSome then update key row rows else rows ++ [row]

theorem find_some {key : ρ → κ} {k : κ} {rows : List ρ} {r : ρ} (h : find key k rows = some r) :
    r ∈ rows ∧ key r = k :=
  ⟨List.mem_of_find?_eq_some h, by simpa using List.find?_some h⟩

theorem find_eq_none {key : ρ → κ} {k : κ} {rows : List ρ} :
    find key k rows = none ↔ ∀ r ∈ rows, key r ≠ k := by
  simp [find]

theorem find_of_mem {key : ρ → κ} {rows : List ρ} {r : ρ} (unique : (rows.map key).Nodup)
    (member : r ∈ rows) : find key (key r) rows = some r := by
  induction rows with
  | nil => simp at member
  | cons head rows ih =>
    rw [List.map_cons, List.nodup_cons] at unique
    rcases List.mem_cons.mp member with rfl | tail
    · simp [find]
    · have differs : key head ≠ key r := by
        intro same
        exact unique.1 (same ▸ List.mem_map_of_mem tail)
      rw [find, List.find?_cons_of_neg (by simpa using differs)]
      exact ih unique.2 tail

theorem find_update (key : ρ → κ) (k : κ) (row : ρ) (rows : List ρ) :
    find key k (update key row rows) =
      if k = key row then (find key k rows).map (fun _ => row) else find key k rows := by
  induction rows with
  | nil => simp [find, update]
  | cons head rows ih =>
    simp only [update, find, List.map_cons, List.find?_cons] at ih ⊢
    by_cases hit : key head = key row
    · by_cases same : k = key row
      · simp [hit, same]
      · have differs : key row ≠ k := fun eq => same eq.symm
        simpa [hit, same, differs] using ih
    · by_cases same : k = key row
      · simpa [hit, same] using ih
      · by_cases here : key head = k
        · simp [same, here]
        · simpa [hit, same, here] using ih

theorem find_append (key : ρ → κ) (k : κ) (row : ρ) (rows : List ρ) :
    find key k (rows ++ [row]) =
      (find key k rows).or (if key row = k then some row else none) := by
  simp [find, List.find?_append, List.find?_cons]
  split <;> simp_all

theorem find_upsert (key : ρ → κ) (k : κ) (row : ρ) (rows : List ρ) :
    find key k (upsert key row rows) = if k = key row then some row else find key k rows := by
  unfold upsert
  split
  · rename_i present
    rw [find_update]
    by_cases same : k = key row
    · obtain ⟨old, found⟩ := Option.isSome_iff_exists.mp present
      simp [same, found]
    · simp [same]
  · rename_i absent
    rw [find_append]
    have missing : find key (key row) rows = none := by simpa using absent
    by_cases same : k = key row
    · simp [same, missing]
    · have differs : key row ≠ k := fun eq => same eq.symm
      simp [same, differs]

/-- Writing a row back changes no column on which it agrees with the row it replaces. -/
theorem map_update_of_eq {β : Type*} {key : ρ → κ} {column : ρ → β} {row : ρ} {rows : List ρ}
    (same : ∀ r ∈ rows, key r = key row → column r = column row) :
    (update key row rows).map column = rows.map column := by
  simp only [update, List.map_map]
  apply List.map_congr_left
  intro r member
  by_cases hit : key r = key row
  · simp [hit, same r member hit]
  · simp [hit]

theorem map_update (key : ρ → κ) (row : ρ) (rows : List ρ) :
    (update key row rows).map key = rows.map key :=
  map_update_of_eq fun _ _ hit => hit

theorem mem_update {key : ρ → κ} {row r : ρ} {rows : List ρ} (h : r ∈ update key row rows) :
    r = row ∨ (r ∈ rows ∧ key r ≠ key row) := by
  obtain ⟨old, member, eq⟩ := List.mem_map.mp h
  by_cases hit : key old = key row
  · exact .inl (by simpa [hit] using eq.symm)
  · have same : old = r := by simpa [hit] using eq
    subst same
    exact .inr ⟨member, hit⟩

theorem mem_upsert {key : ρ → κ} {row r : ρ} {rows : List ρ} (h : r ∈ upsert key row rows) :
    r = row ∨ r ∈ rows := by
  unfold upsert at h
  split at h
  · exact (mem_update h).imp_right And.left
  · exact (List.mem_append.mp h).symm.imp_left List.mem_singleton.mp

/-- What is said of columns that two tables share. -/
theorem forall_of_map_eq {β : Type*} (columns : ρ → β) (p : β → Prop) {rows rows' : List ρ}
    (same : rows'.map columns = rows.map columns) (all : ∀ r ∈ rows, p (columns r)) :
    ∀ r ∈ rows', p (columns r) := by
  intro r member
  have listed : columns r ∈ rows.map columns := same ▸ List.mem_map_of_mem member
  obtain ⟨old, stored, eq⟩ := List.mem_map.mp listed
  exact eq ▸ all old stored

theorem exists_of_map_eq {β : Type*} (columns : ρ → β) (p : β → Prop) {rows rows' : List ρ}
    (same : rows'.map columns = rows.map columns) (some : ∃ r ∈ rows, p (columns r)) :
    ∃ r ∈ rows', p (columns r) := by
  obtain ⟨r, stored, holds⟩ := some
  have listed : columns r ∈ rows'.map columns := same ▸ List.mem_map_of_mem stored
  obtain ⟨new, member, eq⟩ := List.mem_map.mp listed
  exact ⟨new, member, eq ▸ holds⟩

/-- A row written back right after it was added under a new key. -/
theorem update_added {key : ρ → κ} {old row : ρ} {rows : List ρ}
    (fresh : ∀ r ∈ rows, key r ≠ key row) (same : key old = key row) :
    update key row (rows ++ [old]) = rows ++ [row] := by
  have kept : rows.map (fun r => if key r = key row then row else r) = rows := by
    conv_rhs => rw [← List.map_id rows]
    exact List.map_congr_left fun r member => if_neg (fresh r member)
  rw [update, List.map_append, kept, List.map_singleton, if_pos same]

/-- As many distinct keys as were asked for: every key that was asked for has a row. -/
theorem found_of_count {key : ρ → κ} {keys : List κ} {rows : List ρ}
    (asked : ∀ r ∈ rows, key r ∈ keys) (count : (rows.map key).dedup.length = keys.length) :
    ∀ k ∈ keys, ∃ r ∈ rows, key r = k := by
  have within : (rows.map key).dedup ⊆ keys := by
    intro k member
    obtain ⟨r, stored, rfl⟩ := List.mem_map.mp (List.mem_dedup.mp member)
    exact asked r stored
  have same : (rows.map key).dedup.Perm keys :=
    ((List.nodup_dedup _).subperm within).perm_of_length_le (Nat.le_of_eq count.symm)
  intro k member
  exact List.mem_map.mp (List.mem_dedup.mp (same.mem_iff.mpr member))

/-- `ORDER BY column` -/
def ascending (column : ρ → Int) (a b : ρ) : Prop := column a ≤ column b

/-- `ORDER BY column DESC` -/
def descending (column : ρ → Int) (a b : ρ) : Prop := column b ≤ column a

instance (column : ρ → Int) : DecidableRel (ascending column) :=
  fun _ _ => inferInstanceAs (Decidable (_ ≤ _))

instance (column : ρ → Int) : DecidableRel (descending column) :=
  fun _ _ => inferInstanceAs (Decidable (_ ≤ _))

/-- `ORDER BY rank LIMIT 1` over the rows a condition keeps; ties go to scan order. -/
def first (rank : ρ → ρ → Prop) [DecidableRel rank] (keep : ρ → Bool) (rows : List ρ) :
    Option ρ := ((rows.filter keep).insertionSort rank).head?

theorem mem_of_first {rank : ρ → ρ → Prop} [DecidableRel rank] {keep : ρ → Bool}
    {rows : List ρ} {r : ρ} (h : first rank keep rows = some r) : r ∈ rows ∧ keep r = true := by
  have member := List.mem_of_mem_head? (Option.mem_def.mpr h)
  rw [List.mem_insertionSort] at member
  exact ⟨List.mem_of_mem_filter member, by simpa using (List.mem_filter.mp member).2⟩

theorem first_eq_none {rank : ρ → ρ → Prop} [DecidableRel rank] {keep : ρ → Bool}
    {rows : List ρ} : first rank keep rows = none ↔ ∀ r ∈ rows, keep r = false := by
  rw [first, List.head?_eq_none_iff, ← List.length_eq_zero_iff, List.length_insertionSort,
    List.length_eq_zero_iff, List.filter_eq_nil_iff]
  simp

/-- A selection that keeps rows of one key only is a lookup under that key. -/
theorem first_key {rank : ρ → ρ → Prop} [DecidableRel rank] {keep : ρ → Bool} {key : ρ → κ}
    {k : κ} {rows : List ρ} (unique : (rows.map key).Nodup)
    (keyed : ∀ r ∈ rows, keep r = true → key r = k) :
    first rank keep rows = (find key k rows).filter keep := by
  cases picked : first rank keep rows with
  | some r =>
    obtain ⟨member, kept⟩ := mem_of_first picked
    have found := find_of_mem unique member
    rw [keyed r member kept] at found
    simp [found, Option.filter, kept]
  | none =>
    have dropped := first_eq_none.mp picked
    cases found : find key k rows with
    | none => rfl
    | some r => simp [Option.filter, dropped r (find_some found).1]

/-- A selection does not see rows that its condition excludes. -/
theorem first_filter {rank : ρ → ρ → Prop} [DecidableRel rank] {keep view : ρ → Bool}
    (within : ∀ r, keep r = true → view r = true) (rows : List ρ) :
    first rank keep (rows.filter view) = first rank keep rows := by
  rw [first, first, List.filter_filter]
  congr 3
  funext r
  cases kept : keep r with
  | false => rfl
  | true => simp [within r kept]

/-- A selection over rewritten rows selects the rewritten row. -/
theorem first_map {rank : ρ → ρ → Prop} [DecidableRel rank] {keep : ρ → Bool} (rewrite : ρ → ρ)
    (kept : ∀ r, keep (rewrite r) = keep r)
    (ranked : ∀ a b, rank a b ↔ rank (rewrite a) (rewrite b)) (rows : List ρ) :
    first rank keep (rows.map rewrite) = (first rank keep rows).map rewrite := by
  have filtered : (rows.map rewrite).filter keep = (rows.filter keep).map rewrite := by
    rw [List.filter_map]
    congr 2
    funext r
    exact kept r
  rw [first, first, filtered, ← List.map_insertionSort _ _ _ _ fun a _ b _ => ranked a b,
    List.head?_map]

/-- `ORDER BY column LIMIT limit` returns a row that at most `limit` rows come no later than. -/
theorem mem_take_ascending {column : ρ → Int} {limit : Nat} {rows : List ρ} {r : ρ}
    (stored : r ∈ rows)
    (room : (rows.filter fun x => decide (column x ≤ column r)).length ≤ limit) :
    r ∈ (rows.insertionSort (ascending column)).take limit := by
  have total : Std.Total (ascending column) := ⟨fun _ _ => Int.le_total _ _⟩
  have transitive : IsTrans ρ (ascending column) := ⟨fun _ _ _ => Int.le_trans⟩
  have sorted : (rows.insertionSort (ascending column)).Pairwise (ascending column) :=
    List.pairwise_insertionSort _ _
  have member : r ∈ rows.insertionSort (ascending column) := (List.mem_insertionSort _).mpr stored
  have perm := (List.perm_insertionSort (ascending column) rows).filter
    fun x => decide (column x ≤ column r)
  rw [← perm.length_eq] at room
  generalize rows.insertionSort (ascending column) = ordered at *
  rw [← List.take_append_drop limit ordered] at member sorted room
  rcases List.mem_append.mp member with early | late
  · exact early
  · -- everything that is taken comes first, and so does the row itself
    have before : ∀ x ∈ ordered.take limit, column x ≤ column r := fun x taken =>
      (List.pairwise_append.mp sorted).2.2 x taken r late
    have whole : (ordered.take limit).filter (fun x => decide (column x ≤ column r)) =
        ordered.take limit := List.filter_eq_self.mpr fun x taken => by simpa using before x taken
    have own : r ∈ (ordered.drop limit).filter fun x => decide (column x ≤ column r) :=
      List.mem_filter.mpr ⟨late, by simp⟩
    have full : (ordered.take limit).length = limit := by
      have beyond : 0 < (ordered.drop limit).length := List.length_pos_of_mem late
      rw [List.length_drop] at beyond
      rw [List.length_take]
      omega
    have some_ := List.length_pos_of_mem own
    rw [List.filter_append, List.length_append, whole, full] at room
    omega

/-! ## Owners -/

section Owners

variable {ι : Type*} {owner : ρ → ι} {k : ι} {before after rows new : List ρ}

/-- Every row that is not an old one belongs to the owner. -/
def WrittenBy (owner : ρ → ι) (k : ι) (before after : List ρ) : Prop :=
  ∀ r ∈ after, r ∈ before ∨ owner r = k

theorem WrittenBy.of_subset (old : after ⊆ before) : WrittenBy owner k before after :=
  fun _ member => .inl (old member)

theorem WrittenBy.refl (rows : List ρ) : WrittenBy owner k rows rows :=
  .of_subset (List.Subset.refl rows)

theorem WrittenBy.trans (first : WrittenBy owner k before rows)
    (second : WrittenBy owner k rows after) : WrittenBy owner k before after := by
  intro r member
  rcases second r member with old | new
  · exact first r old
  · exact .inr new

theorem WrittenBy.added (own : ∀ r ∈ new, owner r = k) : WrittenBy owner k rows (rows ++ new) := by
  intro r member
  rcases List.mem_append.mp member with old | last
  · exact .inl old
  · exact .inr (own r last)

theorem WrittenBy.updated {key : ρ → κ} {row : ρ} (own : owner row = k) :
    WrittenBy owner k rows (update key row rows) := by
  intro r member
  rcases mem_update member with rfl | ⟨old, -⟩
  · exact .inr own
  · exact .inl old

/-- Tables side by side. -/
theorem WrittenBy.append {before' after' : List ρ} (left : WrittenBy owner k before after)
    (right : WrittenBy owner k before' after') :
    WrittenBy owner k (before ++ before') (after ++ after') := by
  intro r member
  rcases List.mem_append.mp member with inLeft | inRight
  · exact (left r inLeft).imp_left (List.mem_append_left _)
  · exact (right r inRight).imp_left (List.mem_append_right _)

/-- The rows of one table among those of all. -/
theorem WrittenBy.map {τ : Type*} {owner : τ → ι} {before after : List ρ} (f : ρ → τ)
    (written : WrittenBy (fun r => owner (f r)) k before after) :
    WrittenBy owner k (before.map f) (after.map f) := by
  intro x member
  obtain ⟨r, stored, rfl⟩ := List.mem_map.mp member
  exact (written r stored).imp_left (List.mem_map_of_mem)

end Owners

/-! ## Heirs -/

section Heirs

variable {becomes : ρ → ρ → Prop} {lost : ρ → Prop} {before after rows : List ρ}

/-- Every old row is still there as what it has become, unless it may be lost. -/
def Inherits (becomes : ρ → ρ → Prop) (lost : ρ → Prop) (before after : List ρ) : Prop :=
  ∀ r ∈ before, (∃ r' ∈ after, becomes r r') ∨ lost r

theorem Inherits.of_subset (refl : ∀ r, becomes r r) (kept : before ⊆ after) :
    Inherits becomes lost before after :=
  fun r member => .inl ⟨r, kept member, refl r⟩

theorem Inherits.of_columns {β : Type*} (columns : ρ → β)
    (same : after.map columns = before.map columns) :
    Inherits (fun r r' => columns r' = columns r) lost before after :=
  fun r member => .inl (exists_of_map_eq columns (· = columns r) same ⟨r, member, rfl⟩)

/-- Rows that are filtered out are lost. -/
theorem Inherits.of_filter (refl : ∀ r, becomes r r) {keep : ρ → Bool}
    (dropped : ∀ r ∈ rows, keep r = false → lost r) :
    Inherits becomes lost rows (rows.filter keep) := by
  intro r member
  cases kept : keep r with
  | true => exact .inl ⟨r, List.mem_filter.mpr ⟨member, kept⟩, refl r⟩
  | false => exact .inr (dropped r member kept)

theorem Inherits.weaken (inherits : Inherits becomes (fun _ => False) before after) :
    Inherits becomes lost before after :=
  fun r member => (inherits r member).imp_right False.elim

theorem Inherits.trans (trans : ∀ {r r' r''}, becomes r r' → becomes r' r'' → becomes r r'')
    (first : Inherits becomes (fun _ => False) before rows)
    (second : Inherits becomes (fun _ => False) rows after) :
    Inherits becomes (fun _ => False) before after := by
  intro r member
  obtain ⟨r', stored, heir⟩ := (first r member).resolve_right id
  obtain ⟨r'', last, next⟩ := (second r' stored).resolve_right id
  exact .inl ⟨r'', last, trans heir next⟩

theorem Inherits.append {before' after' : List ρ} (left : Inherits becomes lost before after)
    (right : Inherits becomes lost before' after') :
    Inherits becomes lost (before ++ before') (after ++ after') := by
  intro r member
  rcases List.mem_append.mp member with inLeft | inRight
  · exact (left r inLeft).imp_left fun ⟨r', stored, heir⟩ =>
      ⟨r', List.mem_append_left _ stored, heir⟩
  · exact (right r inRight).imp_left fun ⟨r', stored, heir⟩ =>
      ⟨r', List.mem_append_right _ stored, heir⟩

theorem Inherits.map {τ : Type*} {becomes : τ → τ → Prop} {lost : τ → Prop} {old : ρ → ρ → Prop}
    (f : ρ → τ) (lift : ∀ {r r'}, old r r' → becomes (f r) (f r'))
    (inherits : Inherits old (fun r => lost (f r)) before after) :
    Inherits becomes lost (before.map f) (after.map f) := by
  intro x member
  obtain ⟨r, stored, rfl⟩ := List.mem_map.mp member
  exact (inherits r stored).imp_left fun ⟨r', last, heir⟩ =>
    ⟨f r', List.mem_map_of_mem last, lift heir⟩

end Heirs

/-! ## Unit of work -/

/-- One column at commit: a value the session changed is written, any other column
keeps what the store holds by then. -/
def flush {α : Type*} [DecidableEq α] (loaded changed stored : α) : α :=
  if changed = loaded then stored else changed

@[simp] theorem flush_unchanged {α : Type*} [DecidableEq α] (loaded stored : α) :
    flush loaded loaded stored = stored := by simp [flush]

/-- With nobody else writing, a commit stores what the session has in memory. -/
@[simp] theorem flush_fresh {α : Type*} [DecidableEq α] (loaded changed : α) :
    flush loaded changed loaded = changed := by
  by_cases h : changed = loaded <;> simp [flush, h]

theorem flush_eq_or {α : Type*} [DecidableEq α] (loaded changed stored : α) :
    flush loaded changed stored = stored ∨ flush loaded changed stored = changed := by
  unfold flush
  split
  · exact .inl rfl
  · exact .inr rfl

theorem flush_eq_stored_iff {α : Type*} [DecidableEq α] {loaded changed stored : α} :
    flush loaded changed stored = stored ↔ changed = stored ∨ changed = loaded := by
  unfold flush
  by_cases same : changed = loaded <;> simp [same]

end Tables
