import Mathlib.Data.List.Perm.Basic

/-! Code that may raise: a sequence stops at its first exception, and so does a loop, `mapM`
into `Except`; otherwise every step and every turn has returned. -/

namespace Loops

variable {α β γ ε : Type} {f : α → Except ε β} {l : List α} {rows : List β}

theorem bind_ok_iff {x : Except ε α} {next : α → Except ε β} {b : β} :
    (x >>= next) = .ok b ↔ ∃ a, x = .ok a ∧ next a = .ok b := by
  cases x with
  | error e =>
    refine ⟨fun same => ?_, fun ⟨_, same, _⟩ => ?_⟩
    · cases same
    · cases same
  | ok a =>
    refine ⟨fun done => ⟨a, rfl, done⟩, fun ⟨_, same, done⟩ => ?_⟩
    cases same
    exact done

theorem mapM_ok_iff : l.mapM f = .ok rows ↔ List.Forall₂ (fun a b => f a = .ok b) l rows := by
  induction l generalizing rows with
  | nil =>
    rw [List.forall₂_nil_left_iff, List.mapM_nil]
    exact ⟨fun same => (Except.ok.inj same).symm, fun same => congrArg Except.ok same.symm⟩
  | cons a l ih =>
    rw [List.forall₂_cons_left_iff, List.mapM_cons, bind_ok_iff]
    constructor
    · rintro ⟨b, first, rest⟩
      obtain ⟨bs, turns, last⟩ := bind_ok_iff.mp rest
      exact ⟨b, bs, first, ih.mp turns, (Except.ok.inj last).symm⟩
    · rintro ⟨b, bs, first, turns, rfl⟩
      exact ⟨b, first, bind_ok_iff.mpr ⟨bs, ih.mpr turns, rfl⟩⟩

theorem exists_of_forall₂ {R : α → β → Prop} (related : List.Forall₂ R l rows) :
    ∀ b ∈ rows, ∃ a ∈ l, R a b := by
  induction related with
  | nil => simp
  | cons first _ ih =>
    intro c member
    rcases List.mem_cons.mp member with rfl | later
    · exact ⟨_, List.mem_cons_self, first⟩
    · obtain ⟨a, inTail, same⟩ := ih c later
      exact ⟨a, List.mem_cons_of_mem _ inTail, same⟩

/-- What a loop returns, some turn of it returned. -/
theorem mem_of_mapM_ok (done : l.mapM f = .ok rows) : ∀ b ∈ rows, ∃ a ∈ l, f a = .ok b :=
  exists_of_forall₂ (mapM_ok_iff.mp done)

/-- In a loop that ends, every turn has returned. -/
theorem turn_of_mapM_ok (done : l.mapM f = .ok rows) : ∀ a ∈ l, ∃ b ∈ rows, f a = .ok b :=
  exists_of_forall₂ (List.Forall₂.flip (mapM_ok_iff.mp done))

/-- A column that each turn copies is copied by the loop. -/
theorem map_of_mapM_ok {column : β → γ} {source : α → γ}
    (copied : ∀ a ∈ l, ∀ b, f a = .ok b → column b = source a) (done : l.mapM f = .ok rows) :
    rows.map column = l.map source := by
  have turns := mapM_ok_iff.mp done
  clear done
  induction turns with
  | nil => rfl
  | @cons a b l bs first _ ih =>
    rw [List.map_cons, List.map_cons, copied a List.mem_cons_self b first,
      ih fun c member => copied c (List.mem_cons_of_mem _ member)]

/-- A loop whose every turn returns returns. -/
theorem mapM_ok_of_turns (each : ∀ a ∈ l, ∃ b, f a = .ok b) : ∃ bs, l.mapM f = .ok bs := by
  induction l with
  | nil => exact ⟨[], rfl⟩
  | cons a l ih =>
    obtain ⟨b, first⟩ := each a List.mem_cons_self
    obtain ⟨bs, rest⟩ := ih fun c member => each c (List.mem_cons_of_mem _ member)
    exact ⟨b :: bs, mapM_ok_iff.mpr (.cons first (mapM_ok_iff.mp rest))⟩

theorem mapM_append_ok_iff {m : List α} : (l ++ m).mapM f = .ok rows ↔
    ∃ front back, l.mapM f = .ok front ∧ m.mapM f = .ok back ∧ rows = front ++ back := by
  rw [List.mapM_append, bind_ok_iff]
  constructor
  · rintro ⟨front, first, rest⟩
    obtain ⟨back, second, same⟩ := bind_ok_iff.mp rest
    exact ⟨front, back, first, second, (Except.ok.inj same).symm⟩
  · rintro ⟨front, back, first, second, rfl⟩
    exact ⟨front, first, bind_ok_iff.mpr ⟨back, second, rfl⟩⟩

theorem mapM_cons_ok_iff {a : α} : (a :: l).mapM f = .ok rows ↔
    ∃ b back, f a = .ok b ∧ l.mapM f = .ok back ∧ rows = b :: back := by
  rw [mapM_ok_iff, List.forall₂_cons_left_iff]
  constructor
  · rintro ⟨b, back, first, rest, same⟩
    exact ⟨b, back, first, mapM_ok_iff.mpr rest, same⟩
  · rintro ⟨b, back, first, rest, same⟩
    exact ⟨b, back, first, mapM_ok_iff.mp rest, same⟩

/-- A loop over the same items in another order returns the same in another order. -/
theorem mapM_ok_of_perm {m : List α} (order : l.Perm m) (done : l.mapM f = .ok rows) :
    ∃ rows', m.mapM f = .ok rows' ∧ rows.Perm rows' := by
  obtain ⟨rows', turns, moved⟩ := List.perm_comp_forall₂ order.symm (mapM_ok_iff.mp done)
  exact ⟨rows', mapM_ok_iff.mpr turns, moved.symm⟩

/-! ## Loops that carry a value -/

/-- A loop goes through, or some turn raises on what the turns before have made. -/
theorem foldlM_cases (step : γ → α → Except ε γ) (l : List α) (c : γ) :
    (∃ d, l.foldlM step c = .ok d) ∨ ∃ k a d e, l[k]? = some a ∧
      (l.take k).foldlM step c = .ok d ∧ step d a = .error e ∧ l.foldlM step c = .error e := by
  induction l generalizing c with
  | nil => exact .inl ⟨c, rfl⟩
  | cons a l ih =>
    rw [List.foldlM_cons]
    cases first : step c a with
    | error e => exact .inr ⟨0, a, c, e, rfl, rfl, first, rfl⟩
    | ok d =>
      rcases ih d with ⟨last, done⟩ | ⟨k, b, reached, e, turn, before, raised, ended⟩
      · exact .inl ⟨last, done⟩
      · refine .inr ⟨k + 1, b, reached, e, turn, ?_, raised, ended⟩
        rw [List.take_succ_cons, List.foldlM_cons, first]
        exact before

end Loops
