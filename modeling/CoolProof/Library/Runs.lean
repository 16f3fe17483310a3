import Mathlib.Algebra.Ring.Nat
import Mathlib.Data.List.Chain
import Mathlib.Data.List.Induction
import Mathlib.Logic.Relation

/-! Finite runs of a labelled transition system. A run is kept as the list of its
transitions, so a property of every step is a statement about list members and a
property of every pair of states in time order is `List.Pairwise`. -/

namespace Runs

variable {σ α : Type*}

structure Transition (σ α : Type*) where
  source : σ
  label : α
  target : σ

/-- Runs of a step relation, first transition first. -/
inductive Run (step : σ → α → σ → Prop) : σ → List (Transition σ α) → σ → Prop where
  | nil (s : σ) : Run step s [] s
  | cons {s m t : σ} {a : α} {rest : List (Transition σ α)} :
      step s a m → Run step m rest t → Run step s (⟨s, a, m⟩ :: rest) t

/-- The states of a run in time order. -/
def visited (s : σ) (transitions : List (Transition σ α)) : List σ :=
  s :: transitions.map Transition.target

variable {step : σ → α → σ → Prop} {s m t : σ} {transitions rest : List (Transition σ α)}

theorem Run.steps (run : Run step s transitions t) :
    ∀ x ∈ transitions, step x.source x.label x.target := by
  induction run with
  | nil => simp
  | cons next _ ih =>
    intro x member
    rcases List.mem_cons.mp member with rfl | later
    · exact next
    · exact ih x later

theorem Run.split {first second : List (Transition σ α)}
    (run : Run step s (first ++ second) t) : ∃ m, Run step s first m ∧ Run step m second t := by
  induction first generalizing s with
  | nil => exact ⟨s, .nil s, run⟩
  | cons x first ih =>
    cases run with
    | cons next tail =>
      obtain ⟨m, left, right⟩ := ih tail
      exact ⟨m, .cons next left, right⟩

theorem Run.append {first second : List (Transition σ α)} (left : Run step s first m)
    (right : Run step m second t) : Run step s (first ++ second) t := by
  induction left with
  | nil => exact right
  | cons next _ ih => exact .cons next (ih right)

/-- A run ends where its last transition does. -/
theorem Run.ends (run : Run step s transitions t) (nonempty : transitions ≠ []) :
    t = (transitions.getLast nonempty).target := by
  induction run with
  | nil => exact absurd rfl nonempty
  | @cons s m t a rest next tail ih =>
    cases tail with
    | nil => rfl
    | cons again more =>
      rw [ih (List.cons_ne_nil _ _), List.getLast_cons (List.cons_ne_nil _ _)]

/-- An invariant that every admitted step preserves holds before and after each step. -/
theorem Run.invariant (guard : Transition σ α → Prop) (inv : σ → Prop)
    (preserved : ∀ s a t, inv s → step s a t → guard ⟨s, a, t⟩ → inv t)
    (run : Run step s transitions t) (start : inv s) (admitted : ∀ x ∈ transitions, guard x) :
    (∀ x ∈ transitions, inv x.source ∧ inv x.target) ∧ inv t := by
  induction run with
  | nil => exact ⟨by simp, start⟩
  | cons next _ ih =>
    have after := preserved _ _ _ start next (admitted _ (by simp))
    obtain ⟨later, last⟩ := ih after (fun x hx => admitted x (List.mem_cons_of_mem _ hx))
    refine ⟨?_, last⟩
    intro x member
    rcases List.mem_cons.mp member with rfl | tail
    · exact ⟨start, after⟩
    · exact later x tail

/-- The unguarded form: the invariant holds throughout every run. -/
theorem Run.always (inv : σ → Prop) (preserved : ∀ s a t, inv s → step s a t → inv t)
    (run : Run step s transitions t) (start : inv s) :
    (∀ x ∈ transitions, inv x.source ∧ inv x.target) ∧ inv t :=
  run.invariant (fun _ => True) inv (fun s a t hs h _ => preserved s a t hs h) start
    (fun _ _ => trivial)

/-- Two properties of steps that agree under an invariant agree along every run. -/
theorem Run.forall_steps_iff (inv : σ → Prop) {p q : Transition σ α → Prop}
    (preserved : ∀ s a t, inv s → step s a t → inv t)
    (agree : ∀ s a t, inv s → step s a t → (p ⟨s, a, t⟩ ↔ q ⟨s, a, t⟩))
    (run : Run step s transitions t) (start : inv s) :
    (∀ x ∈ transitions, p x) ↔ ∀ x ∈ transitions, q x := by
  have holds := (run.always inv preserved start).1
  have each : ∀ x ∈ transitions, (p x ↔ q x) := fun x member =>
    agree _ _ _ (holds x member).1 (run.steps x member)
  constructor
  · exact fun h x member => (each x member).mp (h x member)
  · exact fun h x member => (each x member).mpr (h x member)

/-- A property is kept from every state to all later ones exactly when each step keeps it. -/
theorem Run.pairwise_iff_steps {kept : σ → Prop} (run : Run step s transitions t) :
    (visited s transitions).Pairwise (fun x y => kept x → kept y) ↔
      ∀ x ∈ transitions, kept x.source → kept x.target := by
  induction run with
  | nil => simp [visited]
  | @cons s m t a rest next tail ih =>
    have split : visited s (⟨s, a, m⟩ :: rest) = s :: visited m rest := rfl
    rw [split, List.pairwise_cons, ih]
    constructor
    · rintro ⟨first, later⟩ x member
      rcases List.mem_cons.mp member with rfl | inRest
      · exact first m (by simp [visited])
      · exact later x inRest
    · intro each
      have later : ∀ x ∈ rest, kept x.source → kept x.target :=
        fun x hx => each x (List.mem_cons_of_mem _ hx)
      refine ⟨?_, later⟩
      intro y member start
      have now := each ⟨s, a, m⟩ (by simp) start
      rcases List.mem_cons.mp member with rfl | inTail
      · exact now
      · have all := ih.mpr later
        rw [visited, List.pairwise_cons] at all
        exact all.1 y inTail now

/-- Where an invariant makes a condition on a step decide whether it keeps a property, the
property holds throughout a run exactly when every step meets the condition. -/
theorem Run.visited_iff_steps (inv good : σ → Prop) {cond : Transition σ α → Prop}
    (preserved : ∀ s a t, inv s → step s a t → inv t)
    (decides : ∀ s a t, inv s → good s → step s a t → (good t ↔ cond ⟨s, a, t⟩))
    (run : Run step s transitions t) (start : inv s) (first : good s) :
    (∀ c ∈ visited s transitions, good c) ↔ ∀ x ∈ transitions, cond x := by
  induction run with
  | nil => simp [visited, first]
  | @cons s m t a rest next tail ih =>
    have now := decides s a m start first next
    have split : visited s (⟨s, a, m⟩ :: rest) = s :: visited m rest := rfl
    rw [split, List.forall_mem_cons, List.forall_mem_cons]
    constructor
    · rintro ⟨-, later⟩
      have kept : good m := later m (by simp [visited])
      exact ⟨now.mp kept, (ih (preserved s a m start next) kept).mp later⟩
    · rintro ⟨meets, later⟩
      have kept := now.mpr meets
      exact ⟨first, (ih (preserved s a m start next) kept).mpr later⟩

/-- A reflexive and transitive relation between the two sides of every step leads from every
state of a run to its last. -/
theorem Run.leads {related : σ → σ → Prop} (refl : ∀ s, related s s)
    (trans : ∀ {a b c}, related a b → related b c → related a c) (run : Run step s transitions t)
    (steps : ∀ x ∈ transitions, related x.source x.target) :
    ∀ c ∈ visited s transitions, related c t := by
  induction run with
  | nil s =>
    intro c member
    rw [List.mem_singleton.mp member]
    exact refl s
  | @cons s m t a rest next tail ih =>
    obtain ⟨first, later⟩ := List.forall_mem_cons.mp steps
    intro c member
    rcases List.mem_cons.mp member with rfl | inTail
    · exact trans first (ih later m List.mem_cons_self)
    · exact ih later c inTail

/-- Either a reading never changes along a run, or some step changed it last. -/
theorem Run.last_change {β : Type*} (read : σ → β) (run : Run step s transitions t) :
    read t = read s ∧ (∀ x ∈ transitions, read x.target = read s) ∨
      ∃ before x after, transitions = before ++ x :: after ∧
        read x.source ≠ read x.target ∧ read x.target = read t ∧
        ∀ y ∈ after, read y.target = read t := by
  induction run with
  | nil => exact .inl ⟨rfl, by simp⟩
  | @cons s m t a rest next tail ih =>
    rcases ih with ⟨last, still⟩ | ⟨before, x, after, rfl, changed, value, still⟩
    · by_cases same : read m = read s
      · refine .inl ⟨last.trans same, ?_⟩
        intro x member
        rcases List.mem_cons.mp member with rfl | later
        · exact same
        · exact (still x later).trans same
      · refine .inr ⟨[], ⟨s, a, m⟩, rest, rfl, Ne.symm same, last.symm, ?_⟩
        exact fun y hy => (still y hy).trans last.symm
    · exact .inr ⟨⟨s, a, m⟩ :: before, x, after, rfl, changed, value, still⟩

/-- Steps that pay for what they cost out of a budget cost no more than it in all. -/
theorem Run.cost_le (cost : Transition σ α → Nat) (budget : σ → Nat)
    (run : Run step s transitions t)
    (pays : ∀ x ∈ transitions, cost x + budget x.target ≤ budget x.source) :
    (transitions.map cost).sum + budget t ≤ budget s := by
  induction run with
  | nil => simp
  | @cons s m t a rest next tail ih =>
    have now := pays ⟨s, a, m⟩ List.mem_cons_self
    have later := ih fun x hx => pays x (List.mem_cons_of_mem _ hx)
    simp only [List.map_cons, List.sum_cons] at now later ⊢
    omega

/-- Until an event happens every step pays for itself out of a budget, so it happens in a run
that costs more than there is. -/
theorem Run.happens_within (event : Transition σ α → Prop) (inv : σ → Prop)
    (cost : Transition σ α → Nat) (budget : σ → Nat) (run : Run step s transitions t)
    (start : inv s)
    (pays : ∀ x ∈ transitions, inv x.source → ¬event x →
      inv x.target ∧ cost x + budget x.target ≤ budget x.source)
    (long : budget s < (transitions.map cost).sum) : ∃ x ∈ transitions, event x := by
  by_contra never
  have silent : ∀ x ∈ transitions, ¬event x := fun x member happens => never ⟨x, member, happens⟩
  have throughout := (run.invariant (fun x => inv x.source → inv x.target) inv
    (fun _ _ _ holds _ kept => kept holds) start
    fun x member holds => (pays x member holds (silent x member)).1).1
  have spent := run.cost_le cost budget fun x member =>
    (pays x member (throughout x member).1 (silent x member)).2
  omega

/-! ## Steps and what came before them -/

/-- Induction on the last step of a run: an invariant may speak of the steps so far. -/
theorem Run.history {inv : List (Transition σ α) → σ → Prop} (run : Run step s transitions t)
    (start : inv [] s)
    (preserved : ∀ before s' a t', Run step s before s' → step s' a t' → inv before s' →
      inv (before ++ [⟨s', a, t'⟩]) t') : inv transitions t := by
  induction transitions using List.reverseRecOn generalizing t with
  | nil =>
    cases run
    exact start
  | append_singleton before x ih =>
    obtain ⟨m, first, last⟩ := run.split
    cases last with
    | cons next rest =>
      cases rest
      exact preserved before _ _ _ first next (ih first)

theorem Run.at_split {before after : List (Transition σ α)} {x : Transition σ α}
    (run : Run step s (before ++ x :: after) t) :
    Run step s before x.source ∧ step x.source x.label x.target := by
  obtain ⟨m, first, rest⟩ := run.split
  cases rest with
  | cons next _ => exact ⟨first, next⟩

/-- Two properties of a step and the steps before it that agree wherever a run may be
agree along every run. -/
theorem Run.forall_splits_iff {p q : List (Transition σ α) → Transition σ α → Prop}
    (run : Run step s transitions t)
    (agree : ∀ before s' a t', Run step s before s' → step s' a t' →
      (p before ⟨s', a, t'⟩ ↔ q before ⟨s', a, t'⟩)) :
    (∀ before x after, transitions = before ++ x :: after → p before x) ↔
      ∀ before x after, transitions = before ++ x :: after → q before x := by
  refine forall_congr' fun before => forall_congr' fun x => forall_congr' fun after =>
    forall_congr' fun split => ?_
  subst split
  obtain ⟨first, next⟩ := run.at_split
  exact agree before x.source x.label x.target first next

/-- A property of every step and those before it can be checked position by position. -/
theorem forall_splits_of_get {τ : Type*} {l : List τ} {p : List τ → τ → Prop}
    (each : ∀ k : Fin l.length, p (l.take k) (l.get k)) :
    ∀ before x after, l = before ++ x :: after → p before x := by
  rintro before x after rfl
  simpa using each ⟨before.length, by simp⟩

/-! ## Functional systems -/

/-- The transitions of a list of labels, where each label determines the next state. -/
def trace (next : α → σ → σ) : σ → List α → List (Transition σ α)
  | _, [] => []
  | s, a :: rest => ⟨s, a, next a s⟩ :: trace next (next a s) rest

theorem trace_concat (next : α → σ → σ) (s : σ) (labels : List α) (a : α) :
    trace next s (labels ++ [a]) = trace next s labels ++
      [⟨labels.foldl (fun s a => next a s) s, a,
        next a (labels.foldl (fun s a => next a s) s)⟩] := by
  induction labels generalizing s with
  | nil => rfl
  | cons b rest ih => exact congrArg _ (ih (next b s))

theorem run_trace (next : α → σ → σ) (s : σ) (labels : List α) :
    Run (fun s a t => t = next a s) s (trace next s labels)
      (labels.foldl (fun s a => next a s) s) := by
  induction labels generalizing s with
  | nil => exact .nil s
  | cons a rest ih => exact .cons rfl (ih (next a s))

/-- What holds in the last state and not in the first began to hold at some step, and has
held ever since. -/
theorem foldl_began {next : σ → α → σ} {p : σ → Prop} {s : σ} (labels : List α) (absent : ¬p s)
    (present : p (labels.foldl next s)) :
    ∃ before a after, labels = before ++ a :: after ∧ ¬p (before.foldl next s) ∧
      ∀ since, since <+: after → p ((before ++ a :: since).foldl next s) := by
  induction labels using List.reverseRecOn with
  | nil => exact absurd present absent
  | append_singleton labels last ih =>
    by_cases already : p (labels.foldl next s)
    · obtain ⟨before, a, after, rfl, missing, held⟩ := ih already
      refine ⟨before, a, after ++ [last], by simp, missing, fun since within => ?_⟩
      rcases List.prefix_concat_iff.mp within with rfl | shorter
      · simpa using present
      · exact held since shorter
    · refine ⟨labels, last, [], rfl, already, fun since within => ?_⟩
      rw [List.prefix_nil.mp within]
      exact present

end Runs
