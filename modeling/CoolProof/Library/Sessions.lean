import CoolProof.Library.Runs
import Mathlib.Logic.Function.Basic

/-! Any number of sessions over one shared state. A session acts on the shared state
and on its own local state only, so an invariant has two obligations: the acting
session keeps its own part, and what it does to the shared state disturbs nobody
else's part. -/

namespace Sessions
open Runs

variable {σ ℓ ε : Type*}

structure System (σ ℓ : Type*) where
  shared : σ
  locals : Nat → ℓ

/-- Input `input` taken by session `session`. -/
structure Event (ε : Type*) where
  session : Nat
  input : ε

variable (act : Nat → σ → ℓ → ε → Option (σ × ℓ))

def next (c : System σ ℓ) (e : Event ε) : Option (System σ ℓ) :=
  (act e.session c.shared (c.locals e.session) e.input).map fun r =>
    ⟨r.1, Function.update c.locals e.session r.2⟩

def Step (c : System σ ℓ) (e : Event ε) (d : System σ ℓ) : Prop := next act c e = some d

variable {act}

theorem Step.acts {c d : System σ ℓ} {e : Event ε} (step : Step act c e d) :
    ∃ l, act e.session c.shared (c.locals e.session) e.input = some (d.shared, l) ∧
      d.locals = Function.update c.locals e.session l := by
  obtain ⟨⟨s, l⟩, done, rfl⟩ := Option.map_eq_some_iff.mp step
  exact ⟨l, done, rfl⟩

/-- A shared invariant together with what each session relies on. -/
def Holds (global : σ → Prop) (own : Nat → σ → ℓ → Prop) (c : System σ ℓ) : Prop :=
  global c.shared ∧ ∀ i, own i c.shared (c.locals i)

/-- The acting session keeps its part and disturbs no other. -/
theorem Step.holds {global : σ → Prop} {own : Nat → σ → ℓ → Prop} {c d : System σ ℓ}
    {e : Event ε} (step : Step act c e d) (inv : Holds global own c)
    (guarantee : ∀ s l, act e.session c.shared (c.locals e.session) e.input = some (s, l) →
      global s ∧ own e.session s l)
    (stable : ∀ s l, act e.session c.shared (c.locals e.session) e.input = some (s, l) →
      ∀ j, j ≠ e.session → own j c.shared (c.locals j) → own j s (c.locals j)) :
    Holds global own d := by
  obtain ⟨l, done, locals⟩ := step.acts
  obtain ⟨shared, acting⟩ := guarantee _ l done
  refine ⟨shared, fun j => ?_⟩
  rw [locals]
  by_cases same : j = e.session
  · subst same
    rwa [Function.update_self]
  · rw [Function.update_of_ne same]
    exact stable _ l done j same (inv.2 j)

/-! ## A session on its own -/

/-- The inputs of one session taken without interruption. -/
def alone (act : Nat → σ → ℓ → ε → Option (σ × ℓ)) (i : Nat) :
    σ → ℓ → List ε → Option (σ × ℓ)
  | s, l, [] => some (s, l)
  | s, l, input :: rest => (act i s l input).bind fun r => alone act i r.1 r.2 rest

/-- It is a run of the system in which nobody else moves. -/
theorem run_alone {c : System σ ℓ} {i : Nat} {inputs : List ε} {s : σ} {l : ℓ}
    (h : alone act i c.shared (c.locals i) inputs = some (s, l)) :
    ∃ transitions d, Run (Step act) c transitions d ∧ d.shared = s ∧
      ∀ x ∈ transitions, x.label.session = i := by
  induction inputs generalizing c with
  | nil =>
    cases h
    exact ⟨[], c, .nil c, rfl, by simp⟩
  | cons input rest ih =>
    obtain ⟨⟨t, m⟩, taken, later⟩ := Option.bind_eq_some_iff.mp h
    let d : System σ ℓ := ⟨t, Function.update c.locals i m⟩
    have own : d.locals i = m := Function.update_self ..
    rw [← own] at later
    obtain ⟨transitions, last, run, shared, mine⟩ := ih (c := d) later
    have step : Step act c ⟨i, input⟩ d := by simp [Step, next, taken, d]
    refine ⟨⟨c, ⟨i, input⟩, d⟩ :: transitions, last, .cons step run, shared, ?_⟩
    exact List.forall_mem_cons.mpr ⟨rfl, mine⟩

/-! ## Ownership -/

/-- No two sessions own the same thing. -/
def Exclusive {κ : Type*} (owns : ℓ → Option κ) (c : System σ ℓ) : Prop :=
  ∀ i j k, owns (c.locals i) = some k → owns (c.locals j) = some k → i = j

/-- The acting session owns what it owned before, or something that was nobody's. -/
theorem Step.exclusive {κ : Type*} {owns : ℓ → Option κ} {c d : System σ ℓ} {e : Event ε}
    (step : Step act c e d) (before : Exclusive owns c)
    (taken : ∀ s l k, act e.session c.shared (c.locals e.session) e.input = some (s, l) →
      owns l = some k → owns (c.locals e.session) = some k ∨ ∀ j, owns (c.locals j) ≠ some k) :
    Exclusive owns d := by
  obtain ⟨l, done, locals⟩ := step.acts
  have meets : ∀ j k, j ≠ e.session → owns l = some k → owns (c.locals j) = some k → False := by
    intro j k other mine theirs
    rcases taken _ l k done mine with held | nobody
    · exact other (before j e.session k theirs held)
    · exact nobody j theirs
  intro i j k first second
  rw [locals] at first second
  by_cases hi : i = e.session
  · by_cases hj : j = e.session
    · rw [hi, hj]
    · rw [hi, Function.update_self] at first
      rw [Function.update_of_ne hj] at second
      exact (meets j k hj first second).elim
  · rw [Function.update_of_ne hi] at first
    by_cases hj : j = e.session
    · rw [hj, Function.update_self] at second
      exact (meets i k hi second first).elim
    · rw [Function.update_of_ne hj] at second
      exact before i j k first second

/-! ## Scripted runs -/

/-- The run that a list of events makes, up to the first event that is refused. -/
def script (act : Nat → σ → ℓ → ε → Option (σ × ℓ)) :
    System σ ℓ → List (Event ε) → List (Transition (System σ ℓ) (Event ε))
  | _, [] => []
  | c, e :: rest =>
      match next act c e with
      | some d => ⟨c, e, d⟩ :: script act d rest
      | none => []

theorem run_script (act : Nat → σ → ℓ → ε → Option (σ × ℓ)) (c : System σ ℓ)
    (events : List (Event ε)) :
    ∃ d, Run (Step act) c (script act c events) d := by
  induction events generalizing c with
  | nil => exact ⟨c, .nil c⟩
  | cons e rest ih =>
    rw [script]
    cases taken : next act c e with
    | none => exact ⟨c, .nil c⟩
    | some d =>
      obtain ⟨last, run⟩ := ih d
      exact ⟨last, .cons taken run⟩

/-- A session without an event stays as it was. -/
theorem script_locals {c : System σ ℓ} {events : List (Event ε)}
    {x : Transition (System σ ℓ) (Event ε)} (member : x ∈ script act c events) {j : Nat}
    (absent : ∀ e ∈ events, e.session ≠ j) : x.source.locals j = c.locals j := by
  induction events generalizing c with
  | nil => simp [script] at member
  | cons e rest ih =>
    rw [script] at member
    cases taken : next act c e with
    | none => simp [taken] at member
    | some d =>
      rw [taken] at member
      rcases List.mem_cons.mp member with rfl | later
      · rfl
      · have step : Step act c e d := taken
        obtain ⟨l, -, locals⟩ := step.acts
        have other : j ≠ e.session := (absent e List.mem_cons_self).symm
        rw [ih later fun e' there => absent e' (List.mem_cons_of_mem _ there), locals,
          Function.update_of_ne other]

end Sessions
