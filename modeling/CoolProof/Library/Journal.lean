import CoolProof.Library.Runs
import Mathlib.Data.List.Forall2

/-! Journals. A step of a system leaves its journal alone or appends one entry that the step
accounts for. After a run, the entries are then accounted for one by one, by steps of the run in
their order; and nothing that was entered is lost. A journal may be kept in several logs, each of
which has the entries of its part. -/

namespace Journal
open Runs

variable {σ α τ ε ι : Type*} {records : τ → ε → Prop}

/-- What one step may do to a journal. -/
inductive Advances (records : τ → ε → Prop) (a : τ) (entries : List ε) : List ε → Prop where
  | idle : Advances records a entries entries
  | entry {e : ε} : records a e → Advances records a entries (entries ++ [e])

/-- The entries are those of some of the steps, one of each, in the order of the steps. -/
def Kept (records : τ → ε → Prop) (steps : List τ) (entries : List ε) : Prop :=
  ∃ acting, acting.Sublist steps ∧ List.Forall₂ records acting entries

theorem Advances.append {a : τ} {entries entries' : List ε}
    (advances : Advances records a entries entries') : entries <+: entries' := by
  cases advances with
  | idle => exact List.prefix_rfl
  | entry => exact List.prefix_append _ _

theorem Kept.advance {a : τ} {steps : List τ} {entries added : List ε}
    (kept : Kept records steps entries) (advances : Advances records a [] added) :
    Kept records (steps ++ [a]) (entries ++ added) := by
  obtain ⟨acting, within, each⟩ := kept
  cases advances with
  | idle =>
    rw [List.append_nil]
    exact ⟨acting, within.trans (List.sublist_append_left _ _), each⟩
  | entry recorded =>
    exact ⟨acting ++ [a], within.append (List.Sublist.refl _),
      List.rel_append each (.cons recorded .nil)⟩

/-! ## Several logs -/

variable [DecidableEq ι] {part : ε → ι} {before after : ι → List ε}

/-- A step enters one entry at most, in the log that it is for. -/
def Enters (records : τ → ε → Prop) (part : ε → ι) (a : τ) (before after : ι → List ε) : Prop :=
  ∃ added, Advances records a [] added ∧
    ∀ i, after i = before i ++ added.filter fun e => part e = i

theorem enters_idle {a : τ} (same : ∀ i, after i = before i) :
    Enters records part a before after :=
  ⟨[], .idle, fun i => (same i).trans (List.append_nil _).symm⟩

/-- A step that writes to one log only. -/
theorem enters_of_advances {a : τ} (i : ι) (advances : Advances records a (before i) (after i))
    (belongs : ∀ e, records a e → part e = i) (others : ∀ j, j ≠ i → after j = before j) :
    Enters records part a before after := by
  generalize same : after i = last at advances
  cases advances with
  | idle =>
    refine enters_idle fun j => ?_
    by_cases here : j = i
    · rw [here, same]
    · exact others j here
  | @entry e recorded =>
    refine ⟨[e], .entry recorded, fun j => ?_⟩
    rw [List.filter_singleton, belongs e recorded]
    by_cases here : j = i
    · subst here
      rw [same, decide_eq_true rfl]
      rfl
    · rw [others j here, decide_eq_false (Ne.symm here)]
      exact (List.append_nil _).symm

/-- The logs are the parts of one journal of the steps. -/
structure Journaled (records : τ → ε → Prop) (part : ε → ι) (steps : List τ)
    (logs : ι → List ε) (entries : List ε) : Prop where
  kept : Kept records steps entries
  logs : ∀ i, logs i = entries.filter fun e => part e = i

theorem journaled_nil {logs : ι → List ε} (empty : ∀ i, logs i = []) :
    Journaled records part [] logs [] :=
  ⟨⟨[], List.Sublist.refl _, .nil⟩, empty⟩

theorem Journaled.enter {a : τ} {steps : List τ} {entries : List ε}
    (journaled : Journaled records part steps before entries)
    (enters : Enters records part a before after) :
    ∃ added, Journaled records part (steps ++ [a]) after (entries ++ added) := by
  obtain ⟨added, advances, logs⟩ := enters
  refine ⟨added, journaled.kept.advance advances, fun i => ?_⟩
  rw [logs i, journaled.logs i, List.filter_append]

/-- What is entered stays, and a longer run only adds to it. -/
theorem Journaled.continue {next : α → σ → σ} {log : σ → ι → List ε}
    {records : Transition σ α → ε → Prop}
    (enters : ∀ s a, Enters records part ⟨s, a, next a s⟩ (log s) (log (next a s))) {s : σ}
    {labels : List α} {entries : List ε}
    (journaled : Journaled records part (trace next s labels)
      (log (labels.foldl (fun s a => next a s) s)) entries) (later : List α) :
    ∃ more, Journaled records part (trace next s (labels ++ later))
      (log ((labels ++ later).foldl (fun s a => next a s) s)) (entries ++ more) := by
  induction later using List.reverseRecOn with
  | nil =>
    refine ⟨[], ?_⟩
    rw [List.append_nil, List.append_nil]
    exact journaled
  | append_singleton later a ih =>
    obtain ⟨more, reached⟩ := ih
    obtain ⟨added, now⟩ := reached.enter (enters _ a)
    refine ⟨more ++ added, ?_⟩
    rw [← List.append_assoc, ← List.append_assoc, trace_concat, List.foldl_concat]
    exact now

end Journal
