import Mathlib.Data.List.Basic

/-! A session with a unit of work. Added rows wait in the session: they are flushed before a
statement of the mapper and at commit, and not before a textual statement, which goes to the
database as it is. -/

namespace UnitOfWork

variable {R α : Type*}

/-- The rows that the transaction sees, and the inserts that wait. -/
structure Session (R : Type*) where
  rows : List R
  pending : List R

inductive Command (R : Type*) where
  | add (row : R)
  | mapped (statement : List R → List R)
  | textual (statement : List R → List R)
  | commit

/-- The inserts reach the table, if its constraints allow it. -/
def flush (valid : List R → Bool) (s : Session R) : Option (Session R) :=
  if valid (s.rows ++ s.pending) then some ⟨s.rows ++ s.pending, []⟩ else none

/-- One command; `none` is an error of the database, after which nothing is committed. -/
def exec (valid : List R → Bool) (s : Session R) : Command R → Option (Session R)
  | .add row => some ⟨s.rows, s.pending ++ [row]⟩
  | .mapped statement => (flush valid s).map fun flushed => ⟨statement flushed.rows, []⟩
  | .textual statement => some ⟨statement s.rows, s.pending⟩
  | .commit => flush valid s

def execAll (valid : List R → Bool) : Session R → List (Command R) → Option (Session R)
  | s, [] => some s
  | s, command :: commands => (exec valid s command).bind fun t => execAll valid t commands

variable {valid : List R → Bool}

theorem flush_some {s t : Session R} (done : flush valid s = some t) :
    t = ⟨s.rows ++ s.pending, []⟩ := by
  unfold flush at done
  split at done
  · exact (Option.some.inj done).symm
  · cases done

theorem execAll_append (s : Session R) (first second : List (Command R)) :
    execAll valid s (first ++ second) =
      (execAll valid s first).bind fun t => execAll valid t second := by
  induction first generalizing s with
  | nil => rfl
  | cons command first ih =>
    rw [List.cons_append, execAll, execAll, Option.bind_assoc]
    exact congrArg _ (funext ih)

/-- A loop that adds a row and then sends text at every turn: all text meets the rows from
before the loop, and all added rows wait. -/
theorem execAll_add_textual (s : Session R) (items : List α) (row : α → R)
    (statement : α → List R → List R) :
    execAll valid s (items.flatMap fun x => [.add (row x), .textual (statement x)]) =
      some ⟨items.foldl (fun rows x => statement x rows) s.rows, s.pending ++ items.map row⟩ := by
  induction items generalizing s with
  | nil =>
    rw [List.map_nil, List.append_nil]
    rfl
  | cons x items ih =>
    rw [List.flatMap_cons, List.cons_append, execAll, exec, Option.bind_some, List.cons_append,
      execAll, exec, Option.bind_some, List.nil_append, ih, List.append_assoc]
    rfl

/-- The same loop without the text. -/
theorem execAll_add (s : Session R) (items : List α) (row : α → R) :
    execAll valid s (items.flatMap fun x => [.add (row x)]) =
      some ⟨s.rows, s.pending ++ items.map row⟩ := by
  induction items generalizing s with
  | nil =>
    rw [List.map_nil, List.append_nil]
    rfl
  | cons x items ih =>
    rw [List.flatMap_cons, List.cons_append, execAll, exec, Option.bind_some, List.nil_append, ih,
      List.append_assoc]
    rfl

/-- What every statement keeps of every row, a loop of statements keeps. -/
theorem map_foldl_statements {β : Type*} (column : R → β) (items : List α)
    (statement : α → List R → List R)
    (kept : ∀ x rows, (statement x rows).map column = rows.map column) (rows : List R) :
    (items.foldl (fun rows x => statement x rows) rows).map column = rows.map column := by
  induction items generalizing rows with
  | nil => rfl
  | cons x items ih => rw [List.foldl_cons, ih, kept]

end UnitOfWork
