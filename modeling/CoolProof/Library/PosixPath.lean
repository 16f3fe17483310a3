import Mathlib.Data.List.Basic

/-! Relative POSIX paths as lists of components, and their normal form: empty and dot components
are dropped, and two dots take the component before them away. -/

namespace PosixPath

abbrev Component := List Char

def dot : Component := ['.']

def parent : Component := ['.', '.']

/-- One component on the stack of those that are kept, the last one first. -/
def climb (stack : List Component) (p : Component) : List Component :=
  if p = [] ∨ p = dot then stack
  else if p = parent then
    match stack with
    | [] => [parent]
    | top :: rest => if top = parent then parent :: top :: rest else rest
  else p :: stack

/-- `normpath` of a relative path, without joining its components again. -/
def normalise (parts : List Component) : List Component := (parts.foldl climb []).reverse

def normpath (path : List Char) : List Component := normalise (path.splitOn '/')

/-- A component that names something below where it stands. -/
structure IsName (p : Component) : Prop where
  nonempty : p ≠ []
  notDot : p ≠ dot
  notParent : p ≠ parent

theorem climb_name {p : Component} (name : IsName p) (stack : List Component) :
    climb stack p = p :: stack := by
  rw [climb.eq_def, if_neg (not_or.mpr ⟨name.nonempty, name.notDot⟩), if_neg name.notParent]

theorem foldl_climb_names {parts : List Component} (names : ∀ p ∈ parts, IsName p)
    (stack : List Component) : parts.foldl climb stack = parts.reverse ++ stack := by
  induction parts generalizing stack with
  | nil => rfl
  | cons p parts ih =>
    rw [List.foldl_cons, climb_name (names p List.mem_cons_self),
      ih fun q member => names q (List.mem_cons_of_mem _ member), List.reverse_cons,
      List.append_assoc]
    rfl

/-- Names stay as they are. -/
theorem normalise_names {parts : List Component} (names : ∀ p ∈ parts, IsName p) :
    normalise parts = parts := by
  rw [normalise, foldl_climb_names names, List.append_nil, List.reverse_reverse]

/-- Two dots take the name before them away. -/
theorem normalise_parent {parts : List Component} {last : Component}
    (names : ∀ p ∈ parts ++ [last], IsName p) :
    normalise (parts ++ [last] ++ [parent]) = parts := by
  have name : IsName last := names last (by simp)
  rw [normalise, List.foldl_append, foldl_climb_names names, List.append_nil,
    List.reverse_append, List.foldl_cons, List.foldl_nil, climb.eq_def, if_neg (by decide), if_pos rfl]
  change (if last = parent then parent :: last :: parts.reverse else parts.reverse).reverse = parts
  rw [if_neg name.notParent, List.reverse_reverse]

/-- A path that is joined from components without slashes has these components. -/
theorem normpath_intercalate {parts : List Component} (some : parts ≠ [])
    (plain : ∀ p ∈ parts, '/' ∉ p) : normpath (['/'].intercalate parts) = normalise parts := by
  rw [normpath, List.splitOn_intercalate '/' plain some]

end PosixPath
