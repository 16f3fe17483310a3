import CoolProof.Library.Binary64
import Mathlib.Data.List.Sort

/-! JSON documents as a Python program sees them. Objects are association lists
in insertion order; `canon` sorts the keys at every depth, so two documents are
written alike exactly when their canonical forms are equal. A float is kept as the
text by which it is shown, which determines it. Python's own equality goes further:
`plain` forgets whether a number is a truth value, an integer or a float. -/

namespace JsonDocument

/-- A finite float, as `repr` and a serializer show it. -/
structure FloatLiteral where
  text : List Char
  wf : Binary64.isShown text = true
deriving DecidableEq

theorem FloatLiteral.isFloatText (x : FloatLiteral) : Binary64.isFloatText x.text = true :=
  (Bool.and_eq_true_iff.mp x.wf).1

/-- The number itself. -/
def FloatLiteral.value (x : FloatLiteral) : ℚ := Binary64.value x.text

theorem FloatLiteral.eq_of_value {x y : FloatLiteral} (same : x.value = y.value)
    (nonzero : x.value ≠ 0) : x = y := by
  have texts := Binary64.eq_of_value_eq x.wf y.wf same nonzero
  cases x
  cases y
  cases texts
  rfl

/-- `1.0` -/
def FloatLiteral.one : FloatLiteral := ⟨['1', '.', '0'], by decide +kernel⟩

inductive Json where
  | null
  | bool (b : Bool)
  | int (n : Int)
  | float (x : FloatLiteral)
  | str (s : String)
  | arr (items : List Json)
  | obj (fields : List (String × Json))

abbrev Dict := List (String × Json)

namespace Json

mutual

def decEq : (a b : Json) → Decidable (a = b)
  | .null, b => match b with
    | .null => isTrue rfl
    | .bool _ | .int _ | .float _ | .str _ | .arr _ | .obj _ => isFalse (by simp)
  | .bool x, b => match b with
    | .bool y => decidable_of_iff (x = y) (by simp)
    | .null | .int _ | .float _ | .str _ | .arr _ | .obj _ => isFalse (by simp)
  | .int x, b => match b with
    | .int y => decidable_of_iff (x = y) (by simp)
    | .null | .bool _ | .float _ | .str _ | .arr _ | .obj _ => isFalse (by simp)
  | .float x, b => match b with
    | .float y => decidable_of_iff (x = y) (by simp)
    | .null | .bool _ | .int _ | .str _ | .arr _ | .obj _ => isFalse (by simp)
  | .str x, b => match b with
    | .str y => decidable_of_iff (x = y) (by simp)
    | .null | .bool _ | .int _ | .float _ | .arr _ | .obj _ => isFalse (by simp)
  | .arr xs, b => match b with
    | .arr ys => @decidable_of_iff _ (xs = ys) (by simp) (decEqItems xs ys)
    | .null | .bool _ | .int _ | .float _ | .str _ | .obj _ => isFalse (by simp)
  | .obj fs, b => match b with
    | .obj gs => @decidable_of_iff _ (fs = gs) (by simp) (decEqFields fs gs)
    | .null | .bool _ | .int _ | .float _ | .str _ | .arr _ => isFalse (by simp)

def decEqItems : (xs ys : List Json) → Decidable (xs = ys)
  | [], [] => isTrue rfl
  | [], _ :: _ => isFalse (by simp)
  | _ :: _, [] => isFalse (by simp)
  | x :: xs, y :: ys =>
      @decidable_of_iff _ (x = y ∧ xs = ys) (by simp)
        (@instDecidableAnd _ _ (decEq x y) (decEqItems xs ys))

def decEqFields : (fs gs : Dict) → Decidable (fs = gs)
  | [], [] => isTrue rfl
  | [], _ :: _ => isFalse (by simp)
  | _ :: _, [] => isFalse (by simp)
  | (k, x) :: fs, (l, y) :: gs =>
      @decidable_of_iff _ ((k = l ∧ x = y) ∧ fs = gs) (by simp)
        (@instDecidableAnd _ _ (@instDecidableAnd _ _ _ (decEq x y)) (decEqFields fs gs))

end

instance : DecidableEq Json := decEq

/-- Python truth value. Zero has the two float literals `0.0` and `-0.0`. -/
def truthy : Json → Bool
  | .null => false
  | .bool b => b
  | .int n => n != 0
  | .float x => x.text != ['0', '.', '0'] && x.text != ['-', '0', '.', '0']
  | .str s => s != ""
  | .arr xs => !xs.isEmpty
  | .obj fs => !fs.isEmpty

def asDict : Json → Option Dict
  | .obj fs => some fs
  | _ => none

def asStr : Json → Option String
  | .str s => some s
  | _ => none

end Json

/-- `d.get(key)`, with `none` for an absent key. -/
def Dict.get (d : Dict) (key : String) : Option Json := List.lookup key d

@[simp] theorem Dict.get_nil (key : String) : Dict.get [] key = none := rfl

theorem Dict.get_cons (k key : String) (x : Json) (d : Dict) :
    Dict.get ((k, x) :: d) key = if key = k then some x else Dict.get d key := by
  by_cases h : key = k
  · simp [Dict.get, h]
  · have differs : (key == k) = false := by simpa using h
    simp [Dict.get, List.lookup_cons, differs, h]

@[simp] theorem Dict.get_cons_self (key : String) (x : Json) (d : Dict) :
    Dict.get ((key, x) :: d) key = some x := by simp [Dict.get_cons]

@[simp] theorem Dict.get_cons_ne {k key : String} (x : Json) (d : Dict) (h : key ≠ k) :
    Dict.get ((k, x) :: d) key = Dict.get d key := by simp [Dict.get_cons, h]

theorem Dict.get_append (d e : Dict) (key : String) :
    Dict.get (d ++ e) key = (Dict.get d key).or (Dict.get e key) := by
  induction d with
  | nil => simp
  | cons entry d ih =>
    obtain ⟨k, x⟩ := entry
    by_cases h : key = k <;> simp [h, ih]

/-- `d[key] = value`: a key keeps its place, a new one goes to the end. -/
def put {β : Type} (key : String) (value : β) (d : List (String × β)) : List (String × β) :=
  if d.any fun e => e.1 == key then d.map fun e => if e.1 = key then (key, value) else e
  else d ++ [(key, value)]

theorem lookup_replace {β : Type} (key name : String) (value : β) (d : List (String × β)) :
    (d.map fun e => if e.1 = name then (name, value) else e).lookup key =
      if key = name then (d.lookup name).map fun _ => value else d.lookup key := by
  induction d with
  | nil => simp
  | cons entry d ih =>
    obtain ⟨k, x⟩ := entry
    rw [List.map_cons]
    by_cases here : k = name
    · subst here
      by_cases same : key = k
      · simp [same]
      · have differs : (key == k) = false := by simpa using same
        simpa [List.lookup_cons, same, differs] using ih
    · have other : (name == k) = false := by simpa using Ne.symm here
      rw [if_neg here]
      by_cases same : key = k
      · simp [same, here]
      · have differs : (key == k) = false := by simpa using same
        simpa [List.lookup_cons, differs, other] using ih

theorem lookup_put {β : Type} (key name : String) (value : β) (d : List (String × β)) :
    (put name value d).lookup key = if key = name then some value else d.lookup key := by
  unfold put
  split
  · rename_i present
    rw [lookup_replace]
    obtain ⟨entry, member, same⟩ := List.any_eq_true.mp present
    cases found : d.lookup name with
    | none =>
      have known : entry.1 = name := by simpa using same
      have other := List.lookup_eq_none_iff.mp found entry member
      simp [known] at other
    | some x => rfl
  · rename_i absent
    rw [List.lookup_append]
    by_cases same : key = name
    · subst same
      have unknown : d.lookup key = none := by
        rw [List.lookup_eq_none_iff]
        intro entry member
        rw [bne_iff_ne]
        rintro rfl
        exact absent (List.any_eq_true.mpr ⟨entry, member, beq_self_eq_true _⟩)
      simp [unknown]
    · have differs : (key == name) = false := by simpa using same
      simp [List.lookup_cons, same, differs]

/-- `{**d, **e}` -/
def Dict.merge (d e : Dict) : Dict :=
  d.map (fun entry => (entry.1, (e.get entry.1).getD entry.2)) ++
    e.filter fun entry => !d.any fun x => x.1 == entry.1

theorem Dict.get_eq_none {d : Dict} {key : String} :
    d.get key = none ↔ (d.any fun x => x.1 == key) = false := by
  induction d with
  | nil => simp
  | cons entry d ih =>
    obtain ⟨k, x⟩ := entry
    by_cases same : key = k
    · simp [same]
    · have differs : ¬k = key := fun eq => same eq.symm
      simp [same, differs, ih]

theorem Dict.get_map (d : Dict) (f : String → Json → Json) (key : String) :
    Dict.get (d.map fun entry => (entry.1, f entry.1 entry.2)) key = (d.get key).map (f key) := by
  induction d with
  | nil => rfl
  | cons entry d ih =>
    obtain ⟨k, x⟩ := entry
    by_cases same : key = k <;> simp [same, ih]

theorem Dict.get_filter (d : Dict) (keep : String → Bool) (key : String) :
    Dict.get (d.filter fun entry => keep entry.1) key =
      if keep key then d.get key else none := by
  induction d with
  | nil => simp
  | cons entry d ih =>
    obtain ⟨k, x⟩ := entry
    by_cases same : key = k
    · subst same
      by_cases kept : keep key <;> simp_all
    · by_cases kept : keep k <;> simp [kept, same, ih]

/-- The second dictionary wins. -/
theorem Dict.get_merge (d e : Dict) (key : String) :
    (d.merge e).get key = (e.get key).or (d.get key) := by
  have front := Dict.get_map d (fun k x => (e.get k).getD x) key
  have back := Dict.get_filter e (fun k => !d.any fun x => x.1 == k) key
  rw [Dict.merge, Dict.get_append, front, back]
  cases own : d.get key with
  | none =>
    have absent := Dict.get_eq_none.mp own
    simp [absent]
  | some x => cases e.get key <;> rfl

/-- The same document under every key, whatever the order of the keys. -/
def SameKeys (d e : Dict) : Prop := ∀ key, d.get key = e.get key

def keyLe (a b : String × Json) : Prop := a.1 ≤ b.1

instance : DecidableRel keyLe := fun a b => inferInstanceAs (Decidable (a.1 ≤ b.1))

mutual

/-- The document with the keys of every object in increasing order. -/
def Json.canon : Json → Json
  | .null => .null
  | .bool b => .bool b
  | .int n => .int n
  | .float x => .float x
  | .str s => .str s
  | .arr xs => .arr (canonItems xs)
  | .obj fs => .obj ((canonFields fs).insertionSort keyLe)

def canonItems : List Json → List Json
  | [] => []
  | x :: xs => x.canon :: canonItems xs

def canonFields : Dict → Dict
  | [] => []
  | (k, x) :: fs => (k, x.canon) :: canonFields fs

end

/-- The documents are written alike: only the order of keys is ignored. -/
def Same (a b : Json) : Prop := a.canon = b.canon

instance (a b : Json) : Decidable (Same a b) := inferInstanceAs (Decidable (_ = _))

@[refl] theorem Same.refl (a : Json) : Same a a := rfl

theorem Same.symm {a b : Json} (h : Same a b) : Same b a := Eq.symm h

/-- The same for a key that may be absent on both sides. -/
def SameField (a b : Option Json) : Prop := a.map Json.canon = b.map Json.canon

instance (a b : Option Json) : Decidable (SameField a b) := inferInstanceAs (Decidable (_ = _))

@[simp] theorem sameField_some (a b : Json) : SameField (some a) (some b) ↔ Same a b := by
  simp [SameField, Same]

@[simp] theorem sameField_none : SameField none none := rfl

@[simp] theorem not_sameField_none_some (b : Json) : ¬SameField none (some b) := by
  simp [SameField]

@[simp] theorem not_sameField_some_none (a : Json) : ¬SameField (some a) none := by
  simp [SameField]

theorem SameField.isSome_eq {a b : Option Json} (h : SameField a b) : a.isSome = b.isSome := by
  simpa using congrArg Option.isSome h

theorem get_canonFields (d : Dict) (key : String) :
    Dict.get (canonFields d) key = (Dict.get d key).map Json.canon := by
  induction d with
  | nil => simp [canonFields]
  | cons entry d ih =>
    obtain ⟨k, x⟩ := entry
    by_cases h : key = k <;> simp [canonFields, h, ih]

theorem get_orderedInsert (entry : String × Json) (d : Dict) (key : String) :
    Dict.get (d.orderedInsert keyLe entry) key = Dict.get (entry :: d) key := by
  induction d with
  | nil => simp [List.orderedInsert]
  | cons head d ih =>
    by_cases le : keyLe entry head
    · simp [List.orderedInsert, le]
    · obtain ⟨k, x⟩ := entry
      obtain ⟨l, y⟩ := head
      have ne : l ≠ k := by
        intro eq
        exact le (le_of_eq eq.symm)
      simp only [List.orderedInsert, le, if_false, Dict.get_cons] at ih ⊢
      rw [ih]
      by_cases hk : key = k
      · simp [hk, ne.symm]
      · simp [hk]

/-- Sorting the keys is stable, so it changes no lookup. -/
theorem get_insertionSort (d : Dict) (key : String) :
    Dict.get (d.insertionSort keyLe) key = Dict.get d key := by
  induction d with
  | nil => rfl
  | cons entry d ih =>
    obtain ⟨k, x⟩ := entry
    rw [List.insertionSort_cons, get_orderedInsert, Dict.get_cons, Dict.get_cons, ih]

/-- The same dictionary answers every lookup with the same document. -/
theorem Same.get {d e : Dict} (h : Same (.obj d) (.obj e)) (key : String) :
    SameField (d.get key) (e.get key) := by
  have sorted : (canonFields d).insertionSort keyLe = (canonFields e).insertionSort keyLe :=
    Json.obj.inj h
  have looked := congrArg (fun f => Dict.get f key) sorted
  simpa only [SameField, get_insertionSort, get_canonFields] using looked

theorem Same.obj_of_canonFields {d e : Dict} (h : canonFields d = canonFields e) :
    Same (.obj d) (.obj e) :=
  congrArg (fun fields : Dict => Json.obj (fields.insertionSort keyLe)) h

theorem canonFields_append (d e : Dict) :
    canonFields (d ++ e) = canonFields d ++ canonFields e := by
  induction d with
  | nil => rfl
  | cons entry d ih => simp [canonFields, ih]

@[simp] theorem canon_eq_str {a : Json} {s : String} : a.canon = .str s ↔ a = .str s := by
  cases a with
  | str => exact Iff.rfl
  | _ => exact iff_of_false nofun nofun

@[simp] theorem canon_eq_int {a : Json} {n : Int} : a.canon = .int n ↔ a = .int n := by
  cases a with
  | int => exact Iff.rfl
  | _ => exact iff_of_false nofun nofun

@[simp] theorem canon_eq_null {a : Json} : a.canon = .null ↔ a = .null := by
  cases a with
  | null => exact Iff.rfl
  | _ => exact iff_of_false nofun nofun

@[simp] theorem same_arr_singleton (a b : Json) : Same (.arr [a]) (.arr [b]) ↔ Same a b := by
  change Json.arr [a.canon] = Json.arr [b.canon] ↔ a.canon = b.canon
  rw [Json.arr.injEq, List.singleton_inj]

theorem SameField.eq_some_str_iff {a b : Option Json} (h : SameField a b) (s : String) :
    a = some (.str s) ↔ b = some (.str s) := by
  have canonical : ∀ c : Option Json, c = some (.str s) ↔ c.map Json.canon = some (.str s) := by
    intro c
    cases c <;> simp
  rw [canonical a, canonical b, h]

@[simp] theorem same_str (a : Json) (s : String) : Same a (.str s) ↔ a = .str s :=
  canon_eq_str

@[simp] theorem str_same (a : Json) (s : String) : Same (.str s) a ↔ a = .str s :=
  eq_comm.trans canon_eq_str

@[simp] theorem same_int (a : Json) (n : Int) : Same a (.int n) ↔ a = .int n :=
  canon_eq_int

@[simp] theorem int_same (a : Json) (n : Int) : Same (.int n) a ↔ a = .int n :=
  eq_comm.trans canon_eq_int

/-! ## Python's equality -/

/-- The number of a truth value, an integer or a float. -/
def Json.number : Json → Option ℚ
  | .bool b => some (if b then 1 else 0)
  | .int n => some n
  | .float x => some x.value
  | _ => none

/-- A number as an integer where it is one. -/
def FloatLiteral.plain (x : FloatLiteral) : Json :=
  if x.value.den = 1 then .int x.value.num else .float x

mutual

/-- The document with every number that is integral written as an integer. -/
def Json.plain : Json → Json
  | .null => .null
  | .bool b => .int (if b then 1 else 0)
  | .int n => .int n
  | .float x => x.plain
  | .str s => .str s
  | .arr xs => .arr (plainItems xs)
  | .obj fs => .obj (plainFields fs)

def plainItems : List Json → List Json
  | [] => []
  | x :: xs => x.plain :: plainItems xs

def plainFields : Dict → Dict
  | [] => []
  | (k, x) :: fs => (k, x.plain) :: plainFields fs

end

/-- Equality of documents as Python has it: the order of keys is ignored, and numbers are
compared by their values. -/
def Equal (a b : Json) : Prop := Same a.plain b.plain

instance (a b : Json) : Decidable (Equal a b) := inferInstanceAs (Decidable (Same _ _))

example : Equal (.obj [("b", .bool true), ("a", .int 1)])
    (.obj [("a", .float .one), ("b", .int 1)]) := by decide +kernel

@[refl, simp] theorem Equal.refl (a : Json) : Equal a a := rfl

theorem Equal.symm {a b : Json} (h : Equal a b) : Equal b a := Eq.symm h

theorem plain_number {a : Json} {p : ℚ} (number : a.number = some p) :
    (p.den = 1 ∧ a.plain = .int p.num) ∨ (p.den ≠ 1 ∧ ∃ x : FloatLiteral, a = .float x ∧
      x.value = p ∧ a.plain = .float x) := by
  cases a with
  | bool b => cases b <;> cases number <;> exact .inl ⟨rfl, rfl⟩
  | int n =>
    cases number
    exact .inl ⟨rfl, rfl⟩
  | float x =>
    cases number
    by_cases integral : x.value.den = 1
    · exact .inl ⟨integral, by rw [Json.plain, FloatLiteral.plain, if_pos integral]⟩
    · exact .inr ⟨integral, x, rfl, rfl, by rw [Json.plain, FloatLiteral.plain, if_neg integral]⟩
  | _ => cases number

/-- Numbers are equal by value, whichever of the three kinds they are of. -/
theorem equal_numbers_iff {a b : Json} {p q : ℚ} (left : a.number = some p)
    (right : b.number = some q) : Equal a b ↔ p = q := by
  unfold Equal Same
  rcases plain_number left with ⟨integral, shownA⟩ | ⟨fraction, x, rfl, rfl, shownA⟩ <;>
    rcases plain_number right with ⟨other, shownB⟩ | ⟨other, y, rfl, rfl, shownB⟩ <;>
    rw [shownA, shownB]
  · rw [Json.canon, Json.canon, Json.int.injEq]
    constructor
    · intro same
      exact Rat.ext same (integral.trans other.symm)
    · exact congrArg Rat.num
  · refine iff_of_false nofun fun same => other (same ▸ integral)
  · refine iff_of_false nofun fun same => fraction (same ▸ other)
  · rw [Json.canon, Json.canon, Json.float.injEq]
    refine ⟨congrArg FloatLiteral.value, fun same => FloatLiteral.eq_of_value same fun zero => ?_⟩
    exact fraction (by rw [zero]; rfl)

theorem plainFields_eq_map (d : Dict) :
    plainFields d = d.map fun entry => (entry.1, entry.2.plain) := by
  induction d with
  | nil => rfl
  | cons entry d ih =>
    obtain ⟨k, x⟩ := entry
    rw [plainFields, ih, List.map_cons]

theorem plainFields_append (d e : Dict) : plainFields (d ++ e) = plainFields d ++ plainFields e := by
  rw [plainFields_eq_map, plainFields_eq_map, plainFields_eq_map, List.map_append]

theorem get_plainFields (d : Dict) (key : String) :
    Dict.get (plainFields d) key = (d.get key).map Json.plain := by
  rw [plainFields_eq_map]
  exact Dict.get_map d (fun _ x => x.plain) key

/-- Sorting by keys does not see the values. -/
theorem plainFields_insertionSort (d : Dict) :
    plainFields (d.insertionSort keyLe) = (plainFields d).insertionSort keyLe := by
  rw [plainFields_eq_map, plainFields_eq_map]
  exact List.map_insertionSort keyLe keyLe _ d fun _ _ _ _ => Iff.rfl

theorem canon_plain_float (x : FloatLiteral) : x.plain.canon = x.plain := by
  unfold FloatLiteral.plain
  split <;> rfl

mutual

theorem plain_canon : ∀ a : Json, a.canon.plain = a.plain.canon
  | .null | .bool _ | .int _ | .str _ => rfl
  | .float x => by rw [Json.canon, Json.plain, canon_plain_float]
  | .arr xs => by rw [Json.canon, Json.plain, Json.plain, Json.canon, plainItems_canonItems xs]
  | .obj fs => by
    rw [Json.canon, Json.plain, Json.plain, Json.canon, plainFields_insertionSort,
      plainFields_canonFields fs]

theorem plainItems_canonItems : ∀ xs : List Json,
    plainItems (canonItems xs) = canonItems (plainItems xs)
  | [] => rfl
  | x :: xs => by
    rw [canonItems, plainItems, plainItems, canonItems, plain_canon x, plainItems_canonItems xs]

theorem plainFields_canonFields : ∀ fs : Dict,
    plainFields (canonFields fs) = canonFields (plainFields fs)
  | [] => rfl
  | (k, x) :: fs => by
    rw [canonFields, plainFields, plainFields, canonFields, plain_canon x,
      plainFields_canonFields fs]

end

/-- Documents that are written alike are equal. -/
theorem Same.equal {a b : Json} (h : Same a b) : Equal a b := by
  unfold Equal Same
  rw [← plain_canon, ← plain_canon, h]

/-- Equality for a key that may be absent on both sides. -/
def EqualField (a b : Option Json) : Prop := SameField (a.map Json.plain) (b.map Json.plain)

instance (a b : Option Json) : Decidable (EqualField a b) :=
  inferInstanceAs (Decidable (SameField _ _))

@[simp] theorem equalField_some (a b : Json) : EqualField (some a) (some b) ↔ Equal a b := by
  simp [EqualField, Equal]

@[simp] theorem equalField_none : EqualField none none := sameField_none

@[simp] theorem not_equalField_none_some (b : Json) : ¬EqualField none (some b) := by
  simp [EqualField]

@[simp] theorem not_equalField_some_none (a : Json) : ¬EqualField (some a) none := by
  simp [EqualField]

theorem EqualField.isSome_eq {a b : Option Json} (h : EqualField a b) : a.isSome = b.isSome := by
  simpa using SameField.isSome_eq h

/-- Equal dictionaries answer every lookup with equal documents. -/
theorem Equal.get {d e : Dict} (h : Equal (.obj d) (.obj e)) (key : String) :
    EqualField (d.get key) (e.get key) := by
  have plain := Same.get (d := plainFields d) (e := plainFields e) h key
  rwa [get_plainFields, get_plainFields] at plain

theorem Equal.obj_of_canonFields {d e : Dict}
    (h : canonFields (plainFields d) = canonFields (plainFields e)) : Equal (.obj d) (.obj e) :=
  Same.obj_of_canonFields h

@[simp] theorem plain_eq_str {a : Json} {s : String} : a.plain = .str s ↔ a = .str s := by
  cases a with
  | str => exact Iff.rfl
  | float x =>
    rw [Json.plain, FloatLiteral.plain]
    split <;> exact iff_of_false nofun nofun
  | _ => exact iff_of_false nofun nofun

@[simp] theorem equal_str (a : Json) (s : String) : Equal a (.str s) ↔ a = .str s :=
  (same_str a.plain s).trans plain_eq_str

theorem EqualField.eq_some_str_iff {a b : Option Json} (h : EqualField a b) (s : String) :
    a = some (.str s) ↔ b = some (.str s) := by
  have plain : ∀ c : Option Json, c = some (.str s) ↔ c.map Json.plain = some (.str s) := by
    intro c
    cases c <;> simp
  rw [plain a, plain b, SameField.eq_some_str_iff h]

@[simp] theorem equal_arr_singleton (a b : Json) : Equal (.arr [a]) (.arr [b]) ↔ Equal a b :=
  same_arr_singleton a.plain b.plain

end JsonDocument
