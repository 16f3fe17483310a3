import CoolProof.Library.LetterCase

/-! Redaction of what the log is told about an event. Two values that differ only under
sensitive keys cannot be told apart in the log. -/

namespace CoolProof.Telemetry
open PythonText

/-- What a caller passes for a field; `scalar` is any object that is none of the others. The
keys of a mapping are distinct texts, so the comprehension over them keeps every entry. -/
inductive Value (S : Type) where
  | scalar (x : S)
  | bool (b : Bool)
  | int (n : Int)
  | str (text : String)
  | bytes (data : List UInt8)
  | list (items : List (Value S))
  | tuple (items : List (Value S))
  | mapping (entries : List (String × Value S))

/-- `_SENSITIVE` -/
def sensitive : List String :=
  ["key", "secret", "token", "password", "authorization", "prompt", "completion", "text"]

def isSensitive (key : List Char) : Bool := sensitive.any fun word => occursIn word.toList key

section
variable {S : Type}

/-- `len(value)` of a string or of bytes. -/
def Value.textLength : Value S → Option Nat
  | .str text => some text.length
  | .bytes data => some data.length
  | _ => none

/-- What stands in the log for a value under a sensitive key. -/
def redacted (value : Value S) : Value S :=
  match value.textLength with
  | some n => .mapping [("redacted", .bool true), ("length", .int n)]
  | none => .str "[REDACTED]"

mutual

def redactTelemetry (value : Value S) (key : List Char) : Value S :=
  if isSensitive (casefold key) then redacted value
  else
    match value with
    | .mapping entries => .mapping (redactEntries entries)
    | .list items => .list (redactItems items (casefold key))
    | .tuple items => .list (redactItems items (casefold key))
    | value => value

def redactItems (items : List (Value S)) (key : List Char) : List (Value S) :=
  match items with
  | [] => []
  | item :: items => redactTelemetry item key :: redactItems items key

def redactEntries (entries : List (String × Value S)) : List (String × Value S) :=
  match entries with
  | [] => []
  | (k, v) :: entries => (k, redactTelemetry v k.toList) :: redactEntries entries

end

/-- A record of the logger `coolproof.telemetry`. -/
structure LogRecord (S : Type) where
  event : String
  status : String
  fields : Value S

/-- `emit_event`: the keyword arguments reach the log redacted. -/
def emitEvent (event status : String) (fields : List (String × Value S)) : LogRecord S :=
  { event, status, fields := redactTelemetry (.mapping fields) [] }

/-! ## Two runs -/

mutual

/-- Two values of one shape that differ only in what lies under sensitive keys. -/
inductive SameOutside : Value S → Value S → Prop
  | same (v : Value S) : SameOutside v v
  | list {xs ys : List (Value S)} : SameItems xs ys → SameOutside (.list xs) (.list ys)
  | tuple {xs ys : List (Value S)} : SameItems xs ys → SameOutside (.tuple xs) (.tuple ys)
  | mapping {fs gs : List (String × Value S)} :
      SameEntries fs gs → SameOutside (.mapping fs) (.mapping gs)

inductive SameItems : List (Value S) → List (Value S) → Prop
  | nil : SameItems [] []
  | cons {v w : Value S} {xs ys : List (Value S)} :
      SameOutside v w → SameItems xs ys → SameItems (v :: xs) (w :: ys)

inductive SameEntries : List (String × Value S) → List (String × Value S) → Prop
  | nil : SameEntries [] []
  | shown {v w : Value S} {fs gs : List (String × Value S)} (key : String) :
      SameOutside v w → SameEntries fs gs → SameEntries ((key, v) :: fs) ((key, w) :: gs)
  -- both are strings or bytes of one length, or neither is a string or bytes
  | hidden {v w : Value S} {fs gs : List (String × Value S)} {key : String} :
      isSensitive (casefold key.toList) = true → v.textLength = w.textLength →
      SameEntries fs gs → SameEntries ((key, v) :: fs) ((key, w) :: gs)

end

theorem redacted_eq {v w : Value S} (h : v.textLength = w.textLength) :
    redacted v = redacted w := by
  rw [redacted, redacted, h]

theorem SameOutside.textLength {v w : Value S} (h : SameOutside v w) :
    v.textLength = w.textLength := by
  cases h <;> rfl

theorem redactTelemetry_sensitive (v : Value S) {key : List Char}
    (h : isSensitive (casefold key) = true) : redactTelemetry v key = redacted v := by
  rw [redactTelemetry.eq_def, if_pos h]

mutual

theorem redactTelemetry_eq : ∀ (v w : Value S) (key : List Char), SameOutside v w →
    redactTelemetry v key = redactTelemetry w key
  | v, w, key, h => by
    by_cases hidden : isSensitive (casefold key) = true
    · rw [redactTelemetry_sensitive v hidden, redactTelemetry_sensitive w hidden,
        redacted_eq h.textLength]
    cases h with
    | same => rfl
    | list items => simp only [redactTelemetry, if_neg hidden, redactItems_eq _ _ _ items]
    | tuple items => simp only [redactTelemetry, if_neg hidden, redactItems_eq _ _ _ items]
    | mapping entries => simp only [redactTelemetry, if_neg hidden, redactEntries_eq _ _ entries]

theorem redactItems_eq : ∀ (xs ys : List (Value S)) (key : List Char), SameItems xs ys →
    redactItems xs key = redactItems ys key
  | [], _, _, h => by cases h; rfl
  | v :: xs, _, key, h => by
    cases h with
    | cons head tail =>
      rw [redactItems, redactItems, redactTelemetry_eq v _ key head, redactItems_eq xs _ key tail]

theorem redactEntries_eq : ∀ (fs gs : List (String × Value S)), SameEntries fs gs →
    redactEntries fs = redactEntries gs
  | [], _, h => by cases h; rfl
  | (k, v) :: fs, _, h => by
    cases h with
    | shown _ value rest =>
      rw [redactEntries, redactEntries, redactTelemetry_eq v _ _ value, redactEntries_eq fs _ rest]
    | hidden secret length rest =>
      rw [redactEntries, redactEntries, redactTelemetry_sensitive v secret,
        redactTelemetry_sensitive _ secret, redacted_eq length, redactEntries_eq fs _ rest]

end

/-! ## The order of keys -/

mutual

/-- Python's `==`: mappings are compared without the order of their entries. -/
inductive Equal : Value S → Value S → Prop
  | same (v : Value S) : Equal v v
  | list {xs ys : List (Value S)} : EqualItems xs ys → Equal (.list xs) (.list ys)
  | tuple {xs ys : List (Value S)} : EqualItems xs ys → Equal (.tuple xs) (.tuple ys)
  | mapping {fs gs hs : List (String × Value S)} :
      EqualEntries fs gs → gs.Perm hs → Equal (.mapping fs) (.mapping hs)

inductive EqualItems : List (Value S) → List (Value S) → Prop
  | nil : EqualItems [] []
  | cons {v w : Value S} {xs ys : List (Value S)} :
      Equal v w → EqualItems xs ys → EqualItems (v :: xs) (w :: ys)

inductive EqualEntries : List (String × Value S) → List (String × Value S) → Prop
  | nil : EqualEntries [] []
  | cons {v w : Value S} {fs gs : List (String × Value S)} (key : String) :
      Equal v w → EqualEntries fs gs → EqualEntries ((key, v) :: fs) ((key, w) :: gs)

end

theorem Equal.textLength {v w : Value S} (h : Equal v w) : v.textLength = w.textLength := by
  cases h <;> rfl

theorem redactEntries_eq_map (fs : List (String × Value S)) :
    redactEntries fs = fs.map fun f => (f.1, redactTelemetry f.2 f.1.toList) := by
  induction fs with
  | nil => rfl
  | cons f fs ih => rw [redactEntries, ih, List.map_cons]

mutual

theorem redactTelemetry_equal : ∀ (v w : Value S) (key : List Char), Equal v w →
    Equal (redactTelemetry v key) (redactTelemetry w key)
  | v, w, key, h => by
    by_cases hidden : isSensitive (casefold key) = true
    · rw [redactTelemetry_sensitive v hidden, redactTelemetry_sensitive w hidden,
        redacted_eq h.textLength]
      exact .same _
    cases h with
    | same => exact .same _
    | list items =>
      simp only [redactTelemetry, if_neg hidden]
      exact .list (redactItems_equal _ _ _ items)
    | tuple items =>
      simp only [redactTelemetry, if_neg hidden]
      exact .list (redactItems_equal _ _ _ items)
    | mapping entries order =>
      simp only [redactTelemetry, if_neg hidden]
      refine .mapping (redactEntries_equal _ _ entries) ?_
      rw [redactEntries_eq_map, redactEntries_eq_map]
      exact order.map _

theorem redactItems_equal : ∀ (xs ys : List (Value S)) (key : List Char), EqualItems xs ys →
    EqualItems (redactItems xs key) (redactItems ys key)
  | [], _, _, h => by cases h; exact .nil
  | v :: xs, _, key, h => by
    cases h with
    | cons head tail =>
      exact .cons (redactTelemetry_equal v _ key head) (redactItems_equal xs _ key tail)

theorem redactEntries_equal : ∀ (fs gs : List (String × Value S)), EqualEntries fs gs →
    EqualEntries (redactEntries fs) (redactEntries gs)
  | [], _, h => by cases h; exact .nil
  | (k, v) :: fs, _, h => by
    cases h with
    | cons _ value rest =>
      exact .cons k (redactTelemetry_equal v _ k.toList value) (redactEntries_equal fs _ rest)

end

/-! ## What the log tells -/

/-- Two values that differ only under sensitive keys leave one redacted value; `u` is the
second value with its keys in the order of the first. -/
theorem redactTelemetry_hides (v u w : Value S) (key : List Char) (outside : SameOutside v u)
    (order : Equal u w) :
    redactTelemetry v key = redactTelemetry u key ∧
      Equal (redactTelemetry v key) (redactTelemetry w key) := by
  have shown := redactTelemetry_eq v u key outside
  refine ⟨shown, ?_⟩
  rw [shown]
  exact redactTelemetry_equal u w key order

/-- A run's rows, with a key in a mapping inside a list, and its prompts. -/
def tracedRows (apiKey : String) : Value Unit :=
  .list [.tuple [.mapping [("API_Key", .str apiKey), ("count", .int 3)]]]

theorem redactTelemetry_hides_nested :
    redactTelemetry (.mapping [("rows", tracedRows "abc"), ("prompts", .list [])]) [] =
      redactTelemetry (.mapping [("rows", tracedRows "xyz"), ("prompts", .int 7)]) [] ∧
    Equal (redactTelemetry (.mapping [("rows", tracedRows "abc"), ("prompts", .list [])]) [])
      (redactTelemetry (.mapping [("prompts", .int 7), ("rows", tracedRows "xyz")]) []) := by
  refine redactTelemetry_hides _ _ _ [] (.mapping ?_) (.mapping ?_ (List.Perm.swap _ _ _))
  · have rows : SameOutside (tracedRows "abc") (tracedRows "xyz") :=
      .list (.cons (.tuple (.cons (.mapping (.hidden (by decide +kernel) rfl
        (.shown "count" (.same _) .nil))) .nil)) .nil)
    exact .shown "rows" rows (.hidden (by decide +kernel) rfl .nil)
  · exact .cons "rows" (.same _) (.cons "prompts" (.same _) .nil)

/-- An event's record in the log is that of any other run with the same fields outside the
sensitive ones. -/
theorem emitEvent_hides (event status : String) (fs gs : List (String × Value S))
    (outside : SameEntries fs gs) : emitEvent event status fs = emitEvent event status gs := by
  rw [emitEvent, emitEvent, redactTelemetry_eq _ _ [] (.mapping outside)]

end
end CoolProof.Telemetry
