import CoolProof.Library.PythonText

/-! UUIDs with the text forms of the Python standard library: `str(uuid)` writes
the canonical 36 characters, `UUID(text)` reads that form and several looser ones. -/

namespace Uuid
open PythonText

abbrev UUID := BitVec 128

/-- Membership in a column of ids is decided through this one. -/
instance lawfulBEq : LawfulBEq UUID := inferInstance

/-- `str(uuid)`: 32 lower-case hexadecimal digits in groups of 8, 4, 4, 4 and 12. -/
def canonical (u : UUID) : List Char :=
  let ds := hexText 32 u.toNat
  ds.take 8 ++ '-' :: ((ds.drop 8).take 4 ++ '-' :: ((ds.drop 12).take 4 ++
    '-' :: ((ds.drop 16).take 4 ++ '-' :: ds.drop 20)))

theorem length_canonical (u : UUID) : (canonical u).length = 36 := by
  simp [canonical]

def toString (u : UUID) : String := String.ofList (canonical u)

/-- The hexadecimal digits `UUID(text)` looks at: prefixes, braces and dashes are dropped. -/
def hexPart (cs : List Char) : List Char :=
  let bare := remove "uuid:".toList (remove "urn:".toList cs)
  remove ['-'] (strip (fun c => c == '{' || c == '}') bare)

/-- `UUID(text)`, `none` where it raises ValueError. -/
def parse (cs : List Char) : Option UUID :=
  let hex := hexPart cs
  if hex.length ≠ 32 then none
  else
    match int 16 hex with
    | some (.ofNat n) => if n < 2 ^ 128 then some (BitVec.ofNat 128 n) else none
    | _ => none

theorem mem_canonical {u : UUID} {c : Char} (h : c ∈ canonical u) :
    c = '-' ∨ ∃ d < 16, c = hexDigit d := by
  have digit : ∀ {ds : List Char}, ds ⊆ hexText 32 u.toNat → c ∈ ds → ∃ d < 16, c = hexDigit d :=
    fun sub mem => mem_hexText (sub mem)
  simp only [canonical, List.mem_append, List.mem_cons] at h
  rcases h with h | h | h | h | h | h | h | h | h
  · exact .inr (digit (List.take_subset _ _) h)
  · exact .inl h
  · exact .inr (digit (List.Subset.trans (List.take_subset _ _) (List.drop_subset _ _)) h)
  · exact .inl h
  · exact .inr (digit (List.Subset.trans (List.take_subset _ _) (List.drop_subset _ _)) h)
  · exact .inl h
  · exact .inr (digit (List.Subset.trans (List.take_subset _ _) (List.drop_subset _ _)) h)
  · exact .inl h
  · exact .inr (digit (List.drop_subset _ _) h)

theorem not_mem_hexText {c : Char} (k n : Nat) (other : ∀ d < 16, hexDigit d ≠ c) :
    c ∉ hexText k n := by
  intro h
  obtain ⟨d, small, eq⟩ := mem_hexText h
  exact other d small eq.symm

theorem not_mem_canonical {c : Char} (u : UUID) (dash : c ≠ '-')
    (other : ∀ d < 16, hexDigit d ≠ c) : c ∉ canonical u := by
  intro h
  rcases mem_canonical h with eq | ⟨d, small, eq⟩
  · exact dash eq
  · exact other d small eq.symm

theorem remove_dash_append (cs ds : List Char) :
    remove ['-'] (cs ++ ds) = remove ['-'] cs ++ remove ['-'] ds := by
  unfold remove
  induction cs with
  | nil => rfl
  | cons c cs ih =>
    by_cases dash : c = '-'
    · simp [removeFrom, List.isPrefixOf, dash, ih]
    · have differs : ('-' == c) = false := by simpa using Ne.symm dash
      simp [removeFrom, List.isPrefixOf, differs, ih]

theorem remove_dash_cons (cs : List Char) : remove ['-'] ('-' :: cs) = remove ['-'] cs := by
  simp [remove, removeFrom, List.isPrefixOf]

theorem hexPart_canonical (u : UUID) : hexPart (canonical u) = hexText 32 u.toNat := by
  have noColon : ':' ∉ canonical u := not_mem_canonical u (by decide) (by decide)
  have noBrace : ∀ c ∈ canonical u, (c == '{' || c == '}') = false := by
    intro c h
    have opening : c ≠ '{' := by
      rintro rfl
      exact not_mem_canonical u (by decide) (by decide) h
    have closing : c ≠ '}' := by
      rintro rfl
      exact not_mem_canonical u (by decide) (by decide) h
    simp [opening, closing]
  have noDash : ∀ ds : List Char, ds ⊆ hexText 32 u.toNat → remove ['-'] ds = ds := by
    intro ds sub
    have noDash : '-' ∉ ds := fun h => not_mem_hexText 32 u.toNat (by decide) (sub h)
    exact remove_eq_self (by simp) noDash
  have noUrn : remove "urn:".toList (canonical u) = canonical u := remove_eq_self (by decide) noColon
  have noUuid : remove "uuid:".toList (canonical u) = canonical u :=
    remove_eq_self (by decide) noColon
  rw [hexPart, noUrn, noUuid, strip_eq_self noBrace]
  simp only [canonical, remove_dash_append, remove_dash_cons]
  rw [noDash _ (List.take_subset _ _),
    noDash _ (List.Subset.trans (List.take_subset _ _) (List.drop_subset _ _)),
    noDash _ (List.Subset.trans (List.take_subset _ _) (List.drop_subset _ _)),
    noDash _ (List.Subset.trans (List.take_subset _ _) (List.drop_subset _ _)),
    noDash _ (List.drop_subset _ _)]
  have join : ∀ (k m : Nat) (ds : List Char), (ds.drop k).take m ++ ds.drop (k + m) = ds.drop k := by
    intro k m ds
    rw [← List.drop_drop, List.take_append_drop]
  rw [join 16 4, join 12 4, join 8 4, List.take_append_drop]

theorem int_hexText (n : Nat) (small : n < 2 ^ 128) : int 16 (hexText 32 n) = some (n : Int) := by
  have plain : ∀ c ∈ hexText 32 n, isSpace c = false := by
    intro c h
    obtain ⟨d, lt, eq⟩ := mem_hexText h
    have digits : ∀ e < 16, isSpace (hexDigit e) = false := by decide
    rw [eq, digits d lt]
  have absent : ∀ {c : Char}, (∀ d < 16, hexDigit d ≠ c) → c ∉ hexText 32 n :=
    fun other => not_mem_hexText 32 n other
  have unsigned : splitSign (hexText 32 n) = (false, hexText 32 n) := by
    unfold splitSign
    split
    · rename_i eq
      exact absurd (by rw [eq]; simp) (absent (c := '-') (by decide))
    · rename_i eq
      exact absurd (by rw [eq]; simp) (absent (c := '+') (by decide))
    · rfl
  have noPrefix : dropHexPrefix (hexText 32 n) = hexText 32 n := by
    unfold dropHexPrefix
    split
    · rename_i eq
      exact absurd (by rw [eq]; simp) (absent (c := 'x') (by decide))
    · rename_i eq
      exact absurd (by rw [eq]; simp) (absent (c := 'X') (by decide))
    · rename_i eq
      exact absurd (by rw [eq]; simp) (absent (c := 'x') (by decide))
    · rename_i eq
      exact absurd (by rw [eq]; simp) (absent (c := 'X') (by decide))
    · rfl
  have digits : readDigits 16 0 false (hexText 32 n) = some n := readDigits_hexText 31 n small
  simp [int, strip_eq_self plain, unsigned, noPrefix, digits]

/-- The canonical text of a UUID reads back as that UUID. -/
theorem parse_canonical (u : UUID) : parse (canonical u) = some u := by
  have value := int_hexText u.toNat u.isLt
  simp only [parse, hexPart_canonical, length_hexText, ne_eq, not_true_eq_false, if_false, value]
  change (if u.toNat < 2 ^ 128 then some (BitVec.ofNat 128 u.toNat) else none) = some u
  rw [if_pos u.isLt, BitVec.ofNat_toNat, BitVec.setWidth_eq]

theorem toString_injective : Function.Injective toString := by
  intro u v same
  have read := congrArg (fun text : String => parse text.toList) same
  simpa [toString, parse_canonical] using read

example : parse "\x7b00000000-0000-0000-0000-0000000000FF\x7d".toList = some 255 := by decide
example : parse "not-a-uuid".toList = none := by decide

end Uuid
