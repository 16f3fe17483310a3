import Mathlib.Algebra.Ring.Nat
import Mathlib.Data.List.Basic
import Mathlib.Tactic.Common

/-! Text operations of the Python standard library, on lists of characters:
slices, `strip`, removal of a substring, `int(text, base)` and hexadecimal
digits. The tables are those of Unicode 15.0. -/

namespace PythonText

/-- `text[:n]` -/
def clip (n : Nat) (s : String) : String := String.ofList (s.toList.take n)

/-- `pat in text` -/
def occursIn (pat : List Char) : List Char → Bool
  | [] => pat.isEmpty
  | c :: cs => pat.isPrefixOf (c :: cs) || occursIn pat cs

/-- `text.strip(chars)`, the characters given by a test. -/
def strip (p : Char → Bool) (cs : List Char) : List Char :=
  ((cs.dropWhile p).reverse.dropWhile p).reverse

/-- Scan for `pat` from the left; `skip` counts characters of a match still to drop. -/
def removeFrom (pat : List Char) : (skip : Nat) → List Char → List Char
  | _, [] => []
  | skip + 1, _ :: cs => removeFrom pat skip cs
  | 0, c :: cs =>
      if pat.isPrefixOf (c :: cs) then removeFrom pat (pat.length - 1) cs
      else c :: removeFrom pat 0 cs

/-- `text.replace(pat, "")` -/
def remove (pat cs : List Char) : List Char := removeFrom pat 0 cs

theorem remove_eq_self {pat cs : List Char} {c : Char} (inPat : c ∈ pat) (absent : c ∉ cs) :
    remove pat cs = cs := by
  unfold remove
  induction cs with
  | nil => rfl
  | cons head cs ih =>
    have noMatch : pat.isPrefixOf (head :: cs) = false := by
      rw [Bool.eq_false_iff]
      intro isPrefix
      exact absent ((List.isPrefixOf_iff_prefix.mp isPrefix).subset inPat)
    have tailAbsent : c ∉ cs := fun h => absent (List.mem_cons_of_mem _ h)
    simp [removeFrom, noMatch, ih tailAbsent]

theorem strip_eq_self {p : Char → Bool} {cs : List Char} (h : ∀ c ∈ cs, p c = false) :
    strip p cs = cs := by
  have dropNone : ∀ ds : List Char, (∀ c ∈ ds, p c = false) → ds.dropWhile p = ds := by
    intro ds hd
    cases ds with
    | nil => rfl
    | cons d ds => simp [hd d (by simp)]
  rw [strip, dropNone cs h, dropNone cs.reverse (by simpa using h), List.reverse_reverse]

/-- Characters `int` skips around a number. -/
def isSpace (c : Char) : Bool :=
  (9 ≤ c.toNat && c.toNat ≤ 13) || c.toNat == 32 || c.toNat == 0x85 || c.toNat == 0xA0 ||
    c.toNat == 0x1680 || (0x2000 ≤ c.toNat && c.toNat ≤ 0x200A) || c.toNat == 0x2028 ||
    c.toNat == 0x2029 || c.toNat == 0x202F || c.toNat == 0x205F || c.toNat == 0x3000

/-- White space of `str.split` and `str.strip`; `int` does not skip the ASCII separators. -/
def isBlank (c : Char) : Bool := isSpace c || (0x1C ≤ c.toNat && c.toNat ≤ 0x1F)

/-- The words of a text, after the characters of a word that has begun, last one first. -/
def splitFrom : (word : List Char) → List Char → List (List Char)
  | word, [] => if word.isEmpty then [] else [word.reverse]
  | word, c :: cs =>
      if isBlank c then
        if word.isEmpty then splitFrom [] cs else word.reverse :: splitFrom [] cs
      else splitFrom (c :: word) cs

/-- `text.split()` -/
def split (cs : List Char) : List (List Char) := splitFrom [] cs

/-- `" ".join(words)` -/
def spaced (words : List (List Char)) : List Char := [' '].intercalate words

/-- `text.replace("\r\n", "\n")` -/
def unixLines : List Char → List Char
  | '\r' :: '\n' :: cs => '\n' :: unixLines cs
  | c :: cs => c :: unixLines cs
  | [] => []

/-- `[items[start : start + n] for start in range(0, len(items), n)]` -/
def slices {α : Type} (n : Nat) (items : List α) : List (List α) :=
  (List.range ((items.length + n - 1) / n)).map fun k => (items.drop (k * n)).take n

/-- Code points of the digit zero of every decimal digit block. -/
def zeros : List Nat :=
  [0x30, 0x660, 0x6F0, 0x7C0, 0x966, 0x9E6, 0xA66, 0xAE6, 0xB66, 0xBE6, 0xC66, 0xCE6,
   0xD66, 0xDE6, 0xE50, 0xED0, 0xF20, 0x1040, 0x1090, 0x17E0, 0x1810, 0x1946, 0x19D0,
   0x1A80, 0x1A90, 0x1B50, 0x1BB0, 0x1C40, 0x1C50, 0xA620, 0xA8D0, 0xA900, 0xA9D0,
   0xA9F0, 0xAA50, 0xABF0, 0xFF10, 0x104A0, 0x10D30, 0x11066, 0x110F0, 0x11136, 0x111D0,
   0x112F0, 0x11450, 0x114D0, 0x11650, 0x116C0, 0x11730, 0x118E0, 0x11950, 0x11C50,
   0x11D50, 0x11DA0, 0x11F50, 0x16A60, 0x16AC0, 0x16B50, 0x1D7CE, 0x1D7D8, 0x1D7E2,
   0x1D7EC, 0x1D7F6, 0x1E140, 0x1E2F0, 0x1E4F0, 0x1E950, 0x1FBF0]

/-- Value of a digit in some base: a decimal digit of any script, or a Latin letter. -/
def digitValue (c : Char) : Option Nat :=
  match zeros.find? (fun z => z ≤ c.toNat && c.toNat < z + 10) with
  | some z => some (c.toNat - z)
  | none =>
      if 0x61 ≤ c.toNat ∧ c.toNat ≤ 0x7A then some (c.toNat - 0x61 + 10)
      else if 0x41 ≤ c.toNat ∧ c.toNat ≤ 0x5A then some (c.toNat - 0x41 + 10)
      else none

/-- Digits with single underscores between them; `after` says a digit was just read. -/
def readDigits (base : Nat) : (acc : Nat) → (after : Bool) → List Char → Option Nat
  | acc, after, [] => if after then some acc else none
  | acc, after, c :: cs =>
      if c = '_' then
        if after then readDigits base acc false cs else none
      else
        match digitValue c with
        | some d => if d < base then readDigits base (acc * base + d) true cs else none
        | none => none

def splitSign : List Char → Bool × List Char
  | '-' :: cs => (true, cs)
  | '+' :: cs => (false, cs)
  | cs => (false, cs)

/-- The prefix `0x` that base 16 allows, with one underscore after it. -/
def dropHexPrefix : List Char → List Char
  | '0' :: 'x' :: '_' :: cs => cs
  | '0' :: 'X' :: '_' :: cs => cs
  | '0' :: 'x' :: cs => cs
  | '0' :: 'X' :: cs => cs
  | cs => cs

/-- `int(text, base)` for base 10 or 16, `none` where it raises ValueError. Base 10
refuses more than 4300 digits. -/
def int (base : Nat) (text : List Char) : Option Int :=
  let signed := splitSign (strip isSpace text)
  let digits := if base = 16 then dropHexPrefix signed.2 else signed.2
  if base = 10 ∧ 4300 < (digits.filter (· ≠ '_')).length then none
  else (readDigits base 0 false digits).map fun n => if signed.1 then -(n : Int) else n

example : int 10 " +1_0 ".toList = some 10 := by decide
example : int 16 "0x_1F".toList = some 31 := by decide
example : int 10 "1__0".toList = none := by decide

/-- `str(n)` -/
def intText (n : Int) : List Char :=
  match n with
  | .ofNat n => Nat.toDigits 10 n
  | .negSucc n => '-' :: Nat.toDigits 10 (n + 1)

/-- Lower-case hexadecimal digit. -/
def hexDigit (n : Nat) : Char := Char.ofNat (if n < 10 then 0x30 + n else 0x57 + n)

theorem digitValue_hexDigit : ∀ n < 16, digitValue (hexDigit n) = some n := by decide

theorem hexDigit_ne_underscore : ∀ n < 16, hexDigit n ≠ '_' := by decide

/-- The low `k` hexadecimal digits of `n`, most significant first. -/
def hexText : (k : Nat) → Nat → List Char
  | 0, _ => []
  | k + 1, n => hexText k (n / 16) ++ [hexDigit (n % 16)]

@[simp] theorem length_hexText (k n : Nat) : (hexText k n).length = k := by
  induction k generalizing n with
  | zero => rfl
  | succ k ih => simp [hexText, ih]

theorem mem_hexText {k n : Nat} {c : Char} (h : c ∈ hexText k n) :
    ∃ d < 16, c = hexDigit d := by
  induction k generalizing n with
  | zero => simp [hexText] at h
  | succ k ih =>
    rcases List.mem_append.mp h with front | last
    · exact ih front
    · exact ⟨n % 16, Nat.mod_lt _ (by decide), by simpa using last⟩

theorem readDigits_append (base acc : Nat) (after : Bool) (cs : List Char) (c : Char)
    (value d : Nat) (front : readDigits base acc after cs = some value)
    (digit : digitValue c = some d) (small : d < base) (plain : c ≠ '_') :
    readDigits base acc after (cs ++ [c]) = some (value * base + d) := by
  induction cs generalizing acc after with
  | nil =>
    cases after with
    | false => simp [readDigits] at front
    | true =>
      have same : acc = value := by simpa [readDigits] using front
      simp [readDigits, plain, digit, small, same]
  | cons head cs ih =>
    simp only [readDigits, List.cons_append] at front ⊢
    split at front
    · split at front
      · simp_all
      · simp at front
    · split at front
      · rename_i plainHead _ e headDigit
        split at front
        · rename_i headSmall
          simp [plainHead, headSmall, ih _ _ front]
        · simp at front
      · simp at front

/-- Hexadecimal digits read back as the number they were written from. -/
theorem readDigits_hexText (k n : Nat) (small : n < 16 ^ (k + 1)) :
    readDigits 16 0 false (hexText (k + 1) n) = some n := by
  induction k generalizing n with
  | zero =>
    have lt : n < 16 := by simpa using small
    have digit := digitValue_hexDigit n lt
    simp [hexText, readDigits, Nat.mod_eq_of_lt lt, hexDigit_ne_underscore n lt, digit, lt]
  | succ k ih =>
    have front := ih (n / 16) (by
      rw [Nat.pow_succ] at small
      omega)
    have lt : n % 16 < 16 := Nat.mod_lt _ (by decide)
    rw [hexText, readDigits_append 16 0 false _ _ _ _ front (digitValue_hexDigit _ lt) lt
      (hexDigit_ne_underscore _ lt)]
    congr 1
    omega

end PythonText
