import Mathlib.Data.Int.Log
import Mathlib.Data.Rat.Floor
import Mathlib.Data.String.Basic
import Mathlib.Tactic.Linarith

/-! Finite binary64 numbers through their decimal texts. A text denotes the number nearest to
what it spells, and a number is shown by its shortest text that denotes it; so a shown text
and the number determine each other, but for the sign of zero. -/

namespace Binary64

/-! ## The grammar of decimal texts -/

/-- Exponent part of a float literal: `e`, an optional sign and digits. -/
def isExponent : List Char → Bool
  | 'e' :: '+' :: ds => !ds.isEmpty && ds.all Char.isDigit
  | 'e' :: '-' :: ds => !ds.isEmpty && ds.all Char.isDigit
  | 'e' :: ds => !ds.isEmpty && ds.all Char.isDigit
  | _ => false

def dropSign : List Char → List Char
  | '-' :: cs => cs
  | cs => cs

/-- What follows the integer digits of a float literal: a fraction, an exponent or both. -/
def isFraction : List Char → Bool
  | '.' :: cs => !(cs.takeWhile Char.isDigit).isEmpty &&
      ((cs.dropWhile Char.isDigit).isEmpty || isExponent (cs.dropWhile Char.isDigit))
  | cs => isExponent cs

def isFloatText (cs : List Char) : Bool :=
  !((dropSign cs).takeWhile Char.isDigit).isEmpty &&
    isFraction ((dropSign cs).dropWhile Char.isDigit)

/-! ## What a text spells -/

def digitsValue (cs : List Char) : ℕ := cs.foldl (fun n c => 10 * n + (c.toNat - '0'.toNat)) 0

def exponentValue : List Char → ℤ
  | 'e' :: '+' :: ds => digitsValue ds
  | 'e' :: '-' :: ds => -digitsValue ds
  | 'e' :: ds => digitsValue ds
  | _ => 0

/-- The digits of a literal, moved by its exponent and the length of its fraction. -/
def unsignedValue (cs : List Char) : ℚ :=
  match cs.dropWhile Char.isDigit with
  | '.' :: rest =>
      digitsValue (cs.takeWhile Char.isDigit ++ rest.takeWhile Char.isDigit) *
        10 ^ (exponentValue (rest.dropWhile Char.isDigit) - (rest.takeWhile Char.isDigit).length)
  | rest => digitsValue (cs.takeWhile Char.isDigit) * 10 ^ exponentValue rest

/-! ## The nearest number -/

/-- To the nearest integer, a tie to the even one. -/
def roundHalfEven (q : ℚ) : ℕ :=
  let below := q.floor.toNat
  if q - below < 1 / 2 then below
  else if 1 / 2 < q - below then below + 1
  else if below % 2 = 0 then below else below + 1

/-- The distance of neighbours around `q`: 53 binary digits, and 2 ^ -1074 at least. -/
def spacing (q : ℚ) : ℚ := 2 ^ max (Int.log 2 q - 52) (-1074)

def nearest (q : ℚ) : ℚ := roundHalfEven (q / spacing q) * spacing q

/-- The magnitude that a text denotes. -/
def magnitude (cs : List Char) : ℚ := nearest (unsignedValue (dropSign cs))

def isSigned (cs : List Char) : Bool := cs.head? == some '-'

/-- The number that a text denotes. -/
def value (cs : List Char) : ℚ := if isSigned cs then -magnitude cs else magnitude cs

example : value "0.1".toList = 3602879701896397 / 2 ^ 55 := by decide +kernel
example : value "-1e+23".toList = -99999999999999991611392 := by decide +kernel

/-! ## The shortest text -/

/-- A coefficient and a power of ten for each number of digits, and its neighbour above: where the
spacing changes, only that one may be near enough. -/
def candidates (q : ℚ) : List (ℕ × ℤ) :=
  (List.range 17).flatMap fun n =>
    let e := Int.log 10 q - n
    [(roundHalfEven (q / 10 ^ e), e), (roundHalfEven (q / 10 ^ e) + 1, e)]

/-- The first candidate that denotes `q`; 17 digits are always enough. -/
def shortest (q : ℚ) : ℕ × ℤ :=
  ((candidates q).find? fun c => nearest (c.1 * 10 ^ c.2) = q).getD (0, 0)

/-- The digits of the coefficient, without the zeros at their end. -/
def digits (c : ℕ × ℤ) : List Char :=
  ((Nat.toDigits 10 c.1).reverse.dropWhile (· = '0')).reverse

/-- Where the decimal point stands, counted from the first digit. -/
def point (c : ℕ × ℤ) : ℤ := (Nat.toDigits 10 c.1).length + c.2

/-- An exponent has two digits at least. -/
def exponentText (e : ℤ) : List Char :=
  'e' :: (if e < 0 then '-' else '+') ::
    (if e.natAbs < 10 then '0' :: Nat.toDigits 10 e.natAbs else Nat.toDigits 10 e.natAbs)

/-- The fraction `0.d₁d₂… * 10 ^ p`: with an exponent when the point is far from the digits. -/
def layout (ds : List Char) (p : ℤ) : List Char :=
  if p ≤ -4 ∨ 16 < p then
    match ds with
    | [] => []
    | [d] => d :: exponentText (p - 1)
    | d :: ds => d :: '.' :: (ds ++ exponentText (p - 1))
  else if p ≤ 0 then '0' :: '.' :: (List.replicate p.natAbs '0' ++ ds)
  else if ds.length ≤ p then ds ++ List.replicate (p.natAbs - ds.length) '0' ++ ['.', '0']
  else ds.take p.natAbs ++ '.' :: ds.drop p.natAbs

/-- `repr` of a number that is not negative. -/
def unsignedText (q : ℚ) : List Char :=
  if q = 0 then ['0', '.', '0']
  else if 2 ^ 1024 ≤ q then ['i', 'n', 'f']
  else layout (digits (shortest q)) (point (shortest q))

/-- The text by which the number that a text denotes is shown. -/
def shown (cs : List Char) : List Char :=
  if isSigned cs then '-' :: unsignedText (magnitude cs) else unsignedText (magnitude cs)

/-- The text is one by which a finite number is shown. -/
def isShown (cs : List Char) : Bool := isFloatText cs && shown cs == cs

example : (["1", "1.0", "-0.0", "0.10", "1e5", "100000.0", "0.0001", "1e-05", "1e+16", "1e400",
    "5e-324", "123456789.125", "0.30000000000000004", "5.684341886080802e-14",
    "1.7976931348623157e+308"].filter
      fun s => isShown s.toList) =
    ["1.0", "-0.0", "100000.0", "0.0001", "1e-05", "1e+16", "5e-324", "123456789.125",
      "0.30000000000000004", "5.684341886080802e-14", "1.7976931348623157e+308"] := by
  decide +kernel

theorem nearest_nonneg (q : ℚ) : 0 ≤ nearest q := by
  exact mul_nonneg (Nat.cast_nonneg _) (zpow_nonneg (by norm_num) _)

theorem magnitude_nonneg (cs : List Char) : 0 ≤ magnitude cs := nearest_nonneg _

theorem shown_of_isShown {cs : List Char} (h : isShown cs = true) : shown cs = cs :=
  eq_of_beq (Bool.and_eq_true_iff.mp h).2

/-- A shown text is determined by its number, but for the sign of zero. -/
theorem eq_of_value_eq {cs ds : List Char} (left : isShown cs = true) (right : isShown ds = true)
    (same : value cs = value ds) (nonzero : value cs ≠ 0) : cs = ds := by
  have first := magnitude_nonneg cs
  have second := magnitude_nonneg ds
  have apart : ∀ {x y : ℚ}, 0 ≤ x → 0 ≤ y → -x = y → x = 0 := by
    intro x y hx hy equal
    linarith
  rw [← shown_of_isShown left, ← shown_of_isShown right]
  unfold shown
  unfold value at same nonzero
  cases negative : isSigned cs <;> cases other : isSigned ds <;>
    simp only [negative, other, Bool.false_eq_true, if_true, if_false] at same nonzero ⊢
  · rw [same]
  · exact absurd (apart second first same.symm) fun zero => nonzero (same.trans (by simp [zero]))
  · exact absurd (apart first second same) fun zero => nonzero (by simp [zero])
  · rw [neg_inj.mp same]

end Binary64
