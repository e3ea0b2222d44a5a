import RowSpec.Text.Digits

/-!
# Decimal numbers

A `Decimal` is `coeff / 10 ^ scale`, kept with no trailing zero in `coeff`, so that two decimals
are the same number exactly when they are equal.

* `Decimal.make`      the decimal of any coefficient and scale;
* `Decimal.compare`   the numeric order, found from the position of the leading digit first, so
                      that far-apart numbers are never written out;
* `Decimal.chars`     the written form;
* `Decimal.ofText?`   reads a sign, digits, a fraction and an exponent.
-/

namespace RowSpec

structure Decimal where
  coeff : Int
  scale : Int
  canonical : coeff = 0 ∧ scale = 0 ∨ coeff % 10 ≠ 0
deriving DecidableEq

namespace Decimal

/-- Moves trailing zeros of `m` into the scale, at most as many as the first argument. -/
def dropZeros : Nat → Nat → Int → Nat × Int
  | 0, m, s => (m, s)
  | k + 1, m, s => if m % 10 = 0 then dropZeros k (m / 10) (s - 1) else (m, s)

theorem dropZeros_mod (k m : Nat) (s : Int) (h : 0 < m) (hk : m ≤ k) :
    (dropZeros k m s).1 % 10 ≠ 0 := by
  induction k generalizing m s with
  | zero => omega
  | succ k ih =>
    rw [dropZeros]
    split
    · exact ih (m / 10) (s - 1) (by omega) (by omega)
    · assumption

theorem dropZeros_value (k m : Nat) (s : Int) :
    ∃ j : Nat, m = (dropZeros k m s).1 * Nat.pow 10 j ∧ s = (dropZeros k m s).2 + j := by
  induction k generalizing m s with
  | zero => exact ⟨0, by simp [dropZeros], by simp [dropZeros]⟩
  | succ k ih =>
    rw [dropZeros]
    split
    · obtain ⟨j, hm, hs⟩ := ih (m / 10) (s - 1)
      refine ⟨j + 1, ?_, by omega⟩
      rw [show Nat.pow 10 (j + 1) = Nat.pow 10 j * 10 from rfl, ← Nat.mul_assoc, ← hm]
      omega
    · exact ⟨0, by simp, by simp⟩

/-- The number `coeff / 10 ^ scale`. -/
def make (coeff scale : Int) : Decimal :=
  let m := dropZeros coeff.natAbs coeff.natAbs scale
  if h : coeff = 0 then ⟨0, 0, .inl ⟨rfl, rfl⟩⟩
  else ⟨coeff.sign * m.1, m.2, .inr (by
    have hm := dropZeros_mod coeff.natAbs coeff.natAbs scale (by omega) (Nat.le_refl _)
    rcases Int.lt_or_gt_of_ne h with hs | hs
    · rw [Int.sign_eq_neg_one_of_neg hs]; simp only [m]; omega
    · rw [Int.sign_eq_one_of_pos hs]; simp only [m]; omega)⟩

def ofInt (n : Int) : Decimal := make n 0

instance : OfNat Decimal n := ⟨ofInt n⟩

/-! ## order -/

/-- one more than the power of ten of the leading digit -/
def magnitude (d : Decimal) : Int := (digits d.coeff.natAbs).length - d.scale

/-- The coefficient's absolute value at a finer scale. -/
def aligned (d : Decimal) (scale : Int) : Nat :=
  d.coeff.natAbs * Nat.pow 10 (scale - d.scale).toNat

/-- order of the absolute values -/
def compareAbs (a b : Decimal) : Ordering :=
  (Ord.compare a.magnitude b.magnitude).then
    (let s := max a.scale b.scale; Ord.compare (a.aligned s) (b.aligned s))

def compare (a b : Decimal) : Ordering :=
  (Ord.compare a.coeff.sign b.coeff.sign).then
    (if a.coeff < 0 then compareAbs b a else compareAbs a b)

/-! ## text -/

/-- Digits `ds` with a point before the last `scale` of them. -/
def pointed (ds : List Char) (scale : Nat) : List Char :=
  if scale < ds.length then ds.take (ds.length - scale) ++ '.' :: ds.drop (ds.length - scale)
  else '0' :: '.' :: List.replicate (scale - ds.length) '0' ++ ds

/-- One digit, the others behind a point, and the negative exponent `E-exponent`. -/
def scientific (ds : List Char) (exponent : Nat) : List Char :=
  (match ds with
    | [] => []
    | [d] => [d]
    | d :: rest => d :: '.' :: rest) ++ 'E' :: '-' :: digits exponent

/-- The unsigned form: scientific when more than five zeros would follow the point, with an exponent
`e+` when more than fifteen zeros would end it, in full otherwise. -/
def absChars (d : Decimal) : List Char :=
  let ds := digits d.coeff.natAbs
  if d.scale - ds.length > 5 then scientific ds (d.scale - ds.length + 1).toNat
  else if d.scale < -15 then ds ++ 'e' :: '+' :: digits (-d.scale).toNat
  else if d.scale ≤ 0 then ds ++ List.replicate (-d.scale).toNat '0'
  else pointed ds d.scale.toNat

def chars (d : Decimal) : List Char :=
  if d.coeff < 0 then '-' :: d.absChars else d.absChars

/-! ## reading -/

/-- a sign, then what follows it -/
def readSign : List Char → Int × List Char
  | '-' :: rest => (-1, rest)
  | '+' :: rest => (1, rest)
  | rest => (1, rest)

/-- An exponent part: nothing, or `e` with a signed number. -/
def readExponent? : List Char → Option Int
  | [] => some 0
  | c :: rest =>
    if c = 'e' ∨ c = 'E' then
      let (sign, ds) := readSign rest
      (readNat? ds).map fun n => sign * n
    else none

/-- An unsigned number `digits.digits` with an exponent. -/
def readUnsigned? (s : List Char) : Option (Nat × Int) := do
  let isDigit := fun c => (digitValue? c).isSome
  let whole := s.takeWhile isDigit
  let rest := s.dropWhile isDigit
  let fraction := match rest with
    | '.' :: more => more.takeWhile isDigit
    | _ => []
  let rest := match rest with
    | '.' :: more => more.dropWhile isDigit
    | _ => rest
  let n ← readNat? (whole ++ fraction)
  let e ← readExponent? rest
  pure (n, fraction.length - e)

def ofText? (text : String) : Option Decimal := do
  let (sign, rest) := readSign text.toList
  let (n, scale) ← readUnsigned? rest
  pure (make (sign * n) scale)

example : (make 150 2).chars = "1.5".toList := by decide
example : (make 12345 11).chars = "1.2345E-7".toList := by decide
example : make 10 1 = ofInt 1 := by decide

end Decimal

end RowSpec
