import Mathlib.Algebra.Order.Field.Rat
import Mathlib.Algebra.Order.Ring.Abs
import Mathlib.Data.Rat.Cast.Order
import Mathlib.Order.Compare
import Mathlib.Tactic.Linarith
import Mathlib.Tactic.Ring
import RowSpec.Decimal

/-!
# Decimals as rational numbers

The order of decimals, which looks at leading digits first, is the order of the numbers they stand
for, and each number has one decimal.

* `Decimal.toRat`              the number of a decimal;
* `Decimal.abs_lt_pow_magnitude`, `Decimal.pow_magnitude_le_abs`   its leading digit;
* `Decimal.compare_compares`   `compare` is the comparison of the numbers;
* `Decimal.toRat_injective`    equal numbers, equal decimals.
-/

namespace RowSpec

namespace Decimal

def toRat (d : Decimal) : ℚ := d.coeff * (10 : ℚ) ^ (-d.scale)

theorem ten_zpow_pos (k : ℤ) : (0 : ℚ) < (10 : ℚ) ^ k := zpow_pos (by norm_num) k

theorem ten_zpow_add (j k : ℤ) : (10 : ℚ) ^ (j + k) = (10 : ℚ) ^ j * (10 : ℚ) ^ k :=
  zpow_add₀ (by norm_num) j k

theorem abs_toRat (d : Decimal) : |d.toRat| = (d.coeff.natAbs : ℚ) * (10 : ℚ) ^ (-d.scale) := by
  rw [toRat, abs_mul, abs_of_pos (ten_zpow_pos (-d.scale)), Nat.cast_natAbs, Int.cast_abs]

/-! ## leading digits -/

theorem length_digits_le_iff {n k : Nat} (hk : 0 < k) : (digits n).length ≤ k ↔ n < 10 ^ k :=
  Nat.length_toDigits_le_iff (by decide) hk

theorem lt_pow_length (n : Nat) : n < 10 ^ (digits n).length :=
  (length_digits_le_iff (digits_length_pos n)).mp (Nat.le_refl _)

theorem pow_length_le {n : Nat} (hn : 0 < n) : 10 ^ ((digits n).length - 1) ≤ n := by
  have hpos := digits_length_pos n
  by_cases h1 : (digits n).length = 1
  · rw [h1]; exact hn
  · have hlt := (length_digits_le_iff (n := n) (k := (digits n).length - 1) (by omega)).not
    exact Nat.not_lt.mp (hlt.mp (by omega))

theorem abs_lt_pow_magnitude (d : Decimal) : |d.toRat| < (10 : ℚ) ^ d.magnitude := by
  have hn : (d.coeff.natAbs : ℚ) < (10 : ℚ) ^ ((digits d.coeff.natAbs).length : ℤ) := by
    rw [zpow_natCast]
    exact_mod_cast lt_pow_length d.coeff.natAbs
  rw [abs_toRat, magnitude, sub_eq_add_neg, ten_zpow_add]
  exact mul_lt_mul_of_pos_right hn (ten_zpow_pos _)

theorem pow_magnitude_le_abs {d : Decimal} (hd : d.coeff ≠ 0) :
    (10 : ℚ) ^ (d.magnitude - 1) ≤ |d.toRat| := by
  have hpos := digits_length_pos d.coeff.natAbs
  have hn : (10 : ℚ) ^ (((digits d.coeff.natAbs).length : ℤ) - 1) ≤ (d.coeff.natAbs : ℚ) := by
    have e : ((digits d.coeff.natAbs).length : ℤ) - 1
        = (((digits d.coeff.natAbs).length - 1 : Nat) : ℤ) := by omega
    rw [e, zpow_natCast]
    exact_mod_cast pow_length_le (by omega : 0 < d.coeff.natAbs)
  have e : d.magnitude - 1 = (((digits d.coeff.natAbs).length : ℤ) - 1) + -d.scale := by
    rw [magnitude]; ring
  rw [abs_toRat, e, ten_zpow_add]
  exact mul_le_mul_of_nonneg_right hn (ten_zpow_pos _).le

theorem abs_lt_of_magnitude_lt {a b : Decimal} (hb : b.coeff ≠ 0)
    (h : a.magnitude < b.magnitude) : |a.toRat| < |b.toRat| :=
  calc |a.toRat| < (10 : ℚ) ^ a.magnitude := abs_lt_pow_magnitude a
    _ ≤ (10 : ℚ) ^ (b.magnitude - 1) := zpow_le_zpow_right₀ (by norm_num) (by omega)
    _ ≤ |b.toRat| := pow_magnitude_le_abs hb

/-! ## a common scale -/

theorem cast_aligned (d : Decimal) {s : ℤ} (h : d.scale ≤ s) :
    (d.aligned s : ℚ) = |d.toRat| * (10 : ℚ) ^ s := by
  have hp : ((Nat.pow 10 (s - d.scale).toNat : Nat) : ℚ) = (10 : ℚ) ^ (s - d.scale) := by
    show ((10 ^ (s - d.scale).toNat : Nat) : ℚ) = _
    rw [Nat.cast_pow, ← zpow_natCast, Int.toNat_of_nonneg (by omega)]
    rfl
  have e : s - d.scale = -d.scale + s := by ring
  rw [aligned, Nat.cast_mul, hp, abs_toRat, mul_assoc, e, ten_zpow_add]

theorem compare_aligned (a b : Decimal) :
    (Ord.compare (a.aligned (max a.scale b.scale)) (b.aligned (max a.scale b.scale))).Compares
      |a.toRat| |b.toRat| := by
  have hs := ten_zpow_pos (max a.scale b.scale)
  have ha := cast_aligned a (le_max_left a.scale b.scale)
  have hb := cast_aligned b (le_max_right a.scale b.scale)
  rcases lt_trichotomy (a.aligned (max a.scale b.scale)) (b.aligned (max a.scale b.scale))
    with h | h | h
  · rw [compare_lt_iff_lt.mpr h]
    have hq : (a.aligned (max a.scale b.scale) : ℚ) < b.aligned (max a.scale b.scale) := by
      exact_mod_cast h
    rw [ha, hb] at hq
    exact lt_of_mul_lt_mul_right hq hs.le
  · rw [compare_eq_iff_eq.mpr h]
    have hq : (a.aligned (max a.scale b.scale) : ℚ) = b.aligned (max a.scale b.scale) := by
      rw [h]
    rw [ha, hb] at hq
    exact mul_right_cancel₀ hs.ne' hq
  · rw [compare_gt_iff_gt.mpr h]
    have hq : (b.aligned (max a.scale b.scale) : ℚ) < a.aligned (max a.scale b.scale) := by
      exact_mod_cast h
    rw [ha, hb] at hq
    exact lt_of_mul_lt_mul_right hq hs.le

theorem scale_eq_zero {d : Decimal} (h : d.coeff = 0) : d.scale = 0 := by
  rcases d.canonical with ⟨_, hs⟩ | hm
  · exact hs
  · exact absurd (by rw [h]; rfl) hm

theorem compareAbs_compares {a b : Decimal} (h0 : a.coeff = 0 ↔ b.coeff = 0) :
    (a.compareAbs b).Compares |a.toRat| |b.toRat| := by
  by_cases ha : a.coeff = 0
  · have hm : a.magnitude = b.magnitude := by
      rw [magnitude, magnitude, ha, h0.mp ha, scale_eq_zero ha, scale_eq_zero (h0.mp ha)]
    rw [compareAbs, compare_eq_iff_eq.mpr hm]
    exact compare_aligned a b
  · have hb : b.coeff ≠ 0 := fun h => ha (h0.mpr h)
    rcases lt_trichotomy a.magnitude b.magnitude with h | h | h
    · rw [compareAbs, compare_lt_iff_lt.mpr h]
      exact abs_lt_of_magnitude_lt hb h
    · rw [compareAbs, compare_eq_iff_eq.mpr h]
      exact compare_aligned a b
    · rw [compareAbs, compare_gt_iff_gt.mpr h]
      exact abs_lt_of_magnitude_lt ha h

/-! ## the order -/

theorem toRat_neg {d : Decimal} (h : d.coeff < 0) : d.toRat < 0 :=
  mul_neg_of_neg_of_pos (by exact_mod_cast h) (ten_zpow_pos _)

theorem toRat_nonneg {d : Decimal} (h : 0 ≤ d.coeff) : 0 ≤ d.toRat :=
  mul_nonneg (by exact_mod_cast h) (ten_zpow_pos _).le

theorem toRat_pos {d : Decimal} (h : 0 < d.coeff) : 0 < d.toRat :=
  mul_pos (by exact_mod_cast h) (ten_zpow_pos _)

theorem toRat_lt_of_sign_lt {a b : Decimal} (h : a.coeff.sign < b.coeff.sign) :
    a.toRat < b.toRat := by
  rcases lt_trichotomy a.coeff 0 with ha | ha | ha
  · rcases lt_or_ge b.coeff 0 with hb | hb
    · rw [Int.sign_eq_neg_one_of_neg ha, Int.sign_eq_neg_one_of_neg hb] at h
      exact absurd h (lt_irrefl _)
    · exact lt_of_lt_of_le (toRat_neg ha) (toRat_nonneg hb)
  · rw [ha, Int.sign_zero] at h
    exact lt_of_le_of_lt (by rw [toRat, ha, Int.cast_zero, zero_mul])
      (toRat_pos (Int.sign_pos_iff.mp h))
  · rw [Int.sign_eq_one_of_pos ha] at h
    rcases Int.sign_trichotomy b.coeff with hb | hb | hb <;> omega

/-- **The order of decimals is that of the numbers.** -/
theorem compare_compares (a b : Decimal) : (a.compare b).Compares a.toRat b.toRat := by
  rcases lt_trichotomy a.coeff.sign b.coeff.sign with h | h | h
  · rw [compare, compare_lt_iff_lt.mpr h]
    exact toRat_lt_of_sign_lt h
  · rw [compare, compare_eq_iff_eq.mpr h]
    have h0 : a.coeff = 0 ↔ b.coeff = 0 := by
      rw [← Int.sign_eq_zero_iff_zero, h, Int.sign_eq_zero_iff_zero]
    by_cases ha : a.coeff < 0
    · have hb : b.coeff < 0 := by
        rw [← Int.sign_eq_neg_one_iff_neg, ← h, Int.sign_eq_neg_one_iff_neg]; exact ha
      -- both are negative: the order of the absolute values is turned round
      rw [if_pos ha]
      have hab := compareAbs_compares h0.symm
      rw [abs_of_neg (toRat_neg ha), abs_of_neg (toRat_neg hb)] at hab
      show (b.compareAbs a).Compares a.toRat b.toRat
      cases hc : b.compareAbs a with
      | lt => rw [hc] at hab; exact neg_lt_neg_iff.mp hab
      | eq => rw [hc] at hab; exact (neg_injective hab).symm
      | gt => rw [hc] at hab; exact neg_lt_neg_iff.mp hab
    · have hb : 0 ≤ b.coeff := by
        by_contra hneg
        rw [← Int.sign_nonneg_iff, ← h, Int.sign_nonneg_iff] at hneg
        exact hneg (not_lt.mp ha)
      rw [if_neg ha]
      have hab := compareAbs_compares h0
      rw [abs_of_nonneg (toRat_nonneg (not_lt.mp ha)), abs_of_nonneg (toRat_nonneg hb)] at hab
      exact hab
  · rw [compare, compare_gt_iff_gt.mpr h]
    exact toRat_lt_of_sign_lt h

theorem compare_eq (a b : Decimal) : a.compare b = Ord.compare a.toRat b.toRat :=
  (compare_iff a.toRat b.toRat).mpr (compare_compares a b) |>.symm

theorem toRat_injective : Function.Injective toRat := by
  -- the number with the smaller scale is a multiple of the other one's unit
  have key : ∀ {a b : Decimal}, a.toRat = b.toRat → a.scale < b.scale → False := by
    intro a b h hlt
    have hz : (b.coeff : ℚ) = a.coeff * (10 : ℚ) ^ (b.scale - a.scale) := by
      have h1 : a.toRat * (10 : ℚ) ^ b.scale = b.toRat * (10 : ℚ) ^ b.scale := by rw [h]
      rw [toRat, toRat, mul_assoc, mul_assoc, ← ten_zpow_add, ← ten_zpow_add, neg_add_cancel,
        zpow_zero, mul_one] at h1
      rw [← h1]
      congr 2
      ring
    obtain ⟨k, hk⟩ : ∃ k : Nat, b.scale - a.scale = ((k + 1 : Nat) : ℤ) :=
      ⟨(b.scale - a.scale).toNat - 1, by omega⟩
    have hc : b.coeff = a.coeff * 10 ^ (k + 1) := by
      rw [hk, zpow_natCast] at hz
      exact_mod_cast hz
    have hmod : b.coeff % 10 = 0 := by
      rw [hc, pow_succ, ← mul_assoc]
      exact Int.mul_emod_left _ _
    rcases b.canonical with ⟨hb, hs⟩ | hb
    · have ha : a.coeff = 0 := by
        rw [hb] at hc
        rcases mul_eq_zero.mp hc.symm with h0 | h0
        · exact h0
        · exact absurd h0 (by positivity)
      rw [scale_eq_zero ha, hs] at hlt
      exact lt_irrefl _ hlt
    · exact hb hmod
  intro a b h
  have hs : a.scale = b.scale := by
    rcases lt_trichotomy a.scale b.scale with hl | he | hg
    · exact (key h hl).elim
    · exact he
    · exact (key h.symm hg).elim
  have hc : a.coeff = b.coeff := by
    rw [toRat, toRat, hs] at h
    exact_mod_cast mul_right_cancel₀ (ten_zpow_pos (-b.scale)).ne' h
  cases a
  cases b
  simp only at hs hc
  subst hs hc
  rfl

instance : Std.TransCmp compare := by
  have e : compare = compareOn toRat := by
    funext a b
    exact compare_eq a b
  rw [e]
  infer_instance

instance : Std.LawfulEqCmp compare where
  compare_self {a} := by
    rw [compare_eq]
    exact compare_eq_iff_eq.mpr rfl
  eq_of_compare {a b} h := by
    rw [compare_eq] at h
    exact toRat_injective (compare_eq_iff_eq.mp h)

end Decimal

end RowSpec
