import CodeSurvey.Quantity
import Mathlib.Algebra.Order.Field.Basic
import Mathlib.Algebra.Order.Field.Rat

/-!
# Exact quantities

On the rational numbers the operations of figures are the operations of the field and of its order:
a quotient of counts is their quotient, a share of nothing is nothing, and a number that is kept
between two bounds lies between them.

The field gives every quotient a value, so that it cannot tell whether a divisor may be zero. The
guarded numbers can: they are the rational numbers with one more that stands for a quotient by zero
and for all that is computed from it.

## Main definitions

* `Guarded`: the rational numbers, and the result of a division by zero.
-/

namespace CodeSurvey
namespace Quantity

/-! ## Quotients -/

theorem ratio_rat (a b : Nat) : (ratio a b : Rat) = (a : Rat) / (b : Rat) := rfl

theorem ratio_le_ratio {a b : Nat} (h : a ≤ b) (n : Nat) : (ratio a n : Rat) ≤ ratio b n := by
  rw [ratio_rat, ratio_rat]
  exact div_le_div_of_nonneg_right (by exact_mod_cast h) (Nat.cast_nonneg n)

theorem tenths_nonneg (n : Nat) : (0 : Rat) ≤ tenths n := by
  rw [tenths, ratio_rat]
  exact div_nonneg (Nat.cast_nonneg n) (Nat.cast_nonneg 10)

/-- The quotient of the field needs no guard. -/
theorem share_rat (a b : Nat) : (share a b : Rat) = (a : Rat) / (b : Rat) := by
  unfold share
  split
  · rename_i hb
    rw [hb, Nat.cast_zero, div_zero]
  · exact ratio_rat a b

theorem share_nonneg (a b : Nat) : (0 : Rat) ≤ share a b := by
  rw [share_rat]
  exact div_nonneg (Nat.cast_nonneg a) (Nat.cast_nonneg b)

theorem share_le_one {a b : Nat} (h : a ≤ b) : (share a b : Rat) ≤ 1 := by
  rw [share_rat]
  exact div_le_one_of_le₀ (by exact_mod_cast h) (Nat.cast_nonneg b)

theorem one_le_share {a b : Nat} (hb : 0 < b) (h : b ≤ a) : (1 : Rat) ≤ share a b := by
  rw [share_rat, one_le_div (by exact_mod_cast hb)]
  exact_mod_cast h

/-! ## Sums -/

theorem sum_rat (qs : List Rat) : sum qs = qs.sum := by
  rw [sum, List.sum_eq_foldl]
  rfl

/-! ## Order -/

theorem least_rat (x y : Rat) : least x y = min x y := by
  simp only [least, below_rat, decide_eq_true_eq]
  split
  · rename_i hlt
    exact (min_eq_right hlt.le).symm
  · rename_i hle
    exact (min_eq_left (not_lt.1 hle)).symm

theorem greatest_rat (x y : Rat) : greatest x y = max x y := by
  simp only [greatest, below_rat, decide_eq_true_eq]
  split
  · rename_i hlt
    exact (max_eq_right hlt.le).symm
  · rename_i hle
    exact (max_eq_left (not_lt.1 hle)).symm

theorem clamp_rat (low high x : Rat) : clamp low high x = max low (min high x) := by
  rw [clamp, greatest_rat, least_rat]

theorem clamp_mem_Icc {low high : Rat} (h : low ≤ high) (x : Rat) :
    low ≤ clamp low high x ∧ clamp low high x ≤ high := by
  rw [clamp_rat]
  exact ⟨le_max_left _ _, max_le h (min_le_left _ _)⟩

/-- A number between the bounds is kept as it is. -/
theorem clamp_eq_self {low high x : Rat} (hlow : low ≤ x) (hhigh : x ≤ high) :
    clamp low high x = x := by
  rw [clamp_rat, min_eq_right hhigh, max_eq_right hlow]

end Quantity

/-! ## Quotients by zero -/

/-- A number, or nothing where a divisor was zero. -/
inductive Guarded where
  | value (x : Rat)
  | undefined
deriving DecidableEq

namespace Guarded

/-- An operation on numbers, which has no value where one of them has none. -/
def lift (f : Rat → Rat → Rat) : Guarded → Guarded → Guarded
  | value x, value y => value (f x y)
  | _, _ => undefined

/-- The quotient of two numbers, which has no value where the divisor is zero. -/
def quotient : Guarded → Guarded → Guarded
  | value x, value y => if y = 0 then undefined else value (x / y)
  | _, _ => undefined

/-- Figures that show whether a divisor was zero. What has no value is below everything and above
it, so that no bound puts a number in its place. -/
instance : Quantity Guarded where
  add := lift (· + ·)
  sub := lift (· - ·)
  mul := lift (· * ·)
  div := quotient
  natCast n := value n
  below
    | value x, value y => decide (x < y)
    | _, _ => true

theorem value_natCast (n : Nat) : (n : Guarded) = value n := rfl

theorem value_add (x y : Rat) : value x + value y = value (x + y) := rfl

theorem value_sub (x y : Rat) : value x - value y = value (x - y) := rfl

theorem value_mul (x y : Rat) : value x * value y = value (x * y) := rfl

theorem value_div (x : Rat) {y : Rat} (hy : y ≠ 0) : value x / value y = value (x / y) := if_neg hy

theorem ratio_value (a : Nat) {b : Nat} (hb : b ≠ 0) :
    (Quantity.ratio a b : Guarded) = value (Quantity.ratio a b) :=
  value_div a (by exact_mod_cast hb)

theorem tenths_value (n : Nat) : (Quantity.tenths n : Guarded) = value (Quantity.tenths n) :=
  ratio_value n (by decide)

/-- A share is guarded against an empty whole. -/
theorem share_value (a b : Nat) : (Quantity.share a b : Guarded) = value (Quantity.share a b) := by
  unfold Quantity.share
  split
  · rfl
  · rename_i hb
    exact ratio_value a hb

theorem least_value (x y : Rat) :
    Quantity.least (value x) (value y) = value (Quantity.least x y) := by
  simp only [Quantity.least, Quantity.below]
  split
  · rfl
  · rfl

theorem greatest_value (x y : Rat) :
    Quantity.greatest (value x) (value y) = value (Quantity.greatest x y) := by
  simp only [Quantity.greatest, Quantity.below]
  split
  · rfl
  · rfl

theorem clamp_value (low high x : Rat) :
    Quantity.clamp (value low) (value high) (value x) = value (Quantity.clamp low high x) := by
  rw [Quantity.clamp, least_value, greatest_value, ← Quantity.clamp]

end Guarded
end CodeSurvey
