/-!
# Quantities

Confidences, ratios and averages are computed by a few operations, always in the order in which the
definitions write them. They run on floating-point numbers; read on the rational numbers the same
definitions give the exact figures.

## Main definitions

* `Quantity α`: the operations and the order that figures need.
* `Quantity.ratio a b`: the quotient of two counts.
* `Quantity.clamp low high x`: `x` kept between two bounds.
-/

namespace CodeSurvey

/-- Numbers that figures can be computed in, with the test for being less. -/
class Quantity (α : Type) extends Add α, Sub α, Mul α, Div α, NatCast α where
  below : α → α → Bool

/-- Floating-point figures. -/
instance : Quantity Float where
  natCast := Float.ofNat
  below x y := decide (x < y)

/-- Exact figures. -/
instance : Quantity Rat where
  below x y := decide (x < y)

@[simp] theorem Quantity.below_rat (x y : Rat) : Quantity.below x y = decide (x < y) := rfl

namespace Quantity

variable {α : Type} [Quantity α]

/-- The quotient of two counts. -/
def ratio (a b : Nat) : α := (a : α) / (b : α)

/-- The quotient of two counts, and nothing where there is nothing to divide by. -/
def share (a b : Nat) : α := if b = 0 then ((0 : Nat) : α) else ratio a b

/-- A weight given in tenths. -/
def tenths (n : Nat) : α := ratio n 10

/-- The smaller of two numbers, the first if they are equal. -/
def least (x y : α) : α := if below y x then y else x

/-- The greater of two numbers, the first if they are equal. -/
def greatest (x y : α) : α := if below x y then y else x

/-- The number kept between two bounds. -/
def clamp (low high x : α) : α := greatest low (least high x)

/-- The sum of some numbers, from the first to the last. -/
def sum (xs : List α) : α := xs.foldl (· + ·) ((0 : Nat) : α)

end Quantity
end CodeSurvey
