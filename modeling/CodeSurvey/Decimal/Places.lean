import CodeSurvey.Decimal.Double

/-!
# Decimal text with fixed places

A number is rounded to a given number of decimal places. Rounding is of the exact binary value, and
a half goes to the even neighbour.

## Main definitions

* `Places.divRound a b`: the whole number nearest to a quotient.
* `Places.text places x`: the text of a number with fixed places.
-/

namespace CodeSurvey
namespace Places

/-- The whole number nearest to `a / b`, the even one of two equally near. -/
def divRound (a b : Nat) : Nat :=
  let down := a / b
  let twice := 2 * (a % b)
  if twice < b then down
  else if b < twice then down + 1
  else if down % 2 = 0 then down else down + 1

/-- A natural number with a point before its last `places` digits. -/
def withPoint (places n : Nat) : Text :=
  let ds := Text.ofNat n
  let padded := List.replicate (places + 1 - ds.length) '0' ++ ds
  padded.take (padded.length - places) ++ '.' :: padded.drop (padded.length - places)

/-- The text of a number with at least one place after the point. -/
def text (places : Nat) (x : Float) : Text :=
  match Double.ofFloat x with
  | .notANumber => "nan"
  | .infinite negative => (if negative then ['-'] else []) ++ "inf".toList
  | .finite negative mantissa exponent =>
    let n := divRound (mantissa * Nat.pow 2 exponent.toNat * Nat.pow 10 places)
      (Nat.pow 2 (-exponent).toNat)
    (if negative then ['-'] else []) ++ withPoint places n

end Places
end CodeSurvey
