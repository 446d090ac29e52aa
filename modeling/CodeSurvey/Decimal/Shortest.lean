import CodeSurvey.Decimal.Double

/-!
# The shortest decimal text

A number is written with the fewest digits that read back as it, and of the texts of that length
with the one nearest to it. A grid of decimal numbers has such a point only if one of the number's
two neighbours on that grid is one.

## Main definitions

* `Shortest.digits s`: digits and exponent of the shortest decimal number in an interval.
* `Shortest.Style`, `Shortest.text style x`: the text of a number in a notation.
-/

namespace CodeSurvey
namespace Shortest

/-- The exponent of the first decimal place that can hold a digit: the value is less than ten to
this power. -/
def magnitude (value denominator : Nat) : Int :=
  let whole := value / denominator
  if whole ≠ 0 then (Nat.toDigits 10 whole).length
  else
    let inverse := (Nat.toDigits 10 (denominator / value)).length
    if value * Nat.pow 10 (inverse - 1) < denominator then 1 - (inverse : Int)
    else 2 - (inverse : Int)

/-- The neighbour of the value on the grid of `10 ^ unit` that lies in the interval and is nearest
to the value. Ends count as inside when `closed`; of two equally near neighbours the even one is
taken. -/
def onGrid? (s : Double.Scaled) (closed : Bool) (unit : Int) : Option Nat :=
  let up := Nat.pow 10 (-unit).toNat
  let step := Nat.pow 10 unit.toNat * s.denominator
  let value := s.value * up
  let below := value / step
  let inside (n : Nat) : Bool :=
    let point := n * step
    if closed then s.low * up ≤ point && point ≤ s.high * up
    else s.low * up < point && point < s.high * up
  let under := value - below * step
  let beyond := (below + 1) * step - value
  match inside below, inside (below + 1) with
  | true, true =>
    if under < beyond then some below
    else if beyond < under then some (below + 1)
    else some (if below % 2 = 0 then below else below + 1)
  | true, false => some below
  | false, true => some (below + 1)
  | false, false => none

/-- Takes zeros off the end of a digit sequence, at most as many as the fuel. -/
def dropZeros : (fuel : Nat) → Nat → Int → Nat × Int
  | 0, n, unit => (n, unit)
  | fuel + 1, n, unit =>
    if n % 10 = 0 ∧ n ≠ 0 then dropZeros fuel (n / 10) (unit + 1) else (n, unit)

/-- Tries one digit more on each grid, up to the given number of grids. -/
def search (s : Double.Scaled) (closed : Bool) (magnitude : Int) : (grids length : Nat) → Nat × Int
  | 0, _ => (0, 0)
  | grids + 1, length =>
    let unit := magnitude - length
    match onGrid? s closed unit with
    | some n => dropZeros length n unit
    | none => search s closed magnitude grids (length + 1)

/-- The fewest digits that read back as a positive number, as a natural number and the power of ten
that it counts. Seventeen digits always do. -/
def digits (mantissa : Nat) (exponent : Int) : Nat × Int :=
  let s := Double.scaled mantissa exponent
  search s (mantissa % 2 = 0) (magnitude s.value s.denominator) 17 1

/-! ## Notations -/

/-- How numbers are written: what an infinite number and one that is no number are called. Numbers
from `10 ^ -4` to below `10 ^ 16` are written in places and keep a digit after the point; others
with an exponent of at least two digits. -/
structure Style where
  infinity : Text
  notANumber : Text

/-- Digits written in places, the point standing after the first `whole` of them. -/
def inPlaces (digits : Text) (whole : Int) : Text :=
  if whole ≤ 0 then
    '0' :: '.' :: (List.replicate (-whole).toNat '0' ++ digits)
  else
    let padded := digits ++ List.replicate (whole.toNat - digits.length) '0'
    let tail := padded.drop whole.toNat
    padded.take whole.toNat ++ '.' :: (if tail.isEmpty then ['0'] else tail)

/-- Digits written with an exponent. -/
def withExponent (digits : Text) (exponent : Int) : Text :=
  let head := digits.take 1
  let tail := digits.drop 1
  let size := Text.ofNat exponent.natAbs
  head ++ (if tail.isEmpty then [] else '.' :: tail) ++ ['e', if exponent < 0 then '-' else '+'] ++
    List.replicate (2 - size.length) '0' ++ size

/-- The text of a finite number without its sign. -/
def magnitudeText (mantissa : Nat) (exponent : Int) : Text :=
  if mantissa = 0 then ['0', '.', '0']
  else
    let (n, unit) := digits mantissa exponent
    let ds := Text.ofNat n
    let whole := unit + ds.length
    if -4 < whole ∧ whole ≤ 16 then inPlaces ds whole else withExponent ds (whole - 1)

/-- The text of a number. -/
def text (style : Style) (x : Float) : Text :=
  match Double.ofFloat x with
  | .notANumber => style.notANumber
  | .infinite negative => (if negative then ['-'] else []) ++ style.infinity
  | .finite negative mantissa exponent =>
    (if negative then ['-'] else []) ++ magnitudeText mantissa exponent

end Shortest
end CodeSurvey
