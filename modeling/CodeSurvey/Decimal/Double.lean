import CodeSurvey.Text.Basic

/-!
# Binary floating-point numbers

A finite number of double precision is a signed natural number times a power of two. The numbers
that read back as a given one form an interval around it, whose ends belong to it when its natural
number is even.

## Main definitions

* `Double.ofFloat x`: sign, kind, natural number and exponent of `x`.
* `Double.scaled d`: the number and the ends of its interval as natural numbers over a common
  denominator.
* `Double.read`: the number nearest to a decimal one.
-/

namespace CodeSurvey

/-- What a floating-point number is. -/
inductive Double where
  | notANumber
  | infinite (negative : Bool)
  | finite (negative : Bool) (mantissa : Nat) (exponent : Int)
deriving Repr, DecidableEq

namespace Double

/-- The parts of a number, from its sixty-four bits. -/
def ofBits (bits : UInt64) : Double :=
  let n := bits.toNat
  let negative := n / Nat.pow 2 63 == 1
  let field : Nat := n / Nat.pow 2 52 % Nat.pow 2 11
  let fraction : Nat := n % Nat.pow 2 52
  if field = 2047 then if fraction = 0 then infinite negative else notANumber
  else if field = 0 then finite negative fraction (-1074)
  else finite negative (fraction + Nat.pow 2 52) ((field : Int) - 1075)

/-- The parts of a floating-point number. -/
def ofFloat (x : Float) : Double := ofBits x.toBits

/-- A positive number and the ends of the interval of those that read back as it, all over one
denominator. -/
structure Scaled where
  low : Nat
  value : Nat
  high : Nat
  denominator : Nat
deriving Repr, DecidableEq

/-- The interval of a positive number. Below a power of two the gap is half as wide. -/
def scaled (mantissa : Nat) (exponent : Int) : Scaled :=
  let scale := Nat.pow 2 (exponent - 2).toNat
  let low :=
    if mantissa = Nat.pow 2 52 ∧ -1074 < exponent then 4 * mantissa - 1 else 4 * mantissa - 2
  ⟨low * scale, 4 * mantissa * scale, (4 * mantissa + 2) * scale, Nat.pow 2 (2 - exponent).toNat⟩

/-- The number nearest to `digits * 10 ^ exponent`. Exponents out of range are cut off, since no
number of that size is told from nothing or from infinity. -/
def read (negative : Bool) (digits : Nat) (exponent : Int) : Float :=
  let size := (Nat.toDigits 10 digits).length
  let magnitude :=
    if digits = 0 then 0
    else if 400 < exponent + size then Float.ofScientific 1 false 400
    else if exponent + size < -400 then 0
    else match exponent with
      | .ofNat n => Float.ofScientific digits false n
      | .negSucc n => Float.ofScientific digits true (n + 1)
  if negative then -magnitude else magnitude

/-! ## Spellings -/

/-- The value of decimal digits; other characters count nothing. -/
def digitsValue (t : Text) : Nat :=
  t.foldl (fun n c => if c.isDigit then 10 * n + (c.toNat - '0'.toNat) else n) 0

/-- The number that an optional sign, digits, an optional fraction and an optional exponent
spell. Words for infinite numbers begin with a letter i, and other words name no number. -/
def ofSpelling (t : Text) : Float :=
  let negative := t.head? == some '-'
  let body := if t.head? == some '-' || t.head? == some '+' then t.drop 1 else t
  let word := (body.headD '0').toLower
  if word == 'i' then if negative then -(1.0 / 0.0) else 1.0 / 0.0
  else if word == 'n' then 0.0 / 0.0
  else
    let isMark (c : Char) : Bool := c == 'e' || c == 'E'
    let digits := body.takeWhile fun c => !isMark c
    let exponent := (body.dropWhile fun c => !isMark c).drop 1
    let whole := digits.takeWhile (· != '.')
    let fraction := (digits.dropWhile (· != '.')).drop 1
    let size : Int := digitsValue exponent
    let exponent := if exponent.head? == some '-' then -size else size
    read negative (digitsValue (whole ++ fraction))
      (exponent - (fraction.countP Char.isDigit : Nat))

end Double
end CodeSurvey
