import CodeSurvey.Text.Blank
import CodeSurvey.Text.Word

/-!
# Spelled integers

Integers are spelled with digits of any script, a sign in front and single underscores between
digits. To the bases two, eight and sixteen a mark such as `0x` may stand before the digits.

## Main definitions

* `hexValue? c`: the value of a hexadecimal digit.
* `digitLimit`: the greatest number of decimal digits that integers are read with.
* `toInt? base t`: the integer that `t` spells.
-/

namespace CodeSurvey
namespace Text

/-- The value of a hexadecimal digit. -/
def hexValue? (c : Char) : Option Nat :=
  if c.isDigit then some (c.toNat - '0'.toNat)
  else if 'a' ≤ c && c ≤ 'f' then some (c.toNat - 'a'.toNat + 10)
  else if 'A' ≤ c && c ≤ 'F' then some (c.toNat - 'A'.toNat + 10)
  else none

/-- The greatest number of decimal digits that integers are read with. -/
def digitLimit : Nat := 4300

/-- The value of a digit to a base up to sixteen. -/
def digitValue? (base : Nat) (c : Char) : Option Nat :=
  ((decimalValue? c).or (hexValue? c)).filter (· < base)

/-- The marks of a base. -/
def baseMarks : Nat → List Text
  | 2 => ["0b", "0B"]
  | 8 => ["0o", "0O"]
  | 16 => ["0x", "0X"]
  | _ => []

/-- The digits after the mark of a base, which one underscore may end. -/
def withoutMark (base : Nat) (t : Text) : Text :=
  if (baseMarks base).any (·.isPrefixOf t) then
    let rest := t.drop 2
    if rest.head? == some '_' then rest.drop 1 else rest
  else t

/-- A number without its sign, and whether that was a minus. -/
def unsigned (t : Text) : Bool × Text :=
  match t with
  | '-' :: rest => (true, rest)
  | '+' :: rest => (false, rest)
  | _ => (false, t)

/-- The integer that a text spells to a base, blanks at its ends aside. The limit on the number of
digits holds for the base ten alone. -/
def toInt? (base : Nat) (t : Text) : Option Int :=
  let (negative, body) := unsigned (trim t)
  let runs := splitOn '_' (withoutMark base body)
  let digits := runs.flatten
  if runs.any List.isEmpty || (base == 10 && digitLimit < digits.length) then none
  else
    let value? := digits.foldlM (fun n c => (digitValue? base c).map fun d => base * n + d) 0
    value?.map fun n => if negative then -(n : Int) else n

end Text
end CodeSurvey
