import CodeSurvey.Decimal.Shortest
import CodeSurvey.Table
import CodeSurvey.Text.Quoted

/-!
# JSON values

Numbers with a fraction or an exponent are kept as they are spelled, so that reading and writing
lose nothing. Where such a value is shown inside other text, its number is what counts.

## Main definitions

* `Json`: the values.
* `Json.shown v`, `Json.plain v`: a value as part of other text, strings with and without quotes.
-/

namespace CodeSurvey

/-- A JSON value. -/
inductive Json where
  | null
  | bool (value : Bool)
  | int (value : Int)
  | decimal (spelling : Text)
  | string (value : Text)
  | array (items : List Json)
  | object (members : List (Text × Json))

namespace Json

/-- Numbers inside other text: what is no number and what is infinite have small letters. -/
def decimalStyle : Shortest.Style := ⟨"inf", "nan"⟩

/-- The value of a decimal spelling. -/
def decimalValue (spelling : Text) : Float := Double.ofSpelling spelling

mutual

/-- A value as part of other text. -/
def shown : Json → Text
  | null => "None"
  | bool value => if value then "True" else "False"
  | int value => Text.ofInt value
  | decimal spelling => Shortest.text decimalStyle (decimalValue spelling)
  | string value => Text.quoted value
  | array items => '[' :: (Text.joinWith ", " (shownItems items) ++ [']'])
  | object members => '\x7b' :: (Text.joinWith ", " (shownMembers members) ++ ['\x7d'])

/-- The items of an array as parts of other text. -/
def shownItems : List Json → List Text
  | [] => []
  | v :: rest => shown v :: shownItems rest

/-- The members of an object as parts of other text. -/
def shownMembers : List (Text × Json) → List Text
  | [] => []
  | (name, v) :: rest => (Text.quoted name ++ ": ".toList ++ shown v) :: shownMembers rest

end

/-- A value on its own: a string is its text, anything else is shown. -/
def plain : Json → Text
  | string value => value
  | v => shown v

/-- The member of an object; other values have none. -/
def member? (v : Json) (name : Text) : Option Json :=
  match v with
  | object members => Table.get? members name
  | _ => none

/-- The text of a string; other values have none. -/
def text? : Json → Option Text
  | string value => some value
  | _ => none

/-- The items of an array; other values have none. -/
def items? : Json → Option (List Json)
  | array items => some items
  | _ => none

/-- The members of an object; other values have none. -/
def members? : Json → Option (List (Text × Json))
  | object members => some members
  | _ => none

end Json
end CodeSurvey
