import CodeSurvey.Calendar
import CodeSurvey.Decimal.Shortest
import CodeSurvey.Limit
import CodeSurvey.Table
import CodeSurvey.Text.Digits
import CodeSurvey.Text.Quoted

/-!
# TOML values

Numbers with a fraction or an exponent are kept as they are spelled. Dates and times are kept in
their parts.

## Main definitions

* `Toml`: the values; `Toml.Moment`: dates and times.
* `Toml.shown v`, `Toml.plain v`: a value as part of other text, strings with and without quotes.
* `Toml.limitMet? room v`: the limit that is met where `v` is written out, if one is.
* `Toml.isTrue v`: whether a value counts as given: not zero and not empty.
* `Toml.entries? v`: the items that a value lists, if it lists any.
-/

namespace CodeSurvey

/-! ## Dates and times -/

namespace Toml

/-- A date, a time of day, or both with an offset in minutes that may be absent. -/
inductive Moment where
  | date (date : Date)
  | time (time : TimeOfDay)
  | dateTime (date : Date) (time : TimeOfDay) (offset : Option Int)
deriving Repr, DecidableEq

/-- An offset as a sign, hours and minutes. -/
def offsetPlain (minutes : Int) : Text :=
  (if minutes < 0 then '-' else '+') :: (Text.padded 2 (minutes.natAbs / 60) ++
    ':' :: Text.padded 2 (minutes.natAbs % 60))

/-- A moment on its own. -/
def Moment.plain : Moment → Text
  | date d => d.text
  | time t => t.text
  | dateTime d t offset => d.text ++ ' ' :: (t.text ++ ((offset.map offsetPlain).getD []))

/-- An offset as part of other text. Whole days are counted apart, so that the seconds are not
negative. -/
def offsetShown (minutes : Int) : Text :=
  if minutes = 0 then "datetime.timezone.utc"
  else
    let days := Int.fdiv minutes 1440
    let seconds := Int.fmod minutes 1440 * 60
    let parts := (if days = 0 then [] else ["days=".toList ++ Text.ofInt days]) ++
      (if seconds = 0 then [] else ["seconds=".toList ++ Text.ofInt seconds])
    "datetime.timezone(datetime.timedelta(".toList ++ Text.joinWith ", " parts ++ "))".toList

/-- The parts of a time in order, without a second and a microsecond that say nothing. -/
def timeParts (t : TimeOfDay) : List Nat :=
  [t.hour, t.minute] ++
    (if t.micros ≠ 0 then [t.second, t.micros] else if t.second ≠ 0 then [t.second] else [])

/-- A moment as part of other text. -/
def Moment.shown : Moment → Text
  | date d =>
    "datetime.date(".toList ++ Text.joinWith ", " ([d.year, d.month, d.day].map Text.ofNat) ++ [')']
  | time t => "datetime.time(".toList ++ Text.joinWith ", " ((timeParts t).map Text.ofNat) ++ [')']
  | dateTime d t offset =>
    let numbers := ([d.year, d.month, d.day] ++ timeParts t).map Text.ofNat
    let zone := offset.toList.map fun minutes => "tzinfo=".toList ++ offsetShown minutes
    "datetime.datetime(".toList ++ Text.joinWith ", " (numbers ++ zone) ++ [')']

end Toml

/-! ## Values -/

/-- A TOML value. -/
inductive Toml where
  | bool (value : Bool)
  | int (value : Int)
  | decimal (spelling : Text)
  | string (value : Text)
  | moment (value : Toml.Moment)
  | array (items : List Toml)
  | table (members : List (Text × Toml))

namespace Toml

/-- Numbers inside other text. -/
def decimalStyle : Shortest.Style := ⟨"inf", "nan"⟩

mutual

/-- A value as part of other text. -/
def shown : Toml → Text
  | bool value => if value then "True" else "False"
  | int value => Text.ofInt value
  | decimal spelling => Shortest.text decimalStyle (Double.ofSpelling spelling)
  | string value => Text.quoted value
  | moment value => value.shown
  | array items => '[' :: (Text.joinWith ", " (shownItems items) ++ [']'])
  | table members => '{' :: (Text.joinWith ", " (shownMembers members) ++ ['}'])

/-- The items of an array as parts of other text. -/
def shownItems : List Toml → List Text
  | [] => []
  | v :: rest => shown v :: shownItems rest

/-- The members of a table as parts of other text. -/
def shownMembers : List (Text × Toml) → List Text
  | [] => []
  | (name, v) :: rest => (Text.quoted name ++ ": ".toList ++ shown v) :: shownMembers rest

end

/-- A value on its own: a string is its text and a moment is written plainly. -/
def plain : Toml → Text
  | string value => value
  | moment value => value.plain
  | v => shown v

mutual

/-- The first limit that is met where a value is written out with room for some nesting. Integers of
too many digits cannot be spelled to the base ten, but they can to the bases two, eight and sixteen;
and a table nests deeper than its text if its keys have points. -/
def limitMet? (room : Nat) : Toml → Option Limit
  | int value => if Text.digitLimit < (Text.ofNat value.natAbs).length then some .digits else none
  | array items =>
    match room with
    | 0 => some .nesting
    | room + 1 => itemsLimitMet? room items
  | table members =>
    match room with
    | 0 => some .nesting
    | room + 1 => membersLimitMet? room members
  | _ => none

/-- The first limit that is met where some items are written out. -/
def itemsLimitMet? (room : Nat) : List Toml → Option Limit
  | [] => none
  | v :: rest => (limitMet? room v).or (itemsLimitMet? room rest)

/-- The first limit that is met where some members are written out. -/
def membersLimitMet? (room : Nat) : List (Text × Toml) → Option Limit
  | [] => none
  | (_, v) :: rest => (limitMet? room v).or (membersLimitMet? room rest)

end

/-- Whether a value counts as given. -/
def isTrue : Toml → Bool
  | bool value => value
  | int value => value != 0
  | decimal spelling => Double.ofSpelling spelling != 0
  | string value => !value.isEmpty
  | moment _ => true
  | array items => !items.isEmpty
  | table members => !members.isEmpty

/-- The items that a value lists: those of an array, the characters of a string and the names of a
table. Other values list nothing. -/
def entries? : Toml → Option (List Toml)
  | array items => some items
  | string value => some (value.map fun c => string [c])
  | table members => some (members.map fun (name, _) => string name)
  | _ => none

/-- The member of a table; other values have none. -/
def member? (v : Toml) (name : Text) : Option Toml :=
  match v with
  | table members => Table.get? members name
  | _ => none

/-- The members of a table; other values have none. -/
def members? : Toml → Option (List (Text × Toml))
  | table members => some members
  | _ => none

/-- The text of a string; other values have none. -/
def text? : Toml → Option Text
  | string value => some value
  | _ => none

/-- The items of an array; other values have none. -/
def items? : Toml → Option (List Toml)
  | array items => some items
  | _ => none

end Toml
end CodeSurvey
