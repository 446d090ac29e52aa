import CodeSurvey.Calendar
import CodeSurvey.Text.Digits
import CodeSurvey.Text.Lower
import CodeSurvey.Yaml.Basic

/-!
# What plain scalars mean

The kind of a plain scalar is told by its text: words for nothing and for truth values, numbers in
several bases, moments, and strings otherwise. A text whose kind is given by a tag is read in the
same way, but may turn out not to fit.

## Main definitions

* `Yaml.plainTag t`: the kind of a plain scalar.
* `Yaml.intOf`, `Yaml.boolOf`, `Yaml.checkFloat`, `Yaml.checkMoment`: the readers of the kinds.
-/

namespace CodeSurvey
namespace Yaml

/-! ## Words -/

/-- The words for nothing. -/
def nullWords : List Text := ["", "~", "null", "Null", "NULL"]

/-- The words for truth values in small letters. -/
def boolWords : List (Text × Bool) := [
  ("yes", true), ("no", false), ("true", true), ("false", false), ("on", true), ("off", false)]

/-- A word with a capital in front. -/
def capitalizedWord : Text → Text
  | [] => []
  | c :: rest => c.toUpper :: rest

/-- Whether a plain scalar is a truth value: in small letters, with a capital in front, or in
capitals throughout. -/
def isBoolText (t : Text) : Bool :=
  boolWords.any fun (word, _) =>
    t == word || t == capitalizedWord word || t == word.map Char.toUpper

/-- The truth value of a word, whatever the case of its letters. -/
def boolOf (t : Text) : Except Fault Bool :=
  match boolWords.lookup (Text.lower t) with
  | some b => .ok b
  | none => .error .badBool

/-! ## Numbers -/

/-- Digits and underscores. -/
def isDigitMark (c : Char) : Bool := c.isDigit || c == '_'

/-- A part of a number to the base sixty after the first: at most fifty-nine. -/
def isSixtieth : Text → Bool
  | [c] => c.isDigit
  | [c, d] => '0' ≤ c && c ≤ '5' && d.isDigit
  | _ => false

/-- Digits that begin with a digit, and parts of the base sixty after colons. -/
def isSexagesimal (t : Text) : Bool :=
  match Text.splitOn ':' t with
  | (c :: first) :: part :: parts =>
    c.isDigit && first.all isDigitMark && (part :: parts).all isSixtieth
  | _ => false

/-- Whether a plain scalar is an integer: to the base two, eight, ten, sixteen or sixty. -/
def isIntText (t : Text) : Bool :=
  match (Text.unsigned t).2 with
  | '0' :: 'b' :: ds => !ds.isEmpty && ds.all fun c => c == '0' || c == '1' || c == '_'
  | '0' :: 'x' :: ds => !ds.isEmpty && ds.all fun c => (Text.hexValue? c).isSome || c == '_'
  | '0' :: ds => ds.all fun c => ('0' ≤ c && c ≤ '7') || c == '_'
  | c :: ds => c.isDigit && (ds.all isDigitMark || isSexagesimal (c :: ds))
  | [] => false

/-- The integer that a text spells to a base. -/
def integerOf (base : Nat) (t : Text) : Except Fault Int :=
  match Text.toInt? base t with
  | some n => .ok n
  | none => .error .badNumber

/-- The value of an unsigned integer without underscores. -/
def magnitudeOf (t : Text) : Except Fault Int :=
  match t with
  | [] => .error .emptyNumber
  | ['0'] => .ok 0
  | '0' :: 'b' :: ds => integerOf 2 ds
  | '0' :: 'x' :: ds => integerOf 16 ds
  | '0' :: ds => integerOf 8 ('0' :: ds)
  | t =>
    if t.contains ':' then
      (Text.splitOn ':' t).foldlM (fun n part => (integerOf 10 part).map fun d => 60 * n + d) 0
    else integerOf 10 t

/-- The integer that a text is read as; underscores say nothing. -/
def intOf (t : Text) : Except Fault Int :=
  let (negative, body) := Text.unsigned (t.filter (· != '_'))
  (magnitudeOf body).map fun n => if negative then -n else n

/-- An exponent with its sign, or nothing. -/
def isExponentText : Text → Bool
  | [] => true
  | mark :: sign :: ds =>
    (mark == 'e' || mark == 'E') && (sign == '+' || sign == '-') && !ds.isEmpty &&
      ds.all Char.isDigit
  | _ => false

/-- Whether a plain scalar is a number with a point. -/
def isFloatText (t : Text) : Bool :=
  let body := (Text.unsigned t).2
  let whole := body.takeWhile (· != '.')
  match body.dropWhile (· != '.') with
  | '.' :: after =>
    let exponent := after.dropWhile isDigitMark
    match whole with
    | [] =>
      [".inf", ".Inf", ".INF"].contains (String.ofList body) ||
        [".nan", ".NaN", ".NAN"].contains (String.ofList t) ||
        (body == t && after.head?.any Char.isDigit && isExponentText exponent)
    | c :: ds =>
      (c.isDigit && ds.all isDigitMark && isExponentText exponent) ||
        (isSexagesimal whole && exponent.isEmpty)
  | _ => false

/-- Whether a text in small letters spells a number with or without a point, an exponent, or a word
for what is infinite or no number. -/
def isDecimalNumber (t : Text) : Bool :=
  let body := (Text.unsigned (Text.trim t)).2
  let mantissa := body.takeWhile (· != 'e')
  let exponent := body.dropWhile (· != 'e')
  let whole := mantissa.takeWhile (· != '.')
  let fraction := (mantissa.dropWhile (· != '.')).drop 1
  let digits := whole ++ fraction
  let exponentDigits := (Text.unsigned (exponent.drop 1)).2
  [("inf".toList : Text), "infinity".toList, "nan".toList].contains body ||
    (!digits.isEmpty && digits.all Text.isDecimal &&
      (exponent.isEmpty || (!exponentDigits.isEmpty && exponentDigits.all Text.isDecimal)))

/-- Checks a text that is read as a number with a point; underscores say nothing. -/
def checkFloat (t : Text) : Except Fault Unit :=
  let t := Text.lower (t.filter (· != '_'))
  if t.isEmpty then .error .emptyNumber
  else
    let body := (Text.unsigned t).2
    let fits := body == ".inf".toList || body == ".nan".toList ||
      if body.contains ':' then (Text.splitOn ':' body).all isDecimalNumber
      else isDecimalNumber body
    if fits then .ok () else .error .badNumber

/-! ## Moments -/

/-- A moment as it is spelled: a day, a time of day with its fraction in millionths, and an offset
in minutes. -/
structure SpelledMoment where
  date : Date
  time : Option TimeOfDay
  offset : Int
  /-- Whether month and day have two digits each. -/
  wide : Bool
deriving Repr, DecidableEq

/-- A number of digits between two bounds in front. -/
def numberOf (least most : Nat) (t : Text) : Option (Nat × Text) :=
  let ds := (t.take most).takeWhile Char.isDigit
  if ds.length < least then none
  else some (ds.foldl (fun n c => 10 * n + (c.toNat - '0'.toNat)) 0, t.drop ds.length)

/-- What follows a character in front. -/
def after (c : Char) (t : Text) : Option Text := if t.head? == some c then some (t.drop 1) else none

/-- An offset at the end of a moment. -/
def offsetOf (t : Text) : Option Int :=
  match t.dropWhile fun c => c == ' ' || c == '\t' with
  | [] => if t.isEmpty then some 0 else none
  | ['Z'] => some 0
  | sign :: rest =>
    if sign != '+' && sign != '-' then none
    else do
      let (hours, rest) ← numberOf 1 2 rest
      let minutes ← if rest.isEmpty then some 0 else do
        let (minutes, rest) ← numberOf 2 2 (← after ':' rest)
        if rest.isEmpty then some minutes else none
      let total : Int := 60 * hours + minutes
      return if sign == '-' then -total else total

/-- A time of day at the end of a moment, with its offset. -/
def timeOf (t : Text) : Option (TimeOfDay × Int) := do
  let (hour, t) ← numberOf 1 2 t
  let (minute, t) ← numberOf 2 2 (← after ':' t)
  let (second, t) ← numberOf 2 2 (← after ':' t)
  let fraction := if t.head? == some '.' then (t.drop 1).takeWhile Char.isDigit else []
  let rest := if t.head? == some '.' then (t.drop 1).drop fraction.length else t
  let kept := fraction.take 6
  let (micros, _) ← numberOf 6 6 (kept ++ List.replicate (6 - kept.length) '0')
  let offset ← offsetOf rest
  return (⟨hour, minute, second, micros⟩, offset)

/-- A moment as it is spelled, if it is one. -/
def momentOf (t : Text) : Option SpelledMoment := do
  let (year, rest) ← numberOf 4 4 t
  let (month, rest') ← numberOf 1 2 (← after '-' rest)
  let (day, rest'') ← numberOf 1 2 (← after '-' rest')
  let wide := rest''.length + 10 == t.length
  match rest'' with
  | [] => return ⟨⟨year, month, day⟩, none, 0, wide⟩
  | c :: after =>
    let time := if c == 'T' || c == 't' then some after
      else if c == ' ' || c == '\t' then some (after.dropWhile fun c => c == ' ' || c == '\t')
      else none
    let (time, offset) ← timeOf (← time)
    return ⟨⟨year, month, day⟩, some time, offset, wide⟩

/-- Whether a plain scalar is a moment; one without a time of day has two digits for the month and
for the day. -/
def isMomentText (t : Text) : Bool := (momentOf t).any fun m => m.time.isSome || m.wide

/-- Checks a text that is read as a moment. An offset is less than a day. -/
def checkMoment (t : Text) : Except Fault Unit :=
  match momentOf t with
  | none => .error .notMoment
  | some m =>
    let fits := m.date.isValid && m.time.all TimeOfDay.isValid && m.offset.natAbs < 1440
    if fits then .ok () else .error .badMoment

/-! ## Kinds -/

/-- The kind of a plain scalar. -/
def plainTag (t : Text) : Tag :=
  if nullWords.contains t then .null
  else if isBoolText t then .bool
  else if isFloatText t then .float
  else if isIntText t then .int
  else if isMomentText t then .moment
  else if t == "<<".toList then .merge
  else if t == ['='] then .value
  else .string

/-- The beginning of the tags of known kinds. -/
def tagStem : Text := "tag:yaml.org,2002:"

/-- The kinds that tags name. -/
def tagNames : List (Text × Tag) := [
  ("null", .null), ("bool", .bool), ("int", .int), ("float", .float), ("binary", .bytes),
  ("timestamp", .moment), ("str", .string), ("seq", .sequence), ("map", .mapping), ("set", .set),
  ("omap", .pairs), ("pairs", .pairs), ("merge", .merge), ("value", .value)]

/-- The kind that a tag names. -/
def Tag.ofText (t : Text) : Tag :=
  if tagStem.isPrefixOf t then (tagNames.lookup (t.drop tagStem.length)).getD .unknown else .unknown

end Yaml
end CodeSurvey
