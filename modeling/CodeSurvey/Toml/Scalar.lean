import CodeSurvey.Text.Digits
import CodeSurvey.Toml.Basic

/-!
# Reading TOML strings, numbers and moments

Each reader takes a value off the front of a text and gives back what is left. Control characters
are allowed nowhere; strings of several lines hold newlines.

## Main definitions

* `Toml.stringOf`, `Toml.momentOf`, `Toml.numberOf`: the readers.
-/

namespace CodeSurvey
namespace Toml

/-- Blanks inside a line. -/
def isSpace (c : Char) : Bool := c == ' ' || c == '\t'

/-- Blanks between the items of an array. -/
def isWideSpace (c : Char) : Bool := isSpace c || c == '\n'

/-- The text without the blanks in front. -/
def skip (t : Text) : Text := t.dropWhile isSpace

/-- Control characters other than the tab. -/
def isControl (c : Char) : Bool := (c.toNat < 0x20 && c != '\t') || c.toNat == 0x7F

/-! ## Strings -/

/-- The character that hexadecimal digits spell. Surrogates are no characters. -/
def hexChar? (digits : Text) : Option Char := do
  let n ← digits.foldlM (fun n c => (Text.hexValue? c).map fun v => 16 * n + v) 0
  if n < 0xD800 || (0xDFFF < n && n < 0x110000) then some (Char.ofNat n) else none

/-- What the character after a backslash stands for. -/
def escape? : Char → Option Char
  | 'b' => some '\x08'
  | 't' => some '\t'
  | 'n' => some '\n'
  | 'f' => some '\x0c'
  | 'r' => some '\r'
  | '"' => some '"'
  | '\\' => some '\\'
  | _ => none

/-- What is left after a backslash that ends a line inside a string: the blanks behind it, the
newline and all blanks after it are skipped. -/
def lineEnd? (rest : Text) : Option Text :=
  match skip rest with
  | [] => some []
  | '\n' :: rest => some (rest.dropWhile isWideSpace)
  | _ => none

/-- The rest of a string in double quotes. Every character costs fuel; the characters so far are in
`done`, the latest first. -/
def basicFrom (long : Bool) : (fuel : Nat) → Text → Text → Except ParseFault (Text × Text)
  | 0, _, _ => .error .malformed
  | fuel + 1, done, t =>
    match t with
    | [] => .error .malformed
    | '"' :: rest =>
      if !long then .ok (done.reverse, rest)
      else match rest with
        | '"' :: '"' :: rest => .ok (done.reverse, rest)
        | rest => basicFrom long fuel ('"' :: done) rest
    | '\\' :: rest =>
      match rest with
      | [] => .error .malformed
      | c :: after =>
        if long && isWideSpace c then
          match lineEnd? rest with
          | some rest => basicFrom long fuel done rest
          | none => .error .malformed
        else if c == 'u' || c == 'U' then
          let width := if c == 'u' then 4 else 8
          let digits := after.take width
          match if digits.length == width then hexChar? digits else none with
          | some c => basicFrom long fuel (c :: done) (after.drop width)
          | none => .error .malformed
        else match escape? c with
          | some c => basicFrom long fuel (c :: done) after
          | none => .error .malformed
    | c :: rest =>
      if isControl c && !(long && c == '\n') then .error .malformed
      else basicFrom long fuel (c :: done) rest

/-- The rest of a string in single quotes, which has no escapes. -/
def literalFrom (long : Bool) (done : Text) : Text → Except ParseFault (Text × Text)
  | [] => .error .malformed
  | '\'' :: rest =>
    if !long then .ok (done.reverse, rest)
    else match rest with
      | '\'' :: '\'' :: rest => .ok (done.reverse, rest)
      | rest => literalFrom long ('\'' :: done) rest
  | c :: rest =>
    if isControl c && !(long && c == '\n') then .error .malformed
    else literalFrom long (c :: done) rest

/-- Up to two more quotes right after a long string belong to it. -/
def withQuotes (quote : Char) (result : Text × Text) : Text × Text :=
  let extra := (result.2.take 2).takeWhile (· == quote)
  (result.1 ++ extra, result.2.drop extra.length)

/-- A newline right after the opening quotes of a long string is no part of it. -/
def afterOpening (t : Text) : Text := if t.head? == some '\n' then t.drop 1 else t

/-- A string of one line in front. -/
def shortStringOf (t : Text) : Except ParseFault (Text × Text) :=
  match t with
  | '"' :: rest => basicFrom false (rest.length + 1) [] rest
  | '\'' :: rest => literalFrom false [] rest
  | _ => .error .malformed

/-- A string in front. -/
def stringOf (t : Text) : Except ParseFault (Text × Text) :=
  match t with
  | '"' :: '"' :: '"' :: rest =>
    (basicFrom true (rest.length + 1) [] (afterOpening rest)).map (withQuotes '"')
  | '\'' :: '\'' :: '\'' :: rest =>
    (literalFrom true [] (afterOpening rest)).map (withQuotes '\'')
  | t => shortStringOf t

/-! ## Moments -/

/-- A number of exactly the given number of digits in front. -/
def fixedOf (width : Nat) (t : Text) : Option (Nat × Text) :=
  let ds := t.take width
  if ds.length == width && ds.all Char.isDigit then some (Double.digitsValue ds, t.drop width)
  else none

/-- A character in front. -/
def charOf (c : Char) (t : Text) : Option Text :=
  if t.head? == some c then some (t.drop 1) else none

/-- A date in front. -/
def dateOf (t : Text) : Option (Date × Text) := do
  let (year, t) ← fixedOf 4 t
  let t ← charOf '-' t
  let (month, t) ← fixedOf 2 t
  let t ← charOf '-' t
  let (day, t) ← fixedOf 2 t
  if 1 ≤ month ∧ month ≤ 12 ∧ 1 ≤ day ∧ day ≤ 31 then some (⟨year, month, day⟩, t) else none

/-- The fraction of a second in front, as microseconds; further digits are dropped. -/
def microsOf (t : Text) : Nat × Text :=
  match t with
  | '.' :: rest =>
    let ds := rest.takeWhile Char.isDigit
    if ds.isEmpty then (0, t)
    else
      let kept := ds.take 6
      (Double.digitsValue (kept ++ List.replicate (6 - kept.length) '0'), rest.drop ds.length)
  | _ => (0, t)

/-- A time of day in front. -/
def timeOf (t : Text) : Option (TimeOfDay × Text) := do
  let (hour, t) ← fixedOf 2 t
  let t ← charOf ':' t
  let (minute, t) ← fixedOf 2 t
  let t ← charOf ':' t
  let (second, t) ← fixedOf 2 t
  let (micros, t) := microsOf t
  if hour < 24 ∧ minute < 60 ∧ second < 60 then some (⟨hour, minute, second, micros⟩, t) else none

/-- An offset in front, in minutes; it may be absent. -/
def offsetOf (t : Text) : Option Int × Text :=
  match t with
  | [] => (none, [])
  | c :: rest =>
    if c == 'Z' || c == 'z' then (some 0, rest)
    else if c == '+' || c == '-' then
      match (do
        let (hours, rest) ← fixedOf 2 rest
        let rest ← charOf ':' rest
        let (minutes, rest) ← fixedOf 2 rest
        if hours < 24 ∧ minutes < 60 then some (hours * 60 + minutes, rest) else none) with
      | some (n, rest) => (some (if c == '-' then -(n : Int) else n), rest)
      | none => (none, t)
    else (none, t)

/-- A moment in front, if there is one; a date that is no day of the calendar is an error. -/
def momentOf (t : Text) : Except ParseFault (Option (Moment × Text)) :=
  match dateOf t with
  | some (d, rest) =>
    if !d.isValid then .error .malformed
    else
      let mark := rest.head?
      match if mark == some 'T' || mark == some 't' || mark == some ' ' then timeOf (rest.drop 1)
        else none with
      | some (time, rest) =>
        let (offset, rest) := offsetOf rest
        .ok (some (.dateTime d time offset, rest))
      | none => .ok (some (.date d, rest))
  | none => .ok ((timeOf t).map fun (time, rest) => (.time time, rest))

/-! ## Numbers -/

/-- Digits of a class in front, single underscores allowed between two of them. -/
def digitRun (accepts : Char → Bool) : Text → Text × Text
  | c :: '_' :: d :: rest =>
    if accepts c && accepts d then
      let (ds, rest) := digitRun accepts (d :: rest)
      (c :: ds, rest)
    else if accepts c then ([c], '_' :: d :: rest)
    else ([], c :: '_' :: d :: rest)
  | c :: rest =>
    if accepts c then
      let (ds, rest) := digitRun accepts rest
      (c :: ds, rest)
    else ([], c :: rest)
  | [] => ([], [])

/-- An integer to a base that a letter after a zero names. -/
def basedOf (t : Text) : Option (Int × Text) :=
  match t with
  | '0' :: mark :: rest =>
    let base := if mark == 'x' then 16 else if mark == 'o' then 8 else if mark == 'b' then 2 else 0
    let (ds, rest) := digitRun (fun c => (Text.hexValue? c).any (· < base)) rest
    if ds.isEmpty then none
    else some ((ds.foldl (fun n c => n * base + (Text.hexValue? c).getD 0) 0 : Nat), rest)
  | _ => none

/-- The fraction in front. -/
def fractionOf (t : Text) : Text × Text :=
  match t with
  | '.' :: rest =>
    let (ds, after) := digitRun Char.isDigit rest
    if ds.isEmpty then ([], t) else ('.' :: ds, after)
  | _ => ([], t)

/-- The exponent in front. -/
def exponentOf (t : Text) : Text × Text :=
  match t with
  | [] => ([], [])
  | mark :: rest =>
    if mark == 'e' || mark == 'E' then
      let sign := rest.take 1
      let sign := if sign == ['+'] || sign == ['-'] then sign else []
      let (ds, after) := digitRun Char.isDigit (rest.drop sign.length)
      if ds.isEmpty then ([], t) else ('e' :: (sign ++ ds), after)
    else ([], t)

/-- The words for numbers without digits. -/
def numberWords : List Text := ["inf", "nan", "-inf", "+inf", "-nan", "+nan"]

/-- A number in front. -/
def numberOf (t : Text) : Except ParseFault (Toml × Text) :=
  match basedOf t with
  | some (n, rest) => .ok (int n, rest)
  | none =>
    let sign := t.take 1
    let sign := if sign == ['+'] || sign == ['-'] then sign else []
    let body := t.drop sign.length
    let (ds, rest) :=
      if body.head? == some '0' then (['0'], body.drop 1) else digitRun Char.isDigit body
    if ds.isEmpty then
      match numberWords.find? (·.isPrefixOf t) with
      | some word => .ok (decimal word, t.drop word.length)
      | none => .error .malformed
    else
      let (fraction, rest) := fractionOf rest
      let (exponent, rest) := exponentOf rest
      if fraction.isEmpty && exponent.isEmpty then
        if Text.digitLimit < ds.length then .error (.beyond .digits)
        else
          let n : Int := Double.digitsValue ds
          .ok (int (if sign == ['-'] then -n else n), rest)
      else .ok (decimal (sign ++ ds ++ fraction ++ exponent), rest)

end Toml
end CodeSurvey
