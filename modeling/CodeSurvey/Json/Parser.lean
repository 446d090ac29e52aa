import CodeSurvey.Host
import CodeSurvey.Json.Basic
import CodeSurvey.Text.Digits

/-!
# Reading JSON

Any value may stand at the top, with blanks around it. A name may be repeated in an object; its last
value counts. Numbers may also be infinite or no number at all, in the usual words. Arrays and
objects nest as deep as there is room.

## Main definitions

* `Json.parse t`: the value that `t` spells.
* `Json.parseWithin limit t`: the same with another limit for the digits of integers, or none, and
  with room without end.
-/

namespace CodeSurvey
namespace Json

/-- Blanks between the parts of a value. -/
def isSpace (c : Char) : Bool := c == ' ' || c == '\t' || c == '\n' || c == '\r'

/-- The text without the blanks in front. -/
def skip (t : Text) : Text := t.dropWhile isSpace

/-! ## Strings -/

/-- The value of four hexadecimal digits. -/
def unit? (a b c d : Char) : Option Nat := do
  let a ← Text.hexValue? a
  let b ← Text.hexValue? b
  let c ← Text.hexValue? c
  let d ← Text.hexValue? d
  return ((a * 16 + b) * 16 + c) * 16 + d

/-- The character of a unit. Half of a surrogate pair is no character and is replaced. -/
def ofUnit (n : Nat) : Char := if 0xD800 ≤ n && n < 0xE000 then '\ufffd' else Char.ofNat n

/-- The first units of surrogate pairs. -/
def isHigh (n : Nat) : Bool := 0xD800 ≤ n && n < 0xDC00

/-- The second units of surrogate pairs. -/
def isLow (n : Nat) : Bool := 0xDC00 ≤ n && n < 0xE000

/-- The character of a surrogate pair. -/
def ofPair (high low : Nat) : Char :=
  Char.ofNat (0x10000 + (high - 0xD800) * 0x400 + (low - 0xDC00))

/-- What the character after a backslash stands for. -/
def escape? : Char → Option Char
  | '"' => some '"'
  | '\\' => some '\\'
  | '/' => some '/'
  | 'b' => some '\x08'
  | 'f' => some '\x0c'
  | 'n' => some '\n'
  | 'r' => some '\r'
  | 't' => some '\t'
  | _ => none

/-- The rest of a string after its opening quote or some of its characters, which are in `done`,
the latest first. -/
def stringFrom (done : Text) : Text → Except ParseFault (Text × Text)
  | '"' :: rest => .ok (done.reverse, rest)
  | '\\' :: 'u' :: a :: b :: c :: d :: '\\' :: 'u' :: e :: f :: g :: h :: rest =>
    match unit? a b c d, unit? e f g h with
    | some high, some low =>
      if isHigh high && isLow low then stringFrom (ofPair high low :: done) rest
      else stringFrom (ofUnit high :: done) ('\\' :: 'u' :: e :: f :: g :: h :: rest)
    | _, _ => .error .malformed
  | '\\' :: 'u' :: a :: b :: c :: d :: rest =>
    match unit? a b c d with
    | some n => stringFrom (ofUnit n :: done) rest
    | none => .error .malformed
  | '\\' :: c :: rest =>
    match escape? c with
    | some c => stringFrom (c :: done) rest
    | none => .error .malformed
  | c :: rest =>
    if c.toNat < 0x20 || c == '\\' then .error .malformed else stringFrom (c :: done) rest
  | [] => .error .malformed

/-! ## Numbers -/

/-- A sequence of digits in front, and the rest. -/
def digitsOf (t : Text) : Text × Text := (t.takeWhile Char.isDigit, t.dropWhile Char.isDigit)

/-- The fraction in front: a point and at least one digit. -/
def fractionOf : Text → Text × Text
  | '.' :: c :: rest =>
    if c.isDigit then
      let (ds, rest) := digitsOf (c :: rest)
      ('.' :: ds, rest)
    else ([], '.' :: c :: rest)
  | t => ([], t)

/-- The exponent in front: a mark, a sign that may be absent, and at least one digit. -/
def exponentOf (t : Text) : Text × Text :=
  match t with
  | [] => ([], [])
  | mark :: rest =>
    if mark == 'e' || mark == 'E' then
      let sign := rest.take 1
      let sign := if sign == ['+'] || sign == ['-'] then sign else []
      let (ds, after) := digitsOf (rest.drop sign.length)
      if ds.isEmpty then ([], t) else (mark :: (sign ++ ds), after)
    else ([], t)

/-- A number in front. Only a whole part on its own is an integer. -/
def number (limit : Option Nat) (t : Text) : Except ParseFault (Json × Text) :=
  let sign := if t.head? == some '-' then ['-'] else []
  let body := t.drop sign.length
  let (ds, rest) := digitsOf body
  let (ds, rest) := if ds.head? == some '0' then (['0'], body.drop 1) else (ds, rest)
  if ds.isEmpty then .error .malformed
  else
    let (fraction, rest) := fractionOf rest
    let (exponent, rest) := exponentOf rest
    if fraction.isEmpty && exponent.isEmpty then
      if limit.any (· < ds.length) then .error (.beyond .digits)
      else
        let n : Int := Double.digitsValue ds
        .ok (int (if sign.isEmpty then n else -n), rest)
    else .ok (decimal (sign ++ ds ++ fraction ++ exponent), rest)

/-! ## Values -/

/-- The words that are values. -/
def wordValues : List (Text × Json) := [
  ("null", null), ("true", bool true), ("false", bool false), ("NaN", decimal "NaN"),
  ("Infinity", decimal "Infinity"), ("-Infinity", decimal "-Infinity")]

/-- A word or a number in front. -/
def atom (limit : Option Nat) (t : Text) : Except ParseFault (Json × Text) :=
  match wordValues.find? fun (word, _) => word.isPrefixOf t with
  | some (word, v) => .ok (v, t.drop word.length)
  | none => number limit t

mutual

/-- A value in front. Every call costs fuel, and no more than two calls go by without taking a
character. -/
def value (limit : Option Nat) :
    (room : Option Nat) → (fuel : Nat) → Text → Except ParseFault (Json × Text)
  | _, 0, _ => .error .malformed
  | room, fuel + 1, t =>
    match t with
    | '"' :: rest => (stringFrom [] rest).map fun (s, rest) => (string s, rest)
    | '[' :: rest =>
      match inner? room with
      | none => .error (.beyond .nesting)
      | some room =>
        match skip rest with
        | ']' :: rest => .ok (array [], rest)
        | rest => itemsFrom limit room fuel [] rest
    | '\x7b' :: rest =>
      match inner? room with
      | none => .error (.beyond .nesting)
      | some room =>
        match skip rest with
        | '\x7d' :: rest => .ok (object [], rest)
        | rest => membersFrom limit room fuel [] rest
    | t => atom limit t

/-- The rest of an array before an item; the items so far are in `done`, the latest first. -/
def itemsFrom (limit : Option Nat) :
    (room : Option Nat) → (fuel : Nat) → List Json → Text → Except ParseFault (Json × Text)
  | _, 0, _, _ => .error .malformed
  | room, fuel + 1, done, t =>
    match value limit room fuel t with
    | .error e => .error e
    | .ok (v, rest) =>
      match skip rest with
      | ']' :: rest => .ok (array (v :: done).reverse, rest)
      | ',' :: rest => itemsFrom limit room fuel (v :: done) (skip rest)
      | _ => .error .malformed

/-- The rest of an object before a member; the members so far are in `done`, the latest first. -/
def membersFrom (limit : Option Nat) :
    (room : Option Nat) → (fuel : Nat) → List (Text × Json) → Text →
      Except ParseFault (Json × Text)
  | _, 0, _, _ => .error .malformed
  | room, fuel + 1, done, t =>
    match t with
    | '"' :: rest =>
      match stringFrom [] rest with
      | .error e => .error e
      | .ok (name, rest) =>
        match skip rest with
        | ':' :: rest =>
          match value limit room fuel (skip rest) with
          | .error e => .error e
          | .ok (v, rest) =>
            match skip rest with
            | '\x7d' :: rest => .ok (object (Table.ofList ((name, v) :: done).reverse), rest)
            | ',' :: rest => membersFrom limit room fuel ((name, v) :: done) (skip rest)
            | _ => .error .malformed
        | _ => .error .malformed
    | _ => .error .malformed

end

/-- The value that a text spells with integers of no more digits than the limit, if there is one,
and with arrays and objects that nest no deeper than the room. -/
def parseIn (limit room : Option Nat) (t : Text) : Except ParseFault Json :=
  match value limit room (2 * t.length + 2) (skip t) with
  | .error e => .error e
  | .ok (v, rest) => if (skip rest).isEmpty then .ok v else .error .malformed

/-- The value that a text spells with integers of no more digits than the limit, if there is one. -/
def parseWithin (limit : Option Nat) (t : Text) : Except ParseFault Json := parseIn limit none t

/-- The value that a text spells. -/
def parse [Host] (t : Text) : Except ParseFault Json :=
  parseIn (some Text.digitLimit) (some (Host.jsonRoom t)) t

end Json
end CodeSurvey
