import CodeSurvey.Json.Basic

/-!
# Writing JSON

Values are written over several lines, two blanks deeper for each level, in ASCII characters alone:
others are written as escapes of their sixteen-bit units.

## Main definitions

* `Json.encode t`: a text as a JSON string.
* `Json.print v`: a value over several lines.
-/

namespace CodeSurvey
namespace Json

/-- A sixteen-bit unit as an escape. -/
def encodeUnit (n : Nat) : Text := '\\' :: 'u' :: Text.hexadecimal 4 n

/-- A character inside a JSON string. Characters beyond sixteen bits take a surrogate pair. -/
def encodeChar (c : Char) : Text :=
  if c == '"' then ['\\', '"']
  else if c == '\\' then ['\\', '\\']
  else if c == '\n' then ['\\', 'n']
  else if c == '\r' then ['\\', 'r']
  else if c == '\t' then ['\\', 't']
  else if c == '\x08' then ['\\', 'b']
  else if c == '\x0c' then ['\\', 'f']
  else
    let n := c.toNat
    if 0x20 ≤ n && n < 0x7F then [c]
    else if n < 0x10000 then encodeUnit n
    else encodeUnit (0xD800 + (n - 0x10000) / 0x400) ++ encodeUnit (0xDC00 + (n - 0x10000) % 0x400)

/-- A text as a JSON string. -/
def encode (t : Text) : Text := '"' :: (t.flatMap encodeChar ++ ['"'])

/-- A new line at the given depth. -/
def newLine (depth : Nat) : Text := '\n' :: List.replicate (2 * depth) ' '

mutual

/-- A value whose lines after the first begin at the given depth. -/
def printAt (depth : Nat) : Json → Text
  | null => "null"
  | bool value => if value then "true" else "false"
  | int value => Text.ofInt value
  | decimal spelling => spelling
  | string value => encode value
  | array [] => "[]"
  | array (v :: rest) =>
    '[' :: (newLine (depth + 1) ++ printAt (depth + 1) v ++ printItems (depth + 1) rest ++
      newLine depth ++ [']'])
  | object [] => ['\x7b', '\x7d']
  | object ((name, v) :: rest) =>
    '\x7b' :: (newLine (depth + 1) ++ encode name ++ ": ".toList ++ printAt (depth + 1) v ++
      printMembers (depth + 1) rest ++ newLine depth ++ ['\x7d'])

/-- The items of an array after the first. -/
def printItems (depth : Nat) : List Json → Text
  | [] => []
  | v :: rest => ',' :: (newLine depth ++ printAt depth v ++ printItems depth rest)

/-- The members of an object after the first. -/
def printMembers (depth : Nat) : List (Text × Json) → Text
  | [] => []
  | (name, v) :: rest =>
    ',' :: (newLine depth ++ encode name ++ ": ".toList ++ printAt depth v ++
      printMembers depth rest)

end

/-- A value over several lines. -/
def print (v : Json) : Text := printAt 0 v

end Json
end CodeSurvey
