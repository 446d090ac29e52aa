import CodeSurvey.Text.Basic

/-!
# YAML values

Of numbers with a fraction, moments and bytes only the kind is kept. A collection may hold a
reference to itself, which stands for no finite value.

## Main definitions

* `Yaml`: the values.
* `Yaml.Tag`: the kinds that tags name.
* `Yaml.Fault`: why a text is not read.
-/

namespace CodeSurvey

/-- The kinds of values. -/
inductive Yaml.Tag where
  | null
  | bool
  | int
  | float
  | bytes
  | moment
  | string
  /-- A list. -/
  | sequence
  /-- A mapping. -/
  | mapping
  /-- A mapping of which the keys alone count. -/
  | set
  /-- A list of mappings with one entry each. -/
  | pairs
  /-- The key under which other mappings are merged into one. -/
  | merge
  /-- The key of the value that stands for its mapping. -/
  | value
  /-- A kind that is not known. -/
  | unknown
deriving Repr, DecidableEq

/-- A YAML value. -/
inductive Yaml where
  | null
  | bool (value : Bool)
  | int (value : Int)
  | string (value : Text)
  /-- A value of which only the kind is kept. -/
  | atom (kind : Yaml.Tag)
  | list (items : List Yaml)
  /-- The entries of a mapping in order; the last one of a key counts. -/
  | mapping (entries : List (Yaml × Yaml))
  | set (members : List Yaml)
  /-- A collection inside itself. -/
  | cycle

namespace Yaml

/-- Why a text is not read. -/
inductive Fault where
  /-- It is no YAML, or a value of a kind that cannot be made. -/
  | malformed
  /-- A value marked as a truth value is none. -/
  | badBool
  /-- A value marked as a number is none, or has too many digits. -/
  | badNumber
  /-- A value marked as a number is empty. -/
  | emptyNumber
  /-- A moment is on no day of the calendar or at no time of day. -/
  | badMoment
  /-- A value marked as a moment is none. -/
  | notMoment
  /-- A number is escaped that is the code of no character. -/
  | badCharacter (code : Nat)
  /-- The text nests deeper than there is room on the stack. -/
  | tooDeep
deriving Repr, DecidableEq

/-- Whether a value can be a key: collections cannot. -/
def isKey : Yaml → Bool
  | list _ | mapping _ | set _ | cycle => false
  | _ => true

/-- Whether a value is a string. -/
def isString : Yaml → Bool
  | string _ => true
  | _ => false

/-- The text of a string; other values have none. -/
def text? : Yaml → Option Text
  | string value => some value
  | _ => none

/-- The last value that some entries give to a string. -/
def lookup? (entries : List (Yaml × Yaml)) (name : Text) : Option Yaml :=
  (entries.reverse.find? fun e => e.1.text? == some name).map (·.2)

end Yaml
end CodeSurvey
