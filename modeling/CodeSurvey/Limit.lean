/-!
# Limits of the interpreter

The interpreter reads and writes integers of a limited number of decimal digits, and what nests
takes room on its stack, which comes to an end. Where one of these limits is met, reading a text
fails in another way than where the text is malformed.

## Main definitions

* `Limit`: the limits.
* `ParseFault`: why a text is not read.
* `inner? room`: the room that is left inside one more pair of brackets.
-/

namespace CodeSurvey

/-- The limits that the interpreter sets. -/
inductive Limit where
  /-- The number of decimal digits of an integer. -/
  | digits
  /-- The depth to which something nests. -/
  | nesting
deriving Repr, DecidableEq

/-- Why a text is not read. -/
inductive ParseFault where
  /-- It is not in the language that it should be in. -/
  | malformed
  /-- It may be, but a limit is met. -/
  | beyond (limit : Limit)
deriving Repr, DecidableEq

/-- The room that is left inside one more pair of brackets, if there is room for them. No room given
means room without end. -/
def inner? : (room : Option Nat) → Option (Option Nat)
  | none => some none
  | some 0 => none
  | some (room + 1) => some (some room)

end CodeSurvey
