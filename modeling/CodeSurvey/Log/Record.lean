import CodeSurvey.Log.Traced
import CodeSurvey.Text.Basic

/-!
# Log records

Stages tell what they do in records; they do not write them anywhere.

## Main definitions

* `LogLevel`: the weight of a record.
* `LogRecord`: a level, the name of the part that speaks and a message.
* `Logged ε α`: a value or a failure, with the records made on the way to it.
-/

namespace CodeSurvey

/-- How much a record matters, as a weight. The usual weights have names. -/
structure LogLevel where
  weight : Int
deriving Repr, DecidableEq

namespace LogLevel

/-- The level of a logger that has none of its own. -/
def unset : LogLevel := ⟨0⟩

def debug : LogLevel := ⟨10⟩
def info : LogLevel := ⟨20⟩
def warning : LogLevel := ⟨30⟩
def error : LogLevel := ⟨40⟩
def critical : LogLevel := ⟨50⟩

instance : LE LogLevel := ⟨fun a b => a.weight ≤ b.weight⟩

instance (a b : LogLevel) : Decidable (a ≤ b) := inferInstanceAs (Decidable (a.weight ≤ b.weight))

/-- The names of the usual levels. -/
def names : List (LogLevel × Text) := [
  (unset, "NOTSET"), (debug, "DEBUG"), (info, "INFO"), (warning, "WARNING"), (error, "ERROR"),
  (critical, "CRITICAL")]

/-- The name of a level, which tells the weight if it is not a usual one. -/
def name (l : LogLevel) : Text :=
  match names.find? (·.1 == l) with
  | some (_, n) => n
  | none => "Level ".toList ++ Text.ofInt l.weight

end LogLevel

/-- A record of one event. -/
structure LogRecord where
  level : LogLevel
  /-- The part of the program that speaks. -/
  source : Text
  message : Text
deriving Repr, DecidableEq

/-- A record of a detail. -/
def LogRecord.debug (source message : Text) : LogRecord := ⟨.debug, source, message⟩

/-- A record of progress. -/
def LogRecord.info (source message : Text) : LogRecord := ⟨.info, source, message⟩

/-- A result with the records made on the way to it. -/
abbrev Logged (ε α : Type) := Traced LogRecord ε α

end CodeSurvey
