import CodeSurvey.Log.Record

/-!
# Loggers

Loggers stand below each other as their names do. A record is made on one of them. It is dropped if
it weighs less than the least level that is set on the way up; otherwise the handlers of its logger
and of those above get it, up to the first logger that keeps its records to itself, and each of them
writes it if it is heavy enough.

## Main definitions

* `Logger`, `LogHandler`, `LogTarget`.
* `Logger.targets chain level`: where a record goes that is made on the first logger of a chain.
-/

namespace CodeSurvey

/-- Where records are written. -/
inductive LogTarget where
  | stream (name : Text)
  | file (path : Text)
deriving Repr, DecidableEq

/-- A target and the least level of the records that are written there. -/
structure LogHandler where
  target : LogTarget
  least : LogLevel
deriving Repr, DecidableEq

/-- A logger. -/
structure Logger where
  /-- The least level of its records, if it is set. -/
  least : LogLevel
  /-- Its handlers, in the order in which they were added. -/
  handlers : List LogHandler
  /-- Whether the logger above gets its records as well. -/
  propagates : Bool
deriving Repr, DecidableEq

/-- The name of the standard error stream. -/
def errorStream : Text := "stderr"

namespace Logger

/-- A logger on which nothing was set. -/
def fresh : Logger := ⟨.unset, [], true⟩

/-- The logger above all others comes with a level. -/
def root : Logger := ⟨.warning, [], true⟩

/-! ## Changing a logger -/

def setLeast (l : Logger) (level : LogLevel) : Logger := { l with least := level }

def setPropagates (l : Logger) (propagates : Bool) : Logger := { l with propagates := propagates }

def addHandler (l : Logger) (h : LogHandler) : Logger := { l with handlers := l.handlers ++ [h] }

def removeHandler (l : Logger) (h : LogHandler) : Logger :=
  { l with handlers := l.handlers.erase h }

/-- Removes the handlers, one after the other. -/
def removeHandlers (l : Logger) : Logger := l.handlers.foldl removeHandler l

/-! ## Records on their way up -/

/-- The least level of the records of the first logger: that of the first one that has its own. -/
def effectiveLeast : List Logger → LogLevel
  | [] => .unset
  | l :: above => if l.least = .unset then effectiveLeast above else l.least

/-- The handlers that a record of the first logger reaches. -/
def reachedHandlers : List Logger → List LogHandler
  | [] => []
  | l :: above => l.handlers ++ if l.propagates then reachedHandlers above else []

/-- Gets the records that reach no handler. -/
def lastResort : LogHandler := ⟨.stream errorStream, .warning⟩

/-- Where a record of the first logger goes; the loggers above it follow. -/
def targets (chain : List Logger) (level : LogLevel) : List LogTarget :=
  if effectiveLeast chain ≤ level then
    let reached := reachedHandlers chain
    let handlers := if reached.isEmpty then [lastResort] else reached
    (handlers.filter fun h => h.least ≤ level).map (·.target)
  else []

end Logger
end CodeSurvey
