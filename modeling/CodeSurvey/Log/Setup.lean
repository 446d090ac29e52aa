import CodeSurvey.Log.Logger
import CodeSurvey.Text.Quoted

/-!
# Where records go

All records are made on the logger of the package or on loggers below it. A call sets up the logger
of the package: it says to which stream and to which file records go from now on, and which of them.
The handlers of an earlier call are removed.

## Main definitions

* `LogWish`, `setUpLog`: what a call wishes, and what it does to the logger of the package.
* `LogStep`, `deliveries`: what calls and records that follow each other write.
-/

namespace CodeSurvey

/-- What is set up for records: the logger of the package. -/
abbrev LogSetup := Logger

/-- The wishes of one call: more or fewer records on a stream, and a file for all records. -/
structure LogWish where
  verbose : Bool := false
  quiet : Bool := false
  stream : Option Text := none
  file : Option Text := none
deriving Repr, DecidableEq

/-- The least level of the records on the stream. To wish for more counts before to wish for
fewer. -/
def LogWish.level (w : LogWish) : LogLevel :=
  if w.verbose then .debug else if w.quiet then .warning else .info

/-- The stream of the records, which is the standard error stream if none is given. -/
def LogWish.console (w : LogWish) : Text := w.stream.getD errorStream

/-- Sets up a logger as wished. Where the file cannot be opened the call ends before it is added. -/
def setUpLog (w : LogWish) (opened : Bool) (l : LogSetup) : LogSetup :=
  let l := ((l.setLeast w.level).setPropagates false).removeHandlers
  let l := l.addHandler ⟨.stream w.console, w.level⟩
  match w.file with
  | none => l
  | some path =>
    -- The file gets all records, whatever the stream gets.
    let l := l.setLeast .debug
    if opened then l.addHandler ⟨.file path, .debug⟩ else l

/-! ## Records -/

/-- The name of the package's logger. -/
def loggerName : Text := "repoprofile"

/-- The logger on which a record is made, with those above it. Nothing is set on the loggers below
that of the package. -/
def LogRecord.chain (root : Logger) (package : LogSetup) (r : LogRecord) : List Logger :=
  let depth := if r.source.isEmpty then 0 else (Text.splitOn '.' r.source).length
  List.replicate depth .fresh ++ [package, root]

/-- A record as a line of a stream. -/
def LogRecord.streamLine (r : LogRecord) : Text :=
  '[' :: (loggerName ++ "] ".toList ++ r.level.name ++ ' ' :: r.message)

/-- A record as a line of a file, after its time stamp. -/
def LogRecord.fileLine (stamp : Text) (r : LogRecord) : Text :=
  stamp ++ r.level.name ++ ' ' :: (loggerName ++
    (if r.source.isEmpty then [] else '.' :: r.source) ++ ": ".toList ++ r.message)

/-! ## Sequences -/

/-- What follows each other: calls, each with whether its file could be opened, and records. -/
inductive LogStep where
  | setUp (wish : LogWish) (opened : Bool)
  | emit (record : LogRecord)
deriving Repr, DecidableEq

namespace LogStep

/-- What a step does to the logger of the package. -/
def change : LogStep → LogSetup → LogSetup
  | setUp w opened, l => setUpLog w opened l
  | emit _, l => l

/-- What a step writes. -/
def output (root : Logger) (l : LogSetup) : LogStep → List (LogTarget × LogRecord)
  | setUp _ _ => []
  | emit r => (Logger.targets (r.chain root l) r.level).map (·, r)

end LogStep

/-- What each of some steps writes. -/
def deliveries (root : Logger) : LogSetup → List LogStep → List (List (LogTarget × LogRecord))
  | _, [] => []
  | l, step :: rest => step.output root l :: deliveries root (step.change l) rest

end CodeSurvey
