import CodeSurvey.Command.Arguments
import CodeSurvey.Log.Setup
import CodeSurvey.Survey.Document
import CodeSurvey.Survey.Run

/-!
# Running the command

The command surveys a folder and gives the document out, on the standard output or to a file.
Records go to the standard error stream and, if wished, to a file. Only a survey that is complete is
given out.

## Main definitions

* `Terminal`, `CommandResult`: what a run starts from and what it ends in.
* `runCommand`: one run; `runCommands`: several, one after the other.
-/

namespace CodeSurvey

/-- What the outer world gives to a run: the time of the survey, and the time stamp in front of
every line of the log file, by its number. -/
structure Clock where
  surveyTime : Text
  stamp : Nat → Text

/-- Why a run ends without an exit status. -/
inductive CommandFailure where
  | survey (failure : SurveyFailure)
  /-- The folders nest deeper than a document may. -/
  | tooDeep
  | logFile (error : OsError)
  | output (error : OsError)
deriving Repr, DecidableEq

/-- The message of a failure. -/
def CommandFailure.message : CommandFailure → Text
  | survey failure => failure.message
  | tooDeep => SurveyFailure.tooDeep.message
  | logFile error | output error => error.description

/-- How a run ends. -/
inductive Ending where
  | exit (status : Nat)
  | failed (failure : CommandFailure)
deriving Repr, DecidableEq

/-- How a run ends and what it writes to the two streams. -/
structure CommandResult where
  ending : Ending
  standardOutput : Text
  standardError : Text
deriving Repr, DecidableEq

/-- What lasts from run to run: the file system and where records go, if that was set up. -/
structure Terminal where
  files : FileSystem
  logging : Option LogSetup

/-! ## Requests -/

/-- The wishes of a request about records. -/
def Options.logWish (o : Options) : LogWish := ⟨o.verbose, o.quiet, none, o.logFile⟩

/-- The new settings of a request. -/
def Options.overrides (o : Options) : Overrides where
  numbers
    | .maxDepth => o.maxDepth
    | .maxExamples => o.maxExamples
    | .maxFileSizeKb => o.maxFileSize
    | _ => none

/-- The fields that a request may set, in the order in which they are checked. -/
def checkedFields : List NumberField := [.maxDepth, .maxExamples, .maxFileSizeKb]

/-- The name of a field as an option. -/
def optionName (f : NumberField) : Text :=
  "--".toList ++ f.name.map fun c => if c == '_' then '-' else c

/-- The first field that a request sets to less than nothing. -/
def Options.negativeField? (o : Options) : Option NumberField :=
  checkedFields.find? fun f => (o.overrides.numbers f).any (· < 0)

/-! ## Files -/

/-- The location of a path, whose steps to the parent are taken without regard to links. -/
def plainLocation (here : Location) (path : Text) : Location :=
  (Path.parts path).foldl (fun l step => if step == ['.', '.'] then l.dropLast else l ++ [step])
    (FileSystem.start here path)

/-- What the file at a location holds, nothing if there is none. -/
def FileSystem.contentAt (fs : FileSystem) (l : Location) : ByteArray :=
  match fs.entryAt? l with
  | some (.file content) => content
  | _ => ByteArray.empty

/-- Adds to the file at a location, which is made if it is missing. -/
def FileSystem.extend (fs : FileSystem) (l : Location) (more : Text) : FileSystem :=
  fs.put l (.file (fs.contentAt l ++ Utf8.encode more))

/-! ## Records -/

/-- The record of an event. -/
def SurveyEvent.record : SurveyEvent → LogRecord
  | .logged r => r
  | .reached p =>
    .debug "cli" ("Progress ".toList ++ Text.ofNat p.done ++ '/' :: Text.ofNat p.total ++
      " (".toList ++ p.name ++ [')'])

/-- The records that go to a target if a call sets up the logger as wished and some records follow.
-/
def recordsFor (before : Option LogSetup) (w : LogWish) (target : LogTarget)
    (rs : List LogRecord) : List LogRecord :=
  let steps := .setUp w true :: rs.map .emit
  ((deliveries .root (before.getD .fresh) steps).flatten.filter fun d => d.1 == target).map (·.2)

/-- Some lines, each with its end. -/
def linesText (ls : List Text) : Text := ls.flatMap (· ++ ['\n'])

/-- What goes to the standard error stream. -/
def errorText (before : Option LogSetup) (w : LogWish) (rs : List LogRecord) : Text :=
  linesText ((recordsFor before w (.stream errorStream) rs).map LogRecord.streamLine)

/-- What is added to a log file. -/
def logFileText (clock : Clock) (before : Option LogSetup) (w : LogWish) (file : Text)
    (rs : List LogRecord) : Text :=
  linesText ((recordsFor before w (.file file) rs).zipIdx.map fun (r, n) =>
    r.fileLine (clock.stamp n))

/-! ## One run -/

/-- The name of the command, as its messages give it. -/
def programName : Text := "repoprofile"

/-- How to call the command. -/
def usageText : Text :=
  "usage: repoprofile [-h] [-v] analyze [-h] [-v] [--max-depth N] [--max-examples N] ".toList ++
    "[--max-file-size-kb N] [-o FILE] [-q] [--log-file FILE] [path]\n".toList

/-- A run that refuses its arguments. -/
def refuse (message : Text) : CommandResult :=
  ⟨.exit 2, [], usageText ++ programName ++ ": error: ".toList ++ message ++ ['\n']⟩

/-- The result of a run without a survey. Failures of the path and of the file of settings are told;
others end the run at once. -/
def failedSurvey (e : SurveyFailure) (records : Text) : CommandResult :=
  let told := match e with
    | .missing _ | .notFolder _ => true
    | .settings e => e.isReported
    | _ => false
  if told then
    ⟨.exit 1, [], records ++ programName ++ " analyze failed: ".toList ++ e.message ++ ['\n']⟩
  else ⟨.failed (.survey e), [], records⟩

/-- The document of a survey, as it is given out. -/
def payload (clock : Clock) (s : Survey Float) : Text :=
  Json.print (Document.survey s clock.surveyTime) ++ ['\n']

/-- Gives out a document: to the file that is asked for, with a line that confirms it, or to the
standard output. -/
def deliver (fs : FileSystem) (here : Location) (output : Option Text) (document records : Text) :
    CommandResult × FileSystem :=
  match output with
  | none => (⟨.exit 0, document, records⟩, fs)
  | some file =>
    match fs.writeFile here file (Utf8.encode document) with
    | .error e => (⟨.failed (.output e), [], records⟩, fs)
    | .ok fs =>
      let shown := Path.written (Path.anchor file) (Path.parts file)
      (⟨.exit 0, "Analysis written to ".toList ++ shown ++ ['\n'], records⟩, fs)

/-- The location of the log file that is asked for. -/
def Options.logPlace (fs : FileSystem) (here : Location) (o : Options) :
    Except OsError (Option Location) :=
  match o.logFile with
  | none => .ok none
  | some file => (fs.placeOf [] (plainLocation here file).path).map some

/-- The file system in which a log file is open for adding to it. -/
def openLog (fs : FileSystem) (log : Option Location) : FileSystem :=
  log.elim fs fun l => fs.extend l []

/-- The records of a survey as they are added to the log file. -/
def logText (clock : Clock) (before : Option LogSetup) (o : Options) (rs : List LogRecord) : Text :=
  o.logFile.elim [] fun file => logFileText clock before o.logWish file rs

/-- Surveys a folder as asked; the log file, if there is one, is open. -/
def runSurvey [Host] (clock : Clock) (here : Location) (o : Options) (before : Option LogSetup)
    (log : Option Location) (fs : FileSystem) : CommandResult × FileSystem :=
  let made := Survey.run fs here o.path .standard true o.overrides
  let rs := made.trace.map SurveyEvent.record
  let records := errorText before o.logWish rs
  let logged := log.elim fs fun l => fs.extend l (logText clock before o rs)
  match made.result with
  | .error e => (failedSurvey e records, logged)
  | .ok survey =>
    if survey.tree.depth ≤ Host.documentRoom survey.tree then
      deliver logged here o.output (payload clock survey) records
    else (⟨.failed .tooDeep, [], records⟩, logged)

/-- One run in a folder. What was set up for records before is given up as soon as the arguments are
understood. -/
def runCommand [Host] (clock : Clock) (here : Location) (arguments : List Text) (t : Terminal) :
    CommandResult × Terminal :=
  match Invocation.read arguments with
  | .help => (⟨.exit 0, usageText, []⟩, t)
  | .refused _ => (refuse "the arguments are not understood", t)
  | .survey o =>
    let before := t.logging.getD .fresh
    match o.logPlace t.files here with
    | .error e =>
      (⟨.failed (.logFile e), [], []⟩, ⟨t.files, some (setUpLog o.logWish false before)⟩)
    | .ok log =>
      let fs := openLog t.files log
      let s := setUpLog o.logWish true before
      match o.negativeField? with
      | some f => (refuse (optionName f ++ " must not be negative".toList), ⟨fs, some s⟩)
      | none =>
        let (result, fs) := runSurvey clock here o t.logging log fs
        (result, ⟨fs, some s⟩)

/-- Several runs, one after the other. -/
def runCommands [Host] (clock : Clock) (here : Location) :
    List (List Text) → Terminal → List CommandResult × Terminal
  | [], t => ([], t)
  | arguments :: rest, t =>
    let (result, t) := runCommand clock here arguments t
    let (results, t) := runCommands clock here rest t
    (result :: results, t)

end CodeSurvey
