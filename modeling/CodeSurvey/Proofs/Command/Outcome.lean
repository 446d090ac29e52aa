import CodeSurvey.Command.Run
import CodeSurvey.Host.Standard
import CodeSurvey.Proofs.FileSystem.Visits

/-!
# How a command ends

A command ends in one of nine ways, and each of them says what it writes: the texts that it adds to
its log file, the file that it writes in the end, and what it prints. A command that does not
succeed prints nothing and leaves everything but its log file as it was; one that succeeds gives out
the whole document, on the standard output or as the content of a file.

## Main definitions

* `FileSystem.changed fs log texts output`: the file system with what a command writes.
* `CommandEnds clock here arguments t`: the ways in which a command ends.
-/

namespace CodeSurvey

/-- The file system in which some texts were added to a log file, one after the other, and then a
file was written. -/
def FileSystem.changed (fs : FileSystem) (log : Option Location) (texts : List Text)
    (output : Option (Location × Text)) : FileSystem :=
  let logged := log.elim fs fun l => texts.foldl (fun fs t => fs.extend l t) fs
  output.elim logged fun (l, t) => logged.put l (.file (Utf8.encode t))

namespace Options

/-- The survey that a request asks for, made while the log file is open. -/
def survey [Host] (o : Options) (here : Location) (t : Terminal) (log : Option Location) :
    Surveying (Survey Float) :=
  Survey.run (openLog t.files log) here o.path .standard true o.overrides

/-- The records of that survey. -/
def records [Host] (o : Options) (here : Location) (t : Terminal) (log : Option Location) :
    List LogRecord := (o.survey here t log).trace.map SurveyEvent.record

/-- What is told of it on the standard error stream. -/
def told [Host] (o : Options) (here : Location) (t : Terminal) (log : Option Location) : Text :=
  errorText t.logging o.logWish (o.records here t log)

/-- What is added to its log file, when that is opened and then. -/
def added [Host] (clock : Clock) (o : Options) (here : Location) (t : Terminal)
    (log : Option Location) : List Text := [[], logText clock t.logging o (o.records here t log)]

end Options

/-- The line that confirms that a document was written. -/
def confirmation (file : Text) : Text :=
  "Analysis written to ".toList ++ Path.written (Path.anchor file) (Path.parts file) ++ ['\n']

/-- The ways in which a command ends, each with its result, its log file, the texts that are added
to that, and the file that is written. -/
inductive CommandEnds [Host] (clock : Clock) (here : Location) (arguments : List Text)
    (t : Terminal) :
    CommandResult → Option Location → List Text → Option (Location × Text) → Prop
  | help (read : Invocation.read arguments = .help) :
      CommandEnds clock here arguments t ⟨.exit 0, usageText, []⟩ none [] none
  | refused {e : UsageError} (read : Invocation.read arguments = .refused e) :
      CommandEnds clock here arguments t (refuse "the arguments are not understood") none [] none
  | noLog {o : Options} {e : OsError} (read : Invocation.read arguments = .survey o)
      (log : o.logPlace t.files here = .error e) :
      CommandEnds clock here arguments t ⟨.failed (.logFile e), [], []⟩ none [] none
  | negative {o : Options} {log : Option Location} {f : NumberField}
      (read : Invocation.read arguments = .survey o) (opened : o.logPlace t.files here = .ok log)
      (negative : o.negativeField? = some f) :
      CommandEnds clock here arguments t (refuse (optionName f ++ " must not be negative".toList))
        log [[]] none
  | failed {o : Options} {log : Option Location} {e : SurveyFailure}
      (read : Invocation.read arguments = .survey o) (opened : o.logPlace t.files here = .ok log)
      (allowed : o.negativeField? = none) (made : (o.survey here t log).result = .error e) :
      CommandEnds clock here arguments t (failedSurvey e (o.told here t log)) log
        (o.added clock here t log) none
  | tooDeep {o : Options} {log : Option Location} {survey : Survey Float}
      (read : Invocation.read arguments = .survey o) (opened : o.logPlace t.files here = .ok log)
      (allowed : o.negativeField? = none) (made : (o.survey here t log).result = .ok survey)
      (deep : ¬survey.tree.depth ≤ Host.documentRoom survey.tree) :
      CommandEnds clock here arguments t ⟨.failed .tooDeep, [], o.told here t log⟩ log
        (o.added clock here t log) none
  | printed {o : Options} {log : Option Location} {survey : Survey Float}
      (read : Invocation.read arguments = .survey o) (opened : o.logPlace t.files here = .ok log)
      (allowed : o.negativeField? = none) (made : (o.survey here t log).result = .ok survey)
      (shallow : survey.tree.depth ≤ Host.documentRoom survey.tree) (output : o.output = none) :
      CommandEnds clock here arguments t ⟨.exit 0, payload clock survey, o.told here t log⟩ log
        (o.added clock here t log) none
  | noOutput {o : Options} {log : Option Location} {survey : Survey Float} {file : Text}
      {e : OsError} (read : Invocation.read arguments = .survey o)
      (opened : o.logPlace t.files here = .ok log) (allowed : o.negativeField? = none)
      (made : (o.survey here t log).result = .ok survey)
      (shallow : survey.tree.depth ≤ Host.documentRoom survey.tree) (output : o.output = some file)
      (noPlace : (t.files.changed log (o.added clock here t log) none).placeOf here file =
        .error e) :
      CommandEnds clock here arguments t ⟨.failed (.output e), [], o.told here t log⟩ log
        (o.added clock here t log) none
  | written {o : Options} {log : Option Location} {survey : Survey Float} {file : Text}
      {l : Location} (read : Invocation.read arguments = .survey o)
      (opened : o.logPlace t.files here = .ok log) (allowed : o.negativeField? = none)
      (made : (o.survey here t log).result = .ok survey)
      (shallow : survey.tree.depth ≤ Host.documentRoom survey.tree) (output : o.output = some file)
      (place : (t.files.changed log (o.added clock here t log) none).placeOf here file = .ok l) :
      CommandEnds clock here arguments t ⟨.exit 0, confirmation file, o.told here t log⟩ log
        (o.added clock here t log) (some (l, payload clock survey))

variable {clock : Clock} {here : Location} {arguments : List Text} {t : Terminal}

/-- The file system when a survey is over and its records are written. -/
theorem changed_added [Host] (clock : Clock) (o : Options) (log : Option Location) :
    (log.elim (openLog t.files log) fun l => (openLog t.files log).extend l
      (logText clock t.logging o (o.records here t log))) =
      t.files.changed log (o.added clock here t log) none := by
  cases log <;> rfl

theorem runSurvey_eq [Host] (clock : Clock) (here : Location) (t : Terminal) (o : Options)
    (log : Option Location) :
    runSurvey clock here o t.logging log (openLog t.files log) =
      match (o.survey here t log).result with
      | .error e =>
        (failedSurvey e (o.told here t log), t.files.changed log (o.added clock here t log) none)
      | .ok survey =>
        if survey.tree.depth ≤ Host.documentRoom survey.tree then
          deliver (t.files.changed log (o.added clock here t log) none) here o.output
            (payload clock survey) (o.told here t log)
        else
          (⟨.failed .tooDeep, [], o.told here t log⟩,
            t.files.changed log (o.added clock here t log) none) := by
  rw [← changed_added]
  rfl

/-- Every command ends in one of the nine ways. -/
theorem exists_commandEnds [Host] (clock : Clock) (here : Location) (arguments : List Text)
    (t : Terminal) :
    ∃ r log texts output, CommandEnds clock here arguments t r log texts output := by
  cases hread : Invocation.read arguments with
  | help => exact ⟨_, _, _, _, .help hread⟩
  | refused e => exact ⟨_, _, _, _, .refused hread⟩
  | survey o =>
      cases hlog : o.logPlace t.files here with
      | error e => exact ⟨_, _, _, _, .noLog hread hlog⟩
      | ok log =>
          cases hallowed : o.negativeField? with
          | some f => exact ⟨_, _, _, _, .negative hread hlog hallowed⟩
          | none =>
              cases hmade : (o.survey here t log).result with
              | error e => exact ⟨_, _, _, _, .failed hread hlog hallowed hmade⟩
              | ok survey =>
                  by_cases hdepth : survey.tree.depth ≤ Host.documentRoom survey.tree
                  · cases houtput : o.output with
                    | none => exact ⟨_, _, _, _, .printed hread hlog hallowed hmade hdepth houtput⟩
                    | some file =>
                        cases hplace : (t.files.changed log (o.added clock here t log) none).placeOf
                            here file with
                        | error e => exact ⟨_, _, _, _,
                            .noOutput hread hlog hallowed hmade hdepth houtput hplace⟩
                        | ok l => exact ⟨_, _, _, _,
                            .written hread hlog hallowed hmade hdepth houtput hplace⟩
                  · exact ⟨_, _, _, _, .tooDeep hread hlog hallowed hmade hdepth⟩

/-- The way in which a command ends says all that it does. -/
theorem CommandEnds.runCommand_eq [Host] {r : CommandResult} {log : Option Location}
    {texts : List Text} {output : Option (Location × Text)}
    (h : CommandEnds clock here arguments t r log texts output) :
    ∃ setup,
      runCommand clock here arguments t = (r, ⟨t.files.changed log texts output, setup⟩) := by
  cases h with
  | help read =>
      refine ⟨t.logging, ?_⟩
      simp only [runCommand, read]
      rfl
  | refused read =>
      refine ⟨t.logging, ?_⟩
      simp only [runCommand, read]
      rfl
  | @noLog o e read log =>
      refine ⟨some (setUpLog o.logWish false (t.logging.getD .fresh)), ?_⟩
      simp only [runCommand, read, log]
      rfl
  | @negative o log f read opened negative =>
      refine ⟨some (setUpLog o.logWish true (t.logging.getD .fresh)), ?_⟩
      simp only [runCommand, read, opened, negative]
      cases log <;> rfl
  | @failed o log e read opened allowed made =>
      refine ⟨some (setUpLog o.logWish true (t.logging.getD .fresh)), ?_⟩
      simp only [runCommand, read, opened, allowed, runSurvey_eq, made]
  | @tooDeep o log survey read opened allowed made deep =>
      refine ⟨some (setUpLog o.logWish true (t.logging.getD .fresh)), ?_⟩
      simp only [runCommand, read, opened, allowed, runSurvey_eq, made, if_neg deep]
  | @printed o log survey read opened allowed made shallow output =>
      refine ⟨some (setUpLog o.logWish true (t.logging.getD .fresh)), ?_⟩
      simp only [runCommand, read, opened, allowed, runSurvey_eq, made, if_pos shallow, deliver,
        output]
  | @noOutput o log survey file e read opened allowed made shallow output noPlace =>
      refine ⟨some (setUpLog o.logWish true (t.logging.getD .fresh)), ?_⟩
      simp only [runCommand, read, opened, allowed, runSurvey_eq, made, if_pos shallow, deliver,
        output, FileSystem.writeFile, noPlace, Except.map]
  | @written o log survey file l read opened allowed made shallow output place =>
      refine ⟨some (setUpLog o.logWish true (t.logging.getD .fresh)), ?_⟩
      simp only [runCommand, read, opened, allowed, runSurvey_eq, made, if_pos shallow, deliver,
        output, FileSystem.writeFile, place, Except.map]
      rfl

/-! ## What is written -/

/-- Whether a location is that of the log file that some arguments ask for. -/
def IsLog (fs : FileSystem) (here : Location) (arguments : List Text) (l : Location) : Prop :=
  ∃ o : Options, Invocation.read arguments = .survey o ∧ o.logPlace fs here = .ok (some l)

/-- Whether a location is that of the output file that some arguments ask for. -/
def IsOutput (fs : FileSystem) (here : Location) (arguments : List Text) (l : Location) : Prop :=
  ∃ (o : Options) (file : Text), Invocation.read arguments = .survey o ∧ o.output = some file ∧
    fs.placeOf here file = .ok l

namespace FileSystem

variable {fs fs' : FileSystem} {W : Set Location} {log : Option Location} {texts : List Text}
  {output : Option (Location × Text)} {l x : Location}

/-- What is kept by writing the log file and the output file is kept by all that a command writes.
-/
theorem changed_keeps {P : FileSystem → Prop}
    (hlog : ∀ l ∈ log, ∀ fs content, P fs → P (fs.put l (.file content)))
    (houtput : ∀ p ∈ output, ∀ fs content, P fs → P (fs.put p.1 (.file content))) (h : P fs) :
    P (fs.changed log texts output) := by
  have hlogged : P (log.elim fs fun l => texts.foldl (fun fs t => fs.extend l t) fs) := by
    cases log with
    | none => exact h
    | some l =>
        induction texts generalizing fs with
        | nil => exact h
        | cons text texts ih => exact ih (hlog l rfl fs _ h)
  cases output with
  | none => exact hlogged
  | some p => exact houtput p rfl _ _ hlogged

theorem AlikeOff.changed (h : AlikeOff W fs fs') (hlog : ∀ l ∈ log, l ∈ W)
    (houtput : ∀ p ∈ output, p.1 ∈ W) : AlikeOff W fs (fs'.changed log texts output) :=
  changed_keeps (fun l hl _ content h => h.put (hlog l hl) content)
    (fun p hp _ content h => h.put (houtput p hp) content) h

end FileSystem

/-- A log file is open unless none is asked for. -/
theorem logPlace_eq_ok_iff {fs : FileSystem} {o : Options} {log : Option Location} :
    o.logPlace fs here = .ok log ↔ o.logFile = none ∧ log = none ∨ ∃ file l,
      o.logFile = some file ∧ fs.placeOf [] (plainLocation here file).path = .ok l ∧
        log = some l := by
  rw [Options.logPlace]
  cases o.logFile with
  | none => simp [eq_comm]
  | some file =>
      cases hplace : fs.placeOf [] (plainLocation here file).path with
      | error e => simp [hplace, Except.map]
      | ok l => simp [hplace, Except.map, eq_comm]

theorem IsLog.isPlace {l : Location} (h : IsLog t.files here arguments l) : t.files.IsPlace l := by
  obtain ⟨o, -, hlog⟩ := h
  obtain ⟨-, hnone⟩ | ⟨file, l', -, hplace, hl⟩ := logPlace_eq_ok_iff.1 hlog
  · simp at hnone
  · exact Option.some.inj hl ▸ FileSystem.isPlace_of_placeOf hplace

theorem IsOutput.isPlace {l : Location} (h : IsOutput t.files here arguments l) :
    t.files.IsPlace l := by
  obtain ⟨o, file, -, -, hplace⟩ := h
  exact FileSystem.isPlace_of_placeOf hplace

/-- A run without a survey ends with the status of a failure or with none, and prints nothing. -/
theorem failedSurvey_eq (e : SurveyFailure) (records : Text) :
    (∃ told, failedSurvey e records = ⟨.exit 1, [], told⟩) ∨
      failedSurvey e records = ⟨.failed (.survey e), [], records⟩ := by
  obtain ⟨isTold, hresult⟩ : ∃ isTold : Bool, failedSurvey e records =
      if isTold then
        ⟨.exit 1, [], records ++ programName ++ " analyze failed: ".toList ++ e.message ++ ['\n']⟩
      else ⟨.failed (.survey e), [], records⟩ := ⟨_, rfl⟩
  cases isTold with
  | true => exact .inl ⟨_, hresult⟩
  | false => exact .inr hresult

namespace CommandEnds

variable {r : CommandResult} {log : Option Location} {texts : List Text}
  {output : Option (Location × Text)} {l : Location}

/-- Texts are added to no other file than the log file that is asked for. -/
theorem isLog [Host] (h : CommandEnds clock here arguments t r log texts output) (hl : l ∈ log) :
    IsLog t.files here arguments l := by
  cases h with
  | help | refused | noLog => simp at hl
  | negative read opened | failed read opened | tooDeep read opened | printed read opened
  | noOutput read opened | written read opened => exact ⟨_, read, hl ▸ opened⟩

/-- All but the log file is as it was before the document is given out. -/
theorem alikeOff_log [Host] (h : CommandEnds clock here arguments t r log texts output) :
    t.files.AlikeOff {l | IsLog t.files here arguments l} (t.files.changed log texts none) :=
  (FileSystem.AlikeOff.refl fun _ hl => hl.isPlace).changed (fun _ hl => h.isLog hl) (by simp)

/-- No other file is written than the output file that is asked for. -/
theorem isOutput [Host] (h : CommandEnds clock here arguments t r log texts output) {text : Text}
    (hl : (l, text) ∈ output) : IsOutput t.files here arguments l := by
  have halike := h.alikeOff_log
  cases h with
  | written read opened allowed made shallow output place =>
      -- The place is looked up when the records are written, which moves no places.
      obtain ⟨rfl, -⟩ := Prod.mk.inj (Option.some.inj hl)
      exact ⟨_, _, read, output, halike.placeOf_eq_ok_iff.2 place⟩
  | _ => simp at hl

/-- A command that does not succeed gives nothing out. -/
theorem nothing_given_out [Host] (h : CommandEnds clock here arguments t r log texts output)
    (hending : r.ending ≠ .exit 0) : r.standardOutput = [] ∧ output = none := by
  cases h with
  | help | printed | written => exact absurd rfl hending
  | refused | noLog | negative | tooDeep | noOutput => exact ⟨rfl, rfl⟩
  | @failed o _ e =>
      obtain ⟨told, hresult⟩ | hresult := failedSurvey_eq e (o.told here t log)
      · exact ⟨by rw [hresult], rfl⟩
      · exact ⟨by rw [hresult], rfl⟩

/-- A command that succeeds gives out the document of the survey that it has made. -/
theorem all_given_out [Host] (h : CommandEnds clock here arguments t r log texts output)
    (hending : r.ending = .exit 0) :
    Invocation.read arguments = .help ∨ ∃ o survey, Invocation.read arguments = .survey o ∧
      o.logPlace t.files here = .ok log ∧ (o.survey here t log).result = .ok survey ∧
      (o.output = none ∧ output = none ∧ r.standardOutput = payload clock survey ∨
        ∃ file l, o.output = some file ∧ output = some (l, payload clock survey) ∧
          r.standardOutput = confirmation file) := by
  cases h with
  | help read => exact .inl read
  | refused | noLog | negative | tooDeep | noOutput => simp [refuse] at hending
  | @failed o _ e =>
      obtain ⟨told, hresult⟩ | hresult := failedSurvey_eq e (o.told here t log)
      · simp [hresult] at hending
      · simp [hresult] at hending
  | printed read opened allowed made shallow output =>
      exact .inr ⟨_, _, read, opened, made, .inl ⟨output, rfl, rfl⟩⟩
  | written read opened allowed made shallow output place =>
      exact .inr ⟨_, _, read, opened, made, .inr ⟨_, _, output, rfl, rfl⟩⟩

/-- A command that succeeds has written the output file that is asked for. -/
theorem exists_output [Host] (h : CommandEnds clock here arguments t r log texts output)
    (hending : r.ending = .exit 0) (hl : IsOutput t.files here arguments l) :
    ∃ text, output = some (l, text) := by
  obtain ⟨o, file, hread, houtput, hplace⟩ := hl
  obtain hhelp | ⟨o', survey, hread', -, -, hgiven⟩ := h.all_given_out hending
  · simp [hread] at hhelp
  · obtain rfl := Invocation.survey.inj (hread.symm.trans hread')
    obtain ⟨hnone, -⟩ | ⟨file', l', houtput', rfl, -⟩ := hgiven
    · simp [houtput] at hnone
    · obtain ⟨o', file', hread', houtput', hplace'⟩ := h.isOutput rfl
      obtain rfl := Invocation.survey.inj (hread.symm.trans hread')
      obtain rfl := Option.some.inj (houtput.symm.trans houtput')
      obtain rfl := Except.ok.inj (hplace.symm.trans hplace')
      exact ⟨_, rfl⟩

end CommandEnds

/-! ## Success and failure -/

/-- A command that does not succeed prints nothing on the standard output and changes nothing but
its log file. One that succeeds, unless it is a call for help, has made a survey and gives out its
whole document: either it prints the document and changes nothing but its log file, or the document
is all that stands in the output file, nothing else changes, and only the confirmation is printed.
-/
theorem command_is_all_or_nothing [Host] (clock : Clock) (here : Location) (arguments : List Text)
    (t : Terminal) :
    let fs := t.files
    let result := (runCommand clock here arguments t).1
    let fs' := (runCommand clock here arguments t).2.files
    let logs := {l | IsLog fs here arguments l}
    (result.ending ≠ .exit 0 →
      result.standardOutput = [] ∧ fs.AlikeOff logs fs' ∧
        ∀ l, IsOutput fs here arguments l → l ∉ logs → fs'.entryAt? l = fs.entryAt? l) ∧
    (result.ending = .exit 0 → Invocation.read arguments = .help ∨ ∃ o log survey,
      Invocation.read arguments = .survey o ∧ o.logPlace fs here = .ok log ∧
        (o.survey here t log).result = .ok survey ∧
        (o.output = none ∧ result.standardOutput = payload clock survey ∧ fs.AlikeOff logs fs' ∨
          ∃ file l, o.output = some file ∧ fs.placeOf here file = .ok l ∧
            fs'.entryAt? l = some (.file (Utf8.encode (payload clock survey))) ∧
            result.standardOutput = confirmation file ∧ fs.AlikeOff (insert l logs) fs')) := by
  intro fs result fs' logs
  obtain ⟨r, log, texts, output, hends⟩ := exists_commandEnds clock here arguments t
  obtain ⟨setup, hrun⟩ := hends.runCommand_eq
  obtain rfl : result = r := congrArg Prod.fst hrun
  have hfs' : fs' = fs.changed log texts output := congrArg (fun x => x.2.files) hrun
  have hlogs := hends.alikeOff_log
  rw [hfs']
  constructor
  · intro hending
    obtain ⟨hout, rfl⟩ := hends.nothing_given_out hending
    exact ⟨hout, hlogs, fun l hl hlog => hlogs.entryAt?_eq_of_place hl.isPlace hlog⟩
  · intro hending
    obtain hhelp | ⟨o, survey, hread, hlog, hmade, hgiven⟩ := hends.all_given_out hending
    · exact .inl hhelp
    · refine .inr ⟨o, log, survey, hread, hlog, hmade, ?_⟩
      obtain ⟨houtput, rfl, hout⟩ | ⟨file, l, houtput, rfl, hout⟩ := hgiven
      · exact .inl ⟨houtput, hout, hlogs⟩
      · obtain ⟨_, _, hread', houtput', hplace⟩ := hends.isOutput rfl
        obtain rfl := Invocation.survey.inj (hread.symm.trans hread')
        obtain rfl := Option.some.inj (houtput.symm.trans houtput')
        have hl := FileSystem.isPlace_of_placeOf hplace
        have hplaces : ∀ x ∈ insert l logs, fs.IsPlace x := by
          rintro x (rfl | hx)
          · exact hl
          · exact hx.isPlace
        refine .inr ⟨file, l, houtput, hplace, ?_, hout, ?_⟩
        · exact (hlogs.isPlace hl).entryAt?_put_self _
        · refine (FileSystem.AlikeOff.refl hplaces).changed (fun x hx => .inr (hends.isLog hx)) ?_
          rintro p ⟨⟩
          exact .inl rfl

attribute [local instance] Host.standard

/-- A repository beside an older document. -/
def surveyedBefore : FileSystem where
  top := [("repo", .folder [("app.py", .file ⟨#[120]⟩)]), ("out.json", .file ⟨#[123, 125]⟩)]

/-- A clock that stands still. -/
def noon : Clock := ⟨"2024-05-01T12:00:00Z", fun _ => "2024-05-01 12:00:00,000 "⟩

/-- A call that is refused leaves the older document, and one that succeeds replaces it. -/
theorem outcomes_beside_older_document :
    let run := fun arguments => runCommand noon ["repo"] arguments ⟨surveyedBefore, none⟩
    let refused := run ["analyze", "--max-depth", "-1", "-o", "../out.json"]
    let written := run ["analyze", "-o", "../out.json"]
    (refused.1.ending = .exit 2 ∧ refused.1.standardOutput = [] ∧
      refused.2.files.entryAt? ["out.json"] = some (.file ⟨#[123, 125]⟩)) ∧
    written.1.ending = .exit 0 ∧ written.1.standardOutput = confirmation "../out.json" ∧
      ∃ survey, written.2.files.entryAt? ["out.json"] =
        some (.file (Utf8.encode (payload noon survey))) := by
  intro run refused written
  have hplace : surveyedBefore.placeOf ["repo"] "../out.json" = .ok ["out.json"] := by
    decide +kernel
  have hrefused : refused.1.ending = .exit 2 := by decide +kernel
  have hwritten : written.1.ending = .exit 0 := by decide +kernel
  have hread : Invocation.read ["analyze", "--max-depth", "-1", "-o", "../out.json"] =
      .survey { maxDepth := some (-1), output := some "../out.json" } := by decide +kernel
  have hread' : Invocation.read ["analyze", "-o", "../out.json"] =
      .survey { output := some "../out.json" } := by decide +kernel
  obtain ⟨hfails, -⟩ := command_is_all_or_nothing noon ["repo"]
    ["analyze", "--max-depth", "-1", "-o", "../out.json"] ⟨surveyedBefore, none⟩
  obtain ⟨-, hsucceeds⟩ := command_is_all_or_nothing noon ["repo"]
    ["analyze", "-o", "../out.json"] ⟨surveyedBefore, none⟩
  obtain ⟨hout, -, hkept⟩ := hfails (by rw [hrefused]; simp)
  obtain hhelp | ⟨o, log, survey, ho, -, -, hgiven⟩ := hsucceeds hwritten
  · rw [hread'] at hhelp
    simp at hhelp
  · obtain rfl := Invocation.survey.inj (hread'.symm.trans ho)
    obtain ⟨hnone, -⟩ | ⟨file, l, hfile, hl, hcontent, hshown, -⟩ := hgiven
    · simp at hnone
    · obtain rfl := Option.some.inj hfile
      obtain rfl := Except.ok.inj (hplace.symm.trans hl)
      refine ⟨⟨hrefused, hout, ?_⟩, hwritten, hshown, survey, hcontent⟩
      refine hkept ["out.json"] ⟨_, _, hread, rfl, hplace⟩ ?_
      rintro ⟨o, ho, hlog⟩
      obtain rfl := Invocation.survey.inj (hread.symm.trans ho)
      simp [Options.logPlace] at hlog

end CodeSurvey
