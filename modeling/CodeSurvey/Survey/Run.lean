import CodeSurvey.Settings.Load
import CodeSurvey.Survey.Basic

/-!
# Making a survey

A survey goes through seven stages, each of which is announced. It fails only if the path leads to
no folder, the settings cannot be loaded, the folders nest too deep for the walk or a manifest
cannot be got over; then there is no survey at all.

## Main definitions

* `Stage`, `Progress`: the stages, and how far a survey has got.
* `SurveyFailure`: why there is no survey.
* `Survey.run`: the survey of the folder that a path leads to, with all that was noted on the way.
-/

namespace CodeSurvey

/-! ## Stages -/

/-- The stages of a survey. -/
inductive Stage where
  | walk
  | technologies
  | layout
  | examples
  | patterns
  | quality
  | insights
deriving Repr, DecidableEq

namespace Stage

/-- The stages in order. -/
def all : List Stage := [walk, technologies, layout, examples, patterns, quality, insights]

/-- The name of a stage. -/
def name : Stage → Text
  | walk => "walk"
  | technologies => "technologies"
  | layout => "structure"
  | examples => "examples"
  | patterns => "patterns"
  | quality => "quality"
  | insights => "insights"

/-- The number of stages before a stage. -/
def before : Stage → Nat
  | walk => 0
  | technologies => 1
  | layout => 2
  | examples => 3
  | patterns => 4
  | quality => 5
  | insights => 6

end Stage

/-- How far a survey has got: what begins, and how many stages of all are done. -/
structure Progress where
  name : Text
  done : Nat
  total : Nat
deriving Repr, DecidableEq

/-- The beginning of a stage. -/
def Progress.begins (s : Stage) : Progress := ⟨s.name, s.before, Stage.all.length⟩

/-- The end of the last stage. -/
def Progress.complete : Progress := ⟨"complete", Stage.all.length, Stage.all.length⟩

/-- What happens during a survey. -/
inductive SurveyEvent where
  | logged (record : LogRecord)
  | reached (progress : Progress)
deriving Repr, DecidableEq

/-! ## Failures -/

/-- Why there is no survey. -/
inductive SurveyFailure where
  | missing (path : Text)
  | notFolder (path : Text)
  /-- The path begins with a tilde that stands for no folder. -/
  | noHome
  /-- The path cannot be looked up. -/
  | refused (error : OsError)
  | settings (failure : SettingsFailure)
  /-- The folders nest deeper than a walk may go. -/
  | tooDeep
  | manifest (failure : ManifestFailure)
deriving Repr, DecidableEq

/-- The message of a failure. -/
def SurveyFailure.message : SurveyFailure → Text
  | missing path => "Repository path does not exist: ".toList ++ path
  | notFolder path => "Repository path is not a directory: ".toList ++ path
  | noHome => "Could not determine home directory."
  | refused error => error.description
  | settings failure => failure.message
  | tooDeep => "The folders nest too deep"
  | manifest (.beyond .digits) => "A manifest holds an integer that is too long"
  | manifest (.beyond .nesting) => "A manifest nests too deep"
  | manifest .notAList => "A manifest gives something else than a list"
  | manifest (.refused error) => error.description

/-! ## The run -/

/-- Work on a survey. -/
abbrev Surveying (α : Type) := Traced SurveyEvent SurveyFailure α

namespace Survey

/-- A record of progress. -/
def inform (message : Text) : Surveying Unit := Traced.note (.logged (.info "engine" message))

/-- Some records of details. -/
def details (rs : List LogRecord) : Surveying Unit := Traced.noteAll (rs.map .logged)

/-- Announces a stage. -/
def announce (s : Stage) : Surveying Unit := do
  inform ("Stage ".toList ++ Text.ofNat (s.before + 1) ++ '/' :: Text.ofNat Stage.all.length ++
    ": ".toList ++ s.name)
  Traced.note (.reached (.begins s))

/-- Work on manifests as a part of the survey. -/
def withManifests {α : Type} (x : Logged ManifestFailure α) : Surveying α :=
  x.convert .logged .manifest

/-- The folder that a path leads to. The system is not even asked for a path that has a character
zero. -/
def rootOf [Host] (fs : FileSystem) (here : Location) (path : Text) :
    Except SurveyFailure Location :=
  match Path.expanded? path with
  | none => .error .noHome
  | some path =>
    if path.contains '\x00' then .error (.missing (Path.normal path))
    else match fs.stat here path with
      | .ok (l, .folder _) => .ok l
      | .ok _ => .error (.notFolder (Path.normal path))
      | .error .nameTooLong => .error (.refused .nameTooLong)
      | .error _ => .error (.missing (Path.normal path))

/-- The settings of a survey: the given ones, with those of the repository if they are asked for,
and with the overrides on top. -/
def settingsOf [Host] (fs : FileSystem) (root : Location) (s : Settings) (useFile : Bool)
    (o : Overrides) : Except SurveyFailure Settings :=
  if useFile then
    match Settings.load fs root root.path s with
    | .ok s => .ok (s.override o)
    | .error e => .error (.settings e)
  else .ok (s.override o)

/-- The notes on a snapshot. -/
def walkNotes (fs : FileSystem) (s : Settings) (snap : Snapshot) : List LogRecord :=
  let w := Walk.ofSettings fs snap.root s .byPath
  let entries := Entry.folder (Walk.rootEntries fs snap.root)
  let skipped := (w.blocked s.maxDepth.toNat [] entries).map fun (path, e) =>
    LogRecord.debug "walker" ("Skipping inaccessible entry ".toList ++ path ++ ": ".toList ++
      e.message (Location.path (snap.root ++ Path.parts path)))
  skipped ++
    [.debug "walker" ("Walker discovered ".toList ++ Text.ofNat snap.files.length ++
        " files under ".toList ++ snap.root.path),
      .debug "engine" ("Walked ".toList ++ Text.ofNat snap.files.length ++ " files".toList)]

/-- The snapshot of a folder, if its folders nest no deeper than a walk may go. -/
def walk [Host] (fs : FileSystem) (root : Location) (s : Settings) : Surveying Snapshot :=
  let snap := Snapshot.take fs root s
  if snap.tree.depth ≤ Host.treeRoom snap.tree then pure snap else .fail .tooDeep

theorem walk_bind [Host] {α : Type} (fs : FileSystem) (root : Location) (s : Settings)
    (f : Snapshot → Surveying α) :
    (walk fs root s >>= f) =
      let snap := Snapshot.take fs root s
      if snap.tree.depth ≤ Host.treeRoom snap.tree then f snap else .fail .tooDeep := by
  simp only [walk]
  split <;> rfl

/-- The survey of a folder under some settings. -/
def ofRoot [Host] (fs : FileSystem) (root : Location) (s : Settings) :
    Surveying (Survey Float) := do
  inform ("Analyzing ".toList ++ root.path)
  announce .walk
  let snap ← walk fs root s
  let read := fs.readSource root (some s.maxFileSize)
  details (walkNotes fs s snap)
  announce .technologies
  let technologies ← withManifests (TechnologyProfile.detect fs root snap.files)
  announce .layout
  let layout ← withManifests (Layout.infer Float fs root s read snap.files)
  announce .examples
  let excerpts := ExcerptSet.select s read snap.files
  details (ExcerptSet.notes s read snap.files)
  announce .patterns
  let idioms := surveyIdioms read snap.files
  details (idiomNotes read snap.files)
  announce .quality
  let quality : QualityFigures Float := measureQuality s read snap.files
  details (qualitySkips s read snap.files ++ [quality.note])
  announce .insights
  let insights := Insights.ofFindings
    ⟨technologies, layout.testFrameworks, idioms.map (·.name), quality⟩
  Traced.note (.reached .complete)
  inform ("Analysis complete: ".toList ++ Text.ofNat snap.files.length ++ " files, ".toList ++
    Text.ofNat idioms.length ++ " patterns, ".toList ++ Text.ofNat excerpts.all.length ++
    " examples".toList)
  return {
    name := root.getLastD []
    path := root.path
    technologies := technologies
    layout := layout
    tree := snap.tree
    excerpts := excerpts
    idioms := idioms
    quality := quality
    insights := insights }

/-- The survey of the folder that a path leads to. -/
def run [Host] (fs : FileSystem) (here : Location) (path : Text) (s : Settings)
    (useFile : Bool) (o : Overrides) : Surveying (Survey Float) := do
  let root ← Traced.ofExcept (rootOf fs here path)
  let s ← Traced.ofExcept (settingsOf fs root s useFile o)
  ofRoot fs root s

end Survey

/-- The progress among some events. -/
def progressOf (events : List SurveyEvent) : List Progress :=
  events.filterMap fun e =>
    match e with
    | .reached p => some p
    | .logged _ => none

end CodeSurvey
