import CodeSurvey.Layout.Markers
import CodeSurvey.Log.Skipped
import CodeSurvey.Manifest.Package
import CodeSurvey.Manifest.Python
import CodeSurvey.Quantity
import CodeSurvey.Source.Language
import CodeSurvey.Tree.Walk

/-!
# Inferring the layout

What a project is, how it is put together and built, how it is tested and how well it is
documented, told by what is present at its root, by its manifests and by the comments in some of its
files.

## Main definitions

* `Surroundings`: the manifests and the markers that are present.
* `Surroundings.projectType`, `architecture`, `buildSystems`, `packageManager`, `testFrameworks`.
* `sampledCommentRatio`, `documentationLevel`.
* `Layout`, `Layout.infer`.
-/

namespace CodeSurvey

/-- The manifests of a repository and the markers that are present in it. -/
structure Surroundings where
  package : PackageManifest
  python : PythonManifest
  hasMarker : Text → Bool

/-- What a project is for: one kind, both ends of one, or not known. -/
inductive ProjectType where
  | only (kind : ProjectKind)
  | fullstack
  | unknown
deriving Repr, DecidableEq

/-- The name of a project type. -/
def ProjectType.name : ProjectType → Text
  | only kind => kind.name
  | fullstack => "fullstack"
  | unknown => "unknown"

namespace Surroundings

/-- Whether a Node package is named. -/
def hasPackage (s : Surroundings) (name : Text) : Bool := Table.has s.package.dependencies name

/-- Whether a Python package is named. -/
def hasPythonPackage (s : Surroundings) (name : Text) : Bool := s.python.dependencies.contains name

/-! ## The kind of project -/

/-- The points of a kind: one for a marker, two for a package. -/
def kindScore (s : Surroundings) (kind : ProjectKind) : Nat :=
  kind.markers.countP s.hasMarker + 2 * kind.packages.countP s.hasPackage +
    2 * kind.pythonPackages.countP s.hasPythonPackage

/-- The kind with the most points. A project with both ends is more than one kind. -/
def projectType (s : Surroundings) : ProjectType :=
  let best := (ProjectKind.all.map s.kindScore).foldl max 0
  if best = 0 then .unknown
  else if 0 < s.kindScore .frontend ∧ 0 < s.kindScore .backend then .fullstack
  else match ProjectKind.all.find? fun kind => s.kindScore kind == best with
    | some kind => .only kind
    | none => .unknown

/-! ## Architecture -/

/-- The marks of an architecture. -/
def architectureScore (s : Surroundings) (r : ArchitectureRule) : Nat :=
  r.markers.countP s.hasMarker +
    if r.packages.any fun p => s.hasPackage p || s.hasPythonPackage p then 2 else 0

/-- The first architecture with two marks. A server and a client in one package are a monolith,
whatever else is present. -/
def architecture (s : Surroundings) : Architecture :=
  if s.hasPackage "express" && s.hasPackage "react" then .monolith
  else match architectureRules.find? fun r => 2 ≤ s.architectureScore r with
    | some r => r.architecture
    | none => .monolith

/-! ## Tools -/

/-- The names of a table whose test succeeds, those that are listed already left out. -/
def addWhere {β : Type} (listed : List Text) (table : List (Text × β)) (test : β → Bool) :
    List Text :=
  table.foldl (fun names (name, b) =>
    if test b && !names.contains name then names ++ [name] else names) listed

/-- The build systems whose files are present or that a script mentions. -/
def buildSystems (s : Surroundings) : List Text :=
  let byFile := (buildSystemFiles.filter fun (_, files) => files.any s.hasMarker).map (·.1)
  let scripts := Text.joinWith [' '] (Table.names s.package.scripts ++ s.package.scripts.map (·.2))
  addWhere byFile scriptBuildSystems fun needle => Text.occursIn needle scripts

/-- The package manager: that of the first lock file, else that of the first manifest. -/
def packageManager (s : Surroundings) : Text :=
  match lockFiles.find? fun (_, file) => s.hasMarker file with
  | some (name, _) => name
  | none =>
    if s.hasMarker "package.json" then "npm"
    else match packageManagerFiles.find? fun (_, files) => files.any s.hasMarker with
      | some (name, _) => name
      | none => "unknown"

/-- The test frameworks that a package or a file shows. -/
def testFrameworks (s : Surroundings) : List Text :=
  let byPackage := (testPackages.filter fun (_, ps) => ps.any s.hasPackage).map (·.1)
  let byPython := (testPythonPackages.filter fun (_, ps) => ps.any s.hasPythonPackage).map (·.1)
  addWhere (byPackage ++ byPython) testFiles fun files => files.any s.hasMarker

end Surroundings

/-! ## Documentation -/

variable {α : Type} [Quantity α]

/-- The number of files of each suffix whose comments are counted. -/
def samplesPerSuffix : Nat := 3

/-- The files whose comments are counted. -/
def documentationSample (limit : Int) (files : List Text) : List Text :=
  Text.upTo limit (sampledSuffixes.flatMap fun s =>
    (files.filter fun p => Path.suffix p == s).take samplesPerSuffix)

/-- The part of the lines of a file that are comments. -/
def commentRatio (path content : Text) : α :=
  let ls := Text.lines content
  Quantity.ratio (ls.countP (isComment (.ofLanguage (Language.ofPath path)))) ls.length

/-- The mean comment ratio of the sampled files that can be read, if there are some. -/
def sampledCommentRatio (read : Text → Except ReadFailure Text) (limit : Int) (files : List Text) :
    Option α :=
  let ratios : List α := (documentationSample limit files).filterMap fun p =>
    (read p).toOption.map (commentRatio p)
  if ratios.isEmpty then none else some (Quantity.sum ratios / (ratios.length : α))

/-- How well a project is documented. -/
inductive DocumentationLevel where
  | poor
  | moderate
  | good
  | excellent
deriving Repr, DecidableEq

/-- The name of a level. -/
def DocumentationLevel.name : DocumentationLevel → Text
  | poor => "poor"
  | moderate => "moderate"
  | good => "good"
  | excellent => "excellent"

/-- The place of a level, counted from one. -/
def DocumentationLevel.rank : DocumentationLevel → Nat
  | poor => 1
  | moderate => 2
  | good => 3
  | excellent => 4

/-- The level for some points. -/
def DocumentationLevel.ofScore (score : Nat) : DocumentationLevel :=
  if 8 ≤ score then excellent
  else if 5 ≤ score then good
  else if 2 ≤ score then moderate
  else poor

/-- The points for documents, comments and descriptions. -/
def documentationScore (s : Surroundings) (ratio : Option α) : Nat :=
  let point (b : Bool) : Nat := if b then 1 else 0
  (if readmeFiles.any s.hasMarker then 2 else 0) + auxiliaryDocs.countP s.hasMarker +
    point (ratio.any (Quantity.below (Quantity.tenths 1))) +
    point (ratio.any (Quantity.below (Quantity.tenths 2))) +
    point (!s.package.description.isEmpty || !s.python.description.isEmpty) +
    point (!s.package.keywords.isEmpty || !s.python.keywords.isEmpty)

/-! ## The layout -/

/-- What is inferred about a project as a whole. -/
structure Layout where
  projectType : ProjectType
  architecture : Architecture
  buildSystems : List Text
  packageManager : Text
  testFrameworks : List Text
  documentation : DocumentationLevel
  importantFiles : List Text
deriving Repr, DecidableEq

namespace Layout

/-- The layout that some surroundings and a comment ratio show. -/
def ofSurroundings (s : Surroundings) (ratio : Option α) : Layout where
  projectType := s.projectType
  architecture := s.architecture
  buildSystems := s.buildSystems
  packageManager := s.packageManager
  testFrameworks := s.testFrameworks
  documentation := .ofScore (documentationScore s ratio)
  importantFiles := CodeSurvey.importantFiles.filter s.hasMarker

/-- A note of the inference. -/
def note (message : Text) : LogRecord := .debug "analyzers.structure" message

/-- The note on what was inferred. -/
def resultNote (l : Layout) : LogRecord :=
  note ("Structure: type=".toList ++ l.projectType.name ++ " architecture=".toList ++
    l.architecture.name ++ " package_manager=".toList ++ l.packageManager ++
    " documentation=".toList ++ l.documentation.name)

/-- The layout of a repository with the given files, of which `read` gives the texts. -/
def infer [Host] (α : Type) [Quantity α] (fs : FileSystem) (root : Location)
    (settings : Settings) (read : Text → Except ReadFailure Text) (files : List Text) :
    Logged ManifestFailure Layout := do
  let package ← PackageManifest.read fs root
  let python ← PythonManifest.read fs root
  let limit := settings.documentationSampleLimit
  Traced.noteAll (skipNotes "analyzers.structure" "documentation sampling" read
    (documentationSample limit files))
  let ratio : Option α := sampledCommentRatio read limit files
  let layout := ofSurroundings ⟨package, python, fs.hasMarker root⟩ ratio
  Traced.note (resultNote layout)
  return layout

end Layout
end CodeSurvey
