import CodeSurvey.Manifest.Package
import CodeSurvey.Manifest.Python
import CodeSurvey.Path.Basic
import CodeSurvey.Technology.Basic
import CodeSurvey.Technology.Rules

/-!
# Detecting technologies

Every row of a table that finds packages or markers gives a detection for each kind of evidence; the
detections of one name are then merged and ranked.

## Main definitions

* `detectLanguages files`: languages by the number of their files.
* `detectByRules rules e`: technologies by packages and markers.
* `TechnologyProfile`, `TechnologyProfile.detect`: all technologies of a repository.
-/

namespace CodeSurvey

variable {α : Type} [Quantity α]

/-! ## Languages -/

/-- The suffixes of some files in small letters; files without a suffix are left out. -/
def suffixesOf (files : List Text) : List Text :=
  (files.filter fun p => !(Path.suffix p).isEmpty).map Path.lowerSuffix

/-- The number of files that a language rule counts. -/
def LanguageRule.count (r : LanguageRule) (suffixes : List Text) : Nat :=
  (r.suffixes.map fun s => suffixes.count s).foldr (· + ·) 0

/-- The language of a rule, if some file has one of its suffixes. Ten files are full evidence. -/
def LanguageRule.detect? (r : LanguageRule) (suffixes : List Text) : Option (Technology α) :=
  let found := r.suffixes.filter suffixes.contains
  if found.isEmpty then none
  else
    let count := r.count suffixes
    some {
      name := r.name
      confidence := Quantity.least (Quantity.tenths r.ceiling) (Quantity.ratio count 10)
      evidence := ["Found ".toList ++ Text.ofNat count ++ ' ' :: Text.joinWith ", " found ++
        " files".toList]
      version := none }

/-- The languages of some files, in the order of the rules. -/
def detectLanguages (files : List Text) : List (Technology α) :=
  languageRules.filterMap fun r => r.detect? (suffixesOf files)

/-! ## Packages and markers -/

/-- What the rules are held against. -/
structure Evidence where
  package : PackageManifest
  python : PythonManifest
  hasMarker : Text → Bool

/-- The packages of a rule that the package manifest names. -/
def TechRule.foundPackages (r : TechRule) (e : Evidence) : List Text :=
  r.packages.filter (Table.has e.package.dependencies)

/-- The packages of a rule that the Python manifests name. -/
def TechRule.foundPythonPackages (r : TechRule) (e : Evidence) : List Text :=
  r.pythonPackages.filter e.python.dependencies.contains

/-- The markers of a rule that are there. -/
def TechRule.foundMarkers (r : TechRule) (e : Evidence) : List Text := r.markers.filter e.hasMarker

/-- The weight of some of the markers of a rule. -/
def TechRule.markerWeight (r : TechRule) (found : List Text) : α :=
  let weight : α := Quantity.tenths r.markerConfidence
  if r.proportional then weight * Quantity.ratio found.length r.markers.length else weight

/-- The detections of one rule, at most one for each kind of evidence. The version is that of the
first package found. -/
def TechRule.detections (r : TechRule) (e : Evidence) : List (Technology α) :=
  let packages := r.foundPackages e
  let pythonPackages := r.foundPythonPackages e
  let markers := r.foundMarkers e
  let detection (kind : String) (found : List Text) (confidence : α) (version : Option Text) :
      List (Technology α) :=
    if found.isEmpty then []
    else [⟨r.name, confidence, [kind.toList ++ Text.joinWith ", " found], version⟩]
  detection "Found packages: " packages (Quantity.tenths r.confidence)
      (packages.head?.bind (Table.get? e.package.dependencies)) ++
    detection "Found Python dependencies: " pythonPackages (Quantity.tenths r.confidence) none ++
    detection "Found indicator files: " markers (r.markerWeight markers) none

/-- The technologies that some rules find. -/
def detectByRules (rules : List TechRule) (e : Evidence) : List (Technology α) :=
  mergeAll (rules.flatMap fun r => r.detections e)

/-! ## Schemas -/

/-- Whether a file describes a database: by its suffix, its name or a folder above it. -/
def isSchemaFile (p : Text) : Bool :=
  Path.lowerSuffix p == ".sql".toList || Path.name p == "schema.rb".toList ||
    (Path.parts p).dropLast.contains "migrations".toList

/-- The files that describe a database. -/
def schemaFiles (files : List Text) : List Text := files.filter isSchemaFile

/-- A database of unknown kind, if some file describes one. -/
def schemaDatabase (files : List Text) : List (Technology α) :=
  let found := (schemaFiles files).length
  if found = 0 then []
  else [⟨"SQL Database", Quantity.tenths 6,
    ["Found ".toList ++ Text.ofNat found ++ " schema/migration files".toList], none⟩]

/-! ## The profile -/

/-- The technologies of a repository, each kind in rank order. -/
structure TechnologyProfile (α : Type) where
  languages : List (Technology α) := []
  frameworks : List (Technology α) := []
  databases : List (Technology α) := []
  tools : List (Technology α) := []
  libraries : List (Technology α) := []
deriving Repr, DecidableEq

namespace TechnologyProfile

/-- The technologies that some files and some evidence show. -/
def ofEvidence (files : List Text) (e : Evidence) : TechnologyProfile α where
  languages := rank (detectLanguages files)
  frameworks := rank (detectByRules frameworkRules e)
  databases := rank (detectByRules databaseRules e ++ schemaDatabase files)
  tools := rank (detectByRules toolRules e)
  libraries := rank (detectByRules libraryRules e)

/-- A note of the detection. -/
def note (message : Text) : LogRecord := .debug "analyzers.technology" message

/-- The note on where Python dependencies come from. -/
def sourcesNote (m : PythonManifest) : List LogRecord :=
  if m.sources.isEmpty then []
  else [note ("Python dependencies read from ".toList ++ Text.joinWith ", " m.sources)]

/-- The note on what was found. -/
def countNote (p : TechnologyProfile α) : LogRecord :=
  let part (n : Nat) (what : String) : Text := Text.ofNat n ++ ' ' :: what.toList
  note ("Detected ".toList ++ Text.joinWith ", " [
    part p.languages.length "languages", part p.frameworks.length "frameworks",
    part p.databases.length "databases", part p.tools.length "tools",
    part p.libraries.length "libraries"])

/-- The technologies of a repository with the given files. -/
def detect [Host] (fs : FileSystem) (root : Location) (files : List Text) :
    Logged ManifestFailure (TechnologyProfile α) := do
  let package ← PackageManifest.read fs root
  let python ← PythonManifest.read fs root
  Traced.noteAll (sourcesNote python)
  let profile := ofEvidence files ⟨package, python, fs.present root⟩
  Traced.note (countNote profile)
  return profile

end TechnologyProfile
end CodeSurvey
