import CodeSurvey.Manifest.Basic
import CodeSurvey.Toml.Document
import CodeSurvey.Text.Lower

/-!
# Python packages

Dependencies are gathered from `requirements.txt`, `Pipfile` and `pyproject.toml`, as names in small
letters. The interpreter itself is no dependency.

## Main definitions

* `requirementName`, `requirements`: names from requirement lines.
* `pipfileNames`, `projectNames`: names from the two other manifests.
* `PythonManifest`, `PythonManifest.read`.
-/

namespace CodeSurvey

/-! ## Requirements -/

/-- The characters that end the name of a requirement. -/
def endsName (c : Char) : Bool :=
  ['<', '>', '=', '!', '~', ';', '[', '@'].contains c || Text.isBlank c

/-- The name at the start of a requirement. -/
def requirementName (requirement : Text) : Text :=
  Text.trim ((Text.trim requirement).takeWhile fun c => !endsName c)

/-- Whether a line holds no requirement: blank lines, comments and options. -/
def isAside (line : Text) : Bool :=
  match Text.trim line with
  | [] => true
  | c :: _ => c == '#' || c == '-'

/-- The names of some requirements in small letters, those without a name left out. -/
def namesOf (entries : List Text) : List Text :=
  ((entries.map requirementName).filter fun name => !name.isEmpty).map Text.lower

/-- The names in a list of requirements, one to a line, in order and with repetitions. -/
def requirements (t : Text) : List Text :=
  namesOf ((Text.splitLines t).filter fun line => !isAside line)

/-! ## Tables -/

/-- The names of a table; anything else has none. -/
def tableNames (v : Option Toml) : List Text := ((v.bind Toml.members?).getD []).map (·.1)

/-- The dependencies of a Pipfile. -/
def pipfileNames (v : Toml) : List Text :=
  (tableNames (v.member? "packages") ++ tableNames (v.member? "dev-packages")).map Text.lower

/-- What a value lists. A value that is absent or says nothing lists nothing; one that is given and
cannot list anything is a failure. -/
def listed (v : Option Toml) : Except ManifestFailure (List Toml) :=
  match v with
  | none => .ok []
  | some v => if v.isTrue then v.entries?.elim (.error .notAList) .ok else .ok []

/-- What some values list, one after the other. -/
def listedAll : List Toml → Except ManifestFailure (List Toml)
  | [] => .ok []
  | v :: rest =>
    match listed (some v) with
    | .error e => .error e
    | .ok items =>
      match listedAll rest with
      | .error e => .error e
      | .ok more => .ok (items ++ more)

/-- The entries that a project lists as dependencies, required or optional. -/
def projectEntries (v : Toml) : Except ManifestFailure (List Toml) :=
  match v.member? "project" with
  | some (.table project) =>
    match listed (Table.get? project "dependencies") with
    | .error e => .error e
    | .ok required =>
      let groups := ((Table.get? project "optional-dependencies").bind Toml.members?).getD []
      match listedAll (groups.map (·.2)) with
      | .error e => .error e
      | .ok optional => .ok (required ++ optional)
  | _ => .ok []

/-- The names that a Poetry section gives dependencies, in its groups too. -/
def poetryNames (v : Toml) : List Text :=
  match (v.member? "tool").bind (·.member? "poetry") with
  | some poetry =>
    let groups := ((poetry.member? "group").bind Toml.members?).getD []
    tableNames (poetry.member? "dependencies") ++ tableNames (poetry.member? "dev-dependencies") ++
      groups.flatMap fun (_, group) => tableNames (group.member? "dependencies")
  | none => []

/-- The dependencies that a project file names. -/
def projectNames (v : Toml) : Except ManifestFailure (List Text) :=
  (projectEntries v).map fun entries => namesOf (entries.filterMap Toml.text? ++ poetryNames v)

/-! ## The manifest -/

/-- The Python dependencies, the manifests that they were read from, and how the project is
described. -/
structure PythonManifest where
  dependencies : List Text := []
  sources : List Text := []
  description : Text := []
  keywords : List Text := []
deriving Repr, DecidableEq

namespace PythonManifest

/-- Two manifests as one; the description and the keywords are those of the second. -/
def append (a b : PythonManifest) : PythonManifest :=
  ⟨a.dependencies ++ b.dependencies, a.sources ++ b.sources, b.description, b.keywords⟩

/-- What a list of requirements says. -/
def ofRequirements (t : Text) : PythonManifest :=
  { dependencies := requirements t, sources := ["requirements.txt"] }

/-- What a Pipfile says. -/
def ofPipfile [Host] (t : Text) : Logged ManifestFailure PythonManifest :=
  match Toml.parse t with
  | .ok v => pure { dependencies := pipfileNames v, sources := ["Pipfile"] }
  | .error fault => Manifest.unread "Pipfile" "TOML" fault {}

/-- The first limit that is met where some keywords are written out, one after the other. -/
def firstLimitMet? [Host] (keywords : List Toml) : Option Limit :=
  keywords.findSome? fun v => v.limitMet? (Host.writingRoom v)

/-- What a project file says. -/
def ofProject [Host] (t : Text) : Logged ManifestFailure PythonManifest :=
  match Toml.parse t with
  | .ok v =>
    match projectNames v with
    | .error e => .fail e
    | .ok names =>
      let project := v.member? "project"
      let keywords := ((project.bind (·.member? "keywords")).bind Toml.items?).getD []
      match firstLimitMet? keywords with
      | some limit => .fail (.beyond limit)
      | none => pure {
          dependencies := names
          sources := ["pyproject.toml"]
          description := ((project.bind (·.member? "description")).bind Toml.text?).getD []
          keywords := keywords.map Toml.plain }
  | .error fault => Manifest.unread "pyproject.toml" "TOML" fault {}

/-- What a manifest of the given name says, nothing if there is none. -/
def part (fs : FileSystem) (root : Location) (name : Text)
    (read : Text → Logged ManifestFailure PythonManifest) :
    Logged ManifestFailure PythonManifest := do
  match ← Manifest.text? fs root name with
  | some t => read t
  | none => pure {}

/-- The manifest of a folder. Every name is kept once, in the order of code points. -/
def read [Host] (fs : FileSystem) (root : Location) : Logged ManifestFailure PythonManifest := do
  let requirements ← part fs root "requirements.txt" fun t => pure (ofRequirements t)
  let pipfile ← part fs root "Pipfile" ofPipfile
  let project ← part fs root "pyproject.toml" ofProject
  let all := (requirements.append pipfile).append project
  pure { all with
    dependencies := Text.sort (all.dependencies.filter (· != "python".toList)).eraseDups }

end PythonManifest
end CodeSurvey
