import CodeSurvey.Json.Parser
import CodeSurvey.Manifest.Basic

/-!
# Node packages

What a survey takes from `package.json`: the dependencies with their versions, the scripts, and
whether the package is described. A manifest that cannot be understood counts as absent.

## Main definitions

* `PackageManifest`, `PackageManifest.ofJson`, `PackageManifest.read`.
-/

namespace CodeSurvey

/-- The parts of a package manifest that matter. -/
structure PackageManifest where
  dependencies : Table Text := []
  scripts : Table Text := []
  description : Text := []
  keywords : List Text := []
deriving Repr, DecidableEq

namespace PackageManifest

/-- Whether anything is known of the package. -/
def present (m : PackageManifest) : Bool :=
  !m.dependencies.isEmpty || !m.scripts.isEmpty || !m.description.isEmpty || !m.keywords.isEmpty

/-- The members of an object as texts; anything else has none. -/
def textMembers (v : Option Json) : Table Text :=
  ((v.bind Json.members?).getD []).map fun (name, v) => (name, v.plain)

/-- The parts of a manifest that is an object. Dependencies for development count like others. -/
def ofJson (v : Json) : PackageManifest where
  dependencies :=
    Table.ofList
      (textMembers (v.member? "dependencies") ++ textMembers (v.member? "devDependencies"))
  scripts := textMembers (v.member? "scripts")
  description := ((v.member? "description").bind Json.text?).getD []
  keywords := (((v.member? "keywords").bind Json.items?).getD []).map Json.plain

/-- The manifest in some text. -/
def ofText [Host] (t : Text) : Logged ManifestFailure PackageManifest :=
  match Json.parse t with
  | .ok (.object members) => pure (ofJson (.object members))
  | .ok _ => Manifest.ignore "package.json" "expected a JSON object" {}
  | .error fault => Manifest.unread "package.json" "JSON" fault {}

/-- The manifest of a folder. -/
def read [Host] (fs : FileSystem) (root : Location) : Logged ManifestFailure PackageManifest := do
  match ← Manifest.text? fs root "package.json" with
  | some t => ofText t
  | none => pure {}

end PackageManifest
end CodeSurvey
