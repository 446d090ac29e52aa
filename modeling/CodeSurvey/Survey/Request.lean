import CodeSurvey.Survey.Run

/-!
# Requests for a survey

A caller gives new values by the names of the fields. A value under a name that no field has is
refused, but only after the folder was found and the settings of the repository were loaded.

## Main definitions

* `NamedOverrides`, `NamedOverrides.read`: new values as a caller gives them.
* `RequestFailure`: why a request comes to no survey.
* `Survey.prepare`: the folder and the settings of a survey; `Survey.request`: the survey.
-/

namespace CodeSurvey

/-- New values, given by name. -/
structure NamedOverrides where
  /-- The values of the fields. -/
  fields : Overrides := .none
  /-- The names under which a value is given though no field has them, in order. -/
  strays : List Text := []

/-- Why a request comes to no survey. -/
inductive RequestFailure where
  | survey (failure : SurveyFailure)
  /-- A value is given under a name that no field has. -/
  | stray (name : Text)
deriving Repr, DecidableEq

/-- The new values, if all names are those of fields. -/
def NamedOverrides.read (o : NamedOverrides) : Except RequestFailure Overrides :=
  match o.strays with
  | [] => .ok o.fields
  | name :: _ => .error (.stray name)

namespace Survey

/-- The folder and the settings of the survey that is asked for. -/
def prepare [Host] (fs : FileSystem) (here : Location) (path : Text) (s : Settings)
    (useFile : Bool) (o : NamedOverrides) : Except RequestFailure (Location × Settings) := do
  let root ← (rootOf fs here path).mapError .survey
  let s ← (settingsOf fs root s useFile .none).mapError .survey
  return (root, s.override (← o.read))

/-- The survey that is asked for. -/
def request [Host] (fs : FileSystem) (here : Location) (path : Text) (s : Settings)
    (useFile : Bool) (o : NamedOverrides) : Traced SurveyEvent RequestFailure (Survey Float) := do
  let (root, s) ← Traced.ofExcept (prepare fs here path s useFile o)
  (ofRoot fs root s).convert id .survey

theorem settingsOf_eq_map [Host] (fs : FileSystem) (root : Location) (s : Settings) (useFile : Bool)
    (o : Overrides) :
    settingsOf fs root s useFile o = (settingsOf fs root s useFile .none).map (·.override o) := by
  unfold settingsOf
  split
  · cases Settings.load fs root root.path s <;> rfl
  · rfl

theorem prepare_of_root [Host] {fs : FileSystem} {here root : Location} {path : Text}
    (hroot : rootOf fs here path = .ok root) (s : Settings) (useFile : Bool) (o : NamedOverrides) :
    prepare fs here path s useFile o =
      ((settingsOf fs root s useFile .none).mapError .survey >>= fun s =>
        o.read >>= fun o => pure (root, s.override o)) := by
  rw [prepare, hroot]
  rfl

/-- A request whose names are all those of fields is a survey under these overrides. -/
theorem request_of_fields [Host] (fs : FileSystem) (here : Location) (path : Text) (s : Settings)
    (useFile : Bool) (o : Overrides) :
    request fs here path s useFile ⟨o, []⟩ = (run fs here path s useFile o).convert id .survey := by
  cases hroot : rootOf fs here path with
  | error e =>
      rw [request, prepare, run, hroot]
      rfl
  | ok root =>
      rw [request, prepare_of_root hroot, run, hroot, Traced.ofExcept_ok_bind,
        settingsOf_eq_map fs root s useFile o]
      cases settingsOf fs root s useFile .none with
      | error e => rfl
      | ok found => rfl

end Survey
end CodeSurvey
