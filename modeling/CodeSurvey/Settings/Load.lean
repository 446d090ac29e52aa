import CodeSurvey.FileSystem.Read
import CodeSurvey.Host
import CodeSurvey.Settings.Basic

/-!
# Loading settings

A repository may hold a file of settings. Fields that it does not give keep their values; patterns
given as extra ones are added to those that are in force. What the library for YAML reads in the
file is checked; what it calls no YAML is told to the user, and any other failure of it is not.

## Main definitions

* `SettingsFailure`: why settings are not loaded, with the message of each failure.
* `Settings.overridesOf s v`: the new values that a document gives.
* `Settings.load fs here path s`: the settings of a folder, or in a file.
-/

namespace CodeSurvey

/-- The name of the file of settings. -/
def settingsFileName : Text := ".repoprofile.yml"

/-- The name of the field that holds patterns to be added. -/
def extraFieldName : Text := "extra_ignore_patterns"

/-- Why settings are not loaded. -/
inductive SettingsFailure where
  /-- The file cannot be read. -/
  | unreadable (name : Text) (error : OsError) (path : Text)
  /-- The file is no YAML. -/
  | unparsable (name : Text)
  | notMapping
  | notInteger (field : Text)
  | negative (field : Text)
  | notTexts (field : Text)
  /-- The file is no text. -/
  | notUtf8
  /-- The library for YAML fails in another way than by calling the file no YAML. -/
  | unread (fault : Yaml.Fault)
  /-- The file is a link that leads nowhere but to itself. -/
  | linkLoop
  /-- The path cannot be looked up. -/
  | refused (error : OsError)
deriving Repr, DecidableEq

namespace SettingsFailure

/-- Whether a failure is told to the user as a fault of the file of settings. -/
def isReported : SettingsFailure → Bool
  | notUtf8 | unread _ | linkLoop | refused _ => false
  | _ => true

/-- The message of a failure. -/
def message : SettingsFailure → Text
  | unreadable name error path =>
    "Failed to read ".toList ++ name ++ ": ".toList ++ error.message path
  | unparsable name => "Failed to parse ".toList ++ name
  | notMapping => settingsFileName ++ " must contain a mapping at the root".toList
  | notInteger field => field ++ " must be an integer".toList
  | negative field => field ++ " must not be negative".toList
  | notTexts field => field ++ " must be a list of strings".toList
  | notUtf8 => "The file of settings is no text"
  | unread _ => "The library for YAML fails on the file of settings"
  | linkLoop => "The file of settings is a link to itself"
  | refused error => error.description

end SettingsFailure

/-! ## Values -/

/-- The number that a field is given; it is not negative. -/
def fieldNumber (field : Text) (v : Yaml) : Except SettingsFailure Int :=
  match v with
  | .int n => if n < 0 then .error (.negative field) else .ok n
  | _ => .error (.notInteger field)

/-- The texts that a field is given: one, or a list, of which blank items are left out. -/
def fieldTexts (field : Text) (v : Yaml) : Except SettingsFailure (List Text) :=
  match v with
  | .null => .ok []
  | .string t => .ok [t]
  | .list items =>
    if items.all Yaml.isString then
      .ok ((items.filterMap Yaml.text?).filter fun t => !Text.isBlankLine t)
    else .error (.notTexts field)
  | _ => .error (.notTexts field)

/-- The numbers that some entries give to the fields, one field after the other. -/
def fieldNumbers (entries : List (Yaml × Yaml)) :
    List NumberField → Overrides → Except SettingsFailure Overrides
  | [], o => .ok o
  | f :: rest, o =>
    match Yaml.lookup? entries f.name with
    | none => fieldNumbers entries rest o
    | some v =>
      match fieldNumber f.name v with
      | .error e => .error e
      | .ok n => fieldNumbers entries rest (o.setNumber f n)

/-- Patterns with others added that are not among them. -/
def addPatterns (current extra : List Text) : List Text :=
  current ++ extra.filter fun p => !current.contains p

namespace Settings

/-- The patterns that some entries put in force, if they give any. -/
def patternsOf (s : Settings) (entries : List (Yaml × Yaml)) :
    Except SettingsFailure (Option (List Text)) := do
  let given ← match Yaml.lookup? entries ignoreFieldName with
    | none => pure none
    | some v => (fieldTexts ignoreFieldName v).map some
  let extra ← fieldTexts extraFieldName ((Yaml.lookup? entries extraFieldName).getD .null)
  if extra.isEmpty then return given
  else return some (addPatterns (given.getD s.ignorePatterns) extra)

/-- The new values that a document gives; a document of nothing gives none. -/
def overridesOf (s : Settings) (v : Yaml) : Except SettingsFailure Overrides :=
  match v with
  | .null => .ok .none
  | .mapping entries => do
    let o ← fieldNumbers entries NumberField.byName .none
    match ← s.patternsOf entries with
    | none => return o
    | some patterns => return o.setIgnore patterns
  | _ => .error .notMapping

/-! ## Files -/

/-- The document in a file. -/
def documentOf [Host] (name : Text) (content : ByteArray) : Except SettingsFailure Yaml :=
  match FileSystem.textOf content with
  | .error _ => .error .notUtf8
  | .ok t =>
    if Text.isBlankLine t then .ok .null
    else match Host.readYaml t with
      | .ok v => .ok v
      | .error .malformed => .error (.unparsable name)
      | .error fault => .error (.unread fault)

/-- The settings with the new values that a file gives. -/
def ofFile [Host] (s : Settings) (name : Text) (content : ByteArray) :
    Except SettingsFailure Settings := do
  let v ← documentOf name content
  return s.override (← s.overridesOf v)

/-- The settings in force for a path, which leads to a folder or to a file of settings and asks for
no home folder. Without a file they stay as they are. -/
def load [Host] (fs : FileSystem) (here : Location) (path : Text) (s : Settings) :
    Except SettingsFailure Settings :=
  let file := if fs.isFolder here path then Path.child path settingsFileName else path
  match fs.stat here file with
  | .ok (l, .file content) => s.ofFile (l.getLastD []) content
  | .ok (l, _) => .error (.unreadable (l.getLastD []) .isFolder l.path)
  | .error .linkLoop => .error .linkLoop
  | .error .nameTooLong => .error (.refused .nameTooLong)
  | .error _ => .ok s

end Settings
end CodeSurvey
