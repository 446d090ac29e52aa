import CodeSurvey.Text.Basic

/-!
# Settings

A survey is steered by limits and by the patterns of the paths that it ignores. Settings are
overridden field by field; what is not given stays as it was.

## Main definitions

* `Settings`, `Settings.standard`: the settings and their usual values.
* `Overrides`, `Settings.override`: new values for some of the fields.
-/

namespace CodeSurvey

/-- The patterns that are ignored unless others are given. -/
def standardIgnorePatterns : List Text := [
  ".git", ".hg", ".svn", "node_modules", ".venv", "venv", "__pycache__", ".pytest_cache",
  ".mypy_cache", ".vscode", ".idea", "coverage", "dist", "build", ".next", ".cache", "logs",
  "*.log", ".DS_Store", "Thumbs.db"]

/-- The settings of one survey. -/
structure Settings where
  /-- How many folders deep the tree is walked. -/
  maxDepth : Int
  /-- The patterns of ignored paths. -/
  ignorePatterns : List Text
  /-- How many examples each category keeps. -/
  maxExamples : Int
  /-- The size limit of source files, in units of 1024 bytes. -/
  maxFileSizeKb : Int
  /-- How many files the quality figures and each category's examples are taken from. -/
  qualitySampleLimit : Int
  /-- How many files the comment ratio of the documentation is taken from. -/
  documentationSampleLimit : Int
deriving Repr, DecidableEq

namespace Settings

/-- The usual settings. -/
def standard : Settings := ⟨8, standardIgnorePatterns, 5, 1000, 500, 10⟩

/-- The size limit of source files in bytes. -/
def maxFileSize (s : Settings) : Int := s.maxFileSizeKb * 1024

end Settings

/-! ## Overrides -/

/-- The fields that hold a number. -/
inductive NumberField where
  | maxDepth
  | maxExamples
  | maxFileSizeKb
  | qualitySampleLimit
  | documentationSampleLimit
deriving Repr, DecidableEq

namespace NumberField

/-- The name of a field, as configuration files spell it. -/
def name : NumberField → Text
  | maxDepth => "max_depth"
  | maxExamples => "max_examples_per_category"
  | maxFileSizeKb => "max_file_size_kb"
  | qualitySampleLimit => "quality_sample_limit"
  | documentationSampleLimit => "documentation_sample_limit"

/-- The fields in the order of their names. -/
def byName : List NumberField :=
  [documentationSampleLimit, maxDepth, maxExamples, maxFileSizeKb, qualitySampleLimit]

end NumberField

/-- The name of the field that holds the ignored patterns. -/
def ignoreFieldName : Text := "ignore_patterns"

/-- New values for some of the fields. -/
structure Overrides where
  numbers : NumberField → Option Int := fun _ => none
  ignorePatterns : Option (List Text) := none

namespace Overrides

/-- No new values. -/
def none : Overrides := {}

/-- A new value for a field that holds a number. -/
def setNumber (o : Overrides) (f : NumberField) (n : Int) : Overrides :=
  { o with numbers := fun g => if g = f then some n else o.numbers g }

/-- New patterns of ignored paths. -/
def setIgnore (o : Overrides) (patterns : List Text) : Overrides :=
  { o with ignorePatterns := some patterns }

end Overrides

namespace Settings

/-- The number that a field holds. -/
def number (s : Settings) : NumberField → Int
  | .maxDepth => s.maxDepth
  | .maxExamples => s.maxExamples
  | .maxFileSizeKb => s.maxFileSizeKb
  | .qualitySampleLimit => s.qualitySampleLimit
  | .documentationSampleLimit => s.documentationSampleLimit

/-- The settings with new values for some of the fields. -/
def override (s : Settings) (o : Overrides) : Settings where
  maxDepth := (o.numbers .maxDepth).getD s.maxDepth
  ignorePatterns := o.ignorePatterns.getD s.ignorePatterns
  maxExamples := (o.numbers .maxExamples).getD s.maxExamples
  maxFileSizeKb := (o.numbers .maxFileSizeKb).getD s.maxFileSizeKb
  qualitySampleLimit := (o.numbers .qualitySampleLimit).getD s.qualitySampleLimit
  documentationSampleLimit := (o.numbers .documentationSampleLimit).getD s.documentationSampleLimit

theorem number_override (s : Settings) (o : Overrides) (f : NumberField) :
    (s.override o).number f = (o.numbers f).getD (s.number f) := by cases f <;> rfl

@[simp] theorem override_none (s : Settings) : s.override .none = s := rfl

end Settings
end CodeSurvey
