import CodeSurvey.Decimal.Places
import CodeSurvey.FileSystem.Utf8
import CodeSurvey.Log.Skipped
import CodeSurvey.Quality.Duplicates
import CodeSurvey.Settings.Basic
import CodeSurvey.Source.Complexity

/-!
# Quality figures

The figures are averages and ratios of counts that are added up over the sampled files. Files that
cannot be read add nothing.

## Main definitions

* `SourceCounts`: the counts of one file or of several.
* `QualityFigures`, `QualityFigures.ofCounts`: the figures that counts give.
* `measureQuality read settings files`: the figures of a repository.
-/

namespace CodeSurvey

/-! ## Counts -/

/-- What is counted in files, and the keys of their windows. -/
structure SourceCounts where
  files : Nat := 0
  lines : Nat := 0
  bytes : Nat := 0
  comments : Nat := 0
  cyclomatic : Nat := 0
  cognitive : Nat := 0
  keys : List Text := []
deriving Repr, DecidableEq

namespace SourceCounts

/-- The counts of one file of a language. -/
def ofSource (language content : Text) : SourceCounts where
  files := 1
  lines := (Text.lines content).length
  bytes := (Utf8.encode content).size
  comments := commentCount (.ofLanguage language) content
  cyclomatic := CodeSurvey.cyclomatic content
  cognitive := CodeSurvey.cognitive content
  keys := duplicateKeys (.ofLanguage language) (Text.lines content)

/-- The counts of two groups of files together. -/
def add (a b : SourceCounts) : SourceCounts where
  files := a.files + b.files
  lines := a.lines + b.lines
  bytes := a.bytes + b.bytes
  comments := a.comments + b.comments
  cyclomatic := a.cyclomatic + b.cyclomatic
  cognitive := a.cognitive + b.cognitive
  keys := a.keys ++ b.keys

instance : Add SourceCounts := ⟨add⟩

/-- The counts of some files, given by their languages and texts. -/
def ofSources (sources : List (Text × Text)) : SourceCounts :=
  (sources.map fun (language, content) => ofSource language content).foldr (· + ·) {}

@[simp] theorem ofSources_nil : ofSources [] = {} := rfl

@[simp] theorem ofSources_cons (s : Text × Text) (sources : List (Text × Text)) :
    ofSources (s :: sources) = ofSource s.1 s.2 + ofSources sources := rfl

end SourceCounts

/-! ## Figures -/

/-- The quality figures of some files. -/
structure QualityFigures (α : Type) where
  averageFileSize : α
  totalLines : Nat
  commentRatio : α
  cyclomatic : α
  cognitive : α
  maintainability : α
  duplicatePercentage : α
  fileCount : Nat
deriving Repr, DecidableEq

variable {α : Type} [Quantity α]

/-- How well code can be maintained, from nothing to a hundred: complexity counts against it, and
comments count for it. -/
def maintainabilityIndex (cyclomatic cognitive commentRatio : α) : α :=
  Quantity.clamp ((0 : Nat) : α) ((100 : Nat) : α)
    (((100 : Nat) : α) - ((2 : Nat) : α) * cyclomatic - Quantity.tenths 15 * cognitive +
      ((10 : Nat) : α) * commentRatio)

namespace QualityFigures

/-- The figures that some counts give. -/
def ofCounts (c : SourceCounts) : QualityFigures α :=
  let cyclomatic : α := Quantity.share c.cyclomatic c.files
  let cognitive : α := Quantity.share c.cognitive c.files
  let commentRatio : α := Quantity.share c.comments c.lines
  { averageFileSize := Quantity.share c.bytes c.files
    totalLines := c.lines
    commentRatio := commentRatio
    cyclomatic := cyclomatic
    cognitive := cognitive
    maintainability := maintainabilityIndex cyclomatic cognitive commentRatio
    duplicatePercentage := CodeSurvey.duplicatePercentage c.keys c.lines
    fileCount := c.files }

/-- The note on the figures. -/
def note (q : QualityFigures Float) : LogRecord :=
  .debug "analyzers.quality" ("Quality over ".toList ++ Text.ofNat q.fileCount ++
    " files: MI=".toList ++ Places.text 1 q.maintainability ++ " duplicates=".toList ++
    Places.text 1 q.duplicatePercentage ++ ['%'])

end QualityFigures

/-! ## A repository -/

/-- The files that the figures are taken from. -/
def qualitySample (s : Settings) (files : List Text) : List Text :=
  Text.upTo s.qualitySampleLimit (files.filter isCode)

/-- The languages and texts of the sampled files that can be read. -/
def qualitySources (s : Settings) (read : Text → Except ReadFailure Text) (files : List Text) :
    List (Text × Text) :=
  (qualitySample s files).filterMap fun p => (read p).toOption.map fun t => (Language.ofPath p, t)

/-- The figures of a repository with the given files. -/
def measureQuality (s : Settings) (read : Text → Except ReadFailure Text) (files : List Text) :
    QualityFigures α :=
  .ofCounts (.ofSources (qualitySources s read files))

/-- The notes on the files that are left out. -/
def qualitySkips (s : Settings) (read : Text → Except ReadFailure Text) (files : List Text) :
    List LogRecord :=
  skipNotes "analyzers.quality" "quality metrics" read (qualitySample s files)

end CodeSurvey
