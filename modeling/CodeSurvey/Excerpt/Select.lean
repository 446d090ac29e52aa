import CodeSurvey.Excerpt.Finders
import CodeSurvey.Log.Skipped
import CodeSurvey.Settings.Basic

/-!
# Selecting excerpts

Each category reads a limited number of its files, gathers the excerpts found in them and keeps the
best. No two excerpts of a category begin on the same line of a file.

## Main definitions

* `Excerpt.le`: the order of worth.
* `selectExcerpts`: the excerpts of one category.
* `ExcerptSet`, `ExcerptSet.select`: the excerpts of all categories.
-/

namespace CodeSurvey

/-- Order by falling score, then by path, then by first line. -/
def Excerpt.le (a b : Excerpt) : Bool :=
  if a.score ≠ b.score then decide (b.score < a.score)
  else if a.path ≠ b.path then Text.le a.path b.path
  else decide (a.startLine ≤ b.startLine)

/-- Whether two excerpts begin on the same line of the same file. -/
def Excerpt.sameStart (a b : Excerpt) : Bool := a.path == b.path && a.startLine == b.startLine

/-- The excerpts without those that begin where one before them does. -/
def dropSameStart (es : List Excerpt) : List Excerpt :=
  (es.foldl (fun kept e => if kept.any e.sameStart then kept else e :: kept) []).reverse

/-- The files that a category reads. -/
def sampledCandidates (s : Settings) (c : Category) (files : List Text) : List Text :=
  Text.upTo s.qualitySampleLimit (c.candidates files)

/-- The excerpts found in the files of a category that can be read. -/
def gatherExcerpts (s : Settings) (read : Text → Except ReadFailure Text) (c : Category)
    (files : List Text) : List Excerpt :=
  (sampledCandidates s c files).flatMap fun p =>
    match read p with
    | .ok t => c.find p t
    | .error _ => []

/-- The best excerpts of a category. A limit that is not positive keeps none. -/
def selectExcerpts (s : Settings) (read : Text → Except ReadFailure Text) (files : List Text)
    (c : Category) : List Excerpt :=
  if s.maxExamples ≤ 0 then []
  else
    ((dropSameStart (gatherExcerpts s read c files)).mergeSort Excerpt.le).take s.maxExamples.toNat

/-! ## All categories -/

/-- The excerpts of each category. -/
structure ExcerptSet where
  components : List Excerpt := []
  functions : List Excerpt := []
  tests : List Excerpt := []
  configs : List Excerpt := []
  apis : List Excerpt := []
  models : List Excerpt := []
  utils : List Excerpt := []
deriving Repr, DecidableEq

namespace ExcerptSet

/-- The set that a choice for each category makes. -/
def ofCategories (f : Category → List Excerpt) : ExcerptSet :=
  ⟨f .component, f .function, f .test, f .config, f .api, f .model, f .util⟩

/-- The excerpts of one category. -/
def get (s : ExcerptSet) : Category → List Excerpt
  | .component => s.components
  | .function => s.functions
  | .test => s.tests
  | .config => s.configs
  | .api => s.apis
  | .model => s.models
  | .util => s.utils

@[simp] theorem get_ofCategories (f : Category → List Excerpt) (c : Category) :
    (ofCategories f).get c = f c := by cases c <;> rfl

/-- The excerpts of all categories, one category after the other. -/
def all (s : ExcerptSet) : List Excerpt := Category.all.flatMap s.get

/-- The best excerpts of all categories. -/
def select (s : Settings) (read : Text → Except ReadFailure Text) (files : List Text) :
    ExcerptSet :=
  ofCategories (selectExcerpts s read files)

/-- The notes on the selection. A file that several categories look at is noted once. -/
def notes (s : Settings) (read : Text → Except ReadFailure Text) (files : List Text) :
    List LogRecord :=
  let looked := if s.maxExamples ≤ 0 then []
    else (Category.all.flatMap fun c => sampledCandidates s c files).eraseDups
  let source : Text := "analyzers.examples"
  skipNotes source "example extraction" read looked ++
    [.debug source ("Extracted ".toList ++ Text.ofNat (select s read files).all.length ++
      " code examples".toList)]

end ExcerptSet
end CodeSurvey
