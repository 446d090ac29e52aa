import CodeSurvey.Excerpt.Basic
import CodeSurvey.Idiom.Catalog
import CodeSurvey.Log.Skipped

/-!
# Detecting idioms

Every file of source code that can be read is held against every idiom. An idiom counts as often as
its code occurs, or once for each file where only the path is told, and is illustrated by the first
occurrence in each of the first few files that show it.

## Main definitions

* `IdiomUse`: an idiom with how often it is used, and excerpts that show it.
* `Idiom.use? i sources`: the use of one idiom in some files; `Idiom.useBy?` for any way of telling
  which files show it, and where.
* `detectIdioms`: the uses of all idioms, the most frequent first.
-/

namespace CodeSurvey

/-- An idiom that is used. -/
structure IdiomUse where
  name : Text
  description : Text
  frequency : Nat
  advice : Text
  examples : List Excerpt
deriving Repr, DecidableEq

/-! ## One file -/

/-- The category that the name and the folder of a file suggest. -/
def Category.ofPath (p : Text) : Category :=
  let name := Text.lower (Path.name p)
  let folder := Text.lower (Path.folder p)
  if mentionsAny ["test", "spec"] name || mentionsAny ["test"] folder then test
  else if mentionsAny ["config"] name || mentionsAny ["config"] folder then config
  else if mentionsAny ["component"] folder || mentionsAny ["component"] name then component
  else if mentionsAny ["api", "route"] folder then api
  else if mentionsAny ["model", "schema"] folder then model
  else if mentionsAny ["util", "helper"] folder then util
  else function

namespace Idiom

open Regex

/-- The declaration of a function or a variable, with its name as the first group. -/
def declaration : Regex :=
  opt (word "export" ++ opt (word "default")) ++ opt (word "async") ++
    oneOf ["function", "const", "let", "def"] ++ blanks1 ++ group 1 scriptName

/-- The declaration of a class, with its name as the first group. -/
def classDeclaration : Regex := word "class" ++ group 1 scriptName

/-- The name that some code declares. -/
def declaredName (code : Text) : Text :=
  match (declaration.find? code).or (classDeclaration.find? code) with
  | some m => m.groupText 1
  | none => "pattern-usage"

/-- The lines shown before the one on which a match begins. -/
def linesBefore : Nat := 5

/-- The lines shown after the one on which a match begins. -/
def linesAfter : Nat := 15

/-- The lines shown of a file whose path alone shows an idiom. -/
def fileLines : Nat := 20

/-- The surroundings of a match. -/
def matchExample (i : Idiom) (path content : Text) (m : Match) : Excerpt :=
  let ls := Text.lines content
  let line := lineOfOffset content m.start
  .build path ls (line - linesBefore + 1) (min ls.length (line + 1 + linesAfter))
    { category := .ofPath path
      id := path ++ '-' :: Text.ofNat line
      title := declaredName m.text ++ " in ".toList ++ Path.name path
      description := "Example of ".toList ++ i.name }
    (some [i.name])

/-- The beginning of a file. -/
def fileExample (i : Idiom) (path content : Text) : Excerpt :=
  let ls := Text.lines content
  .build path ls 1 (min fileLines ls.length)
    { category := .ofPath path
      id := path ++ "-file".toList
      title := Path.name path
      description := "File following the ".toList ++ i.name ++ " layout".toList }
    (some [i.name])

/-- What a file shows an idiom by: a test of its path and, unless the path is enough, the places
that a search of its text finds. -/
structure Signs where
  onPath : Text → Bool
  inText : Option (Text → List Match)

/-- The expressions of the idiom, searched for. -/
def signs (i : Idiom) : Signs where
  onPath path := i.files.all (·.occursIn path)
  inText := i.code.map Regex.findAll

/-- How often a file shows the idiom by some signs, with an excerpt, if it does. -/
def showingBy? (i : Idiom) (s : Signs) (path content : Text) : Option (Nat × Excerpt) :=
  if s.onPath path then
    match s.inText with
    | none => some (1, i.fileExample path content)
    | some places =>
      match places content with
      | [] => none
      | m :: rest => some (rest.length + 1, i.matchExample path content m)
  else none

/-- How often a file shows the idiom, with an excerpt, if it does. -/
def showing? (i : Idiom) (path content : Text) : Option (Nat × Excerpt) :=
  i.showingBy? i.signs path content

/-! ## Many files -/

/-- The most excerpts that illustrate one idiom. -/
def exampleLimit : Nat := 3

/-- The use of the idiom, told by some signs, in some files, given with their texts. -/
def useBy? (i : Idiom) (s : Signs) (sources : List (Text × Text)) : Option IdiomUse :=
  match sources.filterMap fun (path, content) => i.showingBy? s path content with
  | [] => none
  | shown => some {
      name := i.name
      description := i.description
      frequency := (shown.map (·.1)).foldr (· + ·) 0
      advice := i.advice
      examples := (shown.map (·.2)).take exampleLimit }

/-- The use of the idiom in some files, given with their texts. -/
def use? (i : Idiom) (sources : List (Text × Text)) : Option IdiomUse := i.useBy? i.signs sources

end Idiom

/-- Order by falling frequency, then by name. -/
def IdiomUse.le (a b : IdiomUse) : Bool :=
  if a.frequency ≠ b.frequency then decide (b.frequency < a.frequency) else Text.le a.name b.name

/-- The uses of all idioms in some files, given with their texts. -/
def detectIdioms (sources : List (Text × Text)) : List IdiomUse :=
  (Idiom.catalog.filterMap (·.use? sources)).mergeSort IdiomUse.le

/-- The files of source code that can be read, with their texts. -/
def codeSources (read : Text → Except ReadFailure Text) (files : List Text) : List (Text × Text) :=
  (files.filter isCode).filterMap fun p => (read p).toOption.map fun t => (p, t)

/-- The idioms that some files show. -/
def surveyIdioms (read : Text → Except ReadFailure Text) (files : List Text) : List IdiomUse :=
  detectIdioms (codeSources read files)

/-- The notes on the detection. -/
def idiomNotes (read : Text → Except ReadFailure Text) (files : List Text) : List LogRecord :=
  let source : Text := "analyzers.patterns"
  skipNotes source "pattern detection" read (files.filter isCode) ++
    [.debug source ("Detected ".toList ++ Text.ofNat (surveyIdioms read files).length ++
      " patterns across ".toList ++ Text.ofNat (codeSources read files).length ++ " files".toList)]

end CodeSurvey
