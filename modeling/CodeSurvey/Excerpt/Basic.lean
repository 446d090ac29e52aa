import CodeSurvey.Excerpt.Category
import CodeSurvey.Regex.Match
import CodeSurvey.Source.Block
import CodeSurvey.Source.Complexity
import CodeSurvey.Source.Language
import CodeSurvey.Text.Lower

/-!
# Excerpts

An excerpt is a range of lines of a file, taken as it stands, with a judgement of its complexity and
tags for the idioms it shows.

## Main definitions

* `Excerpt`, `Excerpt.build`.
* `tagsOf code category language`: the tags of a piece of code.
* `Excerpt.score`: how much an excerpt is worth showing.
-/

namespace CodeSurvey

/-- A range of lines of a file that stands for its category. -/
structure Excerpt where
  id : Text
  title : Text
  description : Text
  path : Text
  /-- The first line, counted from one. -/
  startLine : Nat
  /-- The last line, counted from one. -/
  endLine : Nat
  code : Text
  language : Text
  category : Category
  complexity : Tier
  tags : List Text
deriving Repr, DecidableEq

/-! ## Tags -/

open Regex in
/-- A decorator that binds a function to a route. -/
def routeDecorator : Regex :=
  literal "@" ++ many1 Text.isWord ++ literal "." ++
    group 1 (oneOf ["get", "post", "put", "delete", "patch", "route"]) ++ blanks ++ literal "("

/-- Whether any of the words stands in the code, as part of another word or not. -/
def mentionsAny (ws : List Text) (code : Text) : Bool := ws.any (Text.occursIn · code)

/-- Whether all of the words stand in the code, as parts of other words or not. -/
def mentionsAll (ws : List Text) (code : Text) : Bool := ws.all (Text.occursIn · code)

/-- Tags that do not depend on the category. -/
def commonTags (language code : Text) : List (Text × Bool) := [
  ("async-await", mentionsAll ["async", "await"] code),
  ("error-handling", mentionsAll ["try"] code && mentionsAny ["catch", "except"] code),
  ("typescript", language == "typescript".toList && mentionsAny ["interface", "type "] code),
  ("type-hints", language == "python".toList && mentionsAny ["->"] code)]

/-- Tags of a category. -/
def categoryTags (code : Text) : Category → List (Text × Bool)
  | .component => [
      ("react-hooks", mentionsAny ["useState"] code), ("lifecycle", mentionsAny ["useEffect"] code),
      ("component-props", mentionsAny ["props"] code),
      ("composition", mentionsAny ["children"] code)]
  | .api => [
      ("express-router", mentionsAny ["router."] code),
      ("middleware", mentionsAny ["middleware"] code),
      ("request-response", mentionsAll ["req", "res"] code),
      ("route-decorators", routeDecorator.occursIn code)]
  | .test => [
      ("test-structure", mentionsAny ["describe", "it(", "def test_"] code),
      ("assertions", mentionsAny ["expect", "assert"] code),
      ("mocking", mentionsAny ["mock"] (Text.lower code)),
      ("fixtures", mentionsAny ["@pytest.fixture"] code)]
  | .function => [
      ("functional-programming", mentionsAny ["map", "filter", "reduce"] code),
      ("promises", mentionsAny ["Promise", ".then"] code)]
  | _ => []

/-- The tags of a piece of code. Code outside the categories has common tags only. -/
def tagsOf (code : Text) (category : Option Category) (language : Text) : List Text :=
  let tags := commonTags language code ++ (category.map (categoryTags code)).getD []
  (tags.filter (·.2)).map (·.1)

/-! ## Building and scoring -/

namespace Excerpt

/-- What an excerpt is called. -/
structure Label where
  category : Category
  id : Text
  title : Text
  description : Text

/-- The excerpt of the lines from `first` to `last`, counted from one; it holds at least the first.
Tags are told from the code unless some are given. -/
def build (path : Text) (ls : List Text) (first last : Nat) (label : Label)
    (tags : Option (List Text)) : Excerpt :=
  let last := max first last
  let code := lineRange ls first last
  let language := Language.ofPath path
  { id := label.id
    title := label.title
    description := label.description
    path := path
    startLine := first
    endLine := last
    code := code
    language := language
    category := label.category
    complexity := Tier.ofCode code
    tags := tags.getD (tagsOf code label.category language) }

/-- The worth of an excerpt by its tier, the number of its tags, its length and the weight of its
category. Length counts a point at ten lines and another at twenty. -/
def scoreOf (tier : Tier) (tags : Nat) (code : Text) (weight : Nat) : Nat :=
  tier.rank + tags + min 2 ((Text.lines code).length / 10) + weight

/-- The worth of an excerpt. -/
def score (e : Excerpt) : Nat := scoreOf e.complexity e.tags.length e.code e.category.weight

/-- The worth of an excerpt whose tier and category are given by their names. A tier of another name
has no place among the three. -/
def scoreByName? (tier : Text) (tags : Nat) (code category : Text) : Option Nat :=
  (Tier.ofName? tier).map fun tier => scoreOf tier tags code (Category.weightOf category)

end Excerpt
end CodeSurvey
