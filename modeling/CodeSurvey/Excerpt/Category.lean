import CodeSurvey.Glob.PathGlob

/-!
# Categories of excerpts

Excerpts are sorted into seven categories. Which files a category looks at is told by path globs:
those it includes, less those it excludes.

## Main definitions

* `Category`, `Category.weight`.
* `Category.candidates c files`: the files that a category looks at.
-/

namespace CodeSurvey

/-- What an excerpt is an example of. -/
inductive Category where
  | component
  | function
  | test
  | config
  | api
  | model
  | util
deriving Repr, DecidableEq

namespace Category

/-- The seven categories in the order of their lists. -/
def all : List Category := [component, function, test, config, api, model, util]

/-- The name of a category. -/
def name : Category → Text
  | component => "component"
  | function => "function"
  | test => "test"
  | config => "config"
  | api => "api"
  | model => "model"
  | util => "util"

/-- The category of a name. -/
def ofName? (n : Text) : Option Category := all.find? (·.name == n)

theorem ofName?_name (c : Category) : ofName? c.name = some c := by cases c <;> decide

/-- What a category adds to the score of its excerpts. -/
def weight : Category → Nat
  | component => 3
  | api => 3
  | function => 2
  | test => 2
  | model => 2
  | config => 1
  | util => 1

/-- The weight of a category by name; a name that is none weighs least. -/
def weightOf (n : Text) : Nat := ((ofName? n).map weight).getD 1

/-! ## Files -/

/-- Files of tests. -/
def testGlobs : List Text :=
  ["**/*.test.*", "**/*.spec.*", "**/test_*.py", "**/*_test.py", "**/tests/**"]

/-- The globs of the files that a category looks at. -/
def included : Category → List Text
  | component => [
      "**/components/**/*.\x7bjs,ts,jsx,tsx,vue\x7d", "**/*.component.\x7bjs,ts,jsx,tsx\x7d",
      "**/pages/**/*.\x7bjs,ts,jsx,tsx,vue\x7d", "**/views/**/*.\x7bjs,ts,jsx,tsx,vue\x7d"]
  | function => [
      "**/src/**/*.\x7bjs,ts,py\x7d", "**/lib/**/*.\x7bjs,ts,py\x7d",
      "**/utils/**/*.\x7bjs,ts,py\x7d", "**/helpers/**/*.\x7bjs,ts,py\x7d",
      "**/services/**/*.\x7bjs,ts,py\x7d"]
  | test => [
      "**/*.test.\x7bjs,ts,jsx,tsx\x7d", "**/*.spec.\x7bjs,ts,jsx,tsx\x7d",
      "**/tests/**/*.\x7bjs,ts,jsx,tsx,py\x7d", "**/__tests__/**/*.\x7bjs,ts,jsx,tsx\x7d",
      "**/cypress/**/*.\x7bjs,ts\x7d", "**/e2e/**/*.\x7bjs,ts\x7d", "**/test_*.py", "**/*_test.py"]
  | config => [
      "**/webpack.config.\x7bjs,ts\x7d", "**/vite.config.\x7bjs,ts\x7d",
      "**/next.config.\x7bjs,ts\x7d", "**/nuxt.config.\x7bjs,ts\x7d",
      "**/vue.config.\x7bjs,ts\x7d", "**/jest.config.\x7bjs,ts\x7d",
      "**/cypress.config.\x7bjs,ts\x7d", "**/tailwind.config.\x7bjs,ts\x7d",
      "**/rollup.config.\x7bjs,ts\x7d", "**/.eslintrc.\x7bjs,ts\x7d",
      "**/babel.config.\x7bjs,ts\x7d", "**/prettier.config.\x7bjs,ts\x7d", "**/settings.py",
      "**/conftest.py", "**/pyproject.toml", "**/setup.cfg", "**/tox.ini"]
  | api => [
      "**/api/**/*.\x7bjs,ts,py\x7d", "**/routes/**/*.\x7bjs,ts,py\x7d",
      "**/controllers/**/*.\x7bjs,ts\x7d", "**/endpoints/**/*.\x7bjs,ts,py\x7d",
      "**/server/**/*.\x7bjs,ts\x7d", "**/backend/**/*.\x7bjs,ts\x7d", "**/server.\x7bjs,ts\x7d",
      "**/app.\x7bjs,ts,py\x7d", "**/main.py", "**/views.py"]
  | model => [
      "**/models/**/*.\x7bjs,ts,py\x7d", "**/schemas/**/*.\x7bjs,ts,py\x7d",
      "**/entities/**/*.\x7bjs,ts\x7d", "**/types/**/*.\x7bjs,ts\x7d",
      "**/interfaces/**/*.\x7bjs,ts\x7d", "**/*.model.\x7bjs,ts\x7d", "**/*.schema.\x7bjs,ts\x7d",
      "**/models.py", "**/schemas.py", "**/prisma/schema.prisma"]
  | util => [
      "**/utils/**/*.\x7bjs,ts,py\x7d", "**/helpers/**/*.\x7bjs,ts,py\x7d",
      "**/lib/**/*.\x7bjs,ts\x7d", "**/common/**/*.\x7bjs,ts\x7d", "**/shared/**/*.\x7bjs,ts\x7d",
      "**/utils.py"]

/-- The globs of the files that a category leaves out. -/
def excluded : Category → List Text
  | function => testGlobs ++ (["**/components/**", "**/pages/**"] : List Text)
  | api => testGlobs
  | util => testGlobs ++ (["**/components/**"] : List Text)
  | _ => []

/-- The files that a category looks at, in the given order. -/
def candidates (c : Category) (files : List Text) : List Text :=
  let wanted := c.included.map PathGlob.read
  let unwanted := c.excluded.map PathGlob.read
  files.filter fun p => PathGlob.matchesAny wanted p && !PathGlob.matchesAny unwanted p

end Category
end CodeSurvey
