import CodeSurvey.Regex.Match

/-!
# Importance

Files are important by their names, less so by their paths; folders by their names or for what
they hold.

## Main definitions

* `Importance`: low, medium or high.
* `Scorer`: how files and folders are judged; `Scorer.flat`, `Scorer.byPath`.
-/

namespace CodeSurvey

/-- How much an entry of the tree matters. -/
inductive Importance where
  | low
  | medium
  | high
deriving Repr, DecidableEq

namespace Importance

/-- The three levels, the lowest first. -/
def all : List Importance := [low, medium, high]

/-- The name of a level. -/
def name : Importance → Text
  | low => "low"
  | medium => "medium"
  | high => "high"

/-- The level of a name. -/
def ofName? (n : Text) : Option Importance := all.find? (·.name == n)

/-- The place of a level, counted from one. -/
def rank : Importance → Nat
  | low => 1
  | medium => 2
  | high => 3

theorem ofName?_name (i : Importance) : ofName? i.name = some i := by cases i <;> decide

end Importance

/-- How files are judged by name and path, and folders by name and what they hold. -/
structure Scorer where
  file : (name path : Text) → Importance
  folder : (name : Text) → List Importance → Importance

/-- Nothing matters more than anything else. -/
def Scorer.flat : Scorer := ⟨fun _ _ => .low, fun _ _ => .low⟩

/-! ## Names and paths that matter -/

/-- Suffixes of scripts. -/
def scriptSuffixes : List String := ["js", "ts", "jsx", "tsx"]

/-- Files of high importance by their whole name. -/
def highFiles : List Text := [
  "package.json", "tsconfig.json", "webpack.config.js", "vite.config.ts", "next.config.js",
  "nuxt.config.js", "vue.config.js", "angular.json", "Dockerfile", "docker-compose.yml",
  "README.md", "CHANGELOG.md", "LICENSE", ".gitignore", ".env", ".env.example", "schema.prisma",
  "schema.sql", "pyproject.toml", "setup.py", "setup.cfg", "requirements.txt", "Pipfile",
  "manage.py"]

open Regex in
/-- Names of files of high importance: entry points, configuration and declarations. -/
def highNames : List Regex := [
  textStart ++ oneOf ["index", "main", "app"] ++ endingIn ["js", "ts", "jsx", "tsx", "py"],
  textStart ++ literal "App" ++ endingIn ["vue", "jsx", "tsx"],
  textStart ++ literal "_app" ++ endingIn scriptSuffixes,
  textStart ++ literal "_document" ++ endingIn scriptSuffixes,
  textStart ++ literal "__main__" ++ endingIn ["py"],
  literal ".config" ++ endingIn ["js", "ts"],
  literal ".d" ++ endingIn ["ts"]]

open Regex in
/-- The beginning of the path or of a component. -/
def componentStart : Regex := textStart <|> literal "/"

open Regex in
/-- Paths of files of medium importance: parts of an application, tests, routes and notes. -/
def mediumPaths : List Regex := [
  literal "." ++ oneOf ["component", "service", "controller", "model", "util", "helper"] ++
    endingIn scriptSuffixes,
  literal "." ++ oneOf ["test", "spec"] ++ endingIn scriptSuffixes,
  componentStart ++ literal "test_" ++ many1 Text.isWord ++ endingIn ["py"],
  literal "_test" ++ endingIn ["py"],
  literal ".stories" ++ endingIn scriptSuffixes,
  literal "route" ++ opt (literal "s") ++ endingIn ["js", "ts", "py"],
  componentStart ++ literal "api/" ++ many isInline ++ endingIn ["js", "ts", "py"],
  componentStart ++ literal "middleware/" ++ many isInline ++ endingIn ["js", "ts", "py"],
  endingIn ["md"]]

/-- Folders whose files are of medium importance. -/
def mediumSegments : List Text := ["/api/", "/components/", "/services/", "/utils/"]

/-- Folders of high importance. -/
def highFolders : List Text := [
  "src", "app", "lib", "pages", "components", "api", "server", "backend", "frontend", "services",
  "controllers", "models", "routes", "middleware", "config", "database", "schemas"]

/-- Folders of medium importance. -/
def mediumFolders : List Text := [
  "utils", "helpers", "hooks", "context", "store", "types", "interfaces", "constants", "assets",
  "public", "static", "tests", "__tests__", "test", "spec", "cypress", "e2e"]

/-! ## Judging -/

/-- The importance of a file. -/
def fileImportance (name path : Text) : Importance :=
  if highFiles.contains name || highNames.any (·.occursIn name) then .high
  else if mediumPaths.any (·.occursIn path) ||
      mediumSegments.any (Text.occursIn · ('/' :: path)) then .medium
  else .low

/-- The importance of a folder. One that holds something of high importance is not low. -/
def folderImportance (name : Text) (children : List Importance) : Importance :=
  if highFolders.contains name then .high
  else if children.contains .high || mediumFolders.contains name then .medium
  else .low

/-- Judging by names and paths. -/
def Scorer.byPath : Scorer := ⟨fileImportance, folderImportance⟩

end CodeSurvey
