import CodeSurvey.Excerpt.Basic

/-!
# Finding excerpts in a file

Each category finds its excerpts by what declarations look like. Only functions can be found more
than once in a file.

## Main definitions

* `isInteresting name t n`: whether the function at offset `n` is worth showing.
* `Category.find c path t`: the excerpts of a category in one file.
-/

namespace CodeSurvey
namespace Finder

open Regex

/-! ## Declarations -/

/-- A name kept as the first group. -/
def named : Regex := group 1 scriptName

/-- A capitalized name kept as the first group. -/
def namedType : Regex := group 1 capitalized

/-- The word that marks a function as asynchronous, if it is there. -/
def optAsync : Regex := opt (word "async")

/-- Function declarations of scripts, in the order in which they are looked for. -/
def scriptFunctions : List Regex := [
  word "export" ++ optAsync ++ word "function" ++ named ++ call,
  word "export" ++ word "const" ++ named ++ blanks ++ literal "=" ++ blanks ++ optAsync ++
    literal "(",
  optAsync ++ word "function" ++ named ++ call,
  word "const" ++ named ++ blanks ++ literal "=" ++ blanks ++ optAsync ++ literal "("]

/-- The beginning of names in Python. -/
def isNameStart (c : Char) : Bool := isLetter c || c == '_'

/-- A name in Python. -/
def pythonName : Regex := char isNameStart ++ many Text.isWord

/-- Function definitions of Python, at any indentation. -/
def pythonFunction : Regex :=
  lineStart ++ many (fun c => c == ' ' || c == '\t') ++ optAsync ++ word "def" ++
    group 1 pythonName ++ call

/-- Components of scripts: exported or capitalized functions and derived classes. -/
def reactComponent : Regex :=
  (word "export" ++ opt (word "default") ++ oneOf ["function", "const"] ++ blanks1 ++ namedType) <|>
  (word "function" ++ namedType ++ call) <|>
  (word "class" ++ namedType ++ blanks1 ++ literal "extends")

/-- Components in files of their own: a script section or a default export. -/
def vueComponent : Regex :=
  (literal "<script" ++ many (· != '>') ++ literal ">" ++ fewest (fun _ => true) ++
    literal "</script>") <|>
  (word "export" ++ literal "default" ++ blanks ++ char (· == '{'))

/-- Single and double quotes and the back quote. -/
def isQuote (c : Char) : Bool := c == '\'' || c == '"' || c == '\x60'

/-- Tests of scripts, with their title as the first group. -/
def scriptTest : Regex :=
  oneOf ["describe", "test", "it"] ++ call ++ blanks ++ char isQuote ++
    group 1 (fewest fun c => !isQuote c) ++ char isQuote

/-- Tests of Python: functions and classes that are named so. -/
def pythonTest : Regex :=
  (lineStart ++ blanks ++ optAsync ++ word "def" ++
    group 1 (literal "test_" ++ many1 Text.isWord)) <|>
  (lineStart ++ word "class" ++ group 1 (literal "Test" ++ many1 Text.isWord))

/-- The methods of requests that routes answer. -/
def methods : List String := ["get", "post", "put", "delete", "patch"]

/-- Route handlers in their several forms. -/
def apis : List Regex := [
  literal "app." ++ group 1 (oneOf methods) ++ call,
  literal "router." ++ group 1 (oneOf methods) ++ call,
  word "export" ++ optAsync ++ word "function" ++
    group 1 (many isLetter ++ oneOf ["Controller", "Handler", "Route"]),
  literal "@" ++ oneOf ["Get", "Post", "Put", "Delete", "Patch"] ++ call,
  literal "@" ++ many1 Text.isWord ++ literal "." ++ oneOf (methods ++ ["route"]) ++ call]

/-- Models of a Prisma schema. -/
def prismaModel : Regex := word "model" ++ namedType ++ blanks ++ char (· == '{')

/-- Types of scripts and what they are called, in the order in which they are looked for. -/
def scriptModels : List (Regex × Text) := [
  (opt (word "export") ++ word "interface" ++ namedType, "Interface"),
  (opt (word "export") ++ word "type" ++ namedType, "Type"),
  (opt (word "export") ++ word "class" ++ namedType, "Type")]

/-- Classes of Python at the left margin. -/
def pythonModel : Regex :=
  lineStart ++ word "class" ++ group 1 (char isCapital ++ many Text.isWord)

/-- Exports of scripts. -/
def scriptUtil : Regex := word "export" ++ oneOf ["const", "function"] ++ blanks1 ++ named

/-- Functions of Python at the left margin. -/
def pythonUtil : Regex := lineStart ++ word "def" ++ group 1 pythonName

/-! ## Functions worth showing -/

/-- Names of functions that say too little. -/
def trivialNames : List Text := ["get", "set", "is", "has", "can"]

/-- Words that show that something happens. -/
def livelyWords : List Text := [
  "async", "await", "try", "catch", "if", "for", "while", "return", "throw", "Promise", "map",
  "filter", "reduce", "except", "raise", "yield"]

/-- The number of characters that are looked at from the function's name on. -/
def interestWindow : Nat := 500

end Finder

open Finder

/-- Whether a function is worth showing: its name says something, and what follows has at least
three lines and two lively words. -/
def isInteresting (name t : Text) (offset : Nat) : Bool :=
  let window := (t.drop offset).take interestWindow
  3 ≤ name.length && !trivialNames.contains name && 3 ≤ (Text.lines window).length &&
    2 ≤ livelyWords.countP (Text.occursIn · window)

/-- The most functions that are taken from one file. -/
def functionLimit : Nat := 3

/-- The lines of the functions that are taken, with their names: those worth showing, one to a line,
as long as there are fewer than the limit. -/
def pickFunctions (t : Text) (found : List (Nat × Text)) : List (Text × Nat) → List (Nat × Text)
  | [] => found.reverse
  | (name, offset) :: rest =>
    if functionLimit ≤ found.length then found.reverse
    else
      let line := lineOfOffset t offset
      if found.any (·.1 == line) || !isInteresting name t offset then pickFunctions t found rest
      else pickFunctions t ((line, name) :: found) rest

/-- The names of the functions that a text declares, with the offsets that count as their place. -/
def declaredFunctions (python : Bool) (t : Text) : List (Text × Nat) :=
  if python then
    (pythonFunction.findAll t).filterMap fun m => (m.group? 1).map fun g => (g.text, g.start)
  else
    scriptFunctions.flatMap fun r => (r.findAll t).map fun m => (m.groupText 1, m.start)

/-! ## The categories -/

namespace Category

/-- The language in which indentation makes blocks. -/
def isPython (path : Text) : Bool := Language.ofPath path == "python".toList

/-- The component that a file is. The excerpt begins with the file. -/
def findComponent (path t : Text) : List Excerpt :=
  let vue := Language.ofPath path == "vue".toList
  match (if vue then vueComponent else reactComponent).find? t with
  | none => []
  | some m =>
    let ls := Text.lines t
    let name := if vue || (m.groupText 1).isEmpty then Path.stem path else m.groupText 1
    let last := min ls.length (lineOfOffset t m.start + 50)
    [.build path ls 1 last
      ⟨component, "component-".toList ++ path ++ '-' :: name, name ++ " Component".toList,
        "UI component demonstrating component patterns"⟩ none]

/-- The excerpt of a function, from its line to the end of its block. -/
def functionExcerpt (path : Text) (ls : List Text) (line : Nat) (name : Text) (stop : Nat) :
    Excerpt :=
  .build path ls (line + 1) stop
    ⟨function, "function-".toList ++ path ++ '-' :: name, name ++ " Function".toList,
      "Function demonstrating business logic patterns"⟩ none

/-- The end of the block of a function that begins on the given line. -/
def functionEnd (python : Bool) (ls : List Text) (line : Nat) : Nat :=
  if python then (indentEnd? ls line blockLimit).getD (line + 1) else braceEnd ls line blockLimit

/-- The functions of a file that are worth showing, each with its block. -/
def findFunctions (path t : Text) : List Excerpt :=
  let ls := Text.lines t
  let python := isPython path
  (pickFunctions t [] (declaredFunctions python t)).map fun (line, name) =>
    functionExcerpt path ls line name (functionEnd python ls line)

/-- The beginning of a file of tests. -/
def findTest (path t : Text) : List Excerpt :=
  match (if isPython path then pythonTest else scriptTest).find? t with
  | none => []
  | some m =>
    let ls := Text.lines t
    let label := if (m.groupText 1).isEmpty then Path.name path else m.groupText 1
    [.build path ls 1 (min 40 ls.length)
      ⟨test, "test-".toList ++ path, label ++ " Tests".toList,
        "Test suite demonstrating testing patterns"⟩ none]

/-- The beginning of a configuration file. -/
def findConfig (path t : Text) : List Excerpt :=
  let ls := Text.lines t
  [.build path ls 1 (min 50 ls.length)
    ⟨config, "config-".toList ++ path, Path.name path ++ " Configuration".toList,
      "Configuration file showing project setup patterns"⟩ none]

/-- The surroundings of a route handler on the given line. -/
def apiExcerpt (path : Text) (ls : List Text) (line : Nat) : Excerpt :=
  .build path ls (line - 5 + 1) (min ls.length (line + 30))
    ⟨api, "api-".toList ++ path, Path.name path ++ " API Endpoint".toList,
      "API endpoint demonstrating backend patterns"⟩ none

/-- The places of the first route handlers of each form. -/
def apiOffsets (t : Text) : List Nat := (apis.filterMap (·.find? t)).map (·.start)

/-- The surroundings of the first route handler. -/
def findApi (path t : Text) : List Excerpt :=
  match (apiOffsets t).min? with
  | none => []
  | some offset => [apiExcerpt path (Text.lines t) (lineOfOffset t offset)]

/-- The excerpt of a model of a schema, from its line to the end of its block. -/
def schemaModelExcerpt (path : Text) (ls : List Text) (line : Nat) (name : Text) (stop : Nat) :
    Excerpt :=
  .build path ls (line + 1) stop
    ⟨model, "model-".toList ++ path ++ '-' :: name, name ++ " Model".toList,
      "Prisma model defining data structure"⟩ (some ["prisma-model"])

/-- The first model of a schema, with its block. -/
def findPrismaModel (path t : Text) : List Excerpt :=
  match prismaModel.find? t with
  | none => []
  | some m =>
    let ls := Text.lines t
    let line := lineOfOffset t m.start
    [schemaModelExcerpt path ls line (m.groupText 1) (braceLineEnd ls line)]

/-- The first type that a file declares. -/
def findModel (path t : Text) : List Excerpt :=
  if Language.ofPath path == "prisma".toList then findPrismaModel path t
  else
    let python := isPython path
    let forms : List (Regex × Text) := if python then [(pythonModel, "Class")] else scriptModels
    let tag : Text := if python then "python-classes" else "typescript-types"
    match forms.findSome? fun (r, kind) => (r.find? t).map fun m => (m, kind) with
    | none => []
    | some (m, kind) =>
      let ls := Text.lines t
      let line := lineOfOffset t m.start
      let name := m.groupText 1
      [.build path ls (line + 1) (min ls.length (line + 20))
        ⟨model, "model-".toList ++ path ++ '-' :: name, name ++ ' ' :: kind,
          "Data structure definition"⟩ (some [tag])]

/-- The surroundings of the first exported function. -/
def findUtil (path t : Text) : List Excerpt :=
  match (if isPython path then pythonUtil else scriptUtil).find? t with
  | none => []
  | some m =>
    let ls := Text.lines t
    let line := lineOfOffset t m.start
    let name := m.groupText 1
    [.build path ls (line - 2 + 1) (min ls.length (line + 25))
      ⟨util, "util-".toList ++ path ++ '-' :: name, name ++ " Utility".toList,
        "Utility function for common operations"⟩ none]

/-- The excerpts of a category in one file. -/
def find : Category → (path t : Text) → List Excerpt
  | component => findComponent
  | function => findFunctions
  | test => findTest
  | config => findConfig
  | api => findApi
  | model => findModel
  | util => findUtil

end Category
end CodeSurvey
